import Regen.Proofs.Forms
import Regen.Proofs.Locality

/-! # Places decide nothing

Two documents whose directives say the same on different lines define the same programs up to lines, and
directives that say the same generate the same text or fail alike. The lines only show in where a failure is
reported.
-/

namespace Regen

abbrev Node.unplaced (node : Node) : Node := node.relocate fun _ => none

@[simp] theorem Node.unplaced_relocate (move : Option Int → Option Int) (node : Node) :
    (node.relocate move).unplaced = node.unplaced := node.relocate_relocate move _

abbrev Program.unplaced (program : Program) : Program := program.relocate fun _ => none

namespace Failure

def unplaced : Failure → Failure
  | fault f => .fault ⟨f.content, none, none⟩
  | failure => failure.relocate fun _ => none

@[simp] theorem unplaced_relocate (move : Option Int → Option Int) (failure : Failure) :
    (failure.relocate move).unplaced = failure.unplaced := by
  cases failure with
  | misplacedForm node => exact congrArg misplacedForm (node.unplaced_relocate move)
  | misplacedExpression node => exact congrArg misplacedExpression (node.unplaced_relocate move)
  | _ => rfl

@[simp] theorem unplaced_locate (line : Option Int) (file : Option Text) (failure : Failure) :
    (failure.locate line file).unplaced = failure.unplaced := by
  cases failure <;> rfl

end Failure

/-- Both results are values that go together, or the same failure up to its place. -/
inductive Alike {α β : Type} (related : α → β → Prop) : Except Failure α → Except Failure β → Prop
  | ok {a : α} {b : β} (holds : related a b) : Alike related (.ok a) (.ok b)
  | error {failure other : Failure} (same : failure.unplaced = other.unplaced) :
      Alike related (.error failure) (.error other)

namespace Alike

variable {α β γ δ : Type} {first : α → β → Prop} {second : γ → δ → Prop}

theorem bind {result : Except Failure α} {mirror : Except Failure β} {next : α → Except Failure γ}
    {next' : β → Except Failure δ} (alike : Alike first result mirror)
    (goesOn : ∀ a b, first a b → Alike second (next a) (next' b)) :
    Alike second (result >>= next) (mirror >>= next') := by
  cases alike with
  | ok holds => exact goesOn _ _ holds
  | error same => exact .error same

theorem imp {first' : α → β → Prop} {result : Except Failure α} {mirror : Except Failure β}
    (alike : Alike first result mirror) (implies : ∀ a b, first a b → first' a b) : Alike first' result mirror := by
  cases alike with
  | ok holds => exact .ok (implies _ _ holds)
  | error same => exact .error same

theorem exists_ok {a : α} {mirror : Except Failure β} (alike : Alike first (.ok a) mirror) :
    ∃ b, mirror = .ok b ∧ first a b := by
  cases alike with
  | ok holds => exact ⟨_, rfl, holds⟩

/-- Passes over lists whose members go together are alike if their steps are. -/
theorem foldlM {step : α → γ → Except Failure α} {step' : β → δ → Except Failure β} {items : List γ} {others : List δ}
    (paired : List.Forall₂ second items others)
    (steps : ∀ a b c d, first a b → second c d → Alike first (step a c) (step' b d)) {a : α} {b : β}
    (start : first a b) : Alike first (items.foldlM step a) (others.foldlM step' b) := by
  induction paired generalizing a b with
  | nil => exact .ok start
  | cons related _ ih => exact (steps a b _ _ start related).bind fun _ _ holds => ih holds

theorem mapM {make : α → Except Failure γ} {make' : β → Except Failure δ} {items : List α} {others : List β}
    (paired : List.Forall₂ first items others) (made : ∀ a b, first a b → Alike second (make a) (make' b)) :
    Alike (List.Forall₂ second) (items.mapM make) (others.mapM make') := by
  induction paired with
  | nil => exact .ok .nil
  | cons related _ ih =>
    rw [List.mapM_cons, List.mapM_cons]
    refine (made _ _ related).bind fun c d holds => ?_
    exact ih.bind fun cs ds hold => .ok (.cons holds hold)

theorem of_relabel {move : Option Int → Option Int} {value : α → γ} {value' : β → γ} {result : Except Failure α}
    {mirror : Except Failure β}
    (same : relabel (Failure.relocate move) value result = relabel (Failure.relocate move) value' mirror) :
    Alike (fun a b => value a = value' b) result mirror := by
  cases result with
  | ok a =>
    cases mirror with
    | ok b => exact .ok (Except.ok.inj same)
    | error other => cases same
  | error failure =>
    cases mirror with
    | ok b => cases same
    | error other =>
      have same := congrArg Failure.unplaced (Except.error.inj same)
      rw [Failure.unplaced_relocate, Failure.unplaced_relocate] at same
      exact .error same

theorem atDirective {result : Except Failure α} {mirror : Except Failure β} (file other : Option Text)
    (directive directive' : Directive) (alike : Alike first result mirror) :
    Alike first (Expansion.atDirective file directive result) (Expansion.atDirective other directive' mirror) := by
  cases alike with
  | ok holds => exact .ok holds
  | error same => exact .error (by rw [Failure.unplaced_locate, Failure.unplaced_locate, same])

end Alike

/-- A body reads the same on any line. -/
theorem Node.readBody_alike (text : Text) (line other : Int) :
    Alike (fun body mirror => body.map Node.unplaced = mirror.map Node.unplaced) (readBody text line)
      (readBody text other) := by
  have moved := readBody_add text line (other - line)
  rw [show line + (other - line) = other by omega] at moved
  rw [moved]
  cases readBody text line with
  | ok body =>
    refine .ok ?_
    rw [List.map_map]
    exact List.map_congr_left fun node _ => (node.unplaced_relocate _).symm
  | error failure => exact .error (Failure.unplaced_relocate _ _).symm

namespace Program

theorem relocate_addFunction (move : Option Int → Option Int) (program : Program) (name : Text) (function : Function) :
    (program.addFunction name function).relocate move =
      (program.relocate move).addFunction name (function.relocate move) := by
  simp only [relocate, addFunction, Table.insert_mapEntries]

theorem relocate_addCollection (move : Option Int → Option Int) (program : Program) (name : Text)
    (collection : Collection) :
    (program.addCollection name collection).relocate move =
      (program.relocate move).addCollection name (collection.relocate move) := by
  simp only [relocate, addCollection, Table.insert_mapEntries]

theorem relocate_id (program : Program) : program.relocate id = program := by
  have functions : Function.relocate id = id := by
    funext function
    rw [Function.relocate, ← Node.relocateAll_eq_map, Node.relocateAll_id]
    rfl
  have collections : Collection.relocate id = id := rfl
  simp only [relocate, Table.mapEntries, functions, collections, id, List.map_id']

/-- Programs that differ in their lines only store the same collections. -/
theorem find?_collection_alike {program other : Program} (same : program.unplaced = other.unplaced) (name : Text) :
    program.collections.find? name = none ∧ other.collections.find? name = none ∨
      ∃ stored stored', program.collections.find? name = some stored ∧
        other.collections.find? name = some stored' ∧ stored.lines = stored'.lines := by
  have found := congrArg (fun program : Program => program.collections.find? name) same
  simp only [unplaced, relocate, Table.find?_mapEntries] at found
  cases collection : program.collections.find? name with
  | none =>
    rw [collection, Option.map_none, eq_comm, Option.map_eq_none_iff] at found
    exact .inl ⟨rfl, found⟩
  | some stored =>
    rw [collection, Option.map_some, eq_comm, Option.map_eq_some_iff] at found
    obtain ⟨stored', collection', alike⟩ := found
    exact .inr ⟨stored, stored', rfl, collection', (congrArg Collection.lines alike).symm⟩

/-- A call keeps the line end of the buffer. -/
theorem newline_call (program : Program) (limits : Limits) (name : Text) (arguments : List Value) (line : Option Int)
    (machine : Machine) :
    (program.call limits name arguments line machine).2.buffer.newline = machine.buffer.newline := by
  have mirrored := program.call_mirrors limits id machine.buffer.newline name arguments line machine
  rw [relocate_id] at mirrored
  exact congrArg (fun outcome => outcome.2.buffer.newline) mirrored

/-- Calls in programs that differ in their lines only write the same, each with its own line ends, or fail alike. -/
theorem call_alike {program other : Program} (same : program.unplaced = other.unplaced) (limits : Limits) (name : Text)
    (arguments : List Value) (line line' : Option Int) (indent newline newline' : Text) :
    let outcome := program.call limits name arguments line (.start (.start indent newline))
    let outcome' := other.call limits name arguments line' (.start (.start indent newline'))
    Alike Eq outcome.1 outcome'.1 ∧
      ∃ indent events,
        outcome.2.buffer = ⟨indent, newline, events⟩ ∧ outcome'.2.buffer = ⟨indent, newline', events⟩ := by
  intro outcome outcome'
  have mirrored := program.call_mirrors limits (fun _ => none) [] name arguments line (.start (.start indent newline))
  have mirrored' := other.call_mirrors limits (fun _ => none) [] name arguments line' (.start (.start indent newline'))
  -- both calls are mirrored by one call without lines on a buffer without line ends
  rw [show program.relocate (fun _ => none) = other.relocate fun _ => none from same] at mirrored
  have both := mirrored.symm.trans mirrored'
  refine ⟨.of_relabel (congrArg Prod.fst both), outcome.2.buffer.indent, outcome.2.buffer.events, ?_, ?_⟩
  · have kept : outcome.2.buffer.newline = newline := program.newline_call limits name arguments line _
    rw [← kept]
  · have kept : outcome'.2.buffer.newline = newline' := other.newline_call limits name arguments line' _
    have buffers := congrArg (fun outcome => outcome.2.buffer) both
    simp only [Machine.withNewline, Buffer.mk.injEq] at buffers
    rw [← kept, show outcome.2.buffer.indent = outcome'.2.buffer.indent from buffers.1,
      show outcome.2.buffer.events = outcome'.2.buffer.events from buffers.2.2]

end Program

/-- What a directive writes, with its line ends left open. -/
inductive Draft where
  /-- What a call wrote into its buffer. -/
  | steps (indent : Text) (events : List Event)
  /-- Rows, each on a line of its own. -/
  | rows (parts : List Text)

/-- A draft with its line ends. -/
def Draft.text (newline : Text) : Draft → Text
  | steps indent events => (Buffer.value ⟨indent, newline, events⟩).asRegion newline
  | rows parts => if parts.isEmpty then [] else newline.intercalate parts ++ newline

/-- Two directives say the same. They may stand in different places, and what is between the markers of an output
directive may differ. -/
structure Directive.Resembles (directive other : Directive) : Prop where
  header : directive.header = other.header
  headerText : directive.headerText = other.headerText
  indent : directive.indent = other.indent
  leader : directive.leader = other.leader
  body : directive.kind.producesOutput = false → directive.body = other.body
  newline : directive.kind.producesOutput = false → directive.newline = other.newline

/-- Two directives say the same and end their lines the same way. -/
structure Directive.Matches (directive other : Directive) : Prop extends Resembles directive other where
  ends : directive.newline = other.newline

theorem Directive.Matches.refl (directive : Directive) : directive.Matches directive :=
  ⟨⟨rfl, rfl, rfl, rfl, fun _ => rfl, fun _ => rfl⟩, rfl⟩

theorem Directive.Resembles.kind {directive other : Directive} (resembles : directive.Resembles other) :
    directive.kind = other.kind := congrArg Header.kind resembles.header

namespace Expansion

open Directive

variable {file other : Option Text} {limits : Limits} {program program' : Program} {directive directive' : Directive}
  {directives directives' : List Directive}

theorem Gathered.add_alike {gathered gathered' : Gathered}
    (same : gathered.program.unplaced = gathered'.program.unplaced) (resembles : directive.Resembles directive') :
    Alike (fun gathered gathered' => gathered.program.unplaced = gathered'.program.unplaced)
      (gathered.add file directive) (gathered'.add other directive') := by
  have unplaced : gathered.program.relocate (fun _ => none) = gathered'.program.relocate fun _ => none := same
  have stored (defines : directive.header.kind.producesOutput = false) :
      directive'.storedLines = directive.storedLines := by
    rw [storedLines, storedLines, resembles.indent, resembles.body defines]
  unfold Gathered.add
  rw [← resembles.header]
  cases named : directive.header with
  | defun name parameters =>
    have defines : directive.header.kind.producesOutput = false := by rw [named]; rfl
    have source : directive'.source = directive.source := by
      rw [source, source, resembles.leader, resembles.body defines]
    rw [source]
    refine (Node.readBody_alike directive.source _ _).bind fun body body' bodies => .ok ?_
    simp only [addFunction, Program.relocate_addFunction, Function.relocate, bodies, unplaced]
  | lines name =>
    have defines : directive.header.kind.producesOutput = false := by rw [named]; rfl
    refine .ok ?_
    simp only [addCollection, Program.relocate_addCollection, Collection.relocate, stored defines, unplaced]
  | block name =>
    have defines : directive.header.kind.producesOutput = false := by rw [named]; rfl
    refine .ok ?_
    simp only [addCollection, Program.relocate_addCollection, Collection.relocate, stored defines,
      resembles.newline defines, unplaced]
  | _ => exact .ok same

/-- Directives that say the same define the same program up to its lines. -/
theorem gather_alike (file other : Option Text) (resembling : List.Forall₂ Resembles directives directives') :
    Alike (fun gathered gathered' => gathered.program.unplaced = gathered'.program.unplaced)
      (gather file directives) (gather other directives') := by
  refine .foldlM resembling (fun gathered gathered' directive directive' same resembles => ?_) rfl
  exact (Gathered.add_alike same resembles).atDirective file other directive directive'

/-- Directives that say the same generate the same draft, each with its own line ends, or fail alike. -/
theorem generate_drafted (same : program.unplaced = program'.unplaced) (limits : Limits)
    (resembles : directive.Resembles directive') :
    Alike (fun text text' => ∃ draft : Draft,
        text = draft.text directive.newline ∧ text' = draft.text directive'.newline)
      (generate program limits directive) (generate program' limits directive') := by
  unfold generate
  rw [← resembles.header, ← resembles.indent]
  cases directive.header with
  | funcall name arguments =>
    obtain ⟨outcomes, indent, events, buffer, buffer'⟩ :=
      Program.call_alike same limits name arguments (some directive.line) (some directive'.line) directive.indent
        directive.newline directive'.newline
    dsimp only
    generalize program.call limits name arguments (some directive.line) _ = outcome at outcomes buffer ⊢
    generalize program'.call limits name arguments (some directive'.line) _ = outcome' at outcomes buffer' ⊢
    obtain ⟨result, after⟩ := outcome
    obtain ⟨result', after'⟩ := outcome'
    cases outcomes with
    | ok _ =>
      refine .ok ⟨.steps indent events, ?_⟩
      rw [show after.buffer = _ from buffer, show after'.buffer = _ from buffer']
      exact ⟨rfl, rfl⟩
    | error same => exact .error same
  | formatLines name template =>
    dsimp only
    rcases Program.find?_collection_alike same name with ⟨missing, missing'⟩ | ⟨stored, stored', found, found', lines⟩
    · rw [missing, missing']
      exact .error rfl
    · rw [found, found']
      dsimp only
      rw [lines]
      split
      · exact .ok ⟨.rows [], rfl, rfl⟩
      · next filled =>
        refine .ok ⟨.rows (stored'.lines.map fun line => directive.indent ++ Template.fill template line), ?_⟩
        rw [Draft.text, Draft.text, List.isEmpty_map, if_neg filled, if_neg filled]
        exact ⟨rfl, rfl⟩
  | _ => exact .ok ⟨.rows [], rfl, rfl⟩

theorem exists_draft {text : Text} (generated : generate program limits directive = .ok text) :
    ∃ draft : Draft, text = draft.text directive.newline := by
  have same : program.unplaced = program.unplaced := rfl
  have drafted := generate_drafted same limits (Matches.refl directive).toResembles
  rw [generated] at drafted
  obtain ⟨_, _, draft, made, _⟩ := drafted.exists_ok
  exact ⟨draft, made⟩

/-- Directives that match generate the same text. -/
theorem generate_alike (same : program.unplaced = program'.unplaced) (limits : Limits)
    (matching : directive.Matches directive') :
    Alike Eq (generate program limits directive) (generate program' limits directive') := by
  refine (generate_drafted same limits matching.toResembles).imp ?_
  rintro text text' ⟨draft, rfl, rfl⟩
  rw [matching.ends]

theorem region_alike (same : program.unplaced = program'.unplaced) (limits : Limits)
    (matching : directive.Matches directive') :
    Alike Eq (region program limits directive) (region program' limits directive') := by
  refine (generate_alike same limits matching).bind ?_
  rintro text _ rfl
  split
  · exact .error rfl
  · exact .ok rfl

end Expansion

end Regen
