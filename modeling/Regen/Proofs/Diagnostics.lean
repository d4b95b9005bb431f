import Regen.Proofs.Reordering
import Regen.Proofs.Rescan

/-!
# What expansion reports

The first pass remembers for each name only the line of its last definition, and warns when that line is there already.
Along the directives this is the line of the last definition so far, so there is a warning for each directive that
defines a name again, and it names the definition that goes out of force. The messages of the document come after.
-/

namespace Regen

/-- What kind of thing a slot holds, in messages. -/
def Slot.what : Slot → Text
  | function _ => "function".toList
  | collection _ => "line collection".toList

def Slot.name : Slot → Text
  | function name | collection name => name

/-- A slot that `directive` sets, and that `previous` set before it. -/
structure Redefinition where
  slot : Slot
  previous : Directive
  directive : Directive
deriving DecidableEq

namespace Redefinition

/-- Both directives of a redefinition set its slot, one behind the other, and no directive between them does. -/
structure OccursIn (redefinition : Redefinition) (directives : List Directive) : Prop where
  previous : redefinition.previous.slot? = some redefinition.slot
  directive : redefinition.directive.slot? = some redefinition.slot
  split : ∃ before between after,
    directives = before ++ redefinition.previous :: (between ++ redefinition.directive :: after) ∧
      ∀ other ∈ between, other.slot? ≠ some redefinition.slot

def warning (file : Option Text) (redefinition : Redefinition) : Diagnostic where
  content :=
    { message := redefinition.slot.what ++ " '".toList ++ redefinition.slot.name ++
        "' redefined; replaces the definition on line ".toList ++ Text.ofNat redefinition.previous.line
      severity := "warning".toList }
  line := some redefinition.directive.line
  file := file

end Redefinition

namespace Directive

variable {directives earlier : List Directive} {directive definition : Directive} {slot : Slot}

/-- How a directive behind others defines a slot again. -/
def redefinition? (earlier : List Directive) (directive : Directive) : Option Redefinition :=
  directive.slot?.bind fun slot => (latest slot earlier).map fun previous => ⟨slot, previous, directive⟩

/-- The redefinitions among directives that stand behind others. -/
def redefinitions (earlier : List Directive) : List Directive → List Redefinition
  | [] => []
  | directive :: rest => (redefinition? earlier directive).toList ++ redefinitions (earlier ++ [directive]) rest

theorem redefinitions_append (earlier directives others : List Directive) :
    redefinitions earlier (directives ++ others) =
      redefinitions earlier directives ++ redefinitions (earlier ++ directives) others := by
  induction directives generalizing earlier with
  | nil => simp [redefinitions]
  | cons directive rest ih => simp [redefinitions, ih]

theorem redefinition?_eq_some_iff {redefinition : Redefinition} :
    redefinition? earlier directive = some redefinition ↔
      redefinition.directive = directive ∧ directive.slot? = some redefinition.slot ∧
        latest redefinition.slot earlier = some redefinition.previous := by
  obtain ⟨slot, previous, other⟩ := redefinition
  constructor
  · intro found
    obtain ⟨slot', sets, found⟩ := Option.bind_eq_some_iff.mp found
    obtain ⟨previous', isLatest, same⟩ := Option.map_eq_some_iff.mp found
    cases same
    exact ⟨rfl, sets, isLatest⟩
  · rintro ⟨rfl, sets, isLatest⟩
    dsimp only at sets isLatest
    rw [redefinition?, sets, Option.bind_some, isLatest, Option.map_some]

/-- A directive is listed once at most, and all are in order. -/
theorem redefinitions_sublist (earlier directives : List Directive) :
    ((redefinitions earlier directives).map Redefinition.directive).Sublist directives := by
  induction directives generalizing earlier with
  | nil => exact .slnil
  | cons directive rest ih =>
    rw [redefinitions, List.map_append]
    have first : ((redefinition? earlier directive).toList.map Redefinition.directive).Sublist [directive] := by
      cases found : redefinition? earlier directive with
      | none => exact List.nil_sublist _
      | some redefinition => rw [Option.toList_some, List.map_singleton, (redefinition?_eq_some_iff.mp found).1]
    exact first.append (ih _)

/-- A redefinition is listed where its directive stands, by what stands before that. -/
theorem mem_redefinitions_behind_iff {redefinition : Redefinition} :
    redefinition ∈ redefinitions earlier directives ↔ ∃ before directive after,
      directives = before ++ directive :: after ∧ redefinition? (earlier ++ before) directive = some redefinition := by
  induction directives generalizing earlier with
  | nil => simp [redefinitions]
  | cons first rest ih =>
    rw [redefinitions, List.mem_append, Option.mem_toList, ih]
    constructor
    · rintro (found | ⟨before, directive, after, rfl, found⟩)
      · exact ⟨[], first, rest, rfl, by rwa [List.append_nil]⟩
      · exact ⟨first :: before, directive, after, rfl, by rwa [List.append_cons]⟩
    · rintro ⟨before, directive, after, split, found⟩
      cases before with
      | nil =>
        cases split
        exact .inl (by rwa [List.append_nil] at found)
      | cons other before =>
        cases split
        exact .inr ⟨before, directive, after, rfl, by rwa [List.append_cons] at found⟩

theorem mem_redefinitions_iff {redefinition : Redefinition} :
    redefinition ∈ redefinitions [] directives ↔ redefinition.OccursIn directives := by
  rw [mem_redefinitions_behind_iff]
  simp only [List.nil_append, redefinition?_eq_some_iff, latest_eq_some_iff]
  constructor
  · rintro ⟨_, _, after, rfl, rfl, sets, previousSets, before, between, rfl, others⟩
    exact ⟨previousSets, sets, before, between, after, by simp, others⟩
  · rintro ⟨previousSets, sets, before, between, after, rfl, others⟩
    exact ⟨before ++ redefinition.previous :: between, redefinition.directive, after, by simp, rfl, sets, previousSets,
      before, between, rfl, others⟩

/-- The directives of a text stand one behind the other. -/
theorem ordered_of_scan {text : Text} (scanned : scan text = .ok directives) :
    directives.Pairwise fun first second => first.closeLine < second.line := by
  obtain ⟨document, -, rfl⟩ := (Document.scan_eq_ok_iff ..).mp scanned
  rw [Document.directives]
  generalize 1 = number, 0 = start, document.passages = passages
  induction passages generalizing number start with
  | nil => exact .nil
  | cons passage rest ih =>
    refine .cons (fun later member => ?_) (ih ..)
    obtain ⟨first, other, _, -, rfl⟩ := Passage.exists_of_mem_directives member
    simp only [Passage.directive, Passage.lines, List.length_append, List.length_cons, List.length_nil]
    omega

end Directive

namespace Expansion

open Directive

variable {file : Option Text} {limits : Limits} {text : Text} {directives : List Directive} {directive : Directive}

namespace Gathered

/-- The line of the definition that has been found for a slot. -/
def line? (gathered : Gathered) : Slot → Option (Option Int)
  | .function name => (gathered.program.functions.find? name).map Function.line
  | .collection name => (gathered.program.collections.find? name).map Collection.line

/-- One step of the first pass: the slot of the directive gets its line, no other slot changes, and there is a warning
if the slot had a line before. -/
theorem add_step {gathered next : Gathered} (added : gathered.add file directive = .ok next) :
    (∀ slot, next.line? slot =
        if directive.slot? = some slot then some (some (directive.line : Int)) else gathered.line? slot) ∧
      next.warnings = gathered.warnings ++ (directive.slot?.bind fun slot => (gathered.line? slot).map fun previous =>
        Diagnostic.redefinition slot.what slot.name previous directive.line file).toList := by
  unfold Gathered.add at added
  unfold slot?
  cases named : directive.header with
  | defun name parameters =>
    rw [named] at added
    obtain ⟨body, -, added⟩ := bind_eq_ok added
    cases added
    refine ⟨fun slot => ?_, ?_⟩
    · cases slot with
      | function other =>
        simp only [line?, addFunction, Program.addFunction, Table.find?_insert, Option.some.injEq, Slot.function.injEq,
          eq_comm (a := other)]
        split <;> rfl
      | collection other => simp [line?, addFunction, Program.addFunction]
    · simp only [addFunction, line?, Option.bind_some, Option.map_map]
      rfl
  | lines name | block name =>
    rw [named] at added
    cases added
    refine ⟨fun slot => ?_, ?_⟩
    · cases slot with
      | function other => simp [line?, addCollection, Program.addCollection]
      | collection other =>
        simp only [line?, addCollection, Program.addCollection, Table.find?_insert, Option.some.injEq,
          Slot.collection.injEq, eq_comm (a := other)]
        split <;> rfl
    · simp only [addCollection, line?, Option.bind_some, Option.map_map]
      rfl
  | _ =>
    rw [named] at added
    cases added
    simp

end Gathered

/-- Along the first pass, each slot has the line of its last definition so far, and every redefinition so far has its
warning. -/
theorem gather_spec {gathered : Gathered} (gathers : gather file directives = .ok gathered) :
    (∀ slot, gathered.line? slot = (latest slot directives).map fun definition => some (definition.line : Int)) ∧
      gathered.warnings = (redefinitions [] directives).map (Redefinition.warning file) := by
  -- The last directive is the one that is added to what all others gave, so the induction goes from the end.
  induction directives using List.reverseRecOn generalizing gathered with
  | nil =>
    cases gathers
    refine ⟨fun slot => ?_, rfl⟩
    cases slot <;> rfl
  | append_singleton earlier directive ih =>
    rw [gather_concat] at gathers
    obtain ⟨before, gathers, added⟩ := bind_eq_ok gathers
    obtain ⟨lines, warnings⟩ := Gathered.add_step (atDirective_eq_ok_iff.mp added)
    obtain ⟨earlierLines, earlierWarnings⟩ := ih gathers
    constructor
    · intro slot
      rw [lines, latest_concat, earlierLines]
      split <;> rfl
    · rw [warnings, earlierWarnings, redefinitions_append, List.map_append, List.nil_append, redefinitions,
        redefinitions, List.append_nil, redefinition?]
      congr 1
      cases directive.slot? with
      | none => rfl
      | some slot =>
        rw [Option.bind_some, Option.bind_some, earlierLines]
        cases latest slot earlier <;> rfl

/-- The messages are those of the message directives in order. -/
theorem forall₂_messages (file : Option Text) (directives : List Directive) :
    List.Forall₂ (fun directive (diagnostic : Diagnostic) => ∃ text, directive.header = .message text ∧
        diagnostic = ⟨⟨text, "message".toList⟩, some (directive.line : Int), file⟩)
      (directives.filter fun directive => directive.kind = .message) (messages file directives) := by
  induction directives with
  | nil => exact .nil
  | cons directive rest ih =>
    rw [messages, List.filterMap_cons, List.filter_cons, kind]
    cases named : directive.header with
    | message text => exact .cons ⟨text, named, rfl⟩ ih
    | _ => exact ih

theorem file_of_mem_messages {diagnostic : Diagnostic} (member : diagnostic ∈ messages file directives) :
    diagnostic.file = file := by
  obtain ⟨directive, -, made⟩ := List.mem_filterMap.mp member
  split at made
  · cases made
    rfl
  · cases made

/-- An expansion reports every redefinition, in the order of the directives that redefine, and then every message, and
nothing else. -/
theorem diagnostics_exact {expansion : Expansion} (success : expand file limits text = .ok expansion) :
    scan text = .ok expansion.directives ∧
      (expansion.directives.Pairwise fun first second => first.closeLine < second.line) ∧
      ∃ (redefinitions : List Redefinition) (messages : List Diagnostic),
        expansion.diagnostics = redefinitions.map (Redefinition.warning file) ++ messages ∧
        (redefinitions.map Redefinition.directive).Sublist expansion.directives ∧
        (∀ redefinition, redefinition ∈ redefinitions ↔ redefinition.OccursIn expansion.directives) ∧
        List.Forall₂ (fun directive (diagnostic : Diagnostic) => ∃ text, directive.header = .message text ∧
            diagnostic = ⟨⟨text, "message".toList⟩, some (directive.line : Int), file⟩)
          (expansion.directives.filter fun directive => directive.kind = .message) messages ∧
        ∀ diagnostic ∈ expansion.diagnostics, diagnostic.file = file := by
  have scanned := scan_of_expand success
  rw [expand_of_scan scanned] at success
  obtain ⟨gathered, gathers, success⟩ := bind_eq_ok success
  obtain ⟨_, -, success⟩ := bind_eq_ok success
  have reported : expansion.diagnostics = _ := congrArg diagnostics (Except.ok.inj success).symm
  rw [(gather_spec gathers).2] at reported
  refine ⟨scanned, ordered_of_scan scanned, redefinitions [] expansion.directives, _, reported,
    redefinitions_sublist _ _, fun _ => mem_redefinitions_iff, forall₂_messages file expansion.directives, ?_⟩
  intro diagnostic member
  rw [reported] at member
  rcases List.mem_append.mp member with member | member
  · obtain ⟨redefinition, -, rfl⟩ := List.mem_map.mp member
    rfl
  · exact file_of_mem_messages member

/-- Definitions of one name, as a function and as lines, with messages between them. -/
def namedAlike : Text :=
  "autoc:defun f ()\nautoc#\n".toList ++ "autoc:lines f\nx\nautoc#\n".toList ++
    "autoc:message \"m\"\nautoc#\n".toList ++ "autoc:defun f (a)\nautoc#\n".toList ++
    "autoc:block f\nautoc#\n".toList ++ "autoc:message \"n\"\nautoc#\n".toList ++
    "autoc:defun f ()\nautoc#\n".toList

theorem diagnostics_namedAlike :
    ∃ expansion, expand (some "a.c".toList) {} namedAlike = .ok expansion ∧
      expansion.diagnostics.map Diagnostic.render =
        ["a.c:8: warning: function 'f' redefined; replaces the definition on line 1".toList,
          "a.c:10: warning: line collection 'f' redefined; replaces the definition on line 3".toList,
          "a.c:14: warning: function 'f' redefined; replaces the definition on line 8".toList,
          "a.c:6: message: m".toList, "a.c:12: message: n".toList] ∧
      ∃ (redefinitions : List Redefinition) (messages : List Diagnostic),
        expansion.diagnostics = redefinitions.map (Redefinition.warning (some "a.c".toList)) ++ messages ∧
        ∀ redefinition, redefinition ∈ redefinitions ↔ redefinition.OccursIn expansion.directives := by
  have evaluated : succeedsWith (fun expansion => expansion.diagnostics.map Diagnostic.render ==
      ["a.c:8: warning: function 'f' redefined; replaces the definition on line 1".toList,
        "a.c:10: warning: line collection 'f' redefined; replaces the definition on line 3".toList,
        "a.c:14: warning: function 'f' redefined; replaces the definition on line 8".toList,
        "a.c:6: message: m".toList, "a.c:12: message: n".toList])
      (expand (some "a.c".toList) {} namedAlike) = true := by decide +kernel
  obtain ⟨expansion, success, shown⟩ := exists_of_succeedsWith evaluated
  obtain ⟨-, -, redefinitions, messages, reported, -, occur, -, -⟩ := diagnostics_exact success
  exact ⟨expansion, success, eq_of_beq shown, redefinitions, messages, reported, occur⟩

end Expansion

end Regen
