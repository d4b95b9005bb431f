import Regen.Proofs.Locality

/-!
# Definitions in force

The first pass folds the definitions of a document into two tables, where a definition takes the place of an earlier one
of its name. What a table holds under a name is therefore what the last directive says that sets it.
-/

namespace Regen

/-- What a definition sets: a function or a collection of lines, each under a name. -/
inductive Slot where
  | function (name : Text)
  | collection (name : Text)
deriving DecidableEq, Repr

namespace Directive

/-- What a directive sets, if it is a definition. -/
def slot? (directive : Directive) : Option Slot :=
  match directive.header with
  | .defun name _ => some (.function name)
  | .block name | .lines name => some (.collection name)
  | _ => none

/-- The function that a directive defines, if its body can be read. -/
def function? (directive : Directive) : Option Function :=
  match directive.header with
  | .defun _ parameters =>
    (Node.readBody directive.source directive.bodyLine).toOption.map fun body =>
      ⟨parameters, body, some directive.line⟩
  | _ => none

/-- The lines that a directive stores: a block is stored as one. -/
def collection? (directive : Directive) : Option Collection :=
  match directive.header with
  | .lines _ => some ⟨directive.storedLines, some directive.line⟩
  | .block _ => some ⟨[directive.newline.intercalate directive.storedLines], some directive.line⟩
  | _ => none

/-- The directives that set a slot, in their order. -/
def settings (slot : Slot) (directives : List Directive) : List Directive :=
  directives.filter fun directive => directive.slot? = some slot

/-- The definition that is in force for a slot. -/
def latest (slot : Slot) (directives : List Directive) : Option Directive := (settings slot directives).getLast?

theorem settings_append (slot : Slot) (directives others : List Directive) :
    settings slot (directives ++ others) = settings slot directives ++ settings slot others := List.filter_append ..

theorem latest_concat (slot : Slot) (directives : List Directive) (directive : Directive) :
    latest slot (directives ++ [directive]) =
      if directive.slot? = some slot then some directive else latest slot directives := by
  rw [latest, settings_append]
  by_cases sets : directive.slot? = some slot
  · simp [settings, sets]
  · simp [settings, sets, latest]

variable {directives : List Directive} {directive definition : Directive} {slot : Slot}

/-- The definition in force is one behind which no other follows. -/
theorem latest_eq_some_iff : latest slot directives = some definition ↔
    definition.slot? = some slot ∧ ∃ before after, directives = before ++ definition :: after ∧
      ∀ other ∈ after, other.slot? ≠ some slot := by
  have searched : latest slot directives = directives.reverse.find? fun other => other.slot? = some slot := by
    rw [latest, settings, List.getLast?_eq_head?_reverse, ← List.filter_reverse, List.head?_filter]
  rw [searched, List.find?_eq_some_iff_append, decide_eq_true_eq]
  refine and_congr_right fun _ => ⟨?_, ?_⟩
  · rintro ⟨after, before, split, others⟩
    refine ⟨before.reverse, after.reverse, ?_, fun other member => ?_⟩
    · rw [← List.reverse_reverse directives, split]
      simp
    · simpa using others other (List.mem_reverse.mp member)
  · rintro ⟨before, after, rfl, others⟩
    refine ⟨after.reverse, before.reverse, by simp, fun other member => ?_⟩
    simpa using others other (List.mem_reverse.mp member)

theorem mem_of_latest (isLatest : latest slot directives = some definition) :
    definition ∈ directives ∧ definition.slot? = some slot := by
  obtain ⟨member, sets⟩ := List.mem_filter.mp (List.mem_of_getLast? isLatest)
  exact ⟨member, of_decide_eq_true sets⟩

theorem slot?_eq_function_iff {name : Text} :
    directive.slot? = some (.function name) ↔ ∃ parameters, directive.header = .defun name parameters := by
  unfold slot?
  cases directive.header <;> simp

end Directive

namespace Expansion

open Directive

variable {file : Option Text} {directives : List Directive}

theorem gather_concat (file : Option Text) (directives : List Directive) (directive : Directive) :
    gather file (directives ++ [directive]) =
      gather file directives >>= fun gathered => atDirective file directive (gathered.add file directive) := by
  rw [gather, List.foldlM_append]
  congr 1
  funext gathered
  rw [List.foldlM_cons]
  cases atDirective file directive (gathered.add file directive) with
  | error failure => rfl
  | ok next => rfl

/-- A directive changes the slot that it sets and no other. -/
theorem Gathered.find?_add {gathered next : Gathered} {directive : Directive}
    (added : gathered.add file directive = .ok next) (name : Text) :
    next.program.functions.find? name =
        (if directive.slot? = some (.function name) then directive.function?
          else gathered.program.functions.find? name) ∧
      next.program.collections.find? name =
        (if directive.slot? = some (.collection name) then directive.collection?
          else gathered.program.collections.find? name) := by
  unfold Gathered.add at added
  unfold slot? function? collection?
  cases named : directive.header with
  | defun other parameters =>
    rw [named] at added
    obtain ⟨body, isRead, added⟩ := bind_eq_ok added
    cases added
    refine ⟨?_, by simp [addFunction, Program.addFunction]⟩
    simp only [addFunction, Program.addFunction, Table.find?_insert, isRead, Option.some.injEq, Slot.function.injEq,
      eq_comm (a := name)]
    rfl
  | lines other | block other =>
    rw [named] at added
    cases added
    refine ⟨by simp [addCollection, Program.addCollection], ?_⟩
    simp only [addCollection, Program.addCollection, Table.find?_insert, Option.some.injEq, Slot.collection.injEq,
      eq_comm (a := name)]
  | _ =>
    rw [named] at added
    cases added
    simp

/-- The first pass keeps for each name the last definition, wherever it stands. -/
theorem find?_gather {gathered : Gathered} (gathers : gather file directives = .ok gathered) (name : Text) :
    gathered.program.functions.find? name = (latest (.function name) directives).bind function? ∧
      gathered.program.collections.find? name = (latest (.collection name) directives).bind collection? := by
  induction directives using List.reverseRecOn generalizing gathered with
  | nil =>
    cases gathers
    exact ⟨rfl, rfl⟩
  | append_singleton earlier directive ih =>
    rw [gather_concat] at gathers
    obtain ⟨before, gathers, added⟩ := bind_eq_ok gathers
    obtain ⟨functions, collections⟩ := Gathered.find?_add (atDirective_eq_ok_iff.mp added) name
    obtain ⟨earlierFunctions, earlierCollections⟩ := ih gathers
    rw [functions, collections, latest_concat, latest_concat, earlierFunctions, earlierCollections]
    constructor
    · split <;> rfl
    · split <;> rfl

end Expansion

end Regen
