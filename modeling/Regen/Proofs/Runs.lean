import Regen.Evaluation
import Regen.Proofs.Places

/-! # What a run depends on

A run reads no line number and no line end: with other lines in its program and another line end in its buffer it
takes the same steps, and only the lines of a failure differ. Of a program it sees the functions, each by its name.
-/

namespace Regen

namespace Table

variable {α β : Type}

/-- A table with its entries changed one by one. -/
def mapEntries (change : α → β) (table : Table α) : Table β := table.map fun (name, entry) => (name, change entry)

@[simp] theorem find?_mapEntries (change : α → β) (table : Table α) (name : Text) :
    (table.mapEntries change).find? name = (table.find? name).map change := by
  induction table with
  | nil => rfl
  | cons entry rest ih =>
    obtain ⟨other, a⟩ := entry
    simp only [mapEntries, find?, List.map_cons, List.lookup_cons] at ih ⊢
    split <;> simp_all

theorem insert_mapEntries (change : α → β) (name : Text) (entry : α) (table : Table α) :
    Table.insert name (change entry) (table.mapEntries change) =
      (Table.insert name entry table).mapEntries change := by
  induction table with
  | nil => rfl
  | cons first rest ih =>
    obtain ⟨other, a⟩ := first
    simp only [mapEntries, insert, List.map_cons] at ih ⊢
    split
    · rfl
    · rw [ih, List.map_cons]

end Table

def Function.relocate (move : Option Int → Option Int) (function : Function) : Function where
  parameters := function.parameters
  body := function.body.map (Node.relocate move)
  line := move function.line

def Collection.relocate (move : Option Int → Option Int) (collection : Collection) : Collection where
  lines := collection.lines
  line := move collection.line

def Program.relocate (move : Option Int → Option Int) (program : Program) : Program where
  functions := program.functions.mapEntries (Function.relocate move)
  collections := program.collections.mapEntries (Collection.relocate move)

/-- A machine whose buffer ends its lines in another way. -/
def Machine.withNewline (newline : Text) (machine : Machine) : Machine :=
  { machine with buffer := { machine.buffer with newline } }

namespace Run

/-- The second run does on a machine with the line end `newline` what the first one does, and reports its
failures on other lines. -/
def Mirrors (move : Option Int → Option Int) (newline : Text) (run mirror : Run) : Prop :=
  ∀ machine, mirror (machine.withNewline newline) =
    (relabel (Failure.relocate move) id (run machine).1, (run machine).2.withNewline newline)

namespace Mirrors

variable {move : Option Int → Option Int} {newline : Text} {run mirror next nextMirror : Run}

theorem done : Mirrors move newline Run.done Run.done := fun _ => rfl

theorem fail (failure : Failure) : Mirrors move newline (Run.fail failure) (Run.fail (failure.relocate move)) :=
  fun _ => rfl

theorem andThen (first : Mirrors move newline run mirror) (second : Mirrors move newline next nextMirror) :
    Mirrors move newline (run.andThen next) (mirror.andThen nextMirror) := by
  intro machine
  unfold Run.andThen
  rw [first machine]
  obtain ⟨result, after⟩ := run machine
  cases result with
  | ok _ => exact second after
  | error failure => rfl

theorem each {α β : Type} {work : α → Run} {mirrored : β → Run} {item : α → β} (items : List α)
    (agree : ∀ a ∈ items, Mirrors move newline (work a) (mirrored (item a))) :
    Mirrors move newline (Run.each work items) (Run.each mirrored (items.map item)) := by
  induction items with
  | nil => exact done
  | cons a rest ih =>
    exact (agree a (List.mem_cons_self ..)).andThen (ih fun b member => agree b (List.mem_cons_of_mem _ member))

theorem withResult {α : Type} (result : Except Failure α) {work mirrored : α → Run}
    (agree : ∀ a, Mirrors move newline (work a) (mirrored a)) :
    Mirrors move newline (Run.withResult result work)
      (Run.withResult (relabel (Failure.relocate move) id result) mirrored) := by
  cases result with
  | ok a => exact agree a
  | error failure => exact fail failure

theorem failOnLine (fault : Fault) (line : Option Int) :
    Mirrors move newline (Run.fail (.onLine fault line)) (Run.fail (.onLine fault (move line))) := by
  rw [← Failure.relocate_onLine]
  exact fail _

theorem emit (event : Event) : Mirrors move newline (Run.emit event) (Run.emit event) := fun _ => rfl

theorem write (value : Value) : Mirrors move newline (Run.write value) (Run.write value) := by
  unfold Run.write
  split
  · exact emit _
  · exact fail (.oversizedInteger none)

theorem countRound (limits : Limits) (line : Option Int) :
    Mirrors move newline (Run.countRound limits line) (Run.countRound limits (move line)) := by
  intro machine
  have same : (machine.withNewline newline).iterations = machine.iterations := rfl
  simp only [Run.countRound, same]
  by_cases spent : limits.iterations < (machine.iterations + 1 : Nat)
  · rw [if_pos spent, if_pos spent]
    exact failOnLine _ line { machine with iterations := machine.iterations + 1 }
  · rw [if_neg spent, if_neg spent]
    rfl

theorem repeatFrom {body mirrored : Nat → Run} (agree : ∀ round, Mirrors move newline (body round) (mirrored round))
    (rounds first : Nat) :
    Mirrors move newline (Run.repeatFrom body rounds first) (Run.repeatFrom mirrored rounds first) := by
  induction rounds generalizing first with
  | zero => exact done
  | succ rounds ih => exact (agree first).andThen (ih (first + 1))

end Mirrors

end Run

theorem Node.eval_relocate (move : Option Int → Option Int) (scope : Scope) (node : Node) :
    (node.relocate move).eval scope = relabel (Failure.relocate move) id (node.eval scope) := by
  cases node with
  | literal value line => rw [relocate_literal]; rfl
  | reference name line =>
    rw [relocate_reference]
    simp only [eval]
    cases scope.find? name <;> rfl
  | insert arguments line => rw [relocate_insert]; simp only [eval, relabel, Failure.relocate, relocate_insert]
  | newline line => rw [relocate_newline]; simp only [eval, relabel, Failure.relocate, relocate_newline]
  | loop counter count body line => rw [relocate_loop]; simp only [eval, relabel, Failure.relocate, relocate_loop]
  | call function arguments line => rw [relocate_call]; simp only [eval, relabel, Failure.relocate, relocate_call]

namespace Machine

/-- The machine with the count of rounds that a call starts from. -/
def reset (machine : Machine) : Machine :=
  { machine with iterations := if machine.depth = 0 then 0 else machine.iterations }

def enter (machine : Machine) : Machine := { machine.reset with depth := machine.depth + 1 }

def leave (machine : Machine) : Machine := { machine with depth := machine.depth - 1 }

end Machine

namespace Program

open Run

/-- What a call reports of the outcome of its body: the outermost one names itself when the stack ran out. -/
def reported (limits : Limits) (name : Text) (line : Option Int) (outermost : Bool) :
    Except Failure Unit → Except Failure Unit
  | .error .stackExhausted =>
    .error (if outermost then .onLine (.callStackExhausted name limits.callDepth) line else .stackExhausted)
  | outcome => outcome

/-- A call in one piece: what is looked at before the body runs, and what is made of its outcome. -/
theorem invoke_eq (program : Program) (limits : Limits) (run : Scope → List Node → Run) (name : Text)
    (arguments : List Value) (line : Option Int) (machine : Machine) :
    program.invoke limits run name arguments line machine =
      match program.functions.find? name with
      | none => (.error (.onLine (.undefinedFunction name) line), machine)
      | some function =>
        if arguments.length ≠ function.arity then
          (.error (.onLine (.wrongArity name function.arity arguments.length) line), machine)
        else if limits.callDepth ≤ machine.depth then
          (.error (.onLine (.callsTooDeep limits.callDepth name) line), machine.reset)
        else
          let result := run (Scope.ofArguments function.parameters arguments) function.body machine.enter
          (reported limits name line (machine.depth = 0) result.1, result.2.leave) := by
  cases found : program.functions.find? name with
  | none => simp only [invoke, found, Run.fail]
  | some function =>
    have start : (if machine.depth = 0 then { machine with iterations := 0 } else machine) = machine.reset := by
      unfold Machine.reset
      split <;> rfl
    have deeper : { machine.reset with depth := machine.reset.depth + 1 } = machine.enter := rfl
    have depth : machine.reset.depth = machine.depth := rfl
    simp only [invoke, found, start]
    by_cases arity : arguments.length ≠ function.arity
    · rw [if_pos arity, if_pos arity]
      rfl
    rw [if_neg arity, if_neg arity]
    by_cases deep : limits.callDepth ≤ machine.depth
    · rw [if_pos deep, if_pos (depth ▸ deep)]
      rfl
    rw [if_neg deep, if_neg (depth ▸ deep), deeper]
    obtain ⟨outcome, after⟩ := run (Scope.ofArguments function.parameters arguments) function.body machine.enter
    cases outcome with
    | ok _ => rfl
    | error failure =>
      cases failure with
      | stackExhausted =>
        by_cases outermost : machine.depth = 0
        · simp only [reported, outermost, decide_true, ↓reduceIte]
          rfl
        · simp only [reported, outermost, decide_false, Bool.false_eq_true, ↓reduceIte]
          rfl
      | _ => rfl

theorem reported_eq_error {limits : Limits} {name : Text} {line : Option Int} {outermost : Bool}
    {outcome : Except Failure Unit} {failure : Failure}
    (failed : reported limits name line outermost outcome = .error failure) :
    outcome = .error failure ∨ failure = .onLine (.callStackExhausted name limits.callDepth) line := by
  unfold reported at failed
  split at failed
  · split at failed
    · cases failed
      exact .inr rfl
    · exact .inl failed
  · exact .inl failed

variable (program : Program) (limits : Limits) (move : Option Int → Option Int) (newline : Text)

theorem reported_relocate (name : Text) (line : Option Int) (outermost : Bool) (outcome : Except Failure Unit) :
    reported limits name (move line) outermost (relabel (Failure.relocate move) id outcome) =
      relabel (Failure.relocate move) id (reported limits name line outermost outcome) := by
  cases outcome with
  | ok _ => rfl
  | error failure =>
    cases failure with
    | stackExhausted =>
      cases outermost
      · rfl
      · exact congrArg Except.error (Failure.relocate_onLine ..).symm
    | _ => rfl

theorem invoke_mirrors {run mirrored : Scope → List Node → Run} (name : Text) (arguments : List Value)
    (line : Option Int)
    (agree : ∀ scope body, Mirrors move newline (run scope body) (mirrored scope (body.map (Node.relocate move)))) :
    Mirrors move newline (program.invoke limits run name arguments line)
      ((program.relocate move).invoke limits mirrored name arguments (move line)) := by
  intro machine
  have depth : (machine.withNewline newline).depth = machine.depth := rfl
  have enter : (machine.withNewline newline).enter = machine.enter.withNewline newline := rfl
  simp only [invoke_eq, Program.relocate, Table.find?_mapEntries, depth, enter]
  cases program.functions.find? name with
  | none => rfl
  | some function =>
    have sameArity : (function.relocate move).arity = function.arity := rfl
    dsimp only [Option.map_some]
    by_cases arity : arguments.length ≠ function.arity
    · rw [if_pos arity, if_pos (sameArity ▸ arity)]
      rfl
    rw [if_neg arity, if_neg (sameArity ▸ arity)]
    by_cases deep : limits.callDepth ≤ machine.depth
    · rw [if_pos deep, if_pos deep]
      exact Mirrors.failOnLine _ line machine.reset
    rw [if_neg deep, if_neg deep]
    have body := agree (Scope.ofArguments function.parameters arguments) function.body machine.enter
    dsimp only [Function.relocate]
    rw [body, reported_relocate]
    rfl

/-- A form on other lines runs as the form itself does. -/
theorem runForm_mirrors (stack : Nat) (scope : Scope) (node : Node) :
    Mirrors move newline (program.runForm limits stack scope node)
      ((program.relocate move).runForm limits stack scope (node.relocate move)) := by
  induction stack using Nat.strongRecOn generalizing scope node with
  | ind stack ih =>
    cases node with
    | literal value line =>
      rw [Node.relocate_literal, runForm.eq_def, runForm.eq_def]
      exact .fail (.misplacedForm (.literal value line))
    | reference name line =>
      rw [Node.relocate_reference, runForm.eq_def, runForm.eq_def]
      exact .fail (.misplacedForm (.reference name line))
    | insert arguments line =>
      rw [Node.relocate_insert, runForm.eq_def, runForm.eq_def]
      refine .each arguments fun argument _ => ?_
      rw [Node.eval_relocate]
      exact .withResult _ .write
    | newline line =>
      rw [Node.relocate_newline, runForm.eq_def, runForm.eq_def]
      exact .emit _
    | loop counter count body line =>
      rw [Node.relocate_loop, runForm.eq_def, runForm.eq_def]
      dsimp only
      rw [Node.eval_relocate]
      refine .withResult _ fun value => ?_
      split
      · split
        · refine .repeatFrom (fun round => ?_) _ _
          refine (Mirrors.countRound limits line).andThen (.each body fun form _ => ?_)
          exact ih _ (by omega) _ form
        · exact .fail _
      · exact .failOnLine _ _
    | call function arguments line =>
      rw [Node.relocate_call, runForm.eq_def, runForm.eq_def]
      dsimp only
      rw [mapM_relabel arguments fun argument _ => Node.eval_relocate move scope argument, List.map_id_fun]
      refine .withResult _ fun values => ?_
      split
      · refine program.invoke_mirrors limits move newline function values line fun inner body => ?_
        exact .each body fun form _ => ih _ (by omega) inner form
      · exact program.invoke_mirrors limits move newline function values line fun _ _ => .fail .stackExhausted

/-- A call from outside on other lines runs as the call itself does. -/
theorem call_mirrors (name : Text) (arguments : List Value) (line : Option Int) :
    Mirrors move newline (program.call limits name arguments line)
      ((program.relocate move).call limits name arguments (move line)) := by
  refine program.invoke_mirrors limits move newline name arguments line fun scope body => ?_
  exact .each body fun form _ => program.runForm_mirrors limits move newline limits.stack scope form

section Lookup

variable {program other : Program} (same : ∀ name, program.functions.find? name = other.functions.find? name)

include same

theorem invoke_congr (run : Scope → List Node → Run) (name : Text) (arguments : List Value) (line : Option Int) :
    program.invoke limits run name arguments line = other.invoke limits run name arguments line := by
  funext machine
  rw [invoke_eq, invoke_eq, same name]

/-- A run sees the functions of a program by their names only. -/
theorem runForm_congr (stack : Nat) : program.runForm limits stack = other.runForm limits stack := by
  induction stack using Nat.strongRecOn with
  | ind stack ih =>
    funext scope node
    cases node with
    | loop counter count body line =>
      rw [runForm.eq_def, runForm.eq_def]
      dsimp only
      congr 1
      funext value
      split
      · split
        · rw [ih _ (by omega)]
        · rfl
      · rfl
    | call function arguments line =>
      rw [runForm.eq_def, runForm.eq_def]
      dsimp only
      congr 1
      funext values
      split
      · rw [ih _ (by omega), invoke_congr limits same]
      · rw [invoke_congr limits same]
    | _ => rw [runForm.eq_def, runForm.eq_def]

theorem call_congr : program.call limits = other.call limits := by
  funext name arguments line
  have runs : program.runForms limits = other.runForms limits := by
    funext scope forms
    rw [runForms, runForms, runForm_congr limits same]
  rw [call, call, runs, invoke_congr limits same]

end Lookup

end Program

end Regen
