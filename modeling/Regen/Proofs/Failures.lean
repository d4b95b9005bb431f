import Mathlib.Algebra.Group.Nat.Defs
import Regen.Proofs.Runs

/-! # How runs fail

A body that can be run consists of forms whose literals can be written. A run of such bodies meets no node in a place
where it does not belong and no value with too many digits: what it writes and shows are literals, arguments and
counters below one of these. It fails with a fault, when the stack runs out, or because a limit has too many digits for
the wording of a fault; a call from outside turns the end of the stack into a fault.
-/

namespace Regen

/-- The result is a good value or an allowed failure. -/
def Ends {α : Type} (allowed : Failure → Prop) (good : α → Prop) : Except Failure α → Prop
  | .ok a => good a
  | .error failure => allowed failure

namespace Ends

variable {α β : Type} {allowed : Failure → Prop} {first : α → Prop} {good : β → Prop}

theorem bind {result : Except Failure α} {next : α → Except Failure β} (ends : Ends allowed first result)
    (goesOn : ∀ a, first a → Ends allowed good (next a)) : Ends allowed good (result >>= next) := by
  cases result with
  | ok a => exact goesOn a ends
  | error failure => exact ends

theorem foldlM {step : β → α → Except Failure β} (items : List α)
    (preserves : ∀ b, ∀ a ∈ items, good b → Ends allowed good (step b a)) {b : β} (start : good b) :
    Ends allowed good (items.foldlM step b) := by
  induction items generalizing b with
  | nil => exact start
  | cons a rest ih =>
    refine (preserves b a (List.mem_cons_self ..) start).bind fun c holds => ?_
    exact ih (fun d other member => preserves d other (List.mem_cons_of_mem _ member)) holds

theorem mapM {make : α → Except Failure β} (items : List α) (ends : ∀ a ∈ items, Ends allowed good (make a)) :
    Ends allowed (fun results => ∀ b ∈ results, good b) (items.mapM make) := by
  induction items with
  | nil => exact fun b member => by cases member
  | cons a rest ih =>
    rw [List.mapM_cons]
    refine (ends a (List.mem_cons_self ..)).bind fun b isGood => ?_
    refine (ih fun c member => ends c (List.mem_cons_of_mem _ member)).bind fun bs areGood => ?_
    rintro c (_ | ⟨_, member⟩)
    · exact isGood
    · exact areGood c member

end Ends

/-- Whether the result is a fault that passes a test. -/
def failsWith {α : Type} (test : Located Fault → Bool) : Except Failure α → Bool
  | .error (.fault fault) => test fault
  | _ => false

theorem exists_of_failsWith {α : Type} {test : Located Fault → Bool} {result : Except Failure α}
    (fails : failsWith test result = true) : ∃ fault, result = .error (.fault fault) ∧ test fault = true := by
  cases result with
  | ok a => cases fails
  | error failure =>
    cases failure with
    | fault fault => exact ⟨fault, rfl, fails⟩
    | _ => cases fails

namespace Run

/-- Whatever the machine, the run fails in an allowed way if it fails. -/
def FailsWithin (allowed : Failure → Prop) (run : Run) : Prop :=
  ∀ machine failure, (run machine).1 = .error failure → allowed failure

namespace FailsWithin

variable {allowed : Failure → Prop} {run next : Run}

theorem done : FailsWithin allowed Run.done := by
  intro machine failure failed
  cases failed

theorem fail {failure : Failure} (isAllowed : allowed failure) : FailsWithin allowed (Run.fail failure) := by
  intro machine other failed
  cases failed
  exact isAllowed

theorem emit (event : Event) : FailsWithin allowed (Run.emit event) := by
  intro machine failure failed
  cases failed

theorem write {value : Value} (writable : value.isWritable = true) : FailsWithin allowed (Run.write value) := by
  rw [Run.write, if_pos writable]
  exact emit _

theorem andThen (first : FailsWithin allowed run) (second : FailsWithin allowed next) :
    FailsWithin allowed (run.andThen next) := by
  intro machine failure failed
  unfold Run.andThen at failed
  split at failed
  · exact second _ _ failed
  · next ran =>
    cases failed
    exact first machine failure (by rw [ran])

theorem each {α : Type} {work : α → Run} (items : List α) (allFail : ∀ a ∈ items, FailsWithin allowed (work a)) :
    FailsWithin allowed (Run.each work items) := by
  induction items with
  | nil => exact done
  | cons a rest ih =>
    exact (allFail a (List.mem_cons_self ..)).andThen (ih fun b member => allFail b (List.mem_cons_of_mem _ member))

theorem withResult {α : Type} {good : α → Prop} {result : Except Failure α} {work : α → Run}
    (ends : Ends allowed good result) (onValue : ∀ a, good a → FailsWithin allowed (work a)) :
    FailsWithin allowed (Run.withResult result work) := by
  cases result with
  | ok a => exact onValue a ends
  | error failure => exact fail ends

theorem countRound {limits : Limits} {line : Option Int}
    (isAllowed : allowed (.onLine (.tooManyIterations limits.iterations) line)) :
    FailsWithin allowed (Run.countRound limits line) := by
  intro machine failure failed
  simp only [Run.countRound] at failed
  split at failed
  · exact fail isAllowed _ _ failed
  · cases failed

theorem repeatFrom {body : Nat → Run} (rounds first : Nat)
    (allFail : ∀ round, first ≤ round → round < first + rounds → FailsWithin allowed (body round)) :
    FailsWithin allowed (Run.repeatFrom body rounds first) := by
  induction rounds generalizing first with
  | zero => exact done
  | succ rounds ih =>
    refine (allFail first (by omega) (by omega)).andThen (ih (first + 1) ?_)
    intro round after before
    exact allFail round (by omega) (by omega)

end FailsWithin

end Run

namespace Value

/-- An integer can be written exactly if it is below the power of ten with one digit too many. -/
theorem isWritable_int_iff (n : Int) : (int n).isWritable = true ↔ n.natAbs < 10 ^ maxDigits := by
  simp only [isWritable, decide_eq_true_eq]
  exact Nat.length_toDigits_le_iff (by decide) (by decide)

/-- The counts below an integer that can be written can be written. -/
theorem isWritable_of_lt {rounds round : Nat} (writable : (int rounds).isWritable = true) (below : round < rounds) :
    (int round).isWritable = true := by
  rw [isWritable_int_iff, Int.natAbs_natCast] at writable ⊢
  omega

end Value

namespace Failure

/-- A failure that a run may report: a fault, or a limit with too many digits for the wording of one. -/
def Reportable (limits : Limits) : Failure → Prop
  | fault _ => True
  | oversizedInteger none => limits.isWritable = false
  | _ => False

/-- Whether a node was met in a place where it does not belong. -/
def isMisplaced : Failure → Bool
  | misplacedForm _ | misplacedExpression _ => true
  | _ => false

/-- The failure is about anything but a misplaced node. -/
abbrev Placed (failure : Failure) : Prop := failure.isMisplaced = false

theorem onLine_ne_stackExhausted (fault : Fault) (line : Option Int) : onLine fault line ≠ .stackExhausted := by
  unfold onLine
  split
  · exact Failure.noConfusion
  · exact Failure.noConfusion

variable {limits : Limits}

theorem reportable_onLine {fault : Fault} (shown : fault.isWritable = false → limits.isWritable = false)
    (line : Option Int) : (onLine fault line).Reportable limits := by
  unfold onLine
  split
  · trivial
  · next unwritable => exact shown (Bool.eq_false_iff.mpr unwritable)

theorem reportable_tooManyIterations (line : Option Int) :
    (onLine (.tooManyIterations limits.iterations) line).Reportable limits := by
  refine reportable_onLine (fun unwritable => ?_) line
  rw [Limits.isWritable, show (Value.int limits.iterations).isWritable = false from unwritable, Bool.false_and]

/-- A fault whose wording shows no more than the limit on calls. -/
theorem reportable_of_callDepth {fault : Fault} (line : Option Int)
    (shown : fault.isWritable = (Value.int limits.callDepth).isWritable) :
    (onLine fault line).Reportable limits := by
  refine reportable_onLine (fun unwritable => ?_) line
  rw [Limits.isWritable, ← shown, unwritable, Bool.and_false]

end Failure

namespace Node

mutual

/-- The values that stand in a node. -/
def literals : Node → List Value
  | literal value _ => [value]
  | reference .. | newline _ => []
  | insert arguments _ | call _ arguments _ => literalsAll arguments
  | loop _ count body _ => count.literals ++ literalsAll body

def literalsAll : List Node → List Value
  | [] => []
  | node :: rest => node.literals ++ literalsAll rest

end

theorem literalsAll_eq_flatMap (nodes : List Node) : literalsAll nodes = nodes.flatMap literals := by
  induction nodes with
  | nil => rfl
  | cons node rest ih => rw [literalsAll, ih, List.flatMap_cons]

theorem allForms_iff (nodes : List Node) : allForms nodes = true ↔ ∀ node ∈ nodes, node.isForm = true := by
  induction nodes with
  | nil => simp [allForms]
  | cons node rest ih => simp [allForms, ih]

/-- A node that has a value which can be written, once its variables have. -/
structure IsArgument (node : Node) : Prop where
  expression : node.isExpression = true
  writable : ∀ value ∈ node.literals, value.isWritable = true

/-- A node that can be run: a form whose literals can be written. -/
structure Runnable (node : Node) : Prop where
  form : node.isForm = true
  writable : ∀ value ∈ node.literals, value.isWritable = true

variable {counter function : Text} {count : Node} {arguments body : List Node} {line : Option Int}

theorem runnable_insert_iff : (insert arguments line).Runnable ↔ ∀ argument ∈ arguments, argument.IsArgument := by
  constructor
  · rintro ⟨form, writable⟩ argument member
    rw [isForm, List.all_eq_true] at form
    rw [literals, literalsAll_eq_flatMap] at writable
    exact ⟨form argument member, fun value inside => writable value (List.mem_flatMap_of_mem member inside)⟩
  · intro areArguments
    refine ⟨?_, ?_⟩
    · rw [isForm, List.all_eq_true]
      exact fun argument member => (areArguments argument member).expression
    · rw [literals, literalsAll_eq_flatMap]
      intro value inside
      obtain ⟨argument, member, inside⟩ := List.mem_flatMap.mp inside
      exact (areArguments argument member).writable value inside

theorem runnable_call_iff :
    (call function arguments line).Runnable ↔ ∀ argument ∈ arguments, argument.IsArgument := by
  have asInsert : (insert arguments line).Runnable ↔ (call function arguments line).Runnable := by
    constructor
    · exact fun runnable => ⟨by simpa [isForm] using runnable.form, by simpa [literals] using runnable.writable⟩
    · exact fun runnable => ⟨by simpa [isForm] using runnable.form, by simpa [literals] using runnable.writable⟩
  exact asInsert.symm.trans runnable_insert_iff

theorem runnable_loop_iff :
    (loop counter count body line).Runnable ↔ count.IsArgument ∧ ∀ form ∈ body, form.Runnable := by
  constructor
  · rintro ⟨form, writable⟩
    rw [isForm, Bool.and_eq_true, allForms_iff] at form
    rw [literals, literalsAll_eq_flatMap] at writable
    refine ⟨⟨form.1, fun value inside => writable value (List.mem_append_left _ inside)⟩, fun node member => ?_⟩
    refine ⟨form.2 node member, fun value inside => writable value ?_⟩
    exact List.mem_append_right _ (List.mem_flatMap_of_mem member inside)
  · rintro ⟨isArgument, runnable⟩
    refine ⟨?_, ?_⟩
    · rw [isForm, Bool.and_eq_true, allForms_iff]
      exact ⟨isArgument.expression, fun node member => (runnable node member).form⟩
    · rw [literals, literalsAll_eq_flatMap]
      intro value inside
      rcases List.mem_append.mp inside with inside | inside
      · exact isArgument.writable value inside
      · obtain ⟨node, member, inside⟩ := List.mem_flatMap.mp inside
        exact (runnable node member).writable value inside

end Node

namespace Scope

variable {scope : Scope}

/-- The innermost frame decides about its own variable. -/
theorem find?_bind (scope : Scope) (counter : Text) (value : Value) (name : Text) :
    (scope.bind counter value).find? name = if name = counter then some value else scope.find? name := by
  simp only [find?, bind, List.findSome?_cons, Table.find?, List.lookup_cons, List.lookup_nil]
  by_cases same : name = counter
  · simp [same]
  · simp [beq_eq_false_iff_ne.mpr same, same]

/-- A parameter has the value of its argument; of parameters with one name the last one counts. -/
theorem find?_ofArguments (parameters : List Text) (arguments : List Value) (name : Text) :
    (ofArguments parameters arguments).find? name = (parameters.zip arguments).reverse.lookup name := by
  have folded (pairs : List (Text × Value)) (frame : Frame) :
      (pairs.foldl (fun frame pair => Table.insert pair.1 pair.2 frame) frame).find? name =
        (pairs.reverse.lookup name).or (frame.find? name) := by
    induction pairs generalizing frame with
    | nil => rfl
    | cons pair rest ih =>
      obtain ⟨parameter, value⟩ := pair
      rw [List.foldl_cons, ih, Table.find?_insert, List.reverse_cons, List.lookup_append, Option.or_assoc]
      by_cases same : name = parameter
      · simp [same]
      · simp [List.lookup_cons, beq_eq_false_iff_ne.mpr same, same]
  have all := folded (parameters.zip arguments) []
  have frame : ofArguments parameters arguments =
      [(parameters.zip arguments).foldl (fun frame pair => Table.insert pair.1 pair.2 frame) []] := rfl
  simp only [find?, frame, List.findSome?_cons, List.findSome?_nil]
  rw [all]
  cases (parameters.zip arguments).reverse.lookup name <;> rfl

/-- Something holds of the value of every variable. -/
def Holds (good : Value → Prop) (scope : Scope) : Prop := ∀ name value, scope.find? name = some value → good value

variable {good : Value → Prop}

theorem Holds.bind (holds : scope.Holds good) (counter : Text) {value : Value} (also : good value) :
    (scope.bind counter value).Holds good := by
  intro name found isFound
  rw [find?_bind] at isFound
  split at isFound
  · cases isFound
    exact also
  · exact holds name found isFound

theorem holds_ofArguments (parameters : List Text) {arguments : List Value} (all : ∀ value ∈ arguments, good value) :
    (ofArguments parameters arguments).Holds good := by
  intro name value found
  rw [find?_ofArguments] at found
  obtain ⟨before, after, split, _⟩ := List.lookup_eq_some_iff.mp found
  have member : (name, value) ∈ (parameters.zip arguments).reverse := by
    rw [split]
    simp
  exact all value (List.of_mem_zip (List.mem_reverse.mp member)).2

/-- Every variable has a value that can be written. -/
def Writable (scope : Scope) : Prop := ∀ name value, scope.find? name = some value → value.isWritable = true

theorem Writable.bind (writable : scope.Writable) (counter : Text) {value : Value} (also : value.isWritable = true) :
    (scope.bind counter value).Writable :=
  Holds.bind writable counter also

theorem writable_ofArguments (parameters : List Text) {arguments : List Value}
    (writable : ∀ value ∈ arguments, value.isWritable = true) : (ofArguments parameters arguments).Writable :=
  holds_ofArguments parameters writable

end Scope

/-- The ways in which a run may fail below a call. -/
abbrev Failure.Inside (limits : Limits) (failure : Failure) : Prop :=
  failure = .stackExhausted ∨ failure.Reportable limits

/-- An argument has a value that can be written, or names a variable that is not there. -/
theorem Node.IsArgument.eval_ends {node : Node} (isArgument : node.IsArgument) {scope : Scope}
    (writable : scope.Writable) (limits : Limits) :
    Ends (Failure.Inside limits) (fun value => value.isWritable = true) (node.eval scope) := by
  obtain ⟨expression, literals⟩ := isArgument
  cases node with
  | literal value line => exact literals value (List.mem_singleton_self value)
  | reference name line =>
    simp only [eval]
    cases found : scope.find? name with
    | some value => exact writable name value found
    | none => exact .inr trivial
  | _ => cases expression

namespace Program

open Run

/-- All functions have bodies that can be run. -/
def Runnable (program : Program) : Prop :=
  ∀ name function, program.functions.find? name = some function → ∀ form ∈ function.body, form.Runnable

variable {program : Program} {limits : Limits}

theorem invoke_failsInside {run : Scope → List Node → Run} (name : Text) {arguments : List Value}
    (writable : ∀ value ∈ arguments, value.isWritable = true) (line : Option Int)
    (onBody : ∀ (scope : Scope) function, program.functions.find? name = some function → scope.Writable →
      FailsWithin (Failure.Inside limits) (run scope function.body)) :
    FailsWithin (Failure.Inside limits) (program.invoke limits run name arguments line) := by
  intro machine failure failed
  rw [invoke_eq] at failed
  cases found : program.functions.find? name with
  | none =>
    simp only [found] at failed
    cases failed
    exact .inr trivial
  | some function =>
    simp only [found] at failed
    split_ifs at failed
    · cases failed
      exact .inr trivial
    · cases failed
      exact .inr (Failure.reportable_of_callDepth line rfl)
    · have body := onBody _ function found (Scope.writable_ofArguments function.parameters writable) machine.enter
      dsimp only at failed
      generalize run (Scope.ofArguments function.parameters arguments) function.body machine.enter = result
        at body failed
      rcases reported_eq_error failed with failed | rfl
      · exact body failure failed
      · exact .inr (Failure.reportable_of_callDepth line rfl)

/-- A run of a form that can be run never meets a misplaced node or a value with too many digits. -/
theorem runForm_failsInside (runnable : program.Runnable) (stack : Nat) {scope : Scope} (writable : scope.Writable)
    {node : Node} (isRunnable : node.Runnable) :
    FailsWithin (Failure.Inside limits) (program.runForm limits stack scope node) := by
  induction stack using Nat.strongRecOn generalizing scope node with
  | ind stack ih =>
    cases node with
    | literal value line => cases isRunnable.form
    | reference name line => cases isRunnable.form
    | insert arguments line =>
      rw [runForm.eq_def]
      have areArguments := Node.runnable_insert_iff.mp isRunnable
      refine .each arguments fun argument member => ?_
      exact .withResult ((areArguments argument member).eval_ends writable limits) fun value => .write
    | newline line =>
      rw [runForm.eq_def]
      exact .emit _
    | loop counter count body line =>
      rw [runForm.eq_def]
      obtain ⟨isArgument, bodyRunnable⟩ := Node.runnable_loop_iff.mp isRunnable
      refine .withResult (isArgument.eval_ends writable limits) fun value shown => ?_
      split
      · next rounds =>
        split
        · refine .repeatFrom rounds 0 fun round _ below => ?_
          refine .andThen (.countRound (.inr (Failure.reportable_tooManyIterations line))) ?_
          refine .each body fun form member => ?_
          have counted := Value.isWritable_of_lt shown (Nat.zero_add rounds ▸ below)
          exact ih _ (by omega) (writable.bind counter counted) (bodyRunnable form member)
        · exact .fail (.inl rfl)
      · refine .fail (.inr (Failure.reportable_onLine (fun unwritable => ?_) line))
        cases shown.symm.trans unwritable
    | call function arguments line =>
      rw [runForm.eq_def]
      have areArguments := Node.runnable_call_iff.mp isRunnable
      refine .withResult (.mapM arguments fun argument member =>
        (areArguments argument member).eval_ends writable limits) fun values shown => ?_
      split
      · refine invoke_failsInside function shown line fun inner callee found innerWritable => ?_
        exact .each callee.body fun form member => ih _ (by omega) innerWritable (runnable _ callee found form member)
      · exact invoke_failsInside function shown line fun _ _ _ _ => .fail (.inl rfl)

/-- The outermost call names itself when the stack runs out. -/
theorem call_ne_stackExhausted {machine : Machine} (outside : machine.depth = 0) (name : Text) (arguments : List Value)
    (line : Option Int) : (program.call limits name arguments line machine).1 ≠ .error .stackExhausted := by
  intro failed
  rw [call, invoke_eq] at failed
  cases found : program.functions.find? name with
  | none =>
    simp only [found] at failed
    exact Failure.onLine_ne_stackExhausted _ _ (Except.error.inj failed)
  | some function =>
    simp only [found] at failed
    split_ifs at failed
    · exact Failure.onLine_ne_stackExhausted _ _ (Except.error.inj failed)
    · exact Failure.onLine_ne_stackExhausted _ _ (Except.error.inj failed)
    · rw [decide_eq_true outside] at failed
      dsimp only [reported] at failed
      split at failed
      · exact Failure.onLine_ne_stackExhausted _ _ (Except.error.inj failed)
      · next other => exact other failed

/-- A call from outside reports every failure of its run. -/
theorem call_reportable (runnable : program.Runnable) {machine : Machine} (outside : machine.depth = 0) {name : Text}
    {arguments : List Value} (writable : ∀ value ∈ arguments, value.isWritable = true) {line : Option Int}
    {failure : Failure} (failed : (program.call limits name arguments line machine).1 = .error failure) :
    failure.Reportable limits := by
  have inside : FailsWithin (Failure.Inside limits) (program.call limits name arguments line) := by
    refine invoke_failsInside name writable line fun scope function found scopeWritable => ?_
    exact .each function.body fun form member =>
      runForm_failsInside runnable limits.stack scopeWritable (runnable name function found form member)
  rcases inside machine failure failed with rfl | reportable
  · exact absurd failed (call_ne_stackExhausted outside name arguments line)
  · exact reportable

end Program

end Regen
