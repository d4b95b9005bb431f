import Regen.Proofs.Failures
import Regen.Proofs.Parts

/-! # Which part of a function fails

A run that fails with a fault comes to a part that cannot be run: a variable without a value, a loop whose count is no
number of rounds or that uses up the rounds, or a call that is refused. `Raises` follows the run to this part, through
the rounds of loops and into the functions that are called, past everything that succeeds before. The fault carries
the line of the part, and the part belongs to the body of the function that was running.
-/

namespace Regen

/-! ## Where a sequence of runs fails -/

namespace Run

variable {machine : Machine} {failure : Failure}

theorem andThen_eq_error {run next : Run} (failed : (run.andThen next machine).1 = .error failure) :
    (run machine).1 = .error failure ∨ ∃ middle, run machine = (.ok (), middle) ∧ (next middle).1 = .error failure := by
  unfold andThen at failed
  split at failed
  · next middle ran => exact .inr ⟨middle, ran, failed⟩
  · next ran =>
    rw [ran]
    exact .inl failed

theorem andThen_eq_ok {run next : Run} {after : Machine} (success : run.andThen next machine = (.ok (), after)) :
    ∃ middle, run machine = (.ok (), middle) ∧ next middle = (.ok (), after) := by
  unfold andThen at success
  split at success
  · next middle ran => exact ⟨middle, ran, success⟩
  · cases success

variable {α : Type} {work : α → Run}

theorem withResult_eq_error {result : Except Failure α} (failed : (withResult result work machine).1 = .error failure) :
    result = .error failure ∨ ∃ a, result = .ok a ∧ (work a machine).1 = .error failure := by
  cases result with
  | ok a => exact .inr ⟨a, rfl, failed⟩
  | error other =>
    cases failed
    exact .inl rfl

/-- A run for each member fails on one of them, after those before it succeeded. -/
theorem each_eq_error {items : List α} (failed : (each work items machine).1 = .error failure) :
    ∃ before item after middle, items = before ++ item :: after ∧ each work before machine = (.ok (), middle) ∧
      (work item middle).1 = .error failure := by
  induction items generalizing machine with
  | nil => cases failed
  | cons item rest ih =>
    rcases andThen_eq_error failed with failed | ⟨next, ran, failed⟩
    · exact ⟨[], item, rest, machine, rfl, rfl, failed⟩
    · obtain ⟨before, other, after, middle, rfl, earlier, failed⟩ := ih failed
      refine ⟨item :: before, other, after, middle, rfl, ?_, failed⟩
      simp only [each, andThen, ran]
      exact earlier

theorem exists_ok_of_each {items : List α} {after : Machine} (success : each work items machine = (.ok (), after)) :
    ∀ item ∈ items, ∃ start stop, work item start = (.ok (), stop) := by
  induction items generalizing machine with
  | nil => exact fun item member => by cases member
  | cons item rest ih =>
    obtain ⟨middle, first, others⟩ := andThen_eq_ok success
    exact List.forall_mem_cons.mpr ⟨⟨machine, middle, first⟩, ih others⟩

/-- A repeated run fails in one of its rounds, after the rounds before it succeeded. -/
theorem repeatFrom_eq_error {body : Nat → Run} {rounds first : Nat}
    (failed : (repeatFrom body rounds first machine).1 = .error failure) :
    ∃ round middle, round < rounds ∧ repeatFrom body round first machine = (.ok (), middle) ∧
      (body (first + round) middle).1 = .error failure := by
  induction rounds generalizing first machine with
  | zero => cases failed
  | succ rounds ih =>
    rcases andThen_eq_error failed with failed | ⟨next, ran, failed⟩
    · exact ⟨0, machine, by omega, rfl, failed⟩
    · obtain ⟨round, middle, below, earlier, failed⟩ := ih failed
      refine ⟨round + 1, middle, by omega, ?_, ?_⟩
      · simp only [repeatFrom, andThen, ran]
        exact earlier
      · rwa [Nat.add_right_comm] at failed

end Run

/-- A fault on a line has no file yet. -/
theorem Failure.eq_of_onLine {fault : Fault} {line : Option Int} {located : Located Fault}
    (same : onLine fault line = .fault located) : located = ⟨fault, line, none⟩ := by
  unfold onLine at same
  split at same
  · exact (Failure.fault.inj same).symm
  · cases same

namespace Node

/-- The expressions that a form evaluates before it does anything else with them. -/
def operands : Node → List Node
  | insert arguments _ | call _ arguments _ => arguments
  | loop _ count _ _ => [count]
  | _ => []

theorem mem_parts_self (node : Node) : node ∈ node.parts := by
  cases node <;> simp [parts]

theorem mem_partsAll {node part : Node} {nodes : List Node} (member : node ∈ nodes) (inside : part ∈ node.parts) :
    part ∈ partsAll nodes := by
  rw [partsAll_eq_flatMap]
  exact List.mem_flatMap_of_mem member inside

theorem mem_parts_of_mem_operands {node operand : Node} (member : operand ∈ node.operands) :
    operand ∈ node.parts := by
  cases node with
  | literal | reference | newline => cases member
  | insert arguments line | call function arguments line =>
    exact List.mem_cons_of_mem _ (mem_partsAll member operand.mem_parts_self)
  | loop counter count body line =>
    obtain rfl := List.mem_singleton.mp member
    exact List.mem_cons_of_mem _ (List.mem_append_left _ operand.mem_parts_self)

/-- An expression has no value for want of a variable. -/
theorem eval_eq_fault {scope : Scope} {node : Node} {fault : Located Fault}
    (failed : node.eval scope = .error (.fault fault)) :
    ∃ name line, node = .reference name line ∧ scope.find? name = none ∧
      fault = ⟨.undefinedVariable name, line, none⟩ := by
  cases node with
  | reference name line =>
    simp only [eval] at failed
    split at failed
    · cases failed
    · next unbound => exact ⟨name, line, rfl, unbound, Failure.eq_of_onLine (Except.error.inj failed)⟩
  | _ => cases failed

end Node

/-! ## The part that fails -/

/-- A part that cannot be run, what is wrong with it, and the function in whose body it stands. A call from outside
stands in none. -/
structure Culprit where
  function : Option Text
  part : Node
  fault : Fault

namespace Program

/-- How a call runs the body of a function with the stack frames that are left. -/
def runBody (program : Program) (limits : Limits) : (stack : Nat) → Scope → List Node → Run
  | left + 3, scope, body => Run.each (program.runForm limits left scope) body
  | _, _, _ => Run.fail .stackExhausted

def runRound (program : Program) (limits : Limits) (left : Nat) (scope : Scope) (counter : Text) (body : List Node)
    (line : Option Int) (round : Nat) : Run :=
  (Run.countRound limits line).andThen (Run.each (program.runForm limits left (scope.bind counter (.int round))) body)

/-- A call comes to the body of a function: the function is there, takes the arguments and may be called. -/
structure Enters (program : Program) (limits : Limits) (name : Text) (arguments : List Value) (machine : Machine)
    (function : Function) : Prop where
  found : program.functions.find? name = some function
  arity : arguments.length = function.arity
  shallow : (machine.depth : Int) < limits.callDepth

/-- What is wrong with a call itself. -/
inductive Refuses (program : Program) (limits : Limits) (stack : Nat) (name : Text) (arguments : List Value)
    (machine : Machine) : Fault → Prop
  | unknown (missing : program.functions.find? name = none) :
      Refuses program limits stack name arguments machine (.undefinedFunction name)
  | arity {function : Function} (found : program.functions.find? name = some function)
      (differs : arguments.length ≠ function.arity) :
      Refuses program limits stack name arguments machine (.wrongArity name function.arity arguments.length)
  | deep {function : Function} (found : program.functions.find? name = some function)
      (fits : arguments.length = function.arity) (deep : limits.callDepth ≤ machine.depth) :
      Refuses program limits stack name arguments machine (.callsTooDeep limits.callDepth name)
  /-- Only the outermost call reports that the stack ran out. -/
  | exhausted {function : Function} (enters : program.Enters limits name arguments machine function)
      (outermost : machine.depth = 0)
      (spent : (program.runBody limits stack (.ofArguments function.parameters arguments) function.body
        machine.enter).1 = .error .stackExhausted) :
      Refuses program limits stack name arguments machine (.callStackExhausted name limits.callDepth)

/-- The run of a form of a function comes to a part that cannot be run. -/
inductive Raises (program : Program) (limits : Limits) :
    (owner : Option Text) → (stack : Nat) → Scope → Node → Machine → Culprit → Prop
  | operand {owner : Option Text} {stack : Nat} {scope : Scope} {node : Node} {machine : Machine}
      {before after : List Node} {name : Text} {line : Option Int}
      (operands : node.operands = before ++ .reference name line :: after)
      (earlier : ∀ operand ∈ before, ∃ value, operand.eval scope = .ok value) (unbound : scope.find? name = none) :
      Raises program limits owner stack scope node machine ⟨owner, .reference name line, .undefinedVariable name⟩
  | count {owner : Option Text} {stack : Nat} {scope : Scope} {counter : Text} {count : Node} {body : List Node}
      {line : Option Int} {machine : Machine} {value : Value} (evaluated : count.eval scope = .ok value)
      (noCount : ∀ rounds : Nat, value ≠ .int rounds) :
      Raises program limits owner stack scope (.loop counter count body line) machine
        ⟨owner, .loop counter count body line, .loopCountType value⟩
  | spent {owner : Option Text} {left : Nat} {scope : Scope} {counter : Text} {count : Node} {body : List Node}
      {line : Option Int} {machine middle : Machine} {rounds round : Nat}
      (evaluated : count.eval scope = .ok (.int rounds)) (below : round < rounds)
      (ran : Run.repeatFrom (program.runRound limits left scope counter body line) round 0 machine = (.ok (), middle))
      (many : limits.iterations < middle.iterations + 1) :
      Raises program limits owner (left + 2) scope (.loop counter count body line) machine
        ⟨owner, .loop counter count body line, .tooManyIterations limits.iterations⟩
  | round {owner : Option Text} {left : Nat} {scope : Scope} {counter : Text} {count form : Node}
      {body before after : List Node} {line : Option Int} {machine middle counted inner : Machine}
      {rounds round : Nat} {culprit : Culprit}
      (evaluated : count.eval scope = .ok (.int rounds)) (below : round < rounds)
      (ran : Run.repeatFrom (program.runRound limits left scope counter body line) round 0 machine = (.ok (), middle))
      (few : Run.countRound limits line middle = (.ok (), counted)) (split : body = before ++ form :: after)
      (earlier : Run.each (program.runForm limits left (scope.bind counter (.int round))) before counted =
        (.ok (), inner))
      (raises : Raises program limits owner left (scope.bind counter (.int round)) form inner culprit) :
      Raises program limits owner (left + 2) scope (.loop counter count body line) machine culprit
  | refused {owner : Option Text} {stack : Nat} {scope : Scope} {name : Text} {arguments : List Node}
      {line : Option Int} {machine : Machine} {values : List Value} {fault : Fault}
      (evaluated : arguments.mapM (Node.eval scope) = .ok values)
      (refuses : program.Refuses limits stack name values machine fault) :
      Raises program limits owner stack scope (.call name arguments line) machine
        ⟨owner, .call name arguments line, fault⟩
  | callee {owner : Option Text} {left : Nat} {scope : Scope} {name : Text} {arguments before after : List Node}
      {form : Node} {line : Option Int} {machine inner : Machine} {values : List Value} {function : Function}
      {culprit : Culprit} (evaluated : arguments.mapM (Node.eval scope) = .ok values)
      (enters : program.Enters limits name values machine function) (split : function.body = before ++ form :: after)
      (earlier : Run.each (program.runForm limits left (.ofArguments function.parameters values)) before machine.enter =
        (.ok (), inner))
      (raises : Raises program limits (some name) left (.ofArguments function.parameters values) form inner culprit) :
      Raises program limits owner (left + 3) scope (.call name arguments line) machine culprit

variable {program : Program} {limits : Limits}

/-- A part that fails stands in the form that is run or in the body of a function that is called. -/
theorem Raises.part_mem {owner : Option Text} {stack : Nat} {scope : Scope} {node : Node} {machine : Machine}
    {culprit : Culprit} (raises : program.Raises limits owner stack scope node machine culprit) :
    culprit.function = owner ∧ culprit.part ∈ node.parts ∨
      ∃ name function, culprit.function = some name ∧ program.functions.find? name = some function ∧
        culprit.part ∈ Node.partsAll function.body := by
  induction raises with
  | operand operands earlier unbound =>
    refine .inl ⟨rfl, Node.mem_parts_of_mem_operands ?_⟩
    rw [operands]
    simp
  | count evaluated noCount => exact .inl ⟨rfl, Node.mem_parts_self _⟩
  | spent evaluated below ran many => exact .inl ⟨rfl, Node.mem_parts_self _⟩
  | round evaluated below ran few split earlier raises ih =>
    rcases ih with ⟨same, inside⟩ | called
    · refine .inl ⟨same, List.mem_cons_of_mem _ (List.mem_append_right _ (Node.mem_partsAll ?_ inside))⟩
      rw [split]
      simp
    · exact .inr called
  | refused evaluated refuses => exact .inl ⟨rfl, Node.mem_parts_self _⟩
  | @callee _ _ _ name _ _ _ _ _ _ _ _ function _ evaluated enters split earlier raises ih =>
    rcases ih with ⟨same, inside⟩ | called
    · refine .inr ⟨name, function, same, enters.found, Node.mem_partsAll ?_ inside⟩
      rw [split]
      simp
    · exact .inr called

/-- A call fails with a fault of its own, on its line, or with one of the body. -/
theorem invoke_eq_fault {stack : Nat} {name : Text} {arguments : List Value} {line : Option Int} {machine : Machine}
    {fault : Located Fault}
    (failed : (program.invoke limits (program.runBody limits stack) name arguments line machine).1 =
      .error (.fault fault)) :
    (∃ own, program.Refuses limits stack name arguments machine own ∧ fault = ⟨own, line, none⟩) ∨
      ∃ function, program.Enters limits name arguments machine function ∧
        (program.runBody limits stack (.ofArguments function.parameters arguments) function.body machine.enter).1 =
          .error (.fault fault) := by
  rw [invoke_eq] at failed
  cases found : program.functions.find? name with
  | none =>
    simp only [found] at failed
    exact .inl ⟨_, .unknown found, Failure.eq_of_onLine (Except.error.inj failed)⟩
  | some function =>
    simp only [found] at failed
    split_ifs at failed with differs deep
    · exact .inl ⟨_, .arity found differs, Failure.eq_of_onLine (Except.error.inj failed)⟩
    · exact .inl ⟨_, .deep found (not_not.mp differs) deep, Failure.eq_of_onLine (Except.error.inj failed)⟩
    · have enters : program.Enters limits name arguments machine function :=
        ⟨found, not_not.mp differs, Int.not_le.mp deep⟩
      dsimp only at failed
      unfold reported at failed
      split at failed
      · next spent =>
        split_ifs at failed with outermost
        · refine .inl ⟨_, .exhausted enters (of_decide_eq_true outermost) spent, ?_⟩
          exact Failure.eq_of_onLine (Except.error.inj failed)
        · cases failed
      · exact .inr ⟨function, enters, failed⟩

theorem runForm_call (stack : Nat) (scope : Scope) (name : Text) (arguments : List Node) (line : Option Int) :
    program.runForm limits stack scope (.call name arguments line) =
      Run.withResult (arguments.mapM (Node.eval scope)) fun values =>
        program.invoke limits (program.runBody limits stack) name values line := by
  rw [runForm.eq_def]
  rcases stack with _ | _ | _ | left <;> rfl

theorem runBody_eq_fault {stack : Nat} {scope : Scope} {body : List Node} {machine : Machine} {fault : Located Fault}
    (failed : (program.runBody limits stack scope body machine).1 = .error (.fault fault)) :
    ∃ left before form after inner, stack = left + 3 ∧ body = before ++ form :: after ∧
      Run.each (program.runForm limits left scope) before machine = (.ok (), inner) ∧
      (program.runForm limits left scope form inner).1 = .error (.fault fault) := by
  rcases stack with _ | _ | _ | left
  · cases failed
  · cases failed
  · cases failed
  · obtain ⟨before, form, after, inner, split, earlier, failed⟩ := Run.each_eq_error failed
    exact ⟨left, before, form, after, inner, rfl, split, earlier, failed⟩

/-- A form that fails with a fault comes to a part that cannot be run, and the fault is on the line of this part. -/
theorem raises_of_runForm (owner : Option Text) {stack : Nat} {scope : Scope} {node : Node} {machine : Machine}
    {fault : Located Fault}
    (failed : (program.runForm limits stack scope node machine).1 = .error (.fault fault)) :
    ∃ culprit, program.Raises limits owner stack scope node machine culprit ∧
      fault = ⟨culprit.fault, culprit.part.line, none⟩ := by
  induction stack using Nat.strongRecOn generalizing owner scope node machine with
  | ind stack ih =>
    -- the first operand without a value
    have onOperand {before after : List Node} {operand : Node} (operands : node.operands = before ++ operand :: after)
        (earlier : ∀ other ∈ before, ∃ value, other.eval scope = .ok value)
        (failed : operand.eval scope = .error (.fault fault)) :
        ∃ culprit, program.Raises limits owner stack scope node machine culprit ∧
          fault = ⟨culprit.fault, culprit.part.line, none⟩ := by
      obtain ⟨name, line, rfl, unbound, rfl⟩ := Node.eval_eq_fault failed
      exact ⟨_, .operand operands earlier unbound, rfl⟩
    cases node with
    | literal value line =>
      rw [runForm.eq_def] at failed
      cases failed
    | reference name line =>
      rw [runForm.eq_def] at failed
      cases failed
    | newline line =>
      rw [runForm.eq_def] at failed
      cases failed
    | insert arguments line =>
      rw [runForm.eq_def] at failed
      obtain ⟨before, argument, after, middle, split, earlier, failed⟩ := Run.each_eq_error failed
      refine onOperand split (fun other member => ?_) ?_
      · obtain ⟨start, stop, success⟩ := Run.exists_ok_of_each earlier other member
        cases evaluated : other.eval scope with
        | ok value => exact ⟨value, rfl⟩
        | error failure =>
          rw [evaluated] at success
          cases success
      · rcases Run.withResult_eq_error failed with failed | ⟨value, _, failed⟩
        · exact failed
        · unfold Run.write at failed
          split at failed <;> cases failed
    | loop counter count body line =>
      rw [runForm.eq_def] at failed
      dsimp only at failed
      rcases Run.withResult_eq_error failed with failed | ⟨value, evaluated, failed⟩
      · exact onOperand (List.nil_append [count]).symm (fun _ member => by cases member) failed
      · split at failed
        · next rounds =>
          split at failed
          · obtain ⟨round, middle, below, ran, failed⟩ := Run.repeatFrom_eq_error failed
            rw [Nat.zero_add] at failed
            rcases Run.andThen_eq_error failed with failed | ⟨counted, few, failed⟩
            · simp only [Run.countRound] at failed
              split at failed
              · next many =>
                refine ⟨_, .spent evaluated below ran (by simpa using many), ?_⟩
                exact Failure.eq_of_onLine (Except.error.inj failed)
              · cases failed
            · obtain ⟨before, form, after, inner, split, earlier, failed⟩ := Run.each_eq_error failed
              obtain ⟨culprit, raises, onLine⟩ := ih _ (by omega) owner failed
              exact ⟨culprit, .round evaluated below ran few split earlier raises, onLine⟩
          · cases failed
        · next noCount =>
          refine ⟨_, .count evaluated fun rounds same => noCount rounds same, ?_⟩
          exact Failure.eq_of_onLine (Except.error.inj failed)
    | call name arguments line =>
      rw [runForm_call] at failed
      rcases Run.withResult_eq_error failed with failed | ⟨values, evaluated, failed⟩
      · obtain ⟨before, argument, after, split, earlier, failed⟩ := mapM_eq_error failed
        exact onOperand split earlier failed
      · rcases invoke_eq_fault failed with ⟨own, refuses, rfl⟩ | ⟨function, enters, failed⟩
        · exact ⟨_, .refused evaluated refuses, rfl⟩
        · obtain ⟨left, before, form, after, inner, rfl, split, earlier, failed⟩ := runBody_eq_fault failed
          obtain ⟨culprit, raises, onLine⟩ := ih left (by omega) (some name) failed
          exact ⟨culprit, .callee evaluated enters split earlier raises, onLine⟩

/-- A call from outside, as a form on a line. -/
def outerCall (name : Text) (arguments : List Value) (line : Option Int) : Node :=
  .call name (arguments.map (.literal · line)) line

theorem mapM_eval_literal (scope : Scope) (values : List Value) (line : Option Int) :
    (values.map (Node.literal · line)).mapM (Node.eval scope) = .ok values := by
  induction values with
  | nil => rfl
  | cons value rest ih =>
    rw [List.map_cons, List.mapM_cons, ih]
    rfl

/-- A call from outside runs as its form does with the frames of a call to spare. -/
theorem call_eq_runForm (name : Text) (arguments : List Value) (line : Option Int) :
    program.call limits name arguments line =
      program.runForm limits (limits.stack + 3) [] (outerCall name arguments line) := by
  rw [outerCall, runForm_call, mapM_eval_literal]
  rfl

/-- All parts of a call from outside are on its line. -/
theorem line_of_mem_outerCall {name : Text} {arguments : List Value} {line : Option Int} {part : Node}
    (inside : part ∈ (outerCall name arguments line).parts) : part.line = line := by
  rcases List.mem_cons.mp inside with rfl | inside
  · rfl
  · rw [Node.partsAll_eq_flatMap, List.flatMap_map] at inside
    obtain ⟨value, _, inside⟩ := List.mem_flatMap.mp inside
    rw [List.mem_singleton.mp inside]
    rfl

end Program

end Regen
