import Regen.Proofs.Forms
import Regen.Proofs.Semantics

/-! # Evaluation follows the semantics

A call succeeds exactly if it has a derivation that keeps to the limits, and then it writes what the derivation writes.
One direction goes by recursion on the stack: what ran has a derivation. The other goes by induction on the
derivation: what has one and fits runs, unless the stack is too small, and there always is a stack that is large enough.
-/

namespace Regen

open Run

theorem Node.eval_eq_ok_iff {scope : Scope} {node : Node} {value : Value} :
    node.eval scope = .ok value ↔ Environment.Denotes scope.find? node value := by
  constructor
  · intro evaluated
    cases node with
    | literal own line =>
      cases evaluated
      exact .literal _ line
    | reference name line =>
      simp only [eval] at evaluated
      split at evaluated
      · next bound =>
        cases evaluated
        exact .reference bound line
      · cases evaluated
    | _ => cases evaluated
  · intro denotes
    cases denotes with
    | literal => rfl
    | reference bound => simp only [eval, bound]

theorem Node.mapM_eval_eq_ok_iff {scope : Scope} {nodes : List Node} {values : List Value} :
    nodes.mapM (Node.eval scope) = .ok values ↔ List.Forall₂ (Environment.Denotes scope.find?) nodes values := by
  simp only [mapM_eq_ok_iff, eval_eq_ok_iff]

theorem Scope.find?_bind_eq (scope : Scope) (counter : Text) (value : Value) :
    (scope.bind counter value).find? = Environment.bind scope.find? counter value :=
  funext (scope.find?_bind counter value)

theorem Scope.find?_ofArguments_eq (parameters : List Text) (arguments : List Value) :
    (ofArguments parameters arguments).find? = Environment.ofArguments parameters arguments :=
  funext (find?_ofArguments parameters arguments)

namespace Machine

variable {limits : Limits} {machine : Machine} {first second trace : Trace}

def advance (machine : Machine) (trace : Trace) : Machine :=
  { machine with
    iterations := machine.iterations + trace.rounds
    buffer := trace.events.foldl Buffer.push machine.buffer }

theorem advance_advance (machine : Machine) (first second : Trace) :
    (machine.advance first).advance second = machine.advance (first.append second) := by
  simp only [advance, Trace.append, List.foldl_append, Nat.add_assoc]

/-- A machine inside a call has room for a trace below the limits. -/
structure Allows (limits : Limits) (machine : Machine) (trace : Trace) : Prop where
  inside : 0 < machine.depth
  rounds : ((machine.iterations + trace.rounds : Nat) : Int) ≤ limits.iterations
  depth : ((machine.depth + trace.depth : Nat) : Int) ≤ limits.callDepth

theorem allows_append_iff :
    machine.Allows limits (first.append second) ↔
      machine.Allows limits first ∧ (machine.advance first).Allows limits second := by
  constructor
  · rintro ⟨inside, rounds, depth⟩
    simp only [Trace.append] at rounds depth
    refine ⟨⟨inside, by omega, by omega⟩, ⟨inside, ?_, ?_⟩⟩
    all_goals
      simp only [advance]
      omega
  · rintro ⟨⟨inside, _, firstDepth⟩, ⟨_, rounds, depth⟩⟩
    simp only [advance] at rounds depth
    refine ⟨inside, ?_, ?_⟩
    all_goals
      simp only [Trace.append]
      omega

theorem Allows.advance_empty (allows : machine.Allows limits trace) : (machine.advance trace).Allows limits .empty := by
  obtain ⟨inside, rounds, depth⟩ := allows
  refine ⟨inside, rounds, ?_⟩
  simp only [advance, Trace.empty]
  omega

/-- Only the outermost call starts a new count. -/
theorem reset_of_inside (inside : 0 < machine.depth) : machine.reset = machine := by
  simp only [reset, if_neg (Nat.ne_of_gt inside)]

/-- Room for a call is room for its body inside of it. -/
theorem allows_inCall_iff (inside : 0 < machine.depth) :
    machine.Allows limits trace.inCall ↔ machine.enter.Allows limits trace := by
  have started : machine.enter.iterations = machine.iterations := by
    rw [enter, reset_of_inside inside]
  have deeper : machine.enter.depth = machine.depth + 1 := rfl
  constructor
  · rintro ⟨_, rounds, depth⟩
    simp only [Trace.inCall] at rounds depth
    exact ⟨by omega, by rw [started]; exact rounds, by omega⟩
  · rintro ⟨_, rounds, depth⟩
    rw [started] at rounds
    exact ⟨inside, rounds, by simp only [Trace.inCall]; omega⟩

theorem leave_advance_enter (machine : Machine) (trace : Trace) :
    (machine.enter.advance trace).leave = machine.reset.advance trace := rfl

end Machine

/-! ## What ran has a derivation -/

namespace Run

variable {limits : Limits} {run next : Run} {does : Trace → Prop}

/-- Where the run succeeds below the limits, it does a trace of some sort below the limits. -/
def Follows (limits : Limits) (run : Run) (does : Trace → Prop) : Prop :=
  ∀ machine after, machine.Allows limits .empty → run machine = (.ok (), after) →
    ∃ trace, does trace ∧ machine.Allows limits trace ∧ after = machine.advance trace

namespace Follows

theorem imp {done : Trace → Prop} (follows : Follows limits run done) (sort : ∀ trace, done trace → does trace) :
    Follows limits run does := by
  intro machine after allows ran
  obtain ⟨trace, does, rest⟩ := follows machine after allows ran
  exact ⟨trace, sort trace does, rest⟩

theorem fail (failure : Failure) : Follows limits (Run.fail failure) does := by
  intro machine after _ ran
  cases ran

theorem done : Follows limits Run.done (· = .empty) := by
  intro machine after allows ran
  cases ran
  exact ⟨.empty, rfl, allows, rfl⟩

theorem emit (event : Event) : Follows limits (Run.emit event) (· = .ofEvents [event]) := by
  intro machine after allows ran
  cases ran
  exact ⟨.ofEvents [event], rfl, ⟨allows.inside, allows.rounds, allows.depth⟩, rfl⟩

theorem write (value : Value) : Follows limits (Run.write value) (· = .ofEvents [.insert value.written]) := by
  unfold Run.write
  split
  · exact emit _
  · exact fail _

theorem countRound (line : Option Int) : Follows limits (Run.countRound limits line) (· = .round) := by
  intro machine after allows ran
  simp only [Run.countRound] at ran
  split at ran
  · cases ran
  · next few =>
    cases ran
    exact ⟨.round, rfl, ⟨allows.inside, Int.not_lt.mp few, allows.depth⟩, rfl⟩

theorem andThen {first second : Trace → Prop} (runs : Follows limits run first) (goesOn : Follows limits next second)
    (joined : ∀ now later, first now → second later → does (now.append later)) :
    Follows limits (run.andThen next) does := by
  intro machine after allows ran
  unfold Run.andThen at ran
  split at ran
  · next between ranFirst =>
    obtain ⟨now, doesNow, allowsNow, rfl⟩ := runs machine between allows ranFirst
    obtain ⟨later, doesLater, allowsLater, rfl⟩ := goesOn _ after allowsNow.advance_empty ran
    refine ⟨now.append later, joined now later doesNow doesLater, ?_, Machine.advance_advance ..⟩
    exact Machine.allows_append_iff.mpr ⟨allowsNow, allowsLater⟩
  · cases ran

theorem withResult {α : Type} {result : Except Failure α} {work : α → Run}
    (onValue : ∀ a, result = .ok a → Follows limits (work a) does) :
    Follows limits (Run.withResult result work) does := by
  cases result with
  | ok a => exact onValue a rfl
  | error failure => exact fail failure

end Follows

end Run

namespace Program

variable {program : Program} {limits : Limits}

theorem insert_follows (scope : Scope) (arguments : List Node) :
    Follows limits (Run.each (fun argument => Run.withResult (argument.eval scope) Run.write) arguments)
      fun trace => ∃ values, List.Forall₂ (Environment.Denotes scope.find?) arguments values ∧
        trace = .ofEvents (values.map (.insert ·.written)) := by
  induction arguments with
  | nil => exact Follows.done.imp fun trace isEmpty => ⟨[], .nil, isEmpty⟩
  | cons argument rest ih =>
    have one : Follows limits (Run.withResult (argument.eval scope) Run.write) fun trace =>
        ∃ value, Environment.Denotes scope.find? argument value ∧ trace = .ofEvents [.insert value.written] :=
      .withResult fun value evaluated =>
        (Follows.write value).imp fun trace isWritten => ⟨value, Node.eval_eq_ok_iff.mp evaluated, isWritten⟩
    refine .andThen one ih fun now later first second => ?_
    obtain ⟨value, denotes, rfl⟩ := first
    obtain ⟨values, allDenote, rfl⟩ := second
    exact ⟨value :: values, .cons denotes allDenote, rfl⟩

theorem forms_follows {run : Node → Run} {environment : Environment} (nodes : List Node)
    (onForm : ∀ node ∈ nodes, Follows limits (run node) (program.Derives (.form environment node))) :
    Follows limits (Run.each run nodes) (program.Derives (.forms environment nodes)) := by
  induction nodes with
  | nil => exact Follows.done.imp fun trace isEmpty => isEmpty ▸ .nil environment
  | cons node rest ih =>
    refine .andThen (onForm node (List.mem_cons_self ..)) (ih fun other member => ?_) fun _ _ => .cons
    exact onForm other (List.mem_cons_of_mem _ member)

theorem rounds_follows {run : Nat → Run} {environment : Environment} {counter : Text} {body : List Node}
    (line : Option Int)
    (onRound : ∀ round : Nat, Follows limits (run round)
      (program.Derives (.forms (environment.bind counter (.int round)) body)))
    (rounds first : Nat) :
    Follows limits (Run.repeatFrom (fun round => (Run.countRound limits line).andThen (run round)) rounds first)
      (program.Derives (.rounds environment counter body first (first + rounds))) := by
  induction rounds generalizing first with
  | zero => exact Follows.done.imp fun trace isEmpty => isEmpty ▸ .stop environment counter body first
  | succ rounds ih =>
    have once : Follows limits ((Run.countRound limits line).andThen (run first)) fun trace => ∃ now,
        program.Derives (.forms (environment.bind counter (.int first)) body) now ∧
          trace = Trace.round.append now :=
      .andThen (.countRound line) (onRound first) fun start now isRound derives => ⟨now, derives, isRound ▸ rfl⟩
    refine .andThen once (ih (first + 1)) fun now later first second => ?_
    obtain ⟨body, derives, rfl⟩ := first
    rw [Nat.add_right_comm] at second
    exact .round (by omega) derives second

theorem reported_eq_ok_iff {name : Text} {line : Option Int} {outermost : Bool} {outcome : Except Failure Unit} :
    reported limits name line outermost outcome = .ok () ↔ outcome = .ok () := by
  unfold reported
  split
  · exact ⟨fun success => (by cases success), fun success => (by cases success)⟩
  · exact Iff.rfl

/-- A call succeeds if the function is there, takes the arguments and may be called, and its body succeeds. -/
theorem invoke_eq_ok_iff {run : Scope → List Node → Run} {name : Text} {arguments : List Value} {line : Option Int}
    {machine after : Machine} :
    program.invoke limits run name arguments line machine = (.ok (), after) ↔
      ∃ function inner, program.functions.find? name = some function ∧ arguments.length = function.arity ∧
        (machine.depth : Int) < limits.callDepth ∧
        run (.ofArguments function.parameters arguments) function.body machine.enter = (.ok (), inner) ∧
        after = inner.leave := by
  rw [invoke_eq]
  constructor
  · intro success
    cases found : program.functions.find? name with
    | none =>
      rw [found] at success
      cases success
    | some function =>
      simp only [found] at success
      split_ifs at success with arity deep
      · cases success
      · cases success
      · obtain ⟨outcome, left⟩ := Prod.mk.inj success
        refine ⟨function, _, rfl, not_not.mp arity, Int.not_le.mp deep, ?_, left.symm⟩
        exact Prod.ext (reported_eq_ok_iff.mp outcome) rfl
  · rintro ⟨function, inner, found, arity, shallow, ran, rfl⟩
    simp only [found, ran]
    rw [if_neg (not_not.mpr arity), if_neg (Int.not_le.mpr shallow)]
    rfl

theorem invoke_follows {run : Scope → List Node → Run} {name : Text} {arguments : List Value} (line : Option Int)
    (onBody : ∀ function, program.functions.find? name = some function →
      Follows limits (run (.ofArguments function.parameters arguments) function.body)
        (program.Derives (.forms (.ofArguments function.parameters arguments) function.body))) :
    Follows limits (program.invoke limits run name arguments line) (program.Derives (.call name arguments)) := by
  intro machine after allows ran
  obtain ⟨function, inner, found, arity, shallow, ranBody, rfl⟩ := invoke_eq_ok_iff.mp ran
  have entered : machine.enter.Allows limits .empty := by
    refine (Machine.allows_inCall_iff allows.inside).mp ⟨allows.inside, allows.rounds, ?_⟩
    simp only [Trace.inCall, Trace.empty]
    omega
  obtain ⟨trace, derives, allowsBody, rfl⟩ := onBody function found machine.enter inner entered ranBody
  refine ⟨trace.inCall, .enter found arity derives, (Machine.allows_inCall_iff allows.inside).mpr allowsBody, ?_⟩
  rw [Machine.leave_advance_enter, Machine.reset_of_inside allows.inside]
  rfl

/-- A form that ran has a derivation. -/
theorem runForm_follows (stack : Nat) (scope : Scope) (node : Node) :
    Follows limits (program.runForm limits stack scope node) (program.Derives (.form scope.find? node)) := by
  induction stack using Nat.strongRecOn generalizing scope node with
  | ind stack ih =>
    cases node with
    | literal value line =>
      rw [runForm.eq_def]
      exact .fail _
    | reference name line =>
      rw [runForm.eq_def]
      exact .fail _
    | insert arguments line =>
      rw [runForm.eq_def]
      refine (insert_follows scope arguments).imp fun trace written => ?_
      obtain ⟨values, valued, rfl⟩ := written
      exact .insert valued line
    | newline line =>
      rw [runForm.eq_def]
      exact (Follows.emit .newline).imp fun trace isBreak => isBreak ▸ .newline _ line
    | loop counter count body line =>
      rw [runForm.eq_def]
      refine .withResult fun value evaluated => ?_
      split
      · next rounds =>
        have counted := Node.eval_eq_ok_iff.mp evaluated
        split
        · next left =>
          have onRound (round : Nat) :
              Follows limits (Run.each (program.runForm limits left (scope.bind counter (.int round))) body)
                (program.Derives (.forms (Environment.bind scope.find? counter (.int round)) body)) := by
            rw [← Scope.find?_bind_eq]
            exact forms_follows body fun form _ => ih left (by omega) _ form
          have repeated := rounds_follows line onRound rounds 0
          rw [Nat.zero_add] at repeated
          exact repeated.imp fun trace derives => .loop counted derives line
        · exact .fail _
      · exact .fail _
    | call function arguments line =>
      rw [runForm.eq_def]
      refine .withResult fun values evaluated => ?_
      have valued := Node.mapM_eval_eq_ok_iff.mp evaluated
      split
      · next left =>
        refine (invoke_follows line fun callee found => ?_).imp fun trace derives => .call valued derives line
        rw [← Scope.find?_ofArguments_eq]
        exact forms_follows callee.body fun form _ => ih left (by omega) _ form
      · refine (invoke_follows line fun callee found => ?_).imp fun trace derives => .call valued derives line
        exact .fail _

end Program

/-! ## What has a derivation runs -/

namespace Run

variable {limits : Limits} {short : Prop} {run next : Run} {trace now later : Trace}

/-- Where a trace fits below the limits, the run does it or runs out of stack, which only a `short` one does. -/
def Reaches (limits : Limits) (short : Prop) (trace : Trace) (run : Run) : Prop :=
  ∀ machine, machine.Allows limits trace →
    run machine = (.ok (), machine.advance trace) ∨ short ∧ (run machine).1 = .error .stackExhausted

namespace Reaches

theorem imp {shorter : Prop} (reaches : Reaches limits shorter trace run) (weaker : shorter → short) :
    Reaches limits short trace run := by
  intro machine allows
  exact (reaches machine allows).imp_right fun ⟨isShort, failed⟩ => ⟨weaker isShort, failed⟩

theorem exhausted (isShort : short) : Reaches limits short trace (Run.fail .stackExhausted) :=
  fun _ _ => .inr ⟨isShort, rfl⟩

theorem done : Reaches limits short .empty Run.done := fun _ _ => .inl rfl

theorem emit (event : Event) : Reaches limits short (.ofEvents [event]) (Run.emit event) := fun _ _ => .inl rfl

theorem write {value : Value} (writable : value.isWritable = true) :
    Reaches limits short (.ofEvents [.insert value.written]) (Run.write value) := by
  rw [Run.write, if_pos writable]
  exact emit _

theorem countRound (line : Option Int) : Reaches limits short .round (Run.countRound limits line) := by
  intro machine allows
  have few : ¬ limits.iterations < ((machine.iterations + 1 : Nat) : Int) := Int.not_lt.mpr allows.rounds
  simp only [Run.countRound]
  rw [if_neg few]
  exact .inl rfl

theorem andThen (runs : Reaches limits short now run) (goesOn : Reaches limits short later next) :
    Reaches limits short (now.append later) (run.andThen next) := by
  intro machine allows
  obtain ⟨allowsNow, allowsLater⟩ := Machine.allows_append_iff.mp allows
  unfold Run.andThen
  rcases runs machine allowsNow with ran | ⟨isShort, failed⟩
  · rw [ran, ← Machine.advance_advance]
    exact goesOn _ allowsLater
  · right
    refine ⟨isShort, ?_⟩
    generalize run machine = result at failed
    obtain ⟨outcome, after⟩ := result
    obtain rfl : outcome = .error .stackExhausted := failed
    rfl

theorem invoke {program : Program} {inner : Scope → List Node → Run} {name : Text} {arguments : List Value}
    {function : Function} (found : program.functions.find? name = some function)
    (arity : arguments.length = function.arity)
    (onBody : Reaches limits short trace (inner (.ofArguments function.parameters arguments) function.body))
    (line : Option Int) :
    Reaches limits short trace.inCall (program.invoke limits inner name arguments line) := by
  intro machine allows
  have entered := (Machine.allows_inCall_iff allows.inside).mp allows
  have shallow : (machine.depth : Int) < limits.callDepth := by
    have depth := allows.depth
    simp only [Trace.inCall] at depth
    omega
  rcases onBody machine.enter entered with ran | ⟨isShort, failed⟩
  · left
    refine Program.invoke_eq_ok_iff.mpr ⟨function, _, found, arity, shallow, ran, ?_⟩
    rw [Machine.leave_advance_enter, Machine.reset_of_inside allows.inside]
    rfl
  · right
    refine ⟨isShort, ?_⟩
    rw [Program.invoke_eq]
    simp only [found, arity, ne_eq, not_true_eq_false, if_false, if_neg (Int.not_le.mpr shallow), failed]
    rw [decide_eq_false (Nat.ne_of_gt allows.inside)]
    rfl

end Reaches

end Run

namespace Program

variable {program : Program}

theorem insert_reaches {scope : Scope} (writable : scope.Writable) {arguments : List Node} {values : List Value}
    (areArguments : ∀ argument ∈ arguments, argument.IsArgument)
    (valued : List.Forall₂ (Environment.Denotes scope.find?) arguments values) (limits : Limits) (short : Prop) :
    Reaches limits short (.ofEvents (values.map (.insert ·.written)))
      (Run.each (fun argument => Run.withResult (argument.eval scope) Run.write) arguments) := by
  induction valued with
  | nil => exact .done
  | @cons argument value arguments values denotes _ ih =>
    have evaluated := Node.eval_eq_ok_iff.mpr denotes
    have ends := (areArguments argument (List.mem_cons_self ..)).eval_ends writable limits
    rw [evaluated] at ends
    have one : Reaches limits short (.ofEvents [.insert value.written])
        (Run.withResult (argument.eval scope) Run.write) := by
      rw [evaluated]
      exact .write ends
    exact one.andThen (ih fun other member => areArguments other (List.mem_cons_of_mem _ member))

/-- What a derivation promises of the run of its task: whatever the limits, it does the trace if that fits and the stack
is large enough, and how large the stack has to be does not depend on the limits. -/
def Completes (program : Program) (trace : Trace) : Task → Prop
  | .form environment node => ∀ scope : Scope, scope.find? = environment → scope.Writable → node.Runnable →
      ∃ frames, ∀ limits stack, Reaches limits (stack < frames) trace (program.runForm limits stack scope node)
  | .forms environment nodes =>
      ∀ scope : Scope, scope.find? = environment → scope.Writable → (∀ node ∈ nodes, node.Runnable) →
        ∃ frames, ∀ limits stack,
          Reaches limits (stack < frames) trace (Run.each (program.runForm limits stack scope) nodes)
  | .rounds environment counter body first stop =>
      ∀ scope : Scope, scope.find? = environment → scope.Writable → (∀ node ∈ body, node.Runnable) →
        (Value.int stop).isWritable = true →
        ∃ frames, ∀ limits stack line, Reaches limits (stack < frames) trace
          (Run.repeatFrom (fun round => (Run.countRound limits line).andThen
            (Run.each (program.runForm limits stack (scope.bind counter (.int round))) body)) (stop - first) first)
  | .call name arguments => (∀ value ∈ arguments, value.isWritable = true) →
      ∃ frames, ∀ limits stack line, Reaches limits (stack < frames) trace
        (program.invoke limits (fun scope body => Run.each (program.runForm limits stack scope) body) name arguments
          line)

theorem Derives.completes (runnable : program.Runnable) {task : Task} {trace : Trace}
    (derives : program.Derives task trace) : program.Completes trace task := by
  induction derives with
  | insert valued line =>
    rintro scope rfl writable isRunnable
    refine ⟨0, fun limits stack => ?_⟩
    rw [runForm.eq_def]
    exact insert_reaches writable (Node.runnable_insert_iff.mp isRunnable) valued limits _
  | newline environment line =>
    rintro scope rfl writable isRunnable
    refine ⟨0, fun limits stack => ?_⟩
    rw [runForm.eq_def]
    exact .emit .newline
  | @loop environment count body trace stop counter counted repeated line ih =>
    rintro scope rfl writable isRunnable
    obtain ⟨isArgument, bodyRunnable⟩ := Node.runnable_loop_iff.mp isRunnable
    have evaluated := Node.eval_eq_ok_iff.mpr counted
    have shown := isArgument.eval_ends writable {}
    rw [evaluated] at shown
    obtain ⟨frames, reaches⟩ := ih scope rfl writable bodyRunnable shown
    refine ⟨frames + 2, fun limits stack => ?_⟩
    rw [runForm.eq_def]
    dsimp only
    rw [evaluated]
    rcases stack with _ | _ | left
    · exact .exhausted (by omega)
    · exact .exhausted (by omega)
    · exact (reaches limits left line).imp (by omega)
  | @call environment arguments values function trace valued called line ih =>
    rintro scope rfl writable isRunnable
    have areArguments := Node.runnable_call_iff.mp isRunnable
    have evaluated := Node.mapM_eval_eq_ok_iff.mpr valued
    have shown := Ends.mapM arguments fun argument member => (areArguments argument member).eval_ends writable {}
    rw [evaluated] at shown
    obtain ⟨frames, reaches⟩ := ih shown
    refine ⟨frames + 3, fun limits stack => ?_⟩
    rw [runForm.eq_def]
    dsimp only
    rw [evaluated]
    cases called with
    | @enter _ _ trace callee found arity ran =>
      have cut {short : Prop} (isShort : short) : Reaches limits short trace.inCall
          (program.invoke limits (fun _ _ => Run.fail .stackExhausted) function values line) := by
        refine .invoke found arity ?_ line
        exact .exhausted isShort
      rcases stack with _ | _ | _ | left
      · exact cut (by omega)
      · exact cut (by omega)
      · exact cut (by omega)
      · exact (reaches limits left line).imp (by omega)
  | nil environment =>
    rintro scope rfl writable areRunnable
    exact ⟨0, fun limits stack => .done⟩
  | cons _ _ ihFirst ihSecond =>
    rintro scope rfl writable areRunnable
    obtain ⟨frames, first⟩ := ihFirst scope rfl writable (areRunnable _ (List.mem_cons_self ..))
    obtain ⟨more, second⟩ := ihSecond scope rfl writable fun node member =>
      areRunnable node (List.mem_cons_of_mem _ member)
    refine ⟨max frames more, fun limits stack => ?_⟩
    exact ((first limits stack).imp (by omega)).andThen ((second limits stack).imp (by omega))
  | stop environment counter body count =>
    rintro scope rfl writable areRunnable shown
    refine ⟨0, fun limits stack line => ?_⟩
    rw [Nat.sub_self]
    exact .done
  | @round environment counter body now later first stop before _ _ ihOnce ihAgain =>
    rintro scope rfl writable areRunnable shown
    have counted := Value.isWritable_of_lt shown before
    obtain ⟨frames, once⟩ := ihOnce _ (scope.find?_bind_eq counter _) (writable.bind counter counted) areRunnable
    obtain ⟨more, again⟩ := ihAgain scope rfl writable areRunnable shown
    refine ⟨max frames more, fun limits stack line => ?_⟩
    obtain ⟨rounds, left⟩ : ∃ rounds, stop - first = rounds + 1 := ⟨stop - first - 1, by omega⟩
    have fewer : stop - (first + 1) = rounds := by omega
    have later := again limits stack line
    rw [fewer] at later
    rw [left]
    refine Reaches.andThen (.andThen (.countRound line) ((once limits stack).imp ?_)) (later.imp ?_)
    · exact fun short => Nat.lt_of_lt_of_le short (Nat.le_max_left ..)
    · exact fun short => Nat.lt_of_lt_of_le short (Nat.le_max_right ..)
  | @enter name arguments trace function found arity ran ih =>
    intro writable
    obtain ⟨frames, onBody⟩ := ih _ (Scope.find?_ofArguments_eq ..) (Scope.writable_ofArguments _ writable)
      (runnable name function found)
    exact ⟨frames, fun limits stack line => .invoke found arity (onBody limits stack) line⟩

/-! ## Calls from outside -/

variable {limits : Limits} {name : Text} {arguments : List Value} {line : Option Int} {machine after : Machine}

/-- All functions have bodies that come from texts. -/
def IsRead (program : Program) : Prop :=
  ∀ name function, program.functions.find? name = some function →
    ∃ text line, Node.readBody text line = .ok function.body

theorem IsRead.runnable (isRead : program.IsRead) : program.Runnable := by
  intro name function found
  obtain ⟨text, line, read⟩ := isRead name function found
  have ends := Node.readBody_ends text line
  rwa [read] at ends

/-- A call has a derivation within the limits, and afterwards the machine has counted its rounds and written its events
in order. -/
def Yields (program : Program) (limits : Limits) (name : Text) (arguments : List Value) (machine after : Machine) :
    Prop :=
  ∃! trace, program.Derives (.call name arguments) trace ∧
    trace.rounds ≤ limits.iterations ∧ trace.depth ≤ limits.callDepth ∧
    after = { machine with iterations := trace.rounds, buffer := trace.events.foldl Buffer.push machine.buffer }

theorem yields_iff :
    program.Yields limits name arguments machine after ↔ ∃ trace, program.Derives (.call name arguments) trace ∧
      trace.rounds ≤ limits.iterations ∧ trace.depth ≤ limits.callDepth ∧
      after = { machine with iterations := trace.rounds, buffer := trace.events.foldl Buffer.push machine.buffer } := by
  constructor
  · exact ExistsUnique.exists
  · rintro ⟨trace, derives, rest⟩
    exact ⟨trace, ⟨derives, rest⟩, fun other again => again.1.unique derives⟩

/-- What the outermost call leaves behind starts from no rounds. -/
theorem reset_advance (outside : machine.depth = 0) (trace : Trace) :
    machine.reset.advance trace =
      { machine with iterations := trace.rounds, buffer := trace.events.foldl Buffer.push machine.buffer } := by
  simp only [Machine.advance, Machine.reset, if_pos outside, Nat.zero_add]

/-- Below the outermost call, exactly what fits into the limits fits. -/
theorem allows_enter_iff (outside : machine.depth = 0) {trace : Trace} :
    machine.enter.Allows limits trace ↔ trace.rounds ≤ limits.iterations ∧ trace.inCall.depth ≤ limits.callDepth := by
  have fresh : machine.enter.iterations = 0 := by simp only [Machine.enter, Machine.reset, if_pos outside]
  have first : machine.enter.depth = 1 := by simp only [Machine.enter, outside]
  constructor
  · rintro ⟨_, rounds, depth⟩
    rw [fresh, Nat.zero_add] at rounds
    rw [first, Nat.add_comm] at depth
    exact ⟨rounds, depth⟩
  · rintro ⟨rounds, depth⟩
    refine ⟨by omega, ?_, ?_⟩
    · rwa [fresh, Nat.zero_add]
    · rwa [first, Nat.add_comm]

theorem yields_of_call (nonnegative : 0 ≤ limits.iterations) (outside : machine.depth = 0)
    (success : program.call limits name arguments line machine = (.ok (), after)) :
    program.Yields limits name arguments machine after := by
  obtain ⟨function, inner, found, arity, shallow, ran, rfl⟩ := invoke_eq_ok_iff.mp success
  have entered : machine.enter.Allows limits .empty := by
    refine (allows_enter_iff outside).mpr ⟨nonnegative, ?_⟩
    simp only [Trace.inCall, Trace.empty]
    omega
  have follows : Follows limits (program.runForms limits (.ofArguments function.parameters arguments) function.body)
      (program.Derives (.forms (.ofArguments function.parameters arguments) function.body)) := by
    rw [← Scope.find?_ofArguments_eq]
    exact forms_follows function.body fun form _ => runForm_follows limits.stack _ form
  obtain ⟨trace, derives, allows, rfl⟩ := follows machine.enter inner entered ran
  obtain ⟨rounds, depth⟩ := (allows_enter_iff outside).mp allows
  refine yields_iff.mpr ⟨trace.inCall, .enter found arity derives, rounds, depth, ?_⟩
  rw [Machine.leave_advance_enter, reset_advance outside]
  rfl

/-- What has a derivation within the limits succeeds, unless the stack runs out, which a large one does not. -/
theorem call_of_yields (runnable : program.Runnable) (writable : ∀ value ∈ arguments, value.isWritable = true)
    (outside : machine.depth = 0) (yields : program.Yields limits name arguments machine after) :
    ∃ frames, ∀ stack line,
      program.call { limits with stack } name arguments line machine = (.ok (), after) ∨
      stack < frames ∧ (program.call { limits with stack } name arguments line machine).1 =
        .error (.onLine (.callStackExhausted name limits.callDepth) line) := by
  obtain ⟨trace, derives, rounds, depth, rfl⟩ := yields_iff.mp yields
  cases derives with
  | @enter _ _ trace function found arity ran =>
    obtain ⟨frames, reaches⟩ := ran.completes runnable _ (Scope.find?_ofArguments_eq ..)
      (Scope.writable_ofArguments _ writable) (runnable name function found)
    refine ⟨frames, fun stack line => ?_⟩
    have allows : machine.enter.Allows { limits with stack } trace := (allows_enter_iff outside).mpr ⟨rounds, depth⟩
    have shallow : (machine.depth : Int) < limits.callDepth := by
      rw [outside]
      simp only [Trace.inCall] at depth
      omega
    rcases reaches { limits with stack } stack machine.enter allows with success | ⟨short, failed⟩
    · left
      refine invoke_eq_ok_iff.mpr ⟨function, _, found, arity, shallow, success, ?_⟩
      rw [Machine.leave_advance_enter, reset_advance outside]
      rfl
    · right
      refine ⟨short, ?_⟩
      rw [call, invoke_eq]
      simp only [found, arity, ne_eq, not_true_eq_false, if_false, if_neg (Int.not_le.mpr shallow), runForms, failed]
      rw [decide_eq_true outside]
      rfl

/-- A call of functions that were read succeeds exactly if it has a derivation within the limits and the stack does not
run out, and it leaves what the derivation writes; and with a stack that is large enough it does succeed. -/
theorem call_eq_ok_iff_yields (isRead : program.IsRead) (writable : ∀ value ∈ arguments, value.isWritable = true)
    (nonnegative : 0 ≤ limits.iterations) (outside : machine.depth = 0) :
    (program.call limits name arguments line machine = (.ok (), after) ↔
      program.Yields limits name arguments machine after ∧
        (program.call limits name arguments line machine).1 ≠
          .error (.onLine (.callStackExhausted name limits.callDepth) line)) ∧
    (program.Yields limits name arguments machine after →
      ∃ frames, ∀ stack, frames ≤ stack →
        program.call { limits with stack } name arguments line machine = (.ok (), after)) := by
  refine ⟨⟨fun success => ⟨yields_of_call nonnegative outside success, ?_⟩, ?_⟩, ?_⟩
  · rw [success]
    intro failed
    cases failed
  · rintro ⟨yields, intact⟩
    obtain ⟨frames, ends⟩ := call_of_yields isRead.runnable writable outside yields
    rcases ends limits.stack line with success | ⟨_, failed⟩
    · exact success
    · exact absurd failed intact
  · intro yields
    obtain ⟨frames, ends⟩ := call_of_yields isRead.runnable writable outside yields
    refine ⟨frames, fun stack large => ?_⟩
    rcases ends stack line with success | ⟨short, _⟩
    · exact success
    · exact absurd short (Nat.not_lt.mpr large)

/-- A function of one parameter with the body that a text has. -/
def unary (source : Text) : Function := ⟨["n".toList], (Node.readBody source 1).toOption.getD [], none⟩

/-- Two functions that call each other, each with what is below its own argument. -/
def descending : Program :=
  (Program.empty.addFunction "f".toList (unary "(dotimes (i n) (funcall g i))".toList)).addFunction "g".toList
    (unary "(dotimes (i n) (funcall f i)) (insert n) (newline-and-indent)".toList)

theorem readBody_unary {source : Text} (isRead : (Node.readBody source 1).isOk = true) :
    Node.readBody source 1 = .ok (unary source).body := by
  unfold unary
  cases read : Node.readBody source 1 with
  | ok body => rfl
  | error failure =>
    rw [read] at isRead
    cases isRead

theorem descending_isRead : descending.IsRead := by
  intro name function found
  have member : function ∈ descending.functions.map Prod.snd := by
    obtain ⟨before, after, split, _⟩ := List.lookup_eq_some_iff.mp found
    rw [split]
    simp
  have functions : descending.functions.map Prod.snd =
      [unary "(dotimes (i n) (funcall g i))".toList,
        unary "(dotimes (i n) (funcall f i)) (insert n) (newline-and-indent)".toList] := rfl
  rw [functions, List.mem_cons, List.mem_singleton] at member
  rcases member with rfl | rfl
  · exact ⟨_, 1, readBody_unary (by decide +kernel)⟩
  · exact ⟨_, 1, readBody_unary (by decide +kernel)⟩

theorem call_descending :
    ∃ after, descending.call {} "f".toList [.int 3] none (.start (.start [] ['\n'])) = (.ok (), after) ∧
      descending.Yields {} "f".toList [.int 3] (.start (.start [] ['\n'])) after := by
  have succeeds : (descending.call {} "f".toList [.int 3] none (.start (.start [] ['\n']))).1.isOk = true := by
    decide +kernel
  obtain ⟨after, success⟩ : ∃ after,
      descending.call {} "f".toList [.int 3] none (.start (.start [] ['\n'])) = (.ok (), after) := by
    generalize descending.call {} "f".toList [.int 3] none (.start (.start [] ['\n'])) = result at succeeds
    obtain ⟨outcome, after⟩ := result
    cases outcome with
    | ok _ => exact ⟨after, rfl⟩
    | error failure => cases succeeds
  have writable : ∀ value ∈ [Value.int 3], value.isWritable = true := by decide
  exact ⟨after, success, ((call_eq_ok_iff_yields descending_isRead writable (by decide) rfl).1.mp success).1⟩

end Program

end Regen
