import Mathlib.Data.List.Forall2
import Regen.Evaluation

/-! # What a call does

A semantics without limits: what a call writes, how many rounds its loops take and how deep its calls go. It knows no
machine, no stack and no failures. What has no meaning (an unknown name, a count that is no natural number, calls
without end) has no derivation. Where there is one, it is the only one.
-/

namespace Regen

/-- The variables that a form can see, with their values. -/
abbrev Environment := Text → Option Value

namespace Environment

/-- A frame with one variable over an environment. -/
def bind (environment : Environment) (name : Text) (value : Value) : Environment := fun other =>
  if other = name then some value else environment other

/-- A single frame with the parameters of a function. -/
def ofArguments (parameters : List Text) (arguments : List Value) : Environment := fun name =>
  (parameters.zip arguments).reverse.lookup name

/-- An expression has a value: a literal its own, a variable the one it is bound to. -/
inductive Denotes (environment : Environment) : Node → Value → Prop
  | literal (value : Value) (line : Option Int) : Denotes environment (.literal value line) value
  | reference {name : Text} {value : Value} (bound : environment name = some value) (line : Option Int) :
      Denotes environment (.reference name line) value

theorem Denotes.unique {environment : Environment} {node : Node} {value other : Value}
    (first : environment.Denotes node value) (second : environment.Denotes node other) : value = other := by
  cases first with
  | literal => cases second; rfl
  | reference bound =>
    cases second with
    | reference bound' => exact Option.some.inj (bound.symm.trans bound')

theorem values_unique {environment : Environment} {nodes : List Node} {values others : List Value}
    (first : List.Forall₂ environment.Denotes nodes values) (second : List.Forall₂ environment.Denotes nodes others) :
    values = others := by
  have unique : Relator.RightUnique environment.Denotes := fun _ _ _ => Denotes.unique
  exact unique.forall₂ first second

end Environment

/-- What is done along the way: the steps of writing in order, the number of rounds of loops, and the number of calls
inside each other at most. -/
structure Trace where
  events : List Event
  rounds : Nat
  depth : Nat
deriving DecidableEq, Repr

namespace Trace

def empty : Trace := ⟨[], 0, 0⟩

def ofEvents (events : List Event) : Trace := ⟨events, 0, 0⟩

/-- The start of a round. -/
def round : Trace := ⟨[], 1, 0⟩

def append (first second : Trace) : Trace :=
  ⟨first.events ++ second.events, first.rounds + second.rounds, max first.depth second.depth⟩

/-- The same inside a call. -/
def inCall (trace : Trace) : Trace := { trace with depth := trace.depth + 1 }

end Trace

/-- Something that can be done. -/
inductive Task where
  | form (environment : Environment) (node : Node)
  /-- Forms in order. -/
  | forms (environment : Environment) (nodes : List Node)
  /-- The rounds of a loop from the count `first` on and below `stop`. -/
  | rounds (environment : Environment) (counter : Text) (body : List Node) (first stop : Nat)
  | call (function : Text) (arguments : List Value)

/-- How a task is done, whatever it takes. -/
inductive Program.Derives (program : Program) : Task → Trace → Prop
  | insert {environment arguments values} (valued : List.Forall₂ environment.Denotes arguments values) (line) :
      Derives program (.form environment (.insert arguments line)) (.ofEvents (values.map (.insert ·.written)))
  | newline (environment line) : Derives program (.form environment (.newline line)) (.ofEvents [.newline])
  | loop {environment count body trace} {stop : Nat} {counter} (counted : environment.Denotes count (.int stop))
      (repeated : Derives program (.rounds environment counter body 0 stop) trace) (line) :
      Derives program (.form environment (.loop counter count body line)) trace
  | call {environment arguments values function trace} (valued : List.Forall₂ environment.Denotes arguments values)
      (called : Derives program (.call function values) trace) (line) :
      Derives program (.form environment (.call function arguments line)) trace
  | nil (environment) : Derives program (.forms environment []) .empty
  | cons {environment node rest now later} (first : Derives program (.form environment node) now)
      (second : Derives program (.forms environment rest) later) :
      Derives program (.forms environment (node :: rest)) (now.append later)
  | stop (environment counter body count) : Derives program (.rounds environment counter body count count) .empty
  | round {environment counter body now later} {first stop : Nat} (before : first < stop)
      (once : Derives program (.forms (environment.bind counter (.int first)) body) now)
      (again : Derives program (.rounds environment counter body (first + 1) stop) later) :
      Derives program (.rounds environment counter body first stop) ((Trace.round.append now).append later)
  | enter {name arguments trace} {function : Function} (found : program.functions.find? name = some function)
      (arity : arguments.length = function.arity)
      (ran : Derives program (.forms (.ofArguments function.parameters arguments) function.body) trace) :
      Derives program (.call name arguments) trace.inCall

namespace Program

/-- There is only one way to do a task. -/
theorem Derives.unique {program : Program} {task : Task} {trace other : Trace} (derives : program.Derives task trace)
    (again : program.Derives task other) : trace = other := by
  induction derives generalizing other with
  | insert valued line =>
    cases again with
    | insert valued' => rw [Environment.values_unique valued valued']
  | newline environment line =>
    cases again
    rfl
  | loop counted _ line ih =>
    cases again with
    | loop counted' repeated' =>
      have same := counted.unique counted'
      simp only [Value.int.injEq, Int.natCast_inj] at same
      exact ih (same ▸ repeated')
  | call valued _ line ih =>
    cases again with
    | call valued' called' => exact ih (Environment.values_unique valued valued' ▸ called')
  | nil environment =>
    cases again
    rfl
  | cons _ _ ihFirst ihSecond =>
    cases again with
    | cons first' second' => rw [ihFirst first', ihSecond second']
  | stop environment counter body count =>
    cases again with
    | stop => rfl
    | round before => exact absurd before (Nat.lt_irrefl count)
  | round before _ _ ihOnce ihAgain =>
    cases again with
    | stop => exact absurd before (Nat.lt_irrefl _)
    | round _ once' again' => rw [ihOnce once', ihAgain again']
  | enter found _ _ ih =>
    cases again with
    | enter found' arity' ran' =>
      obtain rfl := Option.some.inj (found.symm.trans found')
      rw [ih ran']

end Program

end Regen
