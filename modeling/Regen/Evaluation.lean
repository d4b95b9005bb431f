import Regen.Buffer
import Regen.Fault
import Regen.Program
import Regen.Scope

/-!
# Evaluation

A call runs the body of a function and writes into a buffer. What a run leaves behind is kept when it fails:
the buffer holds everything that was written before. Loops and calls are limited in number and depth, and
each level of them takes frames from a stack of fixed size, so every run ends.
-/

namespace Regen

/-- How far evaluation may go. -/
structure Limits where
  /-- Rounds of loops below one outermost call. -/
  iterations : Int := 100000
  /-- Calls inside each other. -/
  callDepth : Int := 64
  /-- Frames of the stack. -/
  stack : Nat := 1000
deriving DecidableEq, Repr

/-- Whether the limits that messages name have few enough digits to be written. -/
def Limits.isWritable (limits : Limits) : Bool :=
  (Value.int limits.iterations).isWritable && (Value.int limits.callDepth).isWritable

/-- The state of a run. -/
structure Machine where
  /-- The number of calls that are under way. -/
  depth : Nat
  /-- The rounds of loops since the last outermost call began. -/
  iterations : Nat
  buffer : Buffer
deriving DecidableEq, Repr

/-- A machine before its first call. -/
def Machine.start (buffer : Buffer) : Machine := ⟨0, 0, buffer⟩

/-- Work that changes the state and may fail. -/
abbrev Run := Machine → Except Failure Unit × Machine

namespace Run

/-- Nothing to do. -/
def done : Run := fun machine => (.ok (), machine)

/-- Fails and keeps the state. -/
def fail (failure : Failure) : Run := fun machine => (.error failure, machine)

/-- One run after another; a failure ends both. -/
def andThen (first second : Run) : Run := fun machine =>
  match first machine with
  | (.ok (), after) => second after
  | (.error failure, after) => (.error failure, after)

/-- A run for each member of a list, in order. -/
def each {α : Type} (run : α → Run) : List α → Run
  | [] => done
  | a :: rest => (run a).andThen (each run rest)

/-- Goes on with a result, or fails as it did. -/
def withResult {α : Type} (result : Except Failure α) (next : α → Run) : Run :=
  match result with
  | .ok a => next a
  | .error failure => fail failure

/-- Writes into the buffer. -/
def emit (event : Event) : Run := fun machine =>
  (.ok (), { machine with buffer := machine.buffer.push event })

/-- Writes a value into the buffer, unless it has too many digits. -/
def write (value : Value) : Run :=
  if value.isWritable then emit (.insert value.written) else fail (.oversizedInteger none)

/-- Counts a round of a loop. -/
def countRound (limits : Limits) (line : Option Int) : Run := fun machine =>
  let machine := { machine with iterations := machine.iterations + 1 }
  if limits.iterations < machine.iterations then
    fail (.onLine (.tooManyIterations limits.iterations) line) machine
  else (.ok (), machine)

/-- Runs a body for `rounds` counts from `first` on. -/
def repeatFrom (body : Nat → Run) : (rounds first : Nat) → Run
  | 0, _ => done
  | rounds + 1, first => (body first).andThen (repeatFrom body rounds (first + 1))

end Run

/-- The value of an expression. -/
def Node.eval (scope : Scope) : Node → Except Failure Value
  | .literal value _ => .ok value
  | .reference name line =>
    match scope.find? name with
    | some value => .ok value
    | none => .error (.onLine (.undefinedVariable name) line)
  | node => .error (.misplacedExpression node)

namespace Program

/-- Calls a function whose body is run by `run`. The outermost call starts a new count of rounds, and reports
a stack that ran out below it. -/
def invoke (program : Program) (limits : Limits) (run : Scope → List Node → Run) (name : Text)
    (arguments : List Value) (line : Option Int) : Run := fun machine =>
  match program.functions.find? name with
  | none => Run.fail (.onLine (.undefinedFunction name) line) machine
  | some function =>
    if arguments.length ≠ function.arity then
      Run.fail (.onLine (.wrongArity name function.arity arguments.length) line) machine
    else
      let outermost := machine.depth = 0
      let machine := if outermost then { machine with iterations := 0 } else machine
      if limits.callDepth ≤ machine.depth then
        Run.fail (.onLine (.callsTooDeep limits.callDepth name) line) machine
      else
        let scope := Scope.ofArguments function.parameters arguments
        match run scope function.body { machine with depth := machine.depth + 1 } with
        | (outcome, after) =>
          let after := { after with depth := after.depth - 1 }
          match outcome with
          | .error .stackExhausted =>
            if outermost then Run.fail (.onLine (.callStackExhausted name limits.callDepth) line) after
            else Run.fail .stackExhausted after
          | outcome => (outcome, after)

/-- Runs one form with the stack frames that are left: a round of a loop takes two, a call three. -/
def runForm (program : Program) (limits : Limits) (stack : Nat) (scope : Scope) : Node → Run
  | .insert arguments _ =>
    Run.each (fun argument => Run.withResult (argument.eval scope) Run.write) arguments
  | .newline _ => Run.emit .newline
  | .loop counter count body line =>
    Run.withResult (count.eval scope) fun value =>
      match value with
      | .int (.ofNat rounds) =>
        match stack with
        | left + 2 =>
          Run.repeatFrom (fun round => (Run.countRound limits line).andThen
            (Run.each (program.runForm limits left (scope.bind counter (.int round))) body)) rounds 0
        | _ => Run.fail .stackExhausted
      | value => Run.fail (.onLine (.loopCountType value) line)
  | .call name arguments line =>
    Run.withResult (arguments.mapM (Node.eval scope)) fun values =>
      match stack with
      | left + 3 =>
        program.invoke limits (fun inner body => Run.each (program.runForm limits left inner) body)
          name values line
      | _ => program.invoke limits (fun _ _ => Run.fail .stackExhausted) name values line
  | node => Run.fail (.misplacedForm node)
termination_by structural stack

/-- Runs forms in order. -/
def runForms (program : Program) (limits : Limits) (scope : Scope) (forms : List Node) : Run :=
  Run.each (program.runForm limits limits.stack scope) forms

/-- Calls a function from outside. -/
def call (program : Program) (limits : Limits) (name : Text) (arguments : List Value)
    (line : Option Int) : Run :=
  program.invoke limits (program.runForms limits) name arguments line

end Program

end Regen
