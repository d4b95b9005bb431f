import Regen.Proofs.Failures
import Regen.Proofs.Locality

/-! # Calls leave nothing behind

A run adds steps of writing to its buffer and changes no others, and the depth of calls is afterwards what it was
before, whether the run succeeds or fails. The count of rounds is all that a call from outside leaves behind, and the
next one starts it anew before any loop runs. So calls that share a machine end and write as each of them does on a
machine of its own, and so do the output directives of a document.
-/

namespace Regen

namespace Buffer

def extend (buffer : Buffer) (written : List Event) : Buffer := written.foldl push buffer

@[simp] theorem extend_nil (buffer : Buffer) : buffer.extend [] = buffer := rfl

@[simp] theorem extend_append (buffer : Buffer) (first second : List Event) :
    buffer.extend (first ++ second) = (buffer.extend first).extend second := List.foldl_append

@[simp] theorem indent_extend (buffer : Buffer) (written : List Event) :
    (buffer.extend written).indent = buffer.indent := by
  induction written generalizing buffer with
  | nil => rfl
  | cons event rest ih => exact ih (buffer.push event)

theorem layout_push (buffer : Buffer) (event : Event) :
    (buffer.push event).layout = buffer.layout ++ buffer.written event := by
  simp only [layout, push, List.reverse_cons, List.flatMap_append, List.flatMap_singleton, ← List.append_assoc]
  rfl

/-- Further steps leave the text that was written before as it is. -/
theorem layout_prefix_extend (buffer : Buffer) (written : List Event) :
    buffer.layout <+: (buffer.extend written).layout := by
  induction written generalizing buffer with
  | nil => exact List.prefix_refl _
  | cons event rest ih =>
    have first : buffer.layout <+: (buffer.push event).layout := by
      rw [layout_push]
      exact List.prefix_append ..
    exact first.trans (ih (buffer.push event))

end Buffer

/-! ## What a run leaves -/

namespace Run

/-- Whatever its buffer holds, the run ends in the same way, counts the same rounds and adds the same steps of writing.
The depth of calls is the same before and after. -/
def OnlyAppends (run : Run) : Prop :=
  ∀ depth iterations, ∃ outcome rounds written, ∀ buffer,
    run ⟨depth, iterations, buffer⟩ = (outcome, ⟨depth, rounds, buffer.extend written⟩)

namespace OnlyAppends

variable {run next : Run}

theorem done : OnlyAppends Run.done := fun _ iterations => ⟨.ok (), iterations, [], fun _ => rfl⟩

theorem fail (failure : Failure) : OnlyAppends (Run.fail failure) :=
  fun _ iterations => ⟨.error failure, iterations, [], fun _ => rfl⟩

theorem emit (event : Event) : OnlyAppends (Run.emit event) :=
  fun _ iterations => ⟨.ok (), iterations, [event], fun _ => rfl⟩

theorem write (value : Value) : OnlyAppends (Run.write value) := by
  unfold Run.write
  split
  · exact emit _
  · exact fail _

theorem countRound (limits : Limits) (line : Option Int) : OnlyAppends (Run.countRound limits line) := by
  intro depth iterations
  by_cases spent : limits.iterations < (iterations + 1 : Nat)
  · refine ⟨.error (.onLine (.tooManyIterations limits.iterations) line), iterations + 1, [], fun buffer => ?_⟩
    simp only [Run.countRound, if_pos spent]
    rfl
  · refine ⟨.ok (), iterations + 1, [], fun buffer => ?_⟩
    simp only [Run.countRound, if_neg spent]
    rfl

theorem andThen (first : OnlyAppends run) (second : OnlyAppends next) : OnlyAppends (run.andThen next) := by
  intro depth iterations
  obtain ⟨outcome, rounds, written, ran⟩ := first depth iterations
  cases outcome with
  | error failure =>
    refine ⟨.error failure, rounds, written, fun buffer => ?_⟩
    simp only [Run.andThen, ran]
  | ok _ =>
    obtain ⟨outcome', rounds', written', goesOn⟩ := second depth rounds
    refine ⟨outcome', rounds', written ++ written', fun buffer => ?_⟩
    simp only [Run.andThen, ran, goesOn, Buffer.extend_append]

theorem each {α : Type} {work : α → Run} (items : List α) (all : ∀ a ∈ items, OnlyAppends (work a)) :
    OnlyAppends (Run.each work items) := by
  induction items with
  | nil => exact done
  | cons a rest ih =>
    apply andThen (all a (List.mem_cons_self ..))
    exact ih fun b member => all b (List.mem_cons_of_mem _ member)

theorem withResult {α : Type} (result : Except Failure α) {work : α → Run} (all : ∀ a, OnlyAppends (work a)) :
    OnlyAppends (Run.withResult result work) := by
  cases result with
  | ok a => exact all a
  | error failure => exact fail failure

theorem repeatFrom {body : Nat → Run} (all : ∀ round, OnlyAppends (body round)) (rounds first : Nat) :
    OnlyAppends (Run.repeatFrom body rounds first) := by
  induction rounds generalizing first with
  | zero => exact done
  | succ rounds ih => exact (all first).andThen (ih (first + 1))

/-- A call leaves the depth that it entered from, also when its body fails. -/
theorem invoke {program : Program} {limits : Limits} {inner : Scope → List Node → Run} {name : Text}
    {arguments : List Value} (line : Option Int) (all : ∀ scope body, OnlyAppends (inner scope body)) :
    OnlyAppends (program.invoke limits inner name arguments line) := by
  intro depth iterations
  simp only [Program.invoke_eq]
  cases program.functions.find? name with
  | none => exact fail _ depth iterations
  | some function =>
    dsimp only
    split_ifs with arity deep
    · exact fail _ depth iterations
    · exact fail _ depth (if depth = 0 then 0 else iterations)
    · obtain ⟨outcome, rounds, written, ran⟩ := all (.ofArguments function.parameters arguments) function.body
        (depth + 1) (if depth = 0 then 0 else iterations)
      refine ⟨Program.reported limits name line (depth = 0) outcome, rounds, written, fun buffer => ?_⟩
      have entered : Machine.enter ⟨depth, iterations, buffer⟩ =
          ⟨depth + 1, if depth = 0 then 0 else iterations, buffer⟩ := rfl
      rw [entered, ran]
      rfl

end OnlyAppends

end Run

namespace Program

open Run

variable (program : Program) (limits : Limits)

theorem runForm_onlyAppends (stack : Nat) (scope : Scope) (node : Node) :
    OnlyAppends (program.runForm limits stack scope node) := by
  induction stack using Nat.strongRecOn generalizing scope node with
  | ind stack ih =>
    cases node with
    | literal value line =>
      rw [runForm.eq_def]
      exact .fail _
    | reference name line =>
      rw [runForm.eq_def]
      exact .fail _
    | insert arguments line =>
      rw [runForm.eq_def]
      exact .each arguments fun argument _ => .withResult _ .write
    | newline line =>
      rw [runForm.eq_def]
      exact .emit _
    | loop counter count body line =>
      rw [runForm.eq_def]
      refine .withResult _ fun value => ?_
      split
      · split
        · refine .repeatFrom (fun round => .andThen (.countRound limits line) (.each body fun form _ => ?_)) _ _
          exact ih _ (by omega) _ form
        · exact .fail _
      · exact .fail _
    | call function arguments line =>
      rw [runForm.eq_def]
      refine .withResult _ fun values => ?_
      split
      · exact .invoke line fun inner body => .each body fun form _ => ih _ (by omega) inner form
      · exact .invoke line fun _ _ => .fail _

theorem call_onlyAppends (name : Text) (arguments : List Value) (line : Option Int) :
    OnlyAppends (program.call limits name arguments line) :=
  .invoke line fun scope body => .each body fun form _ => program.runForm_onlyAppends limits limits.stack scope form

/-- A call from outside ends and writes the same, however many rounds the calls before it counted. -/
theorem call_recounts {machine : Machine} (outside : machine.depth = 0) (name : Text) (arguments : List Value)
    (line : Option Int) :
    let outcome := program.call limits name arguments line machine
    let fresh := program.call limits name arguments line (.start machine.buffer)
    outcome.1 = fresh.1 ∧ outcome.2.buffer = fresh.2.buffer := by
  obtain ⟨depth, iterations, buffer⟩ := machine
  obtain rfl : depth = 0 := outside
  have entered : Machine.enter ⟨0, iterations, buffer⟩ = (Machine.start buffer).enter := rfl
  have outside : (Machine.start buffer).depth = 0 := rfl
  simp only [call, invoke_eq, outside]
  -- what is looked up and compared before the count is reset is not the count
  cases program.functions.find? name with
  | none => exact ⟨rfl, rfl⟩
  | some function =>
    dsimp only
    split_ifs with arity deep
    · exact ⟨rfl, rfl⟩
    · exact ⟨rfl, rfl⟩
    · rw [entered]
      exact ⟨rfl, rfl⟩

end Program

/-! ## Calls in a row -/

/-- A call from outside, with the buffer that it writes into. -/
structure Request where
  name : Text
  arguments : List Value
  line : Option Int
  buffer : Buffer

namespace Request

/-- Makes the call on a machine, with a buffer in place of the one that the machine has. -/
def runOn (program : Program) (limits : Limits) (machine : Machine) (request : Request) (buffer : Buffer) :
    Except Failure Unit × Machine :=
  program.call limits request.name request.arguments request.line { machine with buffer }

/-- Makes one call after another on a machine that they share, each with its own buffer. A call that fails does not
keep the next one from being made. -/
def runAll (program : Program) (limits : Limits) : Machine → List Request → List (Except Failure Unit × Machine)
  | _, [] => []
  | machine, request :: rest =>
    let result := request.runOn program limits machine request.buffer
    result :: runAll program limits result.2 rest

/-- The result of a call tells nothing of the machine it was made on: it ends as on a fresh machine, with the steps of
writing added that a fresh machine adds to any buffer, and at depth zero. -/
structure Isolated (program : Program) (limits : Limits) (request : Request)
    (result : Except Failure Unit × Machine) : Prop where
  outcome : result.1 = (request.runOn program limits (.start request.buffer) request.buffer).1
  written : ∃ written, result.2.buffer = request.buffer.extend written ∧
    ∀ buffer, (request.runOn program limits (.start buffer) buffer).2.buffer = buffer.extend written
  kept : request.buffer.layout <+: result.2.buffer.layout
  outside : result.2.depth = 0

variable (program : Program) (limits : Limits) {machine : Machine}

/-- One call on a machine between calls. -/
theorem isolated_runOn (outside : machine.depth = 0) (request : Request) :
    request.Isolated program limits (request.runOn program limits machine request.buffer) := by
  have between : ({ machine with buffer := request.buffer } : Machine).depth = 0 := outside
  have recounts := program.call_recounts limits between request.name request.arguments request.line
  obtain ⟨outcome, rounds, written, ran⟩ :=
    program.call_onlyAppends limits request.name request.arguments request.line 0 0
  have added : (request.runOn program limits machine request.buffer).2.buffer = request.buffer.extend written := by
    rw [runOn, recounts.2, Machine.start, ran]
  obtain ⟨_, _, _, again⟩ :=
    program.call_onlyAppends limits request.name request.arguments request.line machine.depth machine.iterations
  refine ⟨recounts.1, ⟨written, added, fun buffer => ?_⟩, ?_, ?_⟩
  · rw [runOn, Machine.start, ran]
  · rw [added]
    exact Buffer.layout_prefix_extend ..
  · rw [runOn, again]
    exact outside

/-- Calls that share a machine from between calls on. -/
theorem isolated_runAll (outside : machine.depth = 0) (requests : List Request) :
    List.Forall₂ (Isolated program limits) requests (runAll program limits machine requests) := by
  induction requests generalizing machine with
  | nil => exact .nil
  | cons request rest ih =>
    have first := request.isolated_runOn program limits outside
    exact .cons first (ih first.outside)

end Request

/-! ## Output directives on one machine -/

namespace Directive

/-- The directives that define something. -/
def definitions (directives : List Directive) : List Directive :=
  directives.filter fun directive => !directive.kind.producesOutput

end Directive

namespace Expansion

open Directive

/-- What a directive generates on a machine that others have used before, and the machine afterwards. -/
def generateOn (program : Program) (limits : Limits) (machine : Machine) (directive : Directive) :
    Except Failure Text × Machine :=
  match directive.header with
  | .funcall name arguments =>
    let request : Request := ⟨name, arguments, some directive.line, .start directive.indent directive.newline⟩
    let result := request.runOn program limits machine request.buffer
    (result.1.map fun _ => result.2.buffer.value.asRegion directive.newline, result.2)
  | _ => (generate program limits directive, machine)

/-- Generated text, unless it holds a marker. -/
def unmarked (directive : Directive) (text : Text) : Except Failure Text :=
  if openToken.occursIn text || closeToken.occursIn text then
    .error (.onLine .markerInOutput (some directive.line))
  else .ok text

/-- The new text for output directives, all on one machine. -/
def replacementsOn (file : Option Text) (program : Program) (limits : Limits) :
    Machine → List Directive → Except Failure (List Replacement)
  | _, [] => .ok []
  | machine, directive :: rest => do
    let result := generateOn program limits machine directive
    let text ← atDirective file directive (result.1 >>= unmarked directive)
    let more ← replacementsOn file program limits result.2 rest
    return ⟨directive.bodySpan.start, directive.bodySpan.stop, text⟩ :: more

/-- Expands a document with one machine for all its output directives. -/
def expandOn (machine : Machine) (file : Option Text) (limits : Limits) (text : Text) : Except Failure Expansion := do
  let directives ← (scan text).mapError (Failure.locate none file)
  let gathered ← gather file directives
  let replacements ← replacementsOn file gathered.program limits machine (outputs directives)
  let expanded ← Replacement.splice text replacements
  return ⟨expanded, directives, gathered.warnings ++ messages file directives⟩

variable {machine : Machine} {file : Option Text} {directives : List Directive}

theorem region_eq (program : Program) (limits : Limits) (directive : Directive) :
    region program limits directive = generate program limits directive >>= unmarked directive := rfl

/-- A machine between calls generates what a fresh one does, and is between calls again. -/
theorem generateOn_isolated (program : Program) (limits : Limits) (outside : machine.depth = 0)
    (directive : Directive) :
    (generateOn program limits machine directive).1 = generate program limits directive ∧
      (generateOn program limits machine directive).2.depth = 0 := by
  unfold generateOn generate
  cases directive.header with
  | funcall name arguments =>
    dsimp only
    obtain ⟨outcome, ⟨written, added, fresh⟩, _, depth⟩ :=
      Request.isolated_runOn program limits outside
        ⟨name, arguments, some directive.line, .start directive.indent directive.newline⟩
    refine ⟨?_, depth⟩
    rw [outcome, added]
    have same := fresh (.start directive.indent directive.newline)
    simp only [Request.runOn, Machine.start] at same ⊢
    rw [← same]
    generalize program.call limits name arguments (some directive.line) _ = result
    obtain ⟨_ | _, after⟩ := result
    · rfl
    · rfl
  | _ => exact ⟨rfl, outside⟩

theorem replacementsOn_eq (program : Program) (limits : Limits) (outside : machine.depth = 0)
    (directives : List Directive) :
    replacementsOn file program limits machine (outputs directives) =
      replacements file program limits directives := by
  unfold replacements
  change replacementsOn file program limits machine (outputs directives) = (outputs directives).mapM _
  generalize outputs directives = items
  induction items generalizing machine with
  | nil => rfl
  | cons directive rest ih =>
    obtain ⟨generated, depth⟩ := generateOn_isolated program limits outside directive
    rw [replacementsOn, List.mapM_cons, generated, ← region_eq, ih depth]
    cases atDirective file directive (region program limits directive) with
    | error failure => rfl
    | ok text => rfl

theorem expandOn_eq (outside : machine.depth = 0) (file : Option Text) (limits : Limits) (text : Text) :
    expandOn machine file limits text = expand file limits text := by
  simp only [expandOn, expand, replacementsOn_eq _ limits outside]

/-- An output directive defines nothing. -/
theorem Gathered.add_output {directive : Directive} (produces : directive.kind.producesOutput = true)
    (gathered : Gathered) : gathered.add file directive = .ok gathered := by
  unfold Gathered.add
  cases named : directive.header with
  | defun | lines | block =>
    rw [kind, named] at produces
    cases produces
  | _ => rfl

/-- Only definitions are gathered. -/
theorem gather_definitions (file : Option Text) (directives : List Directive) :
    gather file (definitions directives) = gather file directives := by
  unfold gather
  generalize (⟨.empty, []⟩ : Gathered) = start
  induction directives generalizing start with
  | nil => rfl
  | cons directive rest ih =>
    rw [definitions, List.filter_cons]
    split
    · rw [List.foldlM_cons, List.foldlM_cons]
      congr 1
      funext next
      exact ih next
    · next produces =>
      have produces : directive.kind.producesOutput = true := by simpa using produces
      rw [List.foldlM_cons, Gathered.add_output produces]
      exact ih start

/-- One output directive of a document without the others. -/
def alone (directives : List Directive) (directive : Directive) : List Directive :=
  definitions directives ++ [directive]

theorem gather_alone {directive : Directive} (member : directive ∈ outputs directives) (file : Option Text) :
    gather file (alone directives directive) = gather file directives := by
  have produces : directive.kind.producesOutput = true := (List.mem_filter.mp member).2
  have defined : definitions (alone directives directive) = definitions directives := by
    simp [alone, definitions, produces]
  rw [← gather_definitions file (alone directives directive), defined, gather_definitions]

theorem outputs_alone {directive : Directive} (member : directive ∈ outputs directives) :
    outputs (alone directives directive) = [directive] := by
  have produces : directive.kind.producesOutput = true := (List.mem_filter.mp member).2
  simp [alone, outputs, definitions, produces]

/-- Work on a list can be done member by member, each time on a list of one. -/
theorem mapM_eq_flatten {α β : Type} {make : α → Except Failure β} {makeAlone : α → Except Failure (List β)}
    (items : List α) (agree : ∀ a ∈ items, makeAlone a = (make a).map fun b => [b]) :
    items.mapM make = (items.mapM makeAlone).map List.flatten := by
  induction items with
  | nil => rfl
  | cons a rest ih =>
    obtain ⟨first, others⟩ := List.forall_mem_cons.mp agree
    rw [List.mapM_cons, List.mapM_cons, first, ih others]
    cases make a with
    | error failure => rfl
    | ok b =>
      cases rest.mapM makeAlone with
      | error failure => rfl
      | ok lists => rfl

/-- The second pass gives each output directive what it gets without the others. -/
theorem replacements_eq_flatten {gathered : Gathered} (limits : Limits)
    (gathers : gather file directives = .ok gathered) :
    replacements file gathered.program limits directives =
      ((outputs directives).mapM fun directive => do
        let own ← gather file (alone directives directive)
        replacements file own.program limits (alone directives directive)).map List.flatten := by
  refine mapM_eq_flatten (outputs directives) fun directive member => ?_
  rw [gather_alone member, gathers]
  change (outputs (alone directives directive)).mapM _ = _
  rw [outputs_alone member, List.mapM_cons, List.mapM_nil]
  cases atDirective file directive (region gathered.program limits directive) with
  | error failure => rfl
  | ok text => rfl

/-- Calls on a machine that they share, from depth zero on, end and write as each does on a machine of its own; a
document expands on such a machine as it does with a machine for each output directive, and what one output directive
gets does not depend on the others. -/
theorem shared_machine_isolates (program : Program) (limits : Limits) (outside : machine.depth = 0) :
    (∀ requests, List.Forall₂ (Request.Isolated program limits) requests
      (Request.runAll program limits machine requests)) ∧
    (∀ file text, expandOn machine file limits text = expand file limits text) ∧
    ∀ file directives gathered, gather file directives = .ok gathered →
      replacementsOn file gathered.program limits machine (outputs directives) =
        ((outputs directives).mapM fun directive => do
          let own ← gather file (alone directives directive)
          replacements file own.program limits (alone directives directive)).map List.flatten := by
  refine ⟨Request.isolated_runAll program limits outside, fun file text => expandOn_eq outside file limits text, ?_⟩
  intro file directives gathered gathers
  rw [replacementsOn_eq _ limits outside, replacements_eq_flatten limits gathers]

/-- A function that writes the counts below its argument. -/
def counting : Program :=
  Program.empty.addFunction "f".toList ⟨["n".toList],
    [.loop "i".toList (.reference "n".toList none) [.insert [.reference "i".toList none] none] none], none⟩

/-- A call of the function, with a line already in its buffer. -/
def countTo (arguments : List Value) : Request :=
  ⟨"f".toList, arguments, some 1, (Buffer.start [] ['\n']).extend [.insert ['>'], .newline]⟩

/-- Calls that use up the rounds, need too many of them, are refused, and use them up again. -/
def mixedCalls : List Request := [countTo [.int 3], countTo [.int 4], countTo [], countTo [.int 3]]

/-- A document with two output directives. -/
def twoCalls : Text :=
  "autoc:defun f ()\n(dotimes (i 2) (insert i))\nautoc#\nautoc:funcall f\nautoc#\nautoc:funcall f\nautoc#\n".toList

theorem shared_machine_isolates_mixedCalls :
    ∃ machine : Machine, machine.depth = 0 ∧ machine.iterations = 2 ∧
      (Request.runAll counting { iterations := 3 } machine mixedCalls).map
          (fun result => (result.1.isOk, result.2.buffer.value)) =
        [(true, ">\n012".toList), (false, ">\n012".toList), (false, ">\n".toList), (true, ">\n012".toList)] ∧
      List.Forall₂ (Request.Isolated counting { iterations := 3 }) mixedCalls
        (Request.runAll counting { iterations := 3 } machine mixedCalls) ∧
      expandOn machine none { iterations := 3 } twoCalls = expand none { iterations := 3 } twoCalls ∧
      succeedsWith (fun expansion => expansion.directives.length == 3) (expand none { iterations := 3 } twoCalls) := by
  let machine : Machine := ⟨0, 2, .start [] []⟩
  have outside : machine.depth = 0 := rfl
  obtain ⟨calls, documents, _⟩ := shared_machine_isolates counting { iterations := 3 } outside
  refine ⟨machine, outside, rfl, ?_, calls mixedCalls, documents none twoCalls, ?_⟩
  · decide +kernel
  · decide +kernel

end Expansion

end Regen
