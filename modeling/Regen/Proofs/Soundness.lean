import Regen.Proofs.Adequacy
import Regen.Proofs.Culprits

/-! # Programs that do not go wrong

The body of a function that was read consists of forms, so no run of it meets a node in a place where it does not
belong. If besides every variable is a parameter or the counter of a loop around it, and every call fits the function
that it names, then a run finds every variable and function that it asks for: the frames of a scope hold at least what
is visible where a form stands. A call of such a program ends well, on a count that is no number of rounds, or at a
limit; only a limit with too many digits for the wording of the fault stands in the way of its report.
-/

namespace Regen

/-- Whether an expression is anything but a variable that is not visible. -/
def Node.isBound (visible : List Text) : Node → Bool
  | reference name _ => visible.contains name
  | _ => true

namespace Program

mutual

/-- Whether a form sees every variable that it reads, and calls functions with as many arguments as they take. The
counter of a loop is visible in its body, but not in its count. -/
def isScoped (program : Program) (visible : List Text) : Node → Bool
  | .insert arguments _ => arguments.all (Node.isBound visible)
  | .loop counter count body _ => count.isBound visible && program.allScoped (counter :: visible) body
  | .call function arguments _ =>
    arguments.all (Node.isBound visible) &&
      (program.functions.find? function).any fun callee => arguments.length == callee.arity
  | .newline _ | .literal .. | .reference .. => true

/-- Whether this holds of every form of a sequence. -/
def allScoped (program : Program) (visible : List Text) : List Node → Bool
  | [] => true
  | node :: rest => program.isScoped visible node && program.allScoped visible rest

end

/-- In the body of every function, the parameters are what is visible. -/
def WellScoped (program : Program) : Prop :=
  ∀ name function, program.functions.find? name = some function →
    program.allScoped function.parameters function.body = true

variable {program : Program} {limits : Limits} {visible : List Text}

theorem allScoped_iff (nodes : List Node) :
    program.allScoped visible nodes = true ↔ ∀ node ∈ nodes, program.isScoped visible node = true := by
  induction nodes with
  | nil => simp [allScoped]
  | cons node rest ih => simp [allScoped, ih]

theorem isBound_of_mem_operands {node operand : Node} (inScope : program.isScoped visible node = true)
    (member : operand ∈ node.operands) : operand.isBound visible = true := by
  cases node with
  | insert arguments line =>
    rw [isScoped] at inScope
    exact List.all_eq_true.mp inScope operand member
  | loop counter count body line =>
    rw [isScoped, Bool.and_eq_true] at inScope
    obtain rfl := List.mem_singleton.mp member
    exact inScope.1
  | call function arguments line =>
    rw [isScoped, Bool.and_eq_true] at inScope
    exact List.all_eq_true.mp inScope.1 operand member
  | literal | reference | newline => cases member

theorem isScoped_of_mem_loop {counter : Text} {count form : Node} {body : List Node} {line : Option Int}
    (inScope : program.isScoped visible (.loop counter count body line) = true) (member : form ∈ body) :
    program.isScoped (counter :: visible) form = true := by
  rw [isScoped, Bool.and_eq_true] at inScope
  exact (allScoped_iff body).mp inScope.2 form member

theorem callee_of_isScoped {name : Text} {arguments : List Node} {line : Option Int}
    (inScope : program.isScoped visible (.call name arguments line) = true) :
    ∃ function, program.functions.find? name = some function ∧ arguments.length = function.arity := by
  rw [isScoped, Bool.and_eq_true, Option.any_eq_true] at inScope
  obtain ⟨function, found, fits⟩ := inScope.2
  exact ⟨function, found, by simpa using fits⟩

end Program

/-! ## Scopes hold what is visible -/

namespace Scope

variable {scope : Scope} {visible : List Text}

/-- Every visible variable has a value. -/
def Covers (visible : List Text) (scope : Scope) : Prop := ∀ name ∈ visible, (scope.find? name).isSome = true

theorem Covers.bind (covers : scope.Covers visible) (counter : Text) (value : Value) :
    (scope.bind counter value).Covers (counter :: visible) := by
  intro name member
  rw [find?_bind]
  split
  · rfl
  · next other => exact covers name ((List.mem_cons.mp member).resolve_left other)

theorem covers_ofArguments {parameters : List Text} {arguments : List Value}
    (fits : arguments.length = parameters.length) : (ofArguments parameters arguments).Covers parameters := by
  intro name member
  rw [find?_ofArguments]
  obtain ⟨value, paired⟩ : ∃ value, (name, value) ∈ parameters.zip arguments := by
    rw [← List.map_fst_zip (Nat.le_of_eq fits.symm)] at member
    obtain ⟨⟨_, value⟩, paired, rfl⟩ := List.mem_map.mp member
    exact ⟨value, paired⟩
  rw [List.lookup_isSome_iff]
  exact ⟨(name, value), List.mem_reverse.mpr paired, by simp⟩

end Scope

theorem Failure.placed_onLine (fault : Fault) (line : Option Int) : (onLine fault line).Placed := by
  unfold onLine
  split
  · rfl
  · rfl

/-- An argument has a value, or names a variable that is not there. -/
theorem Node.IsArgument.eval_placed {node : Node} (isArgument : node.IsArgument) (scope : Scope) :
    Ends Failure.Placed (fun _ => True) (node.eval scope) := by
  cases node with
  | literal value line => trivial
  | reference name line =>
    simp only [eval]
    cases scope.find? name with
    | some value => trivial
    | none => exact Failure.placed_onLine _ _
  | _ => cases isArgument.expression

namespace Program

variable {program : Program} {limits : Limits} {visible : List Text}

/-- What a well-scoped form comes to is a count of the wrong type or a limit. -/
theorem Raises.category_of_isScoped (wellScoped : program.WellScoped) {owner : Option Text} {stack : Nat}
    {scope : Scope} {node : Node} {machine : Machine} {culprit : Culprit}
    (raises : program.Raises limits owner stack scope node machine culprit)
    (inScope : program.isScoped visible node = true) (covers : scope.Covers visible) :
    culprit.fault.category = .typeMismatch ∨ culprit.fault.category = .resourceLimit := by
  induction raises generalizing visible with
  | @operand _ _ scope node _ before after name line operands earlier unbound =>
    have bound : (Node.reference name line).isBound visible = true :=
      isBound_of_mem_operands inScope (by rw [operands]; simp)
    have isSome := covers name (by simpa [Node.isBound] using bound)
    rw [unbound] at isSome
    cases isSome
  | count evaluated noCount => exact .inl rfl
  | spent evaluated below ran many => exact .inr rfl
  | @round _ _ _ counter _ form body before after _ _ _ _ _ _ round _ evaluated below ran few split earlier raises ih =>
    have member : form ∈ body := by
      rw [split]
      simp
    exact ih (isScoped_of_mem_loop inScope member) (covers.bind counter (.int round))
  | @refused _ _ _ name arguments _ _ values _ evaluated refuses =>
    obtain ⟨function, found, fits⟩ := callee_of_isScoped inScope
    cases refuses with
    | unknown missing => cases missing.symm.trans found
    | @arity other isOther differs =>
      cases isOther.symm.trans found
      rw [(mapM_eq_ok_iff.mp evaluated).length_eq] at fits
      exact absurd fits differs
    | deep => exact .inr rfl
    | exhausted => exact .inr rfl
  | @callee _ _ _ name _ before after form _ _ _ values function _ evaluated enters split earlier raises ih =>
    have member : form ∈ function.body := by
      rw [split]
      simp
    have body := wellScoped name function enters.found
    exact ih ((allScoped_iff function.body).mp body form member) (Scope.covers_ofArguments enters.arity)

/-! ## Nodes stay where they belong -/

open Run

theorem invoke_placed {run : Scope → List Node → Run} (name : Text) (arguments : List Value) (line : Option Int)
    (onBody : ∀ (scope : Scope) function, program.functions.find? name = some function →
      FailsWithin Failure.Placed (run scope function.body)) :
    FailsWithin Failure.Placed (program.invoke limits run name arguments line) := by
  intro machine failure failed
  rw [invoke_eq] at failed
  cases found : program.functions.find? name with
  | none =>
    simp only [found] at failed
    cases failed
    apply Failure.placed_onLine
  | some function =>
    simp only [found] at failed
    split_ifs at failed
    · cases failed
      apply Failure.placed_onLine
    · cases failed
      apply Failure.placed_onLine
    · rcases reported_eq_error failed with failed | rfl
      · exact onBody _ function found _ failure failed
      · apply Failure.placed_onLine

/-- A run of forms meets forms only, and expressions as their arguments. -/
theorem runForm_placed (runnable : program.Runnable) (stack : Nat) (scope : Scope) {node : Node}
    (isRunnable : node.Runnable) : FailsWithin Failure.Placed (program.runForm limits stack scope node) := by
  induction stack using Nat.strongRecOn generalizing scope node with
  | ind stack ih =>
    cases node with
    | literal value line => cases isRunnable.form
    | reference name line => cases isRunnable.form
    | insert arguments line =>
      rw [runForm.eq_def]
      have areArguments := Node.runnable_insert_iff.mp isRunnable
      refine .each arguments fun argument member => ?_
      refine .withResult ((areArguments argument member).eval_placed scope) fun value _ => ?_
      unfold Run.write
      split
      · exact .emit _
      · exact .fail rfl
    | newline line =>
      rw [runForm.eq_def]
      exact .emit _
    | loop counter count body line =>
      rw [runForm.eq_def]
      obtain ⟨isArgument, bodyRunnable⟩ := Node.runnable_loop_iff.mp isRunnable
      refine .withResult (isArgument.eval_placed scope) fun value _ => ?_
      split
      · next rounds =>
        split
        · refine .repeatFrom rounds 0 fun round _ _ => ?_
          refine .andThen (.countRound (Failure.placed_onLine _ _)) (.each body fun form member => ?_)
          exact ih _ (by omega) _ (bodyRunnable form member)
        · exact .fail rfl
      · exact .fail (Failure.placed_onLine _ _)
    | call function arguments line =>
      rw [runForm.eq_def]
      have areArguments := Node.runnable_call_iff.mp isRunnable
      refine .withResult (.mapM arguments fun argument member =>
        (areArguments argument member).eval_placed scope) fun values _ => ?_
      split
      · refine invoke_placed function values line fun inner callee found => ?_
        exact .each callee.body fun form member => ih _ (by omega) inner (runnable _ callee found form member)
      · exact invoke_placed function values line fun _ _ _ => .fail rfl

theorem call_placed (runnable : program.Runnable) (name : Text) (arguments : List Value) (line : Option Int) :
    FailsWithin Failure.Placed (program.call limits name arguments line) := by
  refine invoke_placed name arguments line fun scope function found => ?_
  exact .each function.body fun form member =>
    runForm_placed runnable limits.stack scope (runnable name function found form member)

/-! ## Calls from outside -/

/-- How a call of a well-scoped program ends. -/
inductive Safe (limits : Limits) : Except Failure Unit → Prop
  | done : Safe limits (.ok ())
  /-- The count of a loop is no number of rounds. -/
  | typeMismatch {fault : Located Fault} (category : fault.content.category = .typeMismatch) :
      Safe limits (.error (.fault fault))
  | resourceLimit {fault : Located Fault} (category : fault.content.category = .resourceLimit) :
      Safe limits (.error (.fault fault))
  /-- A limit has too many digits to be shown by the fault that reports it. -/
  | unshownLimit (unwritable : limits.isWritable = false) : Safe limits (.error (.oversizedInteger none))

/-- Functions that were read meet no misplaced node. If they are well-scoped, a call that fits a function ends in no
other way than well, with a mismatch of types or at a limit, unless a limit has too many digits to be shown. -/
theorem call_safe (isRead : program.IsRead) :
    (∀ limits name arguments line machine failure,
      (program.call limits name arguments line machine).1 = .error failure → failure.Placed) ∧
    (program.WellScoped → ∀ limits name function arguments line machine,
      program.functions.find? name = some function → arguments.length = function.arity →
      (∀ value ∈ arguments, value.isWritable = true) → machine.depth = 0 →
      Safe limits (program.call limits name arguments line machine).1) := by
  refine ⟨fun limits name arguments line => call_placed isRead.runnable name arguments line, ?_⟩
  intro wellScoped limits name function arguments line machine found fits writable outside
  cases outcome : (program.call limits name arguments line machine).1 with
  | ok _ => exact .done
  | error failure =>
    have reportable := call_reportable isRead.runnable outside writable outcome
    cases failure with
    | fault fault =>
      rw [call_eq_runForm] at outcome
      obtain ⟨culprit, raises, rfl⟩ := raises_of_runForm none outcome
      have inScope : program.isScoped [] (outerCall name arguments line) = true := by
        rw [outerCall, isScoped, Bool.and_eq_true, found]
        refine ⟨?_, ?_⟩
        · rw [List.all_map]
          exact List.all_eq_true.mpr fun _ _ => rfl
        · simpa using fits
      have covers : Scope.Covers [] [] := fun name member => by cases member
      rcases raises.category_of_isScoped wellScoped inScope covers with category | category
      · exact .typeMismatch category
      · exact .resourceLimit category
    | oversizedInteger digits =>
      cases digits with
      | none => exact .unshownLimit reportable
      | some digits => cases reportable
    | _ => cases reportable

/-- A loop in a loop with the same counter, a counter with the name of its own count, and calls in both directions. -/
def shadowing : Program :=
  (Program.empty.addFunction "f".toList
    (unary ("(dotimes (i n)".toList ++ "(dotimes (i i)".toList ++ "(insert i n))".toList ++
      "(funcall g i))".toList))).addFunction "g".toList
    (unary ("(dotimes (n n)".toList ++ "(insert n))".toList ++ "(dotimes (i 2)".toList ++ "(funcall f n))".toList))

theorem shadowing_isRead : shadowing.IsRead := by
  intro name function found
  have member : (name, function) ∈ shadowing.functions := Table.mem_of_find? found
  rcases List.mem_cons.mp member with same | member
  · cases same
    exact ⟨_, 1, readBody_unary (by decide +kernel)⟩
  · cases List.mem_singleton.mp member
    exact ⟨_, 1, readBody_unary (by decide +kernel)⟩

theorem shadowing_wellScoped : shadowing.WellScoped := by
  intro name function found
  have each : shadowing.functions.all (fun entry =>
      shadowing.allScoped entry.2.parameters entry.2.body) = true := by decide +kernel
  exact List.all_eq_true.mp each _ (Table.mem_of_find? found)

theorem call_safe_shadowing :
    shadowing.IsRead ∧ shadowing.WellScoped ∧ ∃ fault : Located Fault,
      (shadowing.call {} "f".toList [.text "x".toList] none (.start (.start [] ['\n']))).1 = .error (.fault fault) ∧
        fault.content.category = .typeMismatch := by
  have safe : Safe {} (shadowing.call {} "f".toList [.text "x".toList] none (.start (.start [] ['\n']))).1 :=
    (call_safe shadowing_isRead).2 shadowing_wellScoped {} "f".toList _ _ none _ rfl rfl (by decide) rfl
  have fails : failsWith (fun fault => fault.content.category != .resourceLimit)
      (shadowing.call {} "f".toList [.text "x".toList] none (.start (.start [] ['\n']))).1 = true := by
    decide +kernel
  obtain ⟨fault, failed, noLimit⟩ := exists_of_failsWith fails
  refine ⟨shadowing_isRead, shadowing_wellScoped, fault, failed, ?_⟩
  rw [failed] at safe
  cases safe with
  | typeMismatch category => exact category
  | resourceLimit category => simp [category] at noLimit

/-- A function that calls itself. -/
def endless : Program := Program.empty.addFunction "loop".toList (unary "(funcall loop n)".toList)

/-- A limit on calls with 4335 digits. -/
def overlongLimits : Limits := { callDepth := Nat.pow 16 3600 - 1 }

/-- Whether the wording of a fault could not be written. -/
def isUnwritten : Except Failure Unit → Bool
  | .error (.oversizedInteger none) => true
  | _ => false

/-- A well-scoped program can end in another way: the stack runs out, and the limit on calls cannot be shown. -/
theorem not_call_ends_with_fault :
    ¬ ∀ (program : Program) (limits : Limits) (name : Text) (function : Function) (arguments : List Value)
      (line : Option Int) (machine : Machine), program.IsRead → program.WellScoped →
      program.functions.find? name = some function → arguments.length = function.arity →
      (∀ value ∈ arguments, value.isWritable = true) → machine.depth = 0 →
      (program.call limits name arguments line machine).1 = .ok () ∨ ∃ fault : Located Fault,
        (program.call limits name arguments line machine).1 = .error (.fault fault) ∧
          (fault.content.category = .typeMismatch ∨ fault.content.category = .resourceLimit) := by
  intro ends
  have isRead : endless.IsRead := by
    intro name function found
    cases List.mem_singleton.mp (Table.mem_of_find? found)
    exact ⟨_, 1, readBody_unary (by decide +kernel)⟩
  have wellScoped : endless.WellScoped := by
    intro name function found
    cases List.mem_singleton.mp (Table.mem_of_find? found)
    decide +kernel
  have unwritten : isUnwritten (endless.call overlongLimits "loop".toList [.int 0] (some 4)
      (.start (.start [] ['\n']))).1 = true := by decide +kernel
  rcases ends endless overlongLimits "loop".toList _ [.int 0] (some 4) (.start (.start [] ['\n'])) isRead wellScoped
    rfl rfl (by decide) rfl with success | ⟨fault, failed, -⟩
  · rw [success] at unwritten
    cases unwritten
  · rw [failed] at unwritten
    cases unwritten

end Program

end Regen
