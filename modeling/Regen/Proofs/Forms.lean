import Regen.Proofs.Failures

/-! # What is read can be run

Reading a text fails with a fault or on an integer of the text that has too many digits, and with nothing else. The
integers that are read can be written again: their value is below the power of ten with as many zeros as they have
digits. So a body that can be read consists of forms that can be run, and a header holds arguments that can be written.
-/

namespace Regen

open Text

namespace Text

variable {number : Text} {n : Nat}

/-- A row of decimal digits. -/
def IsNumber (number : Text) : Prop := ∀ c ∈ number, (digit? c).isSome = true

theorem IsNumber.not_mem (isNumber : IsNumber number) {c : Char} (other : digit? c = none) : c ∉ number := by
  intro member
  have digit := isNumber c member
  rw [other] at digit
  cases digit

theorem digit?_le {c : Char} {digit : Nat} (found : digit? c = some digit) : digit ≤ 9 := by
  obtain ⟨first, isFirst, rfl⟩ := Option.map_eq_some_iff.mp found
  have bounds := List.find?_some isFirst
  simp only [Bool.and_eq_true, decide_eq_true_eq] at bounds
  omega

theorem foldl_digits_lt {digits : List Nat} (small : ∀ digit ∈ digits, digit ≤ 9) (value : Nat) :
    digits.foldl (fun value digit => value * 10 + digit) value < (value + 1) * 10 ^ digits.length := by
  induction digits generalizing value with
  | nil => simp
  | cons digit rest ih =>
    have first := small digit (List.mem_cons_self ..)
    have later := ih (fun other member => small other (List.mem_cons_of_mem _ member)) (value * 10 + digit)
    have bound : value * 10 + digit + 1 ≤ (value + 1) * 10 := by omega
    calc (digit :: rest).foldl (fun value digit => value * 10 + digit) value
        < (value * 10 + digit + 1) * 10 ^ rest.length := later
      _ ≤ (value + 1) * 10 * 10 ^ rest.length := Nat.mul_le_mul_right _ bound
      _ = (value + 1) * 10 ^ (digit :: rest).length := by rw [List.length_cons, Nat.pow_succ', Nat.mul_assoc]

/-- A row of digits denotes a number below the power of ten with as many zeros. -/
theorem digits?_eq_some (read : digits? number = some n) : IsNumber number ∧ n < 10 ^ number.length := by
  obtain ⟨digits, each, rfl⟩ := Option.map_eq_some_iff.mp read
  obtain ⟨lengths, isNumber, sources⟩ := mapM_eq_some each
  have small : ∀ digit ∈ digits, digit ≤ 9 := by
    intro digit member
    obtain ⟨c, _, found⟩ := sources digit member
    exact digit?_le found
  have below := foldl_digits_lt small 0
  rw [lengths, Nat.zero_add, Nat.one_mul] at below
  exact ⟨isNumber, below⟩

theorem IsNumber.exists_digits? (isNumber : IsNumber number) : ∃ n, digits? number = some n := by
  have each : ∃ digits, number.mapM digit? = some digits := by
    induction number with
    | nil => exact ⟨[], rfl⟩
    | cons c rest ih =>
      obtain ⟨digit, isDigit⟩ := Option.isSome_iff_exists.mp (isNumber c (List.mem_cons_self ..))
      obtain ⟨digits, areDigits⟩ := ih fun d member => isNumber d (List.mem_cons_of_mem _ member)
      exact ⟨digit :: digits, by rw [List.mapM_cons, isDigit, areDigits]; rfl⟩
  obtain ⟨digits, areDigits⟩ := each
  exact ⟨_, by rw [digits?, areDigits]; rfl⟩

theorem IsNumber.filter_ne_minus (isNumber : IsNumber number) : number.filter (· != '-') = number := by
  rw [List.filter_eq_self]
  intro c member
  have differs : c ≠ '-' := by
    rintro rfl
    exact isNumber.not_mem (by decide) member
  simpa using differs

/-- An integer is a row of digits, with a minus sign in front of it or not. -/
theorem integer?_eq_some {word : Text} {n : Int} (read : integer? word = some n) :
    ∃ number, number <:+ word ∧ IsNumber number ∧ word.filter (· != '-') = number ∧ n.natAbs < 10 ^ number.length := by
  unfold integer? at read
  split at read
  · cases read
  · cases read
  · next digits _ =>
    obtain ⟨m, cast, rfl⟩ := Option.map_eq_some_iff.mp read
    obtain ⟨k, digitsRead, cast⟩ := Option.bind_eq_some_iff.mp cast
    obtain rfl : (k : Int) = m := by simpa using cast
    obtain ⟨isNumber, below⟩ := digits?_eq_some digitsRead
    refine ⟨digits, List.suffix_cons .., isNumber, ?_, ?_⟩
    · rw [List.filter_cons_of_neg (by simp), isNumber.filter_ne_minus]
    · rwa [Int.natAbs_neg, Int.natAbs_natCast]
  · obtain ⟨m, digitsRead, rfl⟩ := Option.map_eq_some_iff.mp read
    obtain ⟨isNumber, below⟩ := digits?_eq_some digitsRead
    exact ⟨_, List.suffix_refl _, isNumber, isNumber.filter_ne_minus, below⟩

end Text

/-- A failure of reading a text: a fault, or an integer in it with too many digits. -/
def Failure.OfText (text : Text) : Failure → Prop
  | fault _ => True
  | oversizedInteger (some digits) =>
    Value.maxDigits < digits ∧ ∃ number, number <:+: text ∧ IsNumber number ∧ number.length = digits
  | _ => False

theorem Failure.OfText.imp {part text : Text} {failure : Failure} (ofPart : failure.OfText part)
    (kept : ∀ number, IsNumber number → number <:+: part → number <:+: text) : failure.OfText text := by
  cases failure with
  | fault f => trivial
  | oversizedInteger digits =>
    cases digits with
    | none => exact ofPart
    | some digits =>
      obtain ⟨many, number, inside, isNumber, length⟩ := ofPart
      exact ⟨many, number, kept number isNumber inside, isNumber, length⟩
  | _ => exact ofPart

theorem Ends.imp {α : Type} {allowed allowed' : Failure → Prop} {good good' : α → Prop} {result : Except Failure α}
    (ends : Ends allowed good result) (onError : ∀ failure, allowed failure → allowed' failure)
    (onValue : ∀ a, good a → good' a) : Ends allowed' good' result := by
  cases result with
  | ok a => exact onValue a ends
  | error failure => exact onError failure ends

namespace Lexeme

/-- A lexeme that can be written: an integer must not have too many digits. -/
def Writable (lexeme : Lexeme) : Prop := ∀ n, lexeme = integer n → (Value.int n).isWritable = true

theorem ofWord_ends (word : Text) : Ends (Failure.OfText word) Writable (ofWord word) := by
  unfold ofWord
  split
  · intro n isInteger
    cases isInteger
  · next n read =>
    obtain ⟨number, isSuffix, isNumber, digits, below⟩ := integer?_eq_some read
    dsimp only
    rw [digits]
    split
    · next many => exact ⟨many, number, isSuffix.isInfix, isNumber, rfl⟩
    · next few =>
      rintro _ ⟨⟩
      rw [Value.isWritable_int_iff]
      exact Nat.lt_of_lt_of_le below (Nat.pow_le_pow_right (by decide) (Nat.le_of_not_lt few))

end Lexeme

namespace Lexer

/-- What holds of a point in the pass over a text of which `done` was read: an unfinished word stands at the end of it,
and the tokens so far can be written. -/
structure Reads (done : Text) (lexer : Lexer) : Prop where
  word : ∀ chars, lexer.mode = .word chars → chars.reverse <:+ done
  tokens : ∀ token ∈ lexer.tokens, token.lexeme.Writable

variable {done : Text} {lexer : Lexer}

theorem Reads.emit (reads : lexer.Reads done) {lexeme : Lexeme} (writable : lexeme.Writable) (line : Int) :
    (lexer.emit lexeme line).Reads done where
  word chars inWord := by cases inWord
  tokens := by
    rintro token (_ | ⟨_, member⟩)
    · exact writable
    · exact reads.tokens token member

/-- Outside of words, what was read of the text does not matter. -/
theorem Reads.outside (reads : lexer.Reads done) (more : Text) {mode : Mode} (noWord : ∀ chars, mode ≠ .word chars)
    (line : Int) : Reads more { lexer with mode, line } :=
  ⟨fun chars inWord => absurd inWord (noWord chars), reads.tokens⟩

theorem Reads.begin (reads : lexer.Reads done) (c : Char) : (lexer.begin c).Reads (done ++ [c]) := by
  have parenthesis (lexeme : Lexeme) (noInteger : ∀ n, lexeme ≠ .integer n) :
      Reads (done ++ [c]) (lexer.emit lexeme lexer.line) := by
    have between : Reads (done ++ [c]) { lexer with mode := .between } := reads.outside _ (by simp) lexer.line
    exact between.emit (fun n isInteger => absurd isInteger (noInteger n)) lexer.line
  unfold Lexer.begin
  split_ifs
  · exact reads.outside _ (by simp) _
  · exact reads.outside _ (by simp) _
  · exact parenthesis _ (by simp)
  · exact parenthesis _ (by simp)
  · exact reads.outside _ (by simp) _
  · refine ⟨fun chars inWord => ?_, reads.tokens⟩
    cases inWord
    exact List.suffix_append ..

/-- An unfinished word is read or stands in what was read with too many digits. -/
theorem Reads.ofWord_ends (reads : lexer.Reads done) {chars : Text} (inWord : lexer.mode = .word chars) :
    Ends (Failure.OfText done) Lexeme.Writable (Lexeme.ofWord chars.reverse) := by
  refine (Lexeme.ofWord_ends chars.reverse).imp (fun failure ofWord => ?_) fun _ => id
  exact ofWord.imp fun number _ inside => inside.trans (reads.word chars inWord).isInfix

/-- Reading one more character fails on a word that was read before, if it fails. -/
theorem Reads.step (reads : lexer.Reads done) (c : Char) :
    Ends (Failure.OfText done) (Reads (done ++ [c])) (lexer.step c) := by
  unfold Lexer.step
  split
  · exact reads.begin c
  · next inComment =>
    split
    · exact reads.begin c
    · exact ⟨fun chars inWord => (by cases inComment.symm.trans inWord), reads.tokens⟩
  · next chars inWord =>
    split
    · exact (reads.ofWord_ends inWord).bind fun lexeme writable => (reads.emit writable lexer.line).begin c
    · refine ⟨fun longer isLonger => ?_, reads.tokens⟩
      cases isLonger
      obtain ⟨before, split⟩ := reads.word chars inWord
      exact ⟨before, by rw [List.reverse_cons, ← List.append_assoc, split]⟩
  · next start chars inString =>
    split_ifs
    · have between : Reads (done ++ [c]) { lexer with mode := .between } := reads.outside _ (by simp) lexer.line
      exact between.emit (fun n isInteger => by cases isInteger) start
    · exact reads.outside _ (by simp) _
    · exact reads.outside _ (by simp) _
  · exact reads.outside _ (by simp) _

theorem Reads.foldlM (reads : lexer.Reads done) (rest : Text) :
    Ends (Failure.OfText (done ++ rest)) (Reads (done ++ rest)) (rest.foldlM Lexer.step lexer) := by
  induction rest generalizing done lexer with
  | nil =>
    rw [List.append_nil]
    exact reads
  | cons c rest ih =>
    rw [List.foldlM_cons]
    refine ((reads.step c).imp (fun failure ofDone => ?_) fun _ => id).bind fun next nextReads => ?_
    · exact ofDone.imp fun number _ inside => inside.trans (List.prefix_append ..).isInfix
    · have later := ih nextReads
      rwa [List.append_assoc, List.singleton_append] at later

theorem Reads.finish (reads : lexer.Reads done) :
    Ends (Failure.OfText done) (fun tokens => ∀ token ∈ tokens, token.lexeme.Writable) lexer.finish := by
  have inOrder : ∀ token ∈ lexer.tokens.reverse, token.lexeme.Writable := fun token member =>
    reads.tokens token (List.mem_reverse.mp member)
  unfold Lexer.finish
  split
  · exact inOrder
  · exact inOrder
  · next chars inWord =>
    refine (reads.ofWord_ends inWord).bind fun lexeme writable token member => ?_
    exact (reads.emit writable lexer.line).tokens token (List.mem_reverse.mp member)
  · trivial
  · trivial

end Lexer

/-- Tokens that are read can be written. -/
theorem Token.scan_ends (text : Text) (line : Int) :
    Ends (Failure.OfText text) (fun tokens => ∀ token ∈ tokens, token.lexeme.Writable) (Token.scan text line) := by
  have start : Lexer.Reads [] ⟨.between, line, []⟩ :=
    ⟨fun chars inWord => (by cases inWord), fun token member => (by cases member)⟩
  exact (start.foldlM text).bind fun lexer reads => reads.finish

namespace Datum

theorem flattenAll_eq_flatMap (data : List Datum) : flattenAll data = data.flatMap flatten := by
  induction data with
  | nil => rfl
  | cons datum rest ih => rw [flattenAll, ih, List.flatMap_cons]

/-- A datum whose tokens can be written. -/
def Writable (datum : Datum) : Prop := ∀ token ∈ datum.flatten, token.lexeme.Writable

theorem writable_atom_iff (atom : Atom) (line : Int) :
    (Datum.atom atom line).Writable ↔ atom.value.isWritable = true := by
  rw [Writable, flatten, List.forall_mem_singleton]
  cases atom with
  | integer n => exact ⟨fun writable => writable n rfl, fun writable m same => by cases same; exact writable⟩
  | string chars => exact ⟨fun _ => rfl, fun _ m same => by cases same⟩
  | symbol name => exact ⟨fun _ => rfl, fun _ m same => by cases same⟩

theorem writable_list_iff (items : List Datum) (line : Int) :
    (Datum.list items line).Writable ↔ ∀ item ∈ items, item.Writable := by
  have parenthesis (lexeme : Lexeme) (noInteger : ∀ n, lexeme ≠ .integer n) : lexeme.Writable := fun n isInteger =>
    absurd isInteger (noInteger n)
  rw [Writable, flatten, flattenAll_eq_flatMap]
  constructor
  · intro writable item member token inside
    exact writable token (by simp [List.mem_flatMap_of_mem member inside])
  · intro writable token inside
    simp only [List.mem_append, List.mem_cons, List.not_mem_nil, or_false] at inside
    rcases inside with (rfl | inside) | rfl
    · exact parenthesis _ (by simp)
    · obtain ⟨item, member, inside⟩ := List.mem_flatMap.mp inside
      exact writable item member token inside
    · exact parenthesis _ (by simp)

end Datum

namespace Nesting

/-- All data so far can be written. -/
structure Writable (nesting : Nesting) : Prop where
  data : ∀ datum ∈ nesting.data, datum.Writable
  pending : ∀ inner ∈ nesting.pending, ∀ datum ∈ inner.items, datum.Writable

variable {nesting : Nesting}

theorem Writable.add (writable : nesting.Writable) {datum : Datum} (also : datum.Writable) :
    (nesting.add datum).Writable := by
  obtain ⟨data, pending⟩ := nesting
  cases pending with
  | nil => exact ⟨List.forall_mem_cons.mpr ⟨also, writable.data⟩, writable.pending⟩
  | cons inner outer =>
    obtain ⟨innermost, others⟩ := List.forall_mem_cons.mp writable.pending
    exact ⟨writable.data, List.forall_mem_cons.mpr ⟨List.forall_mem_cons.mpr ⟨also, innermost⟩, others⟩⟩

theorem Writable.step (writable : nesting.Writable) {token : Token} (also : token.lexeme.Writable) (text : Text) :
    Ends (Failure.OfText text) Writable (nesting.step token) := by
  unfold Nesting.step
  split
  · refine ⟨writable.data, List.forall_mem_cons.mpr ⟨?_, writable.pending⟩⟩
    exact fun datum member => by cases member
  · split
    · trivial
    · next inner outer isPending =>
      have pending := writable.pending
      rw [isPending] at pending
      obtain ⟨innermost, others⟩ := List.forall_mem_cons.mp pending
      have closed : Writable { nesting with pending := outer } := ⟨writable.data, others⟩
      refine closed.add ((Datum.writable_list_iff ..).mpr fun item member => ?_)
      exact innermost item (List.mem_reverse.mp member)
  · exact writable.add ((Datum.writable_atom_iff ..).mpr rfl)
  · next n isInteger => exact writable.add ((Datum.writable_atom_iff ..).mpr (also n isInteger))
  · exact writable.add ((Datum.writable_atom_iff ..).mpr rfl)

end Nesting

/-- Data that are read can be written. -/
theorem Datum.read_ends (text : Text) (line : Int) :
    Ends (Failure.OfText text) (fun data => ∀ datum ∈ data, datum.Writable) (Datum.read text line) := by
  refine (Token.scan_ends text line).bind fun tokens areWritable => ?_
  have start : Nesting.Writable ⟨[], []⟩ :=
    ⟨fun datum member => (by cases member), fun inner member => (by cases member)⟩
  refine (Ends.foldlM tokens (fun nesting token member writable =>
    writable.step (areWritable token member) text) start).bind fun nesting writable => ?_
  unfold Nesting.finish
  split
  · exact fun datum member => writable.data datum (List.mem_reverse.mp member)
  · trivial

namespace Header

/-- A header whose arguments can be written. -/
def Writable : Header → Prop
  | funcall _ arguments => ∀ value ∈ arguments, value.isWritable = true
  | _ => True

theorem writable_ofData {kind : Kind} {data : List Datum} (writable : ∀ datum ∈ data, datum.Writable) {header : Header}
    (success : ofData kind data = .ok header) : header.Writable := by
  cases kind with
  | funcall =>
    simp only [ofData] at success
    split at success
    · next name line arguments =>
      split at success
      · cases success
      · next values made =>
        cases success
        intro value member
        obtain ⟨datum, inArguments, isValue⟩ := (mapM_eq_some made).2.2 value member
        cases datum with
        | list items line => cases isValue
        | atom atom line =>
          cases isValue
          exact (Datum.writable_atom_iff atom line).mp (writable _ (List.mem_cons_of_mem _ inArguments))
    · cases success
  | _ =>
    have kept := kind_of_ofData success
    cases header with
    | funcall name arguments => cases kept
    | _ => trivial

/-- A header that can be read has arguments that can be written. -/
theorem read_ends (kind : Kind) (text : Text) (line : Int) :
    Ends (Failure.OfText text) Writable (read kind text line) := by
  refine (Datum.read_ends text line).bind fun data writable => ?_
  split
  · next header success => exact writable_ofData writable success
  · trivial

end Header

namespace Node

variable {datum : Datum} {data : List Datum} {text : Text}

theorem ofArgument_ends (writable : datum.Writable) : Ends (Failure.OfText text) IsArgument (ofArgument datum) := by
  have literal (value : Value) (line : Option Int) (shown : value.isWritable = true) :
      IsArgument (.literal value line) := ⟨rfl, List.forall_mem_singleton.mpr shown⟩
  cases datum with
  | list items line => trivial
  | atom atom line =>
    have shown := (Datum.writable_atom_iff atom line).mp writable
    cases atom with
    | integer n => exact literal _ _ shown
    | string chars => exact literal _ _ shown
    | symbol name => exact ⟨rfl, fun value member => by cases member⟩

theorem mapM_ofArgument_ends (writable : ∀ datum ∈ data, datum.Writable) :
    Ends (Failure.OfText text) (fun nodes => ∀ node ∈ nodes, node.IsArgument) (data.mapM ofArgument) :=
  .mapM data fun datum member => ofArgument_ends (writable datum member)

mutual

/-- What is read from a datum that can be written is a form that can be run. -/
theorem ofDatum_ends (datum : Datum) (writable : datum.Writable) :
    Ends (Failure.OfText text) Runnable (ofDatum datum) := by
  match datum with
  | .atom found line =>
    have shown : (Fault.notAForm found.value).isWritable = true := (Datum.writable_atom_iff found line).mp writable
    rw [ofDatum, Failure.onLine, if_pos shown]
    trivial
  | .list [] line =>
    rw [ofDatum]
    trivial
  | .list (head :: rest) line =>
    obtain ⟨_, restWritable⟩ := List.forall_mem_cons.mp ((Datum.writable_list_iff ..).mp writable)
    rw [ofDatum.eq_def]
    dsimp only
    cases head.symbol? with
    | none => trivial
    | some name =>
      dsimp only
      split_ifs with isInsert noArguments isNewline noArguments isLoop isCall
      · trivial
      · exact (mapM_ofArgument_ends restWritable).bind fun arguments areArguments =>
          runnable_insert_iff.mpr areArguments
      · exact ⟨rfl, fun value member => by cases member⟩
      · trivial
      · rcases rest with _ | ⟨_ | ⟨_ | ⟨counter, _ | ⟨count, _ | _⟩⟩, _⟩, body⟩
        case cons.list.cons.cons.nil =>
          dsimp only
          cases counter.symbol? with
          | none => trivial
          | some counter =>
            obtain ⟨headWritable, bodyWritable⟩ := List.forall_mem_cons.mp restWritable
            have countWritable : count.Writable := (Datum.writable_list_iff ..).mp headWritable count (by simp)
            refine (ofData_ends body bodyWritable).bind fun forms areRunnable => ?_
            exact (ofArgument_ends countWritable).bind fun count isArgument =>
              runnable_loop_iff.mpr ⟨isArgument, areRunnable⟩
        all_goals trivial
      · rcases rest with _ | ⟨⟨_ | _ | function, _⟩ | _, arguments⟩
        case cons.atom.symbol =>
          obtain ⟨_, argumentsWritable⟩ := List.forall_mem_cons.mp restWritable
          exact (mapM_ofArgument_ends argumentsWritable).bind fun arguments areArguments =>
            runnable_call_iff.mpr areArguments
        all_goals trivial
      · trivial

theorem ofData_ends (data : List Datum) (writable : ∀ datum ∈ data, datum.Writable) :
    Ends (Failure.OfText text) (fun nodes => ∀ node ∈ nodes, node.Runnable) (ofData data) := by
  match data with
  | [] =>
    rw [ofData]
    exact fun node member => by cases member
  | datum :: rest =>
    obtain ⟨first, others⟩ := List.forall_mem_cons.mp writable
    rw [ofData]
    refine (ofDatum_ends datum first).bind fun form isRunnable => ?_
    exact (ofData_ends rest others).bind fun forms areRunnable => List.forall_mem_cons.mpr ⟨isRunnable, areRunnable⟩

end

/-- A body that can be read consists of forms that can be run. -/
theorem readBody_ends (text : Text) (line : Int) :
    Ends (Failure.OfText text) (fun nodes => ∀ node ∈ nodes, node.Runnable) (readBody text line) :=
  (Datum.read_ends text line).bind fun data writable => ofData_ends data writable

end Node

end Regen
