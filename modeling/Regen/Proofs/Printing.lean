import Mathlib.Data.List.Induction
import Regen.Node.Printer
import Regen.Proofs.Lexing

/-! # Data that are written and read

A datum is written as its atoms, with single spaces between the items of a list and parentheses around them. Integers in
decimal, string literals and names are spelled so that each is one lexeme, and the tokens of a datum nest into the datum
again. So data that are written and read are the same up to the lines on which they stand.
-/

namespace Regen

namespace Text

/-- A text that is taken for an integer: decimal digits, at least one, with an optional minus sign in front. -/
def IsInteger (word : Text) : Prop := ∃ number, number ≠ [] ∧ IsNumber number ∧ (word = number ∨ word = '-' :: number)

/-- A text that is a name when it stands in a header or body. -/
structure IsName (name : Text) : Prop where
  nonempty : name ≠ []
  unbroken : ∀ c ∈ name, Lexer.isDelimiter c = false
  notInteger : ¬ IsInteger name

section Integers

variable {word number : Text} {n : Nat}

theorem integer?_of_digits? (nonempty : number ≠ []) (read : digits? number = some n) :
    integer? number = some (n : Int) := by
  obtain ⟨c, rest, rfl⟩ := List.exists_cons_of_ne_nil nonempty
  have notMinus : c ≠ '-' := by
    rintro rfl
    exact (digits?_eq_some read).1.not_mem (by decide) (List.mem_cons_self ..)
  rw [integer?.eq_4 _ (by simp) (by simp [notMinus]) (by simp [notMinus]), read]
  rfl

theorem integer?_minus_of_digits? (nonempty : number ≠ []) (read : digits? number = some n) :
    integer? ('-' :: number) = some (-n : Int) := by
  rw [integer?.eq_3 _ (by simpa using nonempty), read]
  rfl

theorem isInteger_iff : IsInteger word ↔ (integer? word).isSome = true := by
  constructor
  · rintro ⟨number, nonempty, isNumber, rfl | rfl⟩
    · obtain ⟨n, read⟩ := isNumber.exists_digits?
      rw [integer?_of_digits? nonempty read]
      rfl
    · obtain ⟨n, read⟩ := isNumber.exists_digits?
      rw [integer?_minus_of_digits? nonempty read]
      rfl
  · intro isSome
    obtain ⟨n, read⟩ := Option.isSome_iff_exists.mp isSome
    unfold integer? at read
    split at read
    · cases read
    · cases read
    · next digits nonempty =>
      obtain ⟨m, cast, rfl⟩ := Option.map_eq_some_iff.mp read
      obtain ⟨k, digitsRead, cast⟩ := Option.bind_eq_some_iff.mp cast
      exact ⟨digits, nonempty, (digits?_eq_some digitsRead).1, .inr rfl⟩
    · next nonempty _ _ =>
      obtain ⟨m, digitsRead, rfl⟩ := Option.map_eq_some_iff.mp read
      exact ⟨word, nonempty, (digits?_eq_some digitsRead).1, .inl rfl⟩

theorem IsName.spelled {name : Text} (isName : IsName name) : (Lexeme.symbol name).Spelled name := by
  have notRead : integer? name = none := by
    rw [← Option.not_isSome_iff_eq_none, ← isInteger_iff]
    exact isName.notInteger
  exact .word isName.nonempty isName.unbroken (by simp only [Lexeme.ofWord, notRead])

instance (name : Text) : Decidable (IsName name) :=
  decidable_of_iff ((!name.isEmpty && name.all (!Lexer.isDelimiter ·) && (integer? name).isNone) = true) <| by
    simp only [Bool.and_eq_true, Bool.not_eq_true', List.isEmpty_eq_false_iff, List.all_eq_true,
      Option.isNone_iff_eq_none, ← Option.not_isSome_iff_eq_none, ← isInteger_iff]
    exact ⟨fun parts => ⟨parts.1.1, parts.1.2, parts.2⟩, fun isName => ⟨⟨isName.1, isName.2⟩, isName.3⟩⟩

end Integers

section Decimal

variable {c : Char} {number : Text}

theorem digit?_of_isDigit (isDigit : c.isDigit = true) : digit? c = some (c.toNat - '0'.toNat) := by
  have bounds : 48 ≤ c.toNat ∧ c.toNat ≤ 57 := Char.isDigit_iff_toNat.mp isDigit
  have first : digitZeros.find? (fun first => first ≤ c.toNat && c.toNat ≤ first + 9) = some 48 :=
    List.find?_cons_of_pos (by simpa using bounds)
  rw [digit?, first]
  rfl

theorem not_isDelimiter_of_isDigit (isDigit : c.isDigit = true) : Lexer.isDelimiter c = false := by
  have bounds : 48 ≤ c.toNat ∧ c.toNat ≤ 57 := Char.isDigit_iff_toNat.mp isDigit
  have differs (d : Char) (outside : d.toNat < 48 ∨ 57 < d.toNat) : (c == d) = false := by
    rw [beq_eq_false_iff_ne]
    rintro rfl
    omega
  have notBlank : isBlank c = false := by
    simp only [isBlank, CharSet.contains, blanks, List.any_cons, List.any_nil, Bool.or_false, Bool.or_eq_false_iff,
      Bool.and_eq_false_iff, decide_eq_false_iff_not]
    omega
  simp only [Lexer.isDelimiter, notBlank, differs '(' (by decide), differs ')' (by decide), differs '"' (by decide),
    differs ';' (by decide), Bool.or_self]

/-- A row of the digits in which integers are written denotes its decimal value. -/
theorem digits?_of_isDigit (areDigits : ∀ c ∈ number, c.isDigit = true) :
    digits? number = some (Nat.ofDigitChars 10 number 0) := by
  have each : number.mapM digit? = some (number.map fun c => c.toNat - '0'.toNat) := by
    induction number with
    | nil => rfl
    | cons c number ih =>
      rw [List.forall_mem_cons] at areDigits
      rw [List.mapM_cons, digit?_of_isDigit areDigits.1, ih areDigits.2]
      rfl
  rw [digits?, each, Option.map_some, List.foldl_map, Nat.ofDigitChars_eq_foldl]
  simp only [Nat.mul_comm 10]

theorem isDigit_of_mem_ofNat {n : Nat} (member : c ∈ ofNat n) : c.isDigit = true :=
  Nat.isDigit_of_mem_toDigits (by decide) (by decide) member

theorem digits?_ofNat (n : Nat) : digits? (ofNat n) = some n := by
  rw [digits?_of_isDigit fun c => isDigit_of_mem_ofNat]
  exact congrArg some (Nat.ofDigitChars_ten_toDigits ..)

theorem ofNat_ne_nil (n : Nat) : ofNat n ≠ [] := Nat.toDigits_ne_nil

theorem isNumber_ofNat (n : Nat) : IsNumber (ofNat n) := (digits?_eq_some (digits?_ofNat n)).1

/-- An integer in decimal is its magnitude, after a minus sign if it is negative. -/
theorem ofInt_cases (n : Int) :
    (n = n.natAbs ∧ ofInt n = ofNat n.natAbs) ∨ (n = -n.natAbs ∧ ofInt n = '-' :: ofNat n.natAbs) := by
  cases n with
  | ofNat n => exact .inl ⟨rfl, rfl⟩
  | negSucc n => exact .inr ⟨rfl, rfl⟩

theorem integer?_ofInt (n : Int) : integer? (ofInt n) = some n := by
  obtain ⟨isPlain, written⟩ | ⟨isNegative, written⟩ := ofInt_cases n
  · rw [written, integer?_of_digits? (ofNat_ne_nil _) (digits?_ofNat _)]
    exact congrArg some isPlain.symm
  · rw [written, integer?_minus_of_digits? (ofNat_ne_nil _) (digits?_ofNat _)]
    exact congrArg some isNegative.symm

/-- An integer that can be written is read again. -/
theorem spelled_ofInt {n : Int} (writable : (Value.int n).isWritable = true) :
    (Lexeme.integer n).Spelled (ofInt n) := by
  have short : (ofNat n.natAbs).length ≤ Value.maxDigits := by simpa [Value.isWritable] using writable
  have digits : (ofInt n).filter (· != '-') = ofNat n.natAbs := by
    obtain ⟨_, written⟩ | ⟨_, written⟩ := ofInt_cases n
    · rw [written, (isNumber_ofNat _).filter_ne_minus]
    · rw [written, List.filter_cons_of_neg (by simp), (isNumber_ofNat _).filter_ne_minus]
  have unbroken : ∀ c ∈ ofNat n.natAbs, Lexer.isDelimiter c = false :=
    fun c member => not_isDelimiter_of_isDigit (isDigit_of_mem_ofNat member)
  have means : Lexeme.ofWord (ofInt n) = .ok (.integer n) := by
    simp only [Lexeme.ofWord, integer?_ofInt, digits, gt_iff_lt, Nat.not_lt.mpr short, if_false]
  obtain ⟨_, written⟩ | ⟨_, written⟩ := ofInt_cases n
  · rw [written] at means ⊢
    exact .word (ofNat_ne_nil _) unbroken means
  · rw [written] at means ⊢
    exact .word (List.cons_ne_nil _ _) (List.forall_mem_cons.mpr ⟨by decide, unbroken⟩) means

end Decimal

/-- What stands between the quotes of a literal denotes its text. -/
theorem quoted_flatMap_literalChar (chars : Text) : Quoted (chars.flatMap literalChar) chars := by
  induction chars using List.reverseRecOn with
  | nil => exact .nil
  | append_singleton chars c ih =>
    rw [List.flatMap_append, List.flatMap_singleton, literalChar]
    split
    · next special =>
      have same : (Lexer.unescape c).reverse = [c] := by
        have isSpecial : c = '"' ∨ c = '\\' := by simpa using special
        rcases isSpecial with rfl | rfl <;> rfl
      have quoted := ih.escape c
      rwa [same] at quoted
    · next plain =>
      simp only [Bool.or_eq_true, beq_iff_eq, not_or] at plain
      exact ih.plain plain.1 plain.2

theorem spelled_literal (chars : Text) : (Lexeme.string chars).Spelled chars.literal :=
  .string (quoted_flatMap_literalChar chars)

end Text

namespace Atom

def print : Atom → Text
  | integer n => Text.ofInt n
  | string chars => chars.literal
  | symbol name => name

/-- Whether an atom can be written: an integer must not have too many digits, and a name must be one. -/
def IsPrintable : Atom → Prop
  | integer n => (Value.int n).isWritable = true
  | string _ => True
  | symbol name => name.IsName

theorem IsPrintable.spelled {atom : Atom} (printable : atom.IsPrintable) : atom.lexeme.Spelled atom.print := by
  cases atom with
  | integer n => exact Text.spelled_ofInt printable
  | string chars => exact Text.spelled_literal chars
  | symbol name => exact Text.IsName.spelled printable

end Atom

namespace Datum

mutual

def print : Datum → Text
  | atom a _ => a.print
  | list items _ => Node.printList (printAll items)

def printAll : List Datum → List Text
  | [] => []
  | datum :: rest => datum.print :: printAll rest

end

@[simp] theorem printAll_eq_map (data : List Datum) : printAll data = data.map print := by
  induction data with
  | nil => rfl
  | cons datum rest ih => rw [printAll, ih, List.map_cons]

@[simp] theorem print_list (items : List Datum) (line : Int) :
    (list items line).print = Node.printList (items.map print) := by rw [print, printAll_eq_map]

/-- Whether all atoms of a datum can be written. -/
inductive IsPrintable : Datum → Prop
  | atom {a : Atom} (line : Int) (printable : a.IsPrintable) : IsPrintable (atom a line)
  | list {items : List Datum} (line : Int) (printable : ∀ item ∈ items, item.IsPrintable) :
      IsPrintable (list items line)

def lexemes (datum : Datum) : List Lexeme := datum.flatten.map Token.lexeme

theorem lexemes_list (items : List Datum) (line : Int) :
    (list items line).lexemes = .opening :: (items.map lexemes).flatten ++ [.closing] := by
  rw [lexemes, flatten, flattenAll_eq_flatMap, List.map_append, List.map_cons, List.map_flatMap, List.flatMap_def]
  rfl

theorem forall₂_writes {data : List Datum} (writes : ∀ datum ∈ data, Writes datum.print datum.lexemes) :
    List.Forall₂ Writes (data.map print) (data.map lexemes) := by
  rw [List.forall₂_map_left_iff, List.forall₂_map_right_iff, List.forall₂_same]
  exact writes

/-- What is written for a datum falls into its lexemes. -/
theorem IsPrintable.writes {datum : Datum} (printable : datum.IsPrintable) : Writes datum.print datum.lexemes := by
  induction printable with
  | atom line printable => exact .spelled printable.spelled
  | @list items line _ ih =>
    have items := Writes.intercalate (by decide : Text.isBlank ' ' = true) (forall₂_writes ih)
    have closes : ∀ c ∈ [')'].head?, Lexer.isDelimiter c = true := by
      rintro c ⟨⟩
      decide
    rw [print_list, lexemes_list]
    exact (items.append closes (.spelled .closing)).opening_cons

end Datum

namespace Nesting

/-- Adding data one after the other. -/
theorem foldl_add (data items finished : List Datum) (line : Int) (outer : List OpenList) :
    data.foldl add ⟨finished, ⟨line, items⟩ :: outer⟩ = ⟨finished, ⟨line, data.reverse ++ items⟩ :: outer⟩ := by
  induction data generalizing items with
  | nil => rfl
  | cons datum data ih =>
    rw [List.reverse_cons, List.append_assoc]
    exact ih (datum :: items)

theorem foldl_add_outside (data finished : List Datum) :
    data.foldl add ⟨finished, []⟩ = ⟨data.reverse ++ finished, []⟩ := by
  induction data generalizing finished with
  | nil => rfl
  | cons datum data ih =>
    rw [List.reverse_cons, List.append_assoc]
    exact ih (datum :: finished)

mutual

/-- The tokens of a datum add the datum. -/
theorem foldlM_flatten (datum : Datum) (nesting : Nesting) :
    datum.flatten.foldlM step nesting = .ok (nesting.add datum) := by
  match datum with
  | .atom a line => cases a <;> rfl
  | .list items line =>
    obtain ⟨finished, outer⟩ := nesting
    have opens : step ⟨finished, outer⟩ ⟨.opening, line⟩ = .ok ⟨finished, ⟨line, []⟩ :: outer⟩ := rfl
    rw [Datum.flatten, List.cons_append, List.foldlM_cons, opens]
    change (Datum.flattenAll items ++ [(⟨.closing, line⟩ : Token)]).foldlM step _ = _
    have closes : step ⟨finished, ⟨line, items.reverse⟩ :: outer⟩ ⟨.closing, line⟩ =
        .ok (add ⟨finished, outer⟩ (.list items line)) := by simp only [step, List.reverse_reverse]
    rw [List.foldlM_append, foldlM_flattenAll items, foldl_add, List.append_nil]
    exact congrArg (· >>= pure) closes

theorem foldlM_flattenAll (data : List Datum) (nesting : Nesting) :
    (Datum.flattenAll data).foldlM step nesting = .ok (data.foldl add nesting) := by
  match data with
  | [] => rfl
  | datum :: rest =>
    rw [Datum.flattenAll, List.foldlM_append, foldlM_flatten datum]
    exact foldlM_flattenAll rest _

end

end Nesting

namespace Datum

/-- The tokens of data nest into the data. -/
theorem ofTokens_flattenAll (data : List Datum) : ofTokens (flattenAll data) = .ok data := by
  rw [ofTokens, Nesting.foldlM_flattenAll, Nesting.foldl_add_outside, List.append_nil]
  exact congrArg Except.ok data.reverse_reverse

abbrev unplaced (datum : Datum) : Datum := datum.relocate fun _ => 0

mutual

theorem flatten_relocate (move : Int → Int) (datum : Datum) :
    (datum.relocate move).flatten = datum.flatten.map (Token.relocate move) := by
  match datum with
  | .atom a line => rfl
  | .list items line =>
    rw [relocate, flatten, flatten, flattenAll_relocateAll move items, List.map_append]
    rfl

theorem flattenAll_relocateAll (move : Int → Int) (data : List Datum) :
    flattenAll (relocateAll move data) = (flattenAll data).map (Token.relocate move) := by
  match data with
  | [] => rfl
  | datum :: rest =>
    rw [relocateAll, flattenAll, flattenAll, flatten_relocate move datum, flattenAll_relocateAll move rest,
      List.map_append]

end

/-- Tokens with the lexemes of data nest into these data, on other lines. -/
theorem ofTokens_of_lexemes {tokens : List Token} {data : List Datum}
    (same : tokens.map Token.lexeme = (data.map lexemes).flatten) :
    ∃ read, ofTokens tokens = .ok read ∧ read.map unplaced = data.map unplaced := by
  have relocated (tokens : List Token) :
      tokens.map (Token.relocate fun _ => 0) = (tokens.map Token.lexeme).map fun lexeme => ⟨lexeme, 0⟩ := by
    rw [List.map_map]
    rfl
  have sameTokens : tokens.map (Token.relocate fun _ => 0) = flattenAll (data.map unplaced) := by
    rw [← relocateAll_eq_map, flattenAll_relocateAll, relocated, relocated, same, flattenAll_eq_flatMap,
      List.map_flatMap, List.flatMap_def]
    rfl
  have nested := ofTokens_flattenAll (data.map unplaced)
  rw [← sameTokens, ofTokens_relocate] at nested
  exact relabel_eq_ok nested

/-- Data that are written with blanks between them and read are the same up to their lines. -/
theorem read_print {separator : Char} (isBlank : Text.isBlank separator = true) {data : List Datum}
    (printable : ∀ datum ∈ data, datum.IsPrintable) (line : Int) :
    ∃ data', read ([separator].intercalate (data.map print)) line = .ok data' ∧
      data'.map unplaced = data.map unplaced := by
  have writes := Writes.intercalate isBlank (forall₂_writes fun datum member => (printable datum member).writes)
  obtain ⟨tokens, scanned, lexemes⟩ := writes.scan line
  rw [read, scanned]
  exact ofTokens_of_lexemes lexemes

end Datum

end Regen
