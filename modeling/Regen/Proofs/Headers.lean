import Mathlib.Logic.ExistsUnique
import Regen.Header.Printer
import Regen.Proofs.Pairing
import Regen.Proofs.Partners
import Regen.Proofs.Printing
import Regen.Proofs.Provenance

/-! # Headers that are written and read

A header is valid if its names are names, its parameters differ, the arguments of a call are texts or integers without
too many digits, and a template has one slot. Valid headers are those that can be written: each is read back from every
way to write it, whichever names among the texts of a call stand without quotes and however a literal escapes its
characters, and nothing but valid headers is ever read.
-/

namespace Regen

/-! ## Slots of a template -/

namespace Text

variable {needle text before after : Text}

/-- No occurrence of the needle starts before the first one. -/
theorem length_le_of_splitAtFirst? (split : splitAtFirst? needle text = some (before, after)) {earlier later : Text}
    (occurs : text = earlier ++ needle ++ later) : before.length ≤ earlier.length := by
  induction text generalizing before earlier with
  | nil =>
    obtain ⟨rfl, -⟩ : before = [] ∧ needle ++ after = [] := by simpa using eq_of_splitAtFirst? split
    exact Nat.zero_le _
  | cons c rest ih =>
    rw [splitAtFirst?] at split
    split at split
    · cases split
      exact Nat.zero_le _
    · next noPrefix =>
      obtain ⟨⟨start, tail⟩, found, same⟩ := Option.map_eq_some_iff.mp split
      cases same
      obtain _ | ⟨d, earlier⟩ := earlier
      · have starts : needle.isPrefixOf? (c :: rest) = some later :=
          List.isPrefixOf?_eq_some_iff_append_eq.mpr occurs.symm
        rw [starts] at noPrefix
        cases noPrefix
      · have shorter := ih found (List.cons.inj occurs).2
        rw [List.length_cons, List.length_cons]
        omega

theorem exists_splitAtFirst? (occurs : needle <:+: text) : ∃ parts, splitAtFirst? needle text = some parts := by
  induction text with
  | nil =>
    obtain rfl := List.infix_nil.mp occurs
    exact ⟨([], []), rfl⟩
  | cons c rest ih =>
    rw [splitAtFirst?]
    cases starts : needle.isPrefixOf? (c :: rest) with
    | some after => exact ⟨_, rfl⟩
    | none =>
      rcases List.infix_cons_iff.mp occurs with ⟨after, isPrefix⟩ | inside
      · rw [List.isPrefixOf?_eq_some_iff_append_eq.mpr isPrefix] at starts
        cases starts
      · obtain ⟨parts, found⟩ := ih inside
        exact ⟨_, by rw [found]; rfl⟩

end Text

namespace Template

variable {template before after : Text}

/-- A template with exactly one slot: it falls into a slot and what stands around it in a single way. -/
def HasSingleSlot (template : Text) : Prop := ∃! parts : Text × Text, template = parts.1 ++ slot ++ parts.2

/-- A slot that starts inside a text with a slot in front is this slot or stands behind it: the two cannot overlap. -/
theorem slot_apart {distance later : Text} (same : slot ++ after = distance ++ slot ++ later) :
    (distance = [] ∧ after = later) ∨ slot <:+: after := by
  obtain _ | ⟨c, _ | ⟨d, distance⟩⟩ := distance
  · exact .inl ⟨rfl, List.append_cancel_left same⟩
  · have second : 's' = '%' := (List.cons.inj (List.cons.inj same).2).1
    exact absurd second (by decide)
  · have behind : after = distance ++ slot ++ later := (List.cons.inj (List.cons.inj same).2).2
    exact .inr ⟨distance, later, behind.symm⟩

theorem hasOneSlot_iff : hasOneSlot template = true ↔ HasSingleSlot template := by
  unfold hasOneSlot
  constructor
  · intro one
    split at one
    · cases one
    · next before after split =>
      have isSplit := Text.eq_of_splitAtFirst? split
      refine ⟨(before, after), isSplit, ?_⟩
      rintro ⟨earlier, later⟩ occurs
      dsimp only at occurs
      -- the other slot starts no earlier, so it lies some distance behind the first one
      have first := Text.length_le_of_splitAtFirst? split occurs
      have parts : before ++ (slot ++ after) = earlier ++ (slot ++ later) := by
        rw [← List.append_assoc, ← List.append_assoc, ← isSplit, ← occurs]
      obtain ⟨distance, rfl, same⟩ | ⟨distance, rfl, same⟩ := List.append_eq_append_iff.mp parts
      · rw [← List.append_assoc] at same
        rcases slot_apart same with ⟨rfl, rfl⟩ | again
        · rw [List.append_nil]
        · rw [(Text.occursIn_iff_infix ..).mpr again] at one
          cases one
      · obtain rfl : distance = [] := by
          rw [List.length_append] at first
          exact List.length_eq_zero_iff.mp (by omega)
        rw [List.nil_append] at same
        rw [List.append_nil, List.append_cancel_left same]
  · rintro ⟨⟨before, after⟩, isSplit, single⟩
    obtain ⟨⟨first, rest⟩, split⟩ := Text.exists_splitAtFirst? (⟨before, after, isSplit.symm⟩ : slot <:+: template)
    rw [split]
    dsimp only
    rw [Bool.not_eq_true', Bool.eq_false_iff]
    intro again
    obtain ⟨between, later, isRest⟩ := (Text.occursIn_iff_infix ..).mp again
    have isFirst := Text.eq_of_splitAtFirst? split
    have isSecond : template = (first ++ slot ++ between) ++ slot ++ later := by
      rw [isFirst, ← isRest]
      simp only [List.append_assoc]
    have same := (single (first, rest) isFirst).trans (single (_, later) isSecond).symm
    have lengths := congrArg (fun parts => parts.1.length) same
    simp only [List.length_append] at lengths
    have nonempty : slot.length = 2 := rfl
    omega

/-- A line replaces the slot, and what stands around it is kept. -/
theorem fill_of_single (single : HasSingleSlot (before ++ slot ++ after)) (line : Text) :
    fill (before ++ slot ++ after) line = before ++ line ++ after := by
  have occurs : slot <:+: before ++ slot ++ after := ⟨before, after, rfl⟩
  obtain ⟨⟨first, rest⟩, split⟩ := Text.exists_splitAtFirst? occurs
  have isSplit : before ++ slot ++ after = (first, rest).1 ++ slot ++ (first, rest).2 := Text.eq_of_splitAtFirst? split
  obtain ⟨rfl, rfl⟩ := Prod.mk.inj (single.unique isSplit (rfl : _ = (before, after).1 ++ slot ++ (before, after).2))
  rw [fill, split]

end Template

/-! ## What can be read -/

namespace Lexeme

theorem ofWord_eq_symbol {word name : Text} (means : ofWord word = .ok (symbol name)) :
    name = word ∧ Text.integer? word = none := by
  unfold ofWord at means
  split at means
  · next notInteger =>
    cases means
    exact ⟨rfl, notInteger⟩
  · dsimp only at means
    split at means
    · cases means
    · cases means

end Lexeme

/-- The atoms that can be written are those that some text spells. -/
theorem Atom.IsPrintable.of_spelled {atom : Atom} {written : Text} (spelled : atom.lexeme.Spelled written) :
    atom.IsPrintable := by
  cases atom with
  | string chars => trivial
  | integer n =>
    cases spelled with
    | word nonempty unbroken means =>
      have writable := Lexeme.ofWord_ends written
      rw [means] at writable
      exact writable n rfl
  | symbol name =>
    cases spelled with
    | word nonempty unbroken means =>
      obtain ⟨rfl, notInteger⟩ := Lexeme.ofWord_eq_symbol means
      refine ⟨nonempty, unbroken, fun isInteger => ?_⟩
      rw [Text.isInteger_iff, notInteger] at isInteger
      cases isInteger

namespace Datum

/-- Data whose tokens are spelled can be written. -/
theorem IsPrintable.of_spelled {datum : Datum}
    (spelled : ∀ token ∈ datum.flatten, token.lexeme ≠ .closing → ∃ written, token.lexeme.Spelled written) :
    datum.IsPrintable := by
  match datum with
  | .atom a line =>
    have notClosing : a.lexeme ≠ .closing := by cases a <;> simp [Atom.lexeme]
    obtain ⟨written, spelled⟩ := spelled ⟨a.lexeme, line⟩ (List.mem_singleton_self _) notClosing
    exact .atom line (.of_spelled spelled)
  | .list items line =>
    refine .list line fun item member => of_spelled fun token inside notClosing => ?_
    apply spelled token ?_ notClosing
    rw [flatten, flattenAll_eq_flatMap]
    simp [List.mem_flatMap_of_mem member inside]

/-- Everything that is read can be written. -/
theorem isPrintable_of_read {text : Text} {line : Int} {data : List Datum} (isRead : read text line = .ok data) :
    ∀ datum ∈ data, datum.IsPrintable := by
  obtain ⟨tokens, scanned, nested⟩ := bind_eq_ok isRead
  obtain ⟨spots, lexes, rfl⟩ := Token.scan_eq_ok_iff.mp scanned
  have flattens := ofTokens_eq_ok_iff.mp nested
  intro datum member
  refine .of_spelled fun token inside notClosing => ?_
  have told : token.essence ∈ (spots.map (Spot.token line)).map Token.essence := by
    rw [← flattens, flattenAll_eq_flatMap]
    exact List.mem_map_of_mem (List.mem_flatMap_of_mem member inside)
  obtain ⟨spot, isSpot, rfl⟩ := List.mem_map.mp (Token.mem_of_essence_mem told notClosing)
  exact lexes.spelled spot isSpot

end Datum

/-! ## Valid headers -/

namespace Header

/-- An argument that the header of a call can hold: a text, or an integer without too many digits. -/
def IsArgument : Value → Prop
  | .text _ => True
  | .int n => (Value.int n).isWritable = true
  | .bool _ => False

/-- A header that can be written. -/
def IsValid : Header → Prop
  | defun name parameters => name.IsName ∧ (∀ parameter ∈ parameters, parameter.IsName) ∧ parameters.Nodup
  | funcall name arguments => name.IsName ∧ ∀ argument ∈ arguments, IsArgument argument
  | block name | lines name => name.IsName
  | formatLines name template => name.IsName ∧ Template.HasSingleSlot template
  | message _ => True

/-- How the header of a call may write an argument: an integer in decimal, a text as a literal, and a name also bare. -/
inductive WritesArgument : (value : Value) → (written : Text) → Prop
  | integer (n : Int) : WritesArgument (.int n) (Text.ofInt n)
  | literal {body chars : Text} (quoted : Quoted body chars) : WritesArgument (.text chars) ('"' :: (body ++ ['"']))
  | bare {name : Text} (isName : name.IsName) : WritesArgument (.text name) name

/-- The ways to write a header, by the grammar of its kind. -/
inductive IsWritten : (header : Header) → (written : Text) → Prop
  | defun (name : Text) (parameters : List Text) :
      IsWritten (defun name parameters) (name ++ ' ' :: Node.printList parameters)
  | funcall (name : Text) {arguments : List Value} {written : List Text}
      (each : List.Forall₂ WritesArgument arguments written) :
      IsWritten (funcall name arguments) ([' '].intercalate (name :: written))
  | block (name : Text) : IsWritten (block name) name
  | lines (name : Text) : IsWritten (lines name) name
  | formatLines (name : Text) {body template : Text} (quoted : Quoted body template) :
      IsWritten (formatLines name template) (name ++ ' ' :: '"' :: (body ++ ['"']))
  | message {body text : Text} (quoted : Quoted body text) : IsWritten (message text) ('"' :: (body ++ ['"']))

/-! ## Reading what is written -/

theorem read_eq_ok_iff {kind : Kind} {text : Text} {line : Int} {header : Header} :
    read kind text line = .ok header ↔ ∃ data, Datum.read text line = .ok data ∧ ofData kind data = .ok header := by
  constructor
  · intro isRead
    obtain ⟨data, dataRead, made⟩ := bind_eq_ok isRead
    refine ⟨data, dataRead, ?_⟩
    cases found : ofData kind data with
    | error reason =>
      rw [found] at made
      cases made
    | ok other =>
      rw [found] at made
      cases made
      rfl
  · rintro ⟨data, dataRead, made⟩
    simp only [read, dataRead, made, bind, Except.bind]
    rfl

/-- Data that a header consists of are read from the texts that write them, with a space between two of them. -/
theorem read_of_parts {kind : Kind} {parts : List Text} {data : List Datum} {header : Header}
    (writes : List.Forall₂ (fun part datum => Writes part (Datum.lexemes datum)) parts data)
    (made : ofData kind data = .ok header) (line : Int) : read kind ([' '].intercalate parts) line = .ok header := by
  have joined := Writes.intercalate (by decide : Text.isBlank ' ' = true) (List.forall₂_map_right_iff.mpr writes)
  obtain ⟨tokens, scanned, lexemes⟩ := joined.scan line
  obtain ⟨found, nested, same⟩ := Datum.ofTokens_of_lexemes lexemes
  apply read_eq_ok_iff.mpr
  refine ⟨found, ?_, ?_⟩
  · rw [Datum.read, scanned]
    exact nested
  · rw [← ofData_relocate kind found fun _ => 0, same, ofData_relocate, made]

theorem read_of_part {kind : Kind} {part : Text} {datum : Datum} {header : Header} (writes : Writes part datum.lexemes)
    (made : ofData kind [datum] = .ok header) (line : Int) : read kind part line = .ok header := by
  have isRead := read_of_parts (.cons writes .nil) made line
  rwa [List.intercalate_singleton] at isRead

theorem read_of_pair {kind : Kind} {first second : Text} {datum other : Datum} {header : Header}
    (writes : Writes first datum.lexemes) (also : Writes second other.lexemes)
    (made : ofData kind [datum, other] = .ok header) (line : Int) :
    read kind (first ++ ' ' :: second) line = .ok header := by
  have isRead := read_of_parts (.cons writes (.cons also .nil)) made line
  rwa [List.intercalate_cons_cons, List.intercalate_singleton, List.append_assoc] at isRead

/-- A text that writes an argument spells an atom of its value. -/
theorem WritesArgument.exists_atom {value : Value} {written : Text} (writes : WritesArgument value written)
    (isArgument : IsArgument value) : ∃ atom : Atom, atom.value = value ∧ atom.lexeme.Spelled written := by
  cases writes with
  | integer n => exact ⟨.integer n, rfl, Text.spelled_ofInt isArgument⟩
  | literal quoted => exact ⟨.string _, rfl, .string quoted⟩
  | bare isName => exact ⟨.symbol _, rfl, isName.spelled⟩

/-- The atoms that a call passes on. -/
theorem exists_atoms {arguments : List Value} {written : List Text}
    (each : List.Forall₂ WritesArgument arguments written)
    (areArguments : ∀ argument ∈ arguments, IsArgument argument) :
    ∃ data, data.mapM argument? = some arguments ∧
      List.Forall₂ (fun part datum => Writes part (Datum.lexemes datum)) written data := by
  induction each with
  | nil => exact ⟨[], rfl, .nil⟩
  | cons writes each ih =>
    rw [List.forall_mem_cons] at areArguments
    obtain ⟨atom, isValue, spelled⟩ := writes.exists_atom areArguments.1
    obtain ⟨data, values, rest⟩ := ih areArguments.2
    refine ⟨.atom atom 0 :: data, ?_, .cons (.spelled spelled) rest⟩
    rw [List.mapM_cons, values, argument?, isValue]
    rfl

theorem mapM_symbol? (names : List Text) :
    (names.map fun name => Datum.atom (.symbol name) 0).mapM Datum.symbol? = some names := by
  induction names with
  | nil => rfl
  | cons name names ih =>
    rw [List.map_cons, List.mapM_cons, ih]
    rfl

variable {header : Header} {written : Text}

/-- A valid header is read from every text that writes it. -/
theorem IsWritten.read (isWritten : header.IsWritten written) (valid : header.IsValid) (line : Int) :
    read header.kind written line = .ok header := by
  have writesName {name : Text} (isName : name.IsName) : Writes name (Datum.lexemes (.atom (.symbol name) 0)) :=
    .spelled isName.spelled
  have writesLiteral {body chars : Text} (quoted : Quoted body chars) :
      Writes ('"' :: (body ++ ['"'])) (Datum.lexemes (.atom (.string chars) 0)) := .spelled (.string quoted)
  cases isWritten with
  | defun name parameters =>
    obtain ⟨isName, areNames, distinct⟩ := valid
    have printable : Datum.IsPrintable (.list (parameters.map fun name => .atom (.symbol name) 0) 0) :=
      .list 0 (List.forall_mem_map.mpr fun name member => .atom 0 (areNames name member))
    have writes := printable.writes
    have printed : (parameters.map fun name => Datum.atom (.symbol name) 0).map Datum.print = parameters := by
      rw [List.map_map]
      exact List.map_id' parameters
    rw [Datum.print_list, printed] at writes
    have made : ofData .defun [.atom (.symbol name) 0, .list (parameters.map fun name => .atom (.symbol name) 0) 0] =
        .ok (.defun name parameters) := by simp only [ofData, mapM_symbol?, distinct, if_true]
    exact read_of_pair (writesName isName) writes made line
  | @funcall name arguments parts each =>
    obtain ⟨isName, areArguments⟩ := valid
    obtain ⟨data, values, writes⟩ := exists_atoms each areArguments
    have made : ofData .funcall (.atom (.symbol name) 0 :: data) = .ok (.funcall name arguments) := by
      simp only [ofData, values]
    exact read_of_parts (.cons (writesName isName) writes) made line
  | block =>
    have made : ofData .block [.atom (.symbol written) 0] = .ok (.block written) := rfl
    exact read_of_part (writesName valid) made line
  | lines =>
    have made : ofData .lines [.atom (.symbol written) 0] = .ok (.lines written) := rfl
    exact read_of_part (writesName valid) made line
  | @formatLines name body template quoted =>
    obtain ⟨isName, single⟩ := valid
    have made : ofData .formatLines [.atom (.symbol name) 0, .atom (.string template) 0] =
        .ok (.formatLines name template) := by simp only [ofData, Template.hasOneSlot_iff.mpr single, if_true]
    exact read_of_pair (writesName isName) (writesLiteral quoted) made line
  | @message body text quoted =>
    have made : ofData .message [.atom (.string text) 0] = .ok (.message text) := rfl
    exact read_of_part (writesLiteral quoted) made line

/-- Strings are printed as literals and integers in decimal. -/
theorem isWritten_print (valid : header.IsValid) : header.IsWritten header.print := by
  have quotes := Text.quoted_flatMap_literalChar
  cases header with
  | defun name parameters =>
    have same : (defun name parameters).print = name ++ ' ' :: Node.printList parameters := by
      simp [print, Node.printList]
    rw [same]
    exact .defun name parameters
  | funcall name arguments =>
    refine .funcall name (List.forall₂_map_right_iff.mpr (List.forall₂_same.mpr fun argument member => ?_))
    have isArgument := valid.2 argument member
    cases argument with
    | int n => exact .integer n
    | text chars => exact .literal (quotes chars)
    | bool b => exact isArgument.elim
  | block name => exact .block name
  | lines name => exact .lines name
  | formatLines name template => exact .formatLines name (quotes template)
  | message text => exact .message (quotes text)

/-! ## What is read is valid -/

theorem isName_of_symbol? {datum : Datum} {name : Text} (printable : datum.IsPrintable)
    (named : datum.symbol? = some name) : name.IsName := by
  cases printable with
  | list line items => cases named
  | @atom a line printable =>
    cases a with
    | symbol other =>
      cases named
      exact printable
    | _ => cases named

theorem isArgument_of_argument? {datum : Datum} {value : Value} (printable : datum.IsPrintable)
    (isValue : argument? datum = some value) : IsArgument value := by
  cases printable with
  | list line items => cases isValue
  | @atom a line printable =>
    cases isValue
    cases a with
    | integer n => exact printable
    | _ => trivial

/-- Data that can be written make valid headers. -/
theorem isValid_of_ofData {kind : Kind} {data : List Datum} (printable : ∀ datum ∈ data, datum.IsPrintable)
    (made : ofData kind data = .ok header) : header.IsValid := by
  unfold ofData at made
  split at made
  · -- a function
    split at made
    · next name line parameters line' =>
      rw [List.forall_mem_cons, List.forall_mem_singleton] at printable
      obtain ⟨first, second⟩ := printable
      cases second with
      | list line' areNames =>
        split at made
        · cases made
        · next names named =>
          split at made
          · next distinct =>
            cases made
            refine ⟨isName_of_symbol? first rfl, fun parameter member => ?_, distinct⟩
            obtain ⟨datum, isItem, isSymbol⟩ := (mapM_eq_some named).2.2 parameter member
            exact isName_of_symbol? (areNames datum isItem) isSymbol
          · cases made
    · cases made
  · -- a call
    split at made
    · next name line arguments =>
      rw [List.forall_mem_cons] at printable
      split at made
      · cases made
      · next values valued =>
        cases made
        refine ⟨isName_of_symbol? printable.1 rfl, fun value member => ?_⟩
        obtain ⟨datum, isItem, isValue⟩ := (mapM_eq_some valued).2.2 value member
        exact isArgument_of_argument? (printable.2 datum isItem) isValue
    · cases made
  · -- a block
    split at made
    · cases made
      exact isName_of_symbol? (printable _ (List.mem_singleton_self _)) rfl
    · cases made
  · -- lines
    split at made
    · cases made
      exact isName_of_symbol? (printable _ (List.mem_singleton_self _)) rfl
    · cases made
  · -- a template for lines
    split at made
    · split at made
      · next oneSlot =>
        cases made
        exact ⟨isName_of_symbol? (printable _ (List.mem_cons_self ..)) rfl, Template.hasOneSlot_iff.mp oneSlot⟩
      · cases made
    · cases made
  · -- a message
    split at made
    · cases made
      trivial
    · cases made

theorem isValid_of_read {kind : Kind} {text : Text} {line : Int} (isRead : Header.read kind text line = .ok header) :
    header.IsValid := by
  obtain ⟨data, dataRead, made⟩ := read_eq_ok_iff.mp isRead
  exact isValid_of_ofData (Datum.isPrintable_of_read dataRead) made

/-- A valid header is read back from every way to write it, of which printing gives one; and whatever is read for the
name of a kind is a valid header of this kind. -/
theorem readNamed_isWritten (header : Header) :
    (header.IsValid → header.IsWritten header.print ∧
      ∀ written line, header.IsWritten written → readNamed header.kind.name written line = .ok header) ∧
    ∀ name text line, readNamed name text line = .ok header → name = header.kind.name ∧ header.IsValid := by
  constructor
  · intro valid
    refine ⟨isWritten_print valid, fun written line isWritten => ?_⟩
    rw [readNamed, Kind.ofName?_name]
    exact isWritten.read valid line
  · intro name text line isRead
    unfold readNamed at isRead
    split at isRead
    · next kind named =>
      rw [kind_of_read isRead]
      exact ⟨(Kind.name_of_ofName? named).symm, isValid_of_read isRead⟩
    · obtain ⟨data, dataRead, refused⟩ := bind_eq_ok isRead
      cases refused

/-- A call with a negative integer, a text that needs escapes, a name, and a text that looks like an integer. -/
def mixedCall : Header :=
  .funcall "f".toList [.int (-12), .text ['a', '"', '\n'], .text "x-1".toList, .text "12".toList]

/-- The call with its name bare, and a line feed that is escaped. -/
def mixedText : Text :=
  [' '].intercalate
    ["f".toList, "-12".toList, ['"', 'a', '\\', '"', '\\', 'n', '"'], "x-1".toList, ['"', '1', '2', '"']]

theorem mixedText_isWritten : mixedCall.IsWritten mixedText := by
  have escaped : Quoted ['a', '\\', '"', '\\', 'n'] ['a', '"', '\n'] :=
    ((Quoted.nil.plain (by decide) (by decide)).escape '"').escape 'n'
  have digits : Quoted ['1', '2'] "12".toList :=
    (Quoted.nil.plain (by decide) (by decide)).plain (by decide) (by decide)
  exact .funcall _ (.cons (.integer (-12)) (.cons (.literal escaped) (.cons (.bare (by decide))
    (.cons (.literal digits) .nil))))

theorem readNamed_mixedText :
    mixedCall.IsValid ∧ mixedCall.IsWritten mixedText ∧ mixedText ≠ mixedCall.print ∧
      readNamed "funcall".toList mixedText 3 = .ok mixedCall ∧
      readNamed "funcall".toList mixedCall.print 3 = .ok mixedCall := by
  have valid : mixedCall.IsValid := by
    refine ⟨by decide, fun argument member => ?_⟩
    simp only [List.mem_cons, List.not_mem_nil, or_false] at member
    rcases member with rfl | rfl | rfl | rfl
    · exact (by decide : (Value.int (-12)).isWritable = true)
    all_goals trivial
  obtain ⟨reads, converse⟩ := readNamed_isWritten mixedCall
  obtain ⟨printed, readsBack⟩ := reads valid
  have isRead := readsBack mixedText 3 mixedText_isWritten
  exact ⟨(converse _ _ _ isRead).2, mixedText_isWritten, by decide +kernel, isRead, readsBack _ 3 printed⟩

end Header

end Regen
