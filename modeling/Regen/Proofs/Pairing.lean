import Mathlib.Data.List.TakeWhile
import Mathlib.Data.Option.Basic
import Regen.Proofs.Locations

/-!
# Pairs of marker lines

The lines of a text are open, close or plain, and this is read off a line alone. A text can be scanned if and only if
its marker lines take turns, an open line first and a close line last, and every open line has a kind and a header
that can be read. Each directive then stands between the two lines of a turn. A text that cannot be scanned is
reported on the first marker line that is out of turn, or on the last one, if this is open.
-/

namespace Regen

open Text

namespace Kind

theorem ofName?_name (kind : Kind) : ofName? kind.name = some kind := by
  cases kind <;> decide

theorem name_injective {kind other : Kind} (same : kind.name = other.name) : kind = other := by
  apply Option.some.inj
  rw [← ofName?_name kind, ← ofName?_name other, same]

theorem name_of_ofName? {name : Text} {kind : Kind} (found : ofName? name = some kind) : kind.name = name := by
  simpa using List.find?_some found

end Kind

/-! ## Open and close lines -/

namespace Text

/-- What ends in a character that is missing from the end of a text does not reach into this end. -/
theorem isPrefix_of_concat_isPrefix_append {needle text ending : Text} {c : Char} (missing : c ∉ ending)
    (found : needle ++ [c] <+: text ++ ending) : needle ++ [c] <+: text := by
  obtain ⟨rest, split⟩ := found
  rcases List.append_eq_append_iff.mp split with ⟨more, same, _⟩ | ⟨more, same, ends⟩
  · exact ⟨more, same.symm⟩
  · rcases List.eq_nil_or_concat' more with rfl | ⟨others, last, rfl⟩
    · rw [List.append_nil] at same
      rw [same]
    · rw [← List.append_assoc] at same
      have isLast : c = last := by simpa using (List.append_inj' same rfl).2
      rw [ends, isLast] at missing
      simp at missing

theorem trimEnd_append_blank {text ending : Text} (blank : ∀ c ∈ ending, isBlank c = true) :
    (text ++ ending).trimEnd = text.trimEnd := by
  have reversed : ending.reverse.dropWhile isBlank = [] := by simpa [List.dropWhile_eq_nil_iff] using blank
  rw [trimEnd, trimEnd, dropEndWhile, dropEndWhile, List.reverse_append, List.dropWhile_append, reversed]
  rfl

/-- Trimming drops blanks at the end, however many there are. -/
theorem trim_append_blank {text ending : Text} (blank : ∀ c ∈ ending, isBlank c = true) :
    (text ++ ending).trim = text.trim := by
  rw [trim, trim, trimStart, trimStart, List.dropWhile_append]
  split
  · next empty =>
    have allBlank : ending.dropWhile isBlank = [] := List.dropWhile_eq_nil_iff.mpr blank
    rw [allBlank, List.isEmpty_iff.mp empty]
  · exact trimEnd_append_blank blank

end Text

namespace Marker

/-- The open token stands somewhere in a text with a letter after it. -/
def Matches (text : Text) : Prop :=
  ∃ (before : Text) (c : Char) (after : Text), text = before ++ openToken ++ c :: after ∧ c.isAlpha = true

/-- The first match of the open pattern, with the longest name that it can have. -/
structure OpensAt (text before name after : Text) : Prop where
  split : text = before ++ openToken ++ (name ++ after)
  named : ∃ c rest, name = c :: rest ∧ c.isAlpha = true ∧ ∀ d ∈ rest, isNameChar d = true
  longest : ∀ d ∈ after.head?, isNameChar d = false
  leftmost : ∀ (earlier : Text) (c : Char) (later : Text), text = earlier ++ openToken ++ c :: later →
    c.isAlpha = true → before.length ≤ earlier.length

namespace OpensAt

variable {text before name after : Text}

theorem isMatch (opens : OpensAt text before name after) : Matches text := by
  obtain ⟨c, rest, rfl, letter, _⟩ := opens.named
  exact ⟨before, c, rest ++ after, opens.split, letter⟩

/-- A text has one first match. -/
theorem unique (opens : OpensAt text before name after) {before' name' after' : Text}
    (opens' : OpensAt text before' name' after') : before = before' ∧ name = name' ∧ after = after' := by
  obtain ⟨c, rest, rfl, letter, inName⟩ := opens.named
  obtain ⟨c', rest', rfl, letter', inName'⟩ := opens'.named
  have sameLength : before.length = before'.length :=
    le_antisymm (opens.leftmost _ _ _ opens'.split letter') (opens'.leftmost _ _ _ opens.split letter)
  have splits := opens.split.symm.trans opens'.split
  obtain ⟨heads, tails⟩ := List.append_inj splits (by simp [sameLength])
  obtain ⟨rfl, sameTail⟩ := List.cons.inj tails
  -- the name is what name characters there are from its second one on
  have ends : ∀ {rest after : Text}, (∀ d ∈ rest, isNameChar d = true) → (∀ d ∈ after.head?, isNameChar d = false) →
      (rest ++ after).takeWhile isNameChar = rest := by
    intro rest after inName longest
    rw [List.takeWhile_append_of_pos inName]
    cases after with
    | nil => simp
    | cons d after => simp [longest d rfl]
  have sameRest : rest = rest' := by
    rw [← ends inName opens.longest, ← ends inName' opens'.longest]
    exact congrArg _ sameTail
  subst sameRest
  exact ⟨(List.append_inj heads sameLength).1, rfl, List.append_cancel_left sameTail⟩

end OpensAt

/-- The name of a kind after an open token at the start of a text. -/
theorem name?_at_start {text name after : Text} (found : (openToken.isPrefixOf? text).bind name? = some (name, after)) :
    text = openToken ++ (name ++ after) ∧
      (∃ c rest, name = c :: rest ∧ c.isAlpha = true ∧ ∀ d ∈ rest, isNameChar d = true) ∧
      ∀ d ∈ after.head?, isNameChar d = false := by
  obtain ⟨remaining, isPrefix, isName⟩ := Option.bind_eq_some_iff.mp found
  rw [List.isPrefixOf?_eq_some_iff_append_eq] at isPrefix
  cases remaining with
  | nil => cases isName
  | cons c rest =>
    rw [name?] at isName
    split at isName
    · next letter =>
      cases isName
      refine ⟨?_, ⟨c, _, rfl, letter, fun d => List.mem_takeWhile_imp⟩, fun d first => ?_⟩
      · rw [← isPrefix, List.cons_append, List.takeWhile_append_dropWhile]
      · have stops := List.head?_dropWhile_not isNameChar rest
        rw [Option.mem_def.mp first] at stops
        simpa using stops
    · cases isName

theorem name?_isSome_at_start {text : Text} {c : Char} {later : Text} (split : text = openToken ++ c :: later)
    (letter : c.isAlpha = true) : ((openToken.isPrefixOf? text).bind name?).isSome = true := by
  have isPrefix : openToken.isPrefixOf? text = some (c :: later) := by
    rw [List.isPrefixOf?_eq_some_iff_append_eq, split]
  rw [isPrefix, Option.bind_some, name?, if_pos letter]
  rfl

/-- A search for an open marker finds the first match, and fails only if there is none. -/
theorem opening?_spec (text : Text) :
    (∀ before name after, opening? text = some (before, name, after) → OpensAt text before name after) ∧
      (opening? text = none → ¬ Matches text) := by
  induction text with
  | nil =>
    refine ⟨fun _ _ _ found => (by cases found), ?_⟩
    rintro - ⟨before, c, after, split, _⟩
    simp at split
  | cons first rest ih =>
    rw [opening?]
    cases start : (openToken.isPrefixOf? (first :: rest)).bind name? with
    | some found =>
      obtain ⟨name', after'⟩ := found
      obtain ⟨split, named, longest⟩ := name?_at_start start
      refine ⟨?_, fun missing => by cases missing⟩
      rintro before name after ⟨⟩
      exact ⟨by rw [split]; rfl, named, longest, fun _ _ _ _ _ => Nat.zero_le _⟩
    | none =>
      -- a match that is not at the start is one of the rest
      have shifted : ∀ (before : Text) (c : Char) (after : Text), first :: rest = before ++ openToken ++ c :: after →
          c.isAlpha = true → ∃ shorter, before = first :: shorter ∧ rest = shorter ++ openToken ++ c :: after := by
        intro before c after split letter
        cases before with
        | nil =>
          have isSome := name?_isSome_at_start split letter
          rw [start] at isSome
          cases isSome
        | cons d shorter =>
          obtain ⟨rfl, sameRest⟩ := List.cons.inj split
          exact ⟨shorter, rfl, sameRest⟩
      constructor
      · intro before name after found
        obtain ⟨⟨shorter, name', after'⟩, found, same⟩ := Option.map_eq_some_iff.mp found
        cases same
        obtain ⟨split, named, longest, leftmost⟩ := ih.1 _ _ _ found
        refine ⟨by rw [split]; rfl, named, longest, fun earlier c later split letter => ?_⟩
        obtain ⟨shortened, rfl, ofRest⟩ := shifted earlier c later split letter
        exact Nat.succ_le_succ (leftmost shortened c later ofRest letter)
      · rintro missing ⟨before, c, after, split, letter⟩
        obtain ⟨shortened, rfl, ofRest⟩ := shifted before c after split letter
        exact ih.2 (Option.map_eq_none_iff.mp missing) ⟨shortened, c, after, ofRest, letter⟩

end Marker

namespace Line

variable {line : Line} {before name after : Text}

/-- The open pattern matches a line. -/
def IsOpen (line : Line) : Prop := Marker.Matches line.text

/-- The open pattern does not match a line, and the line holds the close token. -/
def IsClose (line : Line) : Prop := ¬ line.IsOpen ∧ closeToken <:+: line.text

theorem exists_ending (line : Line) :
    ∃ ending : Text, line.text = line.content ++ ending ∧ ∀ c ∈ ending, c = '\n' ∨ c = '\r' := by
  unfold content
  split
  · next plainly =>
    refine ⟨line.terminator, rfl, fun c member => ?_⟩
    have all := List.all_eq_true.mp plainly c member
    simpa using all
  · exact ⟨[], by simp, by simp⟩

/-- A match on a line is found without its end. -/
theorem match_in_content {c : Char} (split : line.text = before ++ openToken ++ c :: after)
    (letter : c.isAlpha = true) : ∃ later, line.content = before ++ openToken ++ c :: later := by
  obtain ⟨ending, whole, breaks⟩ := line.exists_ending
  have missing : c ∉ ending := fun member => by
    rcases breaks c member with rfl | rfl
    · cases letter
    · cases letter
  have found : (before ++ openToken) ++ [c] <+: line.content ++ ending :=
    ⟨after, by rw [← whole, split, List.append_assoc _ [c], List.singleton_append]⟩
  obtain ⟨later, same⟩ := isPrefix_of_concat_isPrefix_append missing found
  exact ⟨later, by rw [← same, List.append_assoc _ [c], List.singleton_append]⟩

/-- The marker that is found on a line is the first match of the open pattern. -/
theorem opensAt_of_marker (marked : line.marker = .opens before name after) :
    ∃ whole, Marker.OpensAt line.text before name whole ∧ whole.trim = after.trim := by
  have found : Marker.opening? line.content = some (before, name, after) := by
    unfold marker Marker.ofLine at marked
    split at marked
    · next found =>
      cases marked
      exact found
    · split at marked <;> cases marked
  obtain ⟨split, named, longest, leftmost⟩ := (Marker.opening?_spec line.content).1 _ _ _ found
  obtain ⟨ending, whole, breaks⟩ := line.exists_ending
  have blank : ∀ c ∈ ending, isBlank c = true := fun c member => by
    rcases breaks c member with rfl | rfl
    · decide
    · decide
  refine ⟨after ++ ending, ⟨?_, named, fun d first => ?_, fun earlier c later split letter => ?_⟩,
    trim_append_blank blank⟩
  · rw [whole, split]
    simp only [List.append_assoc]
  · cases after with
    | cons e rest => exact longest d first
    | nil =>
      rcases breaks d (List.mem_of_mem_head? first) with rfl | rfl
      · decide +kernel
      · decide +kernel
  · obtain ⟨later, split⟩ := match_in_content split letter
    exact leftmost earlier c later split letter

theorem not_isOpen_of_opening? (missing : Marker.opening? line.content = none) : ¬ line.IsOpen := by
  rintro ⟨before, c, after, split, letter⟩
  obtain ⟨later, split⟩ := match_in_content split letter
  exact (Marker.opening?_spec line.content).2 missing ⟨before, c, later, split, letter⟩

theorem closeToken_in_content : closeToken <:+: line.text ↔ closeToken <:+: line.content := by
  constructor
  · rintro ⟨before, after, split⟩
    obtain ⟨ending, whole, breaks⟩ := line.exists_ending
    have missing : '#' ∉ ending := fun member => by
      rcases breaks '#' member with same | same
      · cases same
      · cases same
    have token : closeToken = "autoc".toList ++ ['#'] := rfl
    have found : (before ++ "autoc".toList) ++ ['#'] <+: line.content ++ ending :=
      ⟨after, by rw [← whole, ← split, token, List.append_assoc before]⟩
    obtain ⟨rest, same⟩ := isPrefix_of_concat_isPrefix_append missing found
    exact ⟨before, rest, by rw [← same, token, ← List.append_assoc]⟩
  · intro found
    exact found.trans line.content_prefix.isInfix

theorem isOpen_iff : line.IsOpen ↔ ∃ before name after, line.marker = .opens before name after := by
  constructor
  · intro isOpen
    cases found : Marker.opening? line.content with
    | none => exact absurd isOpen (not_isOpen_of_opening? found)
    | some parts =>
      obtain ⟨before, name, after⟩ := parts
      refine ⟨before, name, after, ?_⟩
      rw [marker, Marker.ofLine, found]
  · rintro ⟨before, name, after, marked⟩
    obtain ⟨whole, opens, _⟩ := opensAt_of_marker marked
    exact opens.isMatch

theorem isClose_iff : line.IsClose ↔ line.marker = .closes := by
  rw [IsClose, isOpen_iff, closeToken_in_content, ← occursIn_iff_infix, marker, Marker.ofLine]
  cases Marker.opening? line.content with
  | none =>
    dsimp only
    split
    · next occurs => simp [occurs]
    · next missing => simp [missing]
  | some parts => simp

theorem IsClose.not_isOpen (isClose : line.IsClose) : ¬ line.IsOpen := isClose.1

instance (line : Line) : Decidable line.IsOpen :=
  decidable_of_iff ((Marker.opening? line.content).isSome = true) (by
    rw [isOpen_iff, marker, Marker.ofLine]
    cases Marker.opening? line.content with
    | none =>
      dsimp only
      split <;> simp
    | some parts => simp)

instance (line : Line) : Decidable line.IsClose := decidable_of_iff (line.marker = .closes) isClose_iff.symm

end Line

/-! ## Marker lines in turn -/

/-- A line of a text with its number and its offset. -/
structure PlacedLine where
  line : Line
  number : Nat
  start : Nat

namespace PlacedLine

/-- The stretch of a line with its end. -/
def span (placed : PlacedLine) : Span := ⟨placed.start, placed.start + placed.line.text.length⟩

/-- Lines of which the first has the number and the offset given. -/
def ofLines (number start : Nat) : List Line → List PlacedLine
  | [] => []
  | line :: rest => ⟨line, number, start⟩ :: ofLines (number + 1) (start + line.text.length) rest

theorem line_mem_of_mem_ofLines {number start : Nat} {lines : List Line} {placed : PlacedLine}
    (member : placed ∈ ofLines number start lines) : placed.line ∈ lines := by
  induction lines generalizing number start with
  | nil => cases member
  | cons line rest ih =>
    rcases List.mem_cons.mp member with rfl | member
    · exact List.mem_cons_self ..
    · exact List.mem_cons_of_mem _ (ih member)

/-- The lines that are not plain. -/
def markers (lines : List PlacedLine) : List PlacedLine :=
  lines.filter fun placed => placed.line.IsOpen ∨ placed.line.IsClose

def opens (lines : List PlacedLine) : List PlacedLine := lines.filter fun placed => placed.line.IsOpen

def closes (lines : List PlacedLine) : List PlacedLine := lines.filter fun placed => placed.line.IsClose

/-- An open line names a kind, and its header can be read as one of this kind. -/
def Accepts (placed : PlacedLine) (header : Header) (headerText : Text) : Prop :=
  ∃ before after, Marker.OpensAt placed.line.text before header.kind.name after ∧
    headerText = Directive.dropCloser after.trim ∧ Header.read header.kind headerText placed.number = .ok header

/-- Marker lines take turns, beginning with a close line if a directive is open, and the open ones are accepted. -/
def InTurn : (inside : Bool) → List PlacedLine → Prop
  | _, [] => True
  | false, placed :: rest => (∃ header headerText, placed.Accepts header headerText) ∧ InTurn true rest
  | true, placed :: rest => placed.line.IsClose ∧ InTurn false rest

/-- Marker lines take turns, and the last one is a close line. -/
def WellPaired (markers : List PlacedLine) : Prop :=
  InTurn false markers ∧ ∀ last ∈ markers.getLast?, last.line.IsClose

/-- The line of the directive that is open after marker lines that take turns. -/
def openAfter (markers : List PlacedLine) : Option PlacedLine :=
  markers.getLast?.filter fun placed => placed.line.IsOpen

/-- What is wrong with a marker line after the others, by the line of the directive that is open there. A directive
inside of another is refused before its kind is looked at, and an unknown kind before the header is. -/
inductive Rejects : Option PlacedLine → PlacedLine → Failure → Prop
  | nested {opening placed : PlacedLine} (isOpen : placed.line.IsOpen) :
      Rejects (some opening) placed (.onLine (.nestedDirective opening.number) (some placed.number))
  | stray {placed : PlacedLine} (isClose : placed.line.IsClose) :
      Rejects none placed (.onLine .strayClose (some placed.number))
  | unknownKind {placed : PlacedLine} {before name after : Text}
      (opens : Marker.OpensAt placed.line.text before name after) (unknown : ∀ kind : Kind, kind.name ≠ name) :
      Rejects none placed (.onLine (.unknownKind name) (some placed.number))
  | header {placed : PlacedLine} {before after : Text} {kind : Kind} {failure : Failure}
      (opens : Marker.OpensAt placed.line.text before kind.name after)
      (refused : Header.read kind (Directive.dropCloser after.trim) placed.number = .error failure) :
      Rejects none placed failure

/-- A directive stands between two marker lines, and is what its open line says. -/
structure Pairs (directive : Directive) (opening closing : PlacedLine) : Prop where
  accepts : opening.Accepts directive.header directive.headerText
  line : directive.line = opening.number
  closeLine : directive.closeLine = closing.number
  openSpan : directive.openSpan = opening.span
  closeSpan : directive.closeSpan = closing.span

theorem Accepts.isOpen {placed : PlacedLine} {header : Header} {headerText : Text}
    (accepts : placed.Accepts header headerText) : placed.line.IsOpen := by
  obtain ⟨before, after, opens, _⟩ := accepts
  exact opens.isMatch

/-- A marker line that is refused is out of turn. -/
theorem Rejects.not_inTurn {state : Option PlacedLine} {placed : PlacedLine} {failure : Failure}
    (rejects : Rejects state placed failure) : ¬ InTurn state.isSome [placed] := by
  cases rejects with
  | nested isOpen => exact fun inTurn => inTurn.1.not_isOpen isOpen
  | stray isClose =>
    rintro ⟨⟨header, headerText, accepts⟩, -⟩
    exact isClose.not_isOpen accepts.isOpen
  | unknownKind opens unknown =>
    rintro ⟨⟨header, headerText, before', after', opens', -⟩, -⟩
    exact unknown header.kind (opens.unique opens').2.1.symm
  | @header placed before after kind failure opens refused =>
    rintro ⟨⟨header, headerText, before', after', opens', rfl, isRead⟩, -⟩
    obtain ⟨rfl, sameName, rfl⟩ := opens.unique opens'
    rw [Kind.name_injective sameName, isRead] at refused
    cases refused

/-- A marker line that is refused is the one that is reported. -/
theorem Rejects.fault_line {state : Option PlacedLine} {placed : PlacedLine} {failure : Failure}
    (proper : placed.line.Proper) (rejects : Rejects state placed failure) {fault : Located Fault}
    (isFault : failure = .fault fault) : fault.line = some (placed.number : Int) := by
  have between : failure.Between placed.number placed.number := by
    have here : LineWithin placed.number placed.number (some (placed.number : Int)) :=
      ⟨placed.number, rfl, le_rfl, le_rfl⟩
    cases rejects with
    | nested isOpen => exact Failure.between_onLine _ here
    | stray isClose => exact Failure.between_onLine _ here
    | unknownKind opens unknown => exact Failure.between_onLine _ here
    | @header placed before after kind failure opens refused =>
      obtain ⟨before', name, after', marked⟩ := Line.isOpen_iff.mp opens.isMatch
      obtain ⟨whole, opens', sameTrim⟩ := Line.opensAt_of_marker marked
      obtain ⟨-, -, rfl⟩ := opens.unique opens'
      have noFeed : '\n' ∉ Directive.dropCloser after.trim := fun member => by
        rw [sameTrim] at member
        exact proper.not_mem_content ((Directive.header_isInfix_content marked).subset member)
      have ends := Header.read_between kind noFeed placed.number
      rw [refused] at ends
      exact ends
  obtain ⟨_, number, onLine, least, most⟩ := between fault isFault
  rw [onLine, le_antisymm most least]

/-! ## Reading marker lines -/

/-- How scanning goes from marker line to marker line, by the open line of the directive that is open, if one is. -/
inductive Reads : Option PlacedLine → List PlacedLine → Except Failure (List Directive) → Prop
  | finished : Reads none [] (.ok [])
  | neverClosed {opening : PlacedLine} {header : Header} {headerText : Text}
      (accepts : opening.Accepts header headerText) :
      Reads (some opening) [] (.error (.onLine (.neverClosed header.kind) (some opening.number)))
  | rejected {state : Option PlacedLine} {placed : PlacedLine} {rest : List PlacedLine} {failure : Failure}
      (rejects : Rejects state placed failure) : Reads state (placed :: rest) (.error failure)
  | opened {placed : PlacedLine} {rest : List PlacedLine} {result : Except Failure (List Directive)} {header : Header}
      {headerText : Text} (accepts : placed.Accepts header headerText) (reads : Reads (some placed) rest result) :
      Reads none (placed :: rest) result
  | closed {opening placed : PlacedLine} {rest : List PlacedLine} {result : Except Failure (List Directive)}
      {directive : Directive} (isClose : placed.line.IsClose) (pairs : Pairs directive opening placed)
      (reads : Reads none rest result) :
      Reads (some opening) (placed :: rest) (result.map fun more => directive :: more)

variable {state : Option PlacedLine} {lines earlier rest : List PlacedLine} {placed : PlacedLine}

theorem opens_cons_of_isOpen (isOpen : placed.line.IsOpen) : opens (placed :: rest) = placed :: opens rest :=
  List.filter_cons_of_pos (by simpa using isOpen)

theorem opens_cons_of_isClose (isClose : placed.line.IsClose) : opens (placed :: rest) = opens rest :=
  List.filter_cons_of_neg (by simpa using isClose.not_isOpen)

theorem closes_cons_of_isOpen (isOpen : placed.line.IsOpen) : closes (placed :: rest) = closes rest :=
  List.filter_cons_of_neg (by simpa using fun isClose : placed.line.IsClose => isClose.not_isOpen isOpen)

theorem closes_cons_of_isClose (isClose : placed.line.IsClose) : closes (placed :: rest) = placed :: closes rest :=
  List.filter_cons_of_pos (by simpa using isClose)

theorem openAfter_toList (isOpen : ∀ opening ∈ state, opening.line.IsOpen) : openAfter state.toList = state := by
  cases state with
  | none => rfl
  | some opening => simp [openAfter, isOpen opening rfl]

/-- What stands before a close line is no longer open after it. -/
theorem openAfter_append_cons (isClose : placed.line.IsClose) :
    openAfter (lines ++ placed :: earlier) = openAfter earlier := by
  rcases List.eq_nil_or_concat' earlier with rfl | ⟨others, last, rfl⟩
  · simp [openAfter, isClose.not_isOpen]
  · rw [openAfter, openAfter, ← List.cons_append, ← List.append_assoc, List.getLast?_concat, List.getLast?_concat]

theorem InTurn.of_append {inside : Bool} (earlier : List PlacedLine) (inTurn : InTurn inside (earlier ++ rest)) :
    InTurn inside earlier := by
  induction earlier generalizing inside with
  | nil => cases inside <;> trivial
  | cons placed earlier ih =>
    cases inside with
    | false => exact ⟨inTurn.1, ih inTurn.2⟩
    | true => exact ⟨inTurn.1, ih inTurn.2⟩

/-- The marker lines after others are in turn with them. -/
theorem InTurn.after (state : Option PlacedLine) (isOpen : ∀ opening ∈ state, opening.line.IsOpen)
    (inTurn : InTurn state.isSome (earlier ++ rest)) : InTurn (openAfter (state.toList ++ earlier)).isSome rest := by
  induction earlier generalizing state with
  | nil => rwa [List.append_nil, openAfter_toList isOpen]
  | cons placed earlier ih =>
    cases state with
    | none =>
      obtain ⟨⟨header, headerText, accepts⟩, inTurn⟩ := inTurn
      exact ih (some placed) (by rintro _ ⟨⟩; exact accepts.isOpen) inTurn
    | some opening =>
      obtain ⟨isClose, inTurn⟩ := inTurn
      rw [openAfter_append_cons isClose]
      exact ih none (by rintro _ ⟨⟩) inTurn

/-- Directives stand between the open and the close lines, in their order, and none is left open. -/
structure Matched (state : Option PlacedLine) (lines : List PlacedLine) (directives : List Directive) : Prop where
  inTurn : InTurn state.isSome lines
  last : ∀ last ∈ (state.toList ++ lines).getLast?, last.line.IsClose
  lengths : (closes lines).length = (state.toList ++ opens lines).length
  pairs : List.Forall₂ (fun directive pair => Pairs directive pair.1 pair.2) directives
    ((state.toList ++ opens lines).zip (closes lines))

/-- A marker line is the first one out of turn, or all are in turn and the last one is still open. -/
inductive Breaks (state : Option PlacedLine) (lines : List PlacedLine) (failure : Failure) : Prop
  | outOfTurn {earlier later : List PlacedLine} {placed : PlacedLine} (split : lines = earlier ++ placed :: later)
      (inTurn : InTurn state.isSome earlier) (rejects : Rejects (openAfter (state.toList ++ earlier)) placed failure)
  | neverClosed {opening : PlacedLine} {header : Header} {headerText : Text} (inTurn : InTurn state.isSome lines)
      (last : (state.toList ++ lines).getLast? = some opening) (accepts : opening.Accepts header headerText)
      (report : failure = .onLine (.neverClosed header.kind) (some opening.number))

theorem Matched.opened {header : Header} {headerText : Text} {directives : List Directive}
    (accepts : placed.Accepts header headerText) (found : Matched (some placed) rest directives) :
    Matched none (placed :: rest) directives where
  inTurn := ⟨⟨header, headerText, accepts⟩, found.inTurn⟩
  last := found.last
  lengths := by
    rw [closes_cons_of_isOpen accepts.isOpen, opens_cons_of_isOpen accepts.isOpen]
    exact found.lengths
  pairs := by
    rw [closes_cons_of_isOpen accepts.isOpen, opens_cons_of_isOpen accepts.isOpen]
    exact found.pairs

theorem Matched.closed {opening : PlacedLine} {directive : Directive} {directives : List Directive}
    (isClose : placed.line.IsClose) (pairs : Pairs directive opening placed) (found : Matched none rest directives) :
    Matched (some opening) (placed :: rest) (directive :: directives) where
  inTurn := ⟨isClose, found.inTurn⟩
  last := by
    cases rest with
    | nil =>
      rintro _ ⟨⟩
      exact isClose
    | cons next rest => exact found.last
  lengths := by
    rw [closes_cons_of_isClose isClose, opens_cons_of_isClose isClose]
    exact congrArg Nat.succ found.lengths
  pairs := by
    rw [closes_cons_of_isClose isClose, opens_cons_of_isClose isClose]
    exact .cons pairs found.pairs

theorem Breaks.opened {header : Header} {headerText : Text} {failure : Failure}
    (accepts : placed.Accepts header headerText) (breaks : Breaks (some placed) rest failure) :
    Breaks none (placed :: rest) failure := by
  cases breaks with
  | @outOfTurn earlier later other split inTurn rejects =>
    have split : placed :: rest = (placed :: earlier) ++ other :: later := congrArg (placed :: ·) split
    exact .outOfTurn split ⟨⟨header, headerText, accepts⟩, inTurn⟩ rejects
  | neverClosed inTurn last acceptsLast report =>
    exact .neverClosed ⟨⟨header, headerText, accepts⟩, inTurn⟩ last acceptsLast report

theorem Breaks.closed {opening : PlacedLine} {failure : Failure} (isClose : placed.line.IsClose)
    (breaks : Breaks none rest failure) : Breaks (some opening) (placed :: rest) failure := by
  cases breaks with
  | @outOfTurn earlier later other split inTurn rejects =>
    have split : placed :: rest = (placed :: earlier) ++ other :: later := congrArg (placed :: ·) split
    refine .outOfTurn split ⟨isClose, inTurn⟩ ?_
    rwa [openAfter_append_cons isClose]
  | neverClosed inTurn last acceptsLast report =>
    cases rest with
    | nil => cases last
    | cons next rest => exact .neverClosed ⟨isClose, inTurn⟩ last acceptsLast report

/-- Marker lines that are read to their end are matched, and otherwise the first one out of turn is refused. -/
theorem Reads.ends {result : Except Failure (List Directive)} (reads : Reads state lines result)
    (isOpen : ∀ opening ∈ state, opening.line.IsOpen) : Ends (Breaks state lines) (Matched state lines) result := by
  induction reads with
  | finished => exact ⟨trivial, by simp, rfl, .nil⟩
  | neverClosed accepts => exact Breaks.neverClosed trivial rfl accepts rfl
  | @rejected state placed rest failure rejects =>
    have split : placed :: rest = [] ++ placed :: rest := rfl
    refine Breaks.outOfTurn split (by cases state <;> trivial) ?_
    rwa [List.append_nil, openAfter_toList isOpen]
  | opened accepts _ ih =>
    have inside := ih (by rintro _ ⟨⟩; exact accepts.isOpen)
    exact inside.imp (fun _ breaks => breaks.opened accepts) fun _ found => found.opened accepts
  | @closed opening placed rest result directive isClose pairs _ ih =>
    have after := ih (by rintro _ ⟨⟩)
    cases result with
    | error failure => exact Breaks.closed isClose after
    | ok directives => exact Matched.closed isClose pairs after

end PlacedLine

namespace Directive

open PlacedLine

/-- An open directive belongs to its open line. -/
structure Opened.StandsOn (pending : Opened) (opening : PlacedLine) : Prop where
  accepts : opening.Accepts pending.header pending.headerText
  line : pending.line = opening.number
  span : pending.span = opening.span

theorem Opened.StandsOn.pairs {pending : Opened} {opening : PlacedLine} (stands : pending.StandsOn opening)
    (number start : Nat) (line : Line) : Pairs (pending.close number start line) opening ⟨line, number, start⟩ where
  accepts := stands.accepts
  line := stands.line
  closeLine := rfl
  openSpan := stands.span
  closeSpan := rfl

/-- An open line outside of directives either opens one or is refused. -/
theorem opened_spec {line : Line} {before name after : Text} (marked : line.marker = .opens before name after)
    (number start : Nat) :
    Ends (Rejects none ⟨line, number, start⟩) (fun pending => pending.StandsOn ⟨line, number, start⟩)
      (opened number start line before name after) := by
  obtain ⟨whole, opens, sameTrim⟩ := Line.opensAt_of_marker marked
  unfold opened
  cases named : Kind.ofName? name with
  | none =>
    refine .unknownKind opens fun kind sameName => ?_
    rw [← sameName, Kind.ofName?_name] at named
    cases named
  | some kind =>
    obtain rfl := Kind.name_of_ofName? named
    dsimp only
    rw [← sameTrim]
    cases isRead : Header.read kind (dropCloser whole.trim) number with
    | error failure => exact Rejects.header opens isRead
    | ok header =>
      obtain rfl := Header.kind_of_read isRead
      exact Opened.StandsOn.mk ⟨before, whole, opens, rfl, isRead⟩ rfl rfl

/-- Scanning goes from marker line to marker line. -/
theorem ofLines_reads {number start : Nat} {state : Option Opened} {opening : Option PlacedLine} (lines : List Line)
    (stands : Option.Rel Opened.StandsOn state opening) :
    Reads opening (markers (PlacedLine.ofLines number start lines)) (ofLines number start state lines) := by
  induction lines generalizing number start state opening with
  | nil =>
    cases stands with
    | none => exact .finished
    | @some pending opening stands =>
      rw [ofLines, stands.line]
      exact .neverClosed stands.accepts
  | cons line rest ih =>
    rw [ofLines_cons, PlacedLine.ofLines, markers, List.filter_cons]
    cases marked : line.marker with
    | plain =>
      have notOpen : ¬ line.IsOpen := by simp [Line.isOpen_iff, marked]
      have notClose : ¬ line.IsClose := by simp [Line.isClose_iff, marked]
      rw [if_neg (by simp [notOpen, notClose])]
      cases stands with
      | none => exact ih .none
      | some stands => exact ih (.some ⟨stands.accepts, stands.line, stands.span⟩)
    | opens before name after =>
      have isOpen : line.IsOpen := Line.isOpen_iff.mpr ⟨before, name, after, marked⟩
      rw [if_pos (by simp [isOpen])]
      cases stands with
      | @some pending opening stands =>
        dsimp only
        rw [stands.line]
        exact .rejected (.nested isOpen)
      | none =>
        have spec := opened_spec marked number start
        dsimp only
        cases result : opened number start line before name after with
        | error failure =>
          rw [result] at spec
          exact .rejected spec
        | ok pending =>
          rw [result] at spec
          exact .opened spec.accepts (ih (.some spec))
    | closes =>
      have isClose : line.IsClose := Line.isClose_iff.mpr marked
      rw [if_pos (by simp [isClose])]
      cases stands with
      | none => exact .rejected (.stray isClose)
      | some stands => exact .closed isClose (stands.pairs number start line) (ih .none)

end Directive

/-- The marker lines of a text in order, with their numbers and offsets. -/
def Text.markerLines (text : Text) : List PlacedLine := PlacedLine.markers (PlacedLine.ofLines 1 0 text.lines)

-- a number is no kind, an open marker goes before a close marker, and a line may end in a vertical tab
example : (Text.markerLines "autoc:7 autoc#\nautoc:lines a autoc#\x0bautoc:\nautoc#".toList).map
    (fun placed => (placed.number, decide placed.line.IsOpen)) = [(1, false), (2, true), (4, false)] := by
  decide +kernel

namespace Directive

open PlacedLine

theorem scan_matched (text : Text) :
    Ends (Breaks none text.markerLines) (Matched none text.markerLines) (scan text) :=
  (ofLines_reads text.lines .none).ends (by rintro _ ⟨⟩)

theorem proper_of_mem_markerLines {text : Text} {placed : PlacedLine} (member : placed ∈ text.markerLines) :
    placed.line.Proper :=
  (lines_sequence text).proper _ (line_mem_of_mem_ofLines (List.mem_of_mem_filter member))

/-- Well-paired marker lines leave nothing to be refused. -/
theorem not_breaks_of_wellPaired {lines : List PlacedLine} (paired : WellPaired lines) (failure : Failure) :
    ¬ Breaks none lines failure := by
  intro breaks
  cases breaks with
  | @outOfTurn earlier later placed split inTurn rejects =>
    have whole : InTurn false (earlier ++ placed :: later) := split ▸ paired.1
    exact rejects.not_inTurn (.of_append [placed] (InTurn.after none (by rintro _ ⟨⟩) whole))
  | neverClosed inTurn last accepts report => exact (paired.2 _ last).not_isOpen accepts.isOpen

/-- A text can be scanned if and only if its marker lines are well paired. There is then one directive for each open
line, and it stands between this line and the close line of the same rank. Otherwise the first marker line that is out
of turn is reported, or the last open line, if nothing else is wrong than that it is never closed. -/
theorem scan_pairs_markers (text : Text) :
    ((∃ directives, scan text = .ok directives) ↔ WellPaired text.markerLines) ∧
    (∀ directives, scan text = .ok directives →
      directives.length = (opens text.markerLines).length ∧
      (closes text.markerLines).length = (opens text.markerLines).length ∧
      List.Forall₂ (fun directive pair => Pairs directive pair.1 pair.2) directives
        ((opens text.markerLines).zip (closes text.markerLines))) ∧
    ∀ failure, scan text = .error failure →
      (∃ earlier placed later, text.markerLines = earlier ++ placed :: later ∧ InTurn false earlier ∧
        ¬ InTurn false (earlier ++ [placed]) ∧ Rejects (openAfter earlier) placed failure ∧
        ∀ fault, failure = .fault fault → fault.line = some (placed.number : Int)) ∨
      ∃ earlier opening header headerText, text.markerLines = earlier ++ [opening] ∧
        InTurn false text.markerLines ∧ opening.Accepts header headerText ∧
        failure = .onLine (.neverClosed header.kind) (some opening.number) := by
  have ends := scan_matched text
  refine ⟨⟨?_, fun paired => ?_⟩, ?_, ?_⟩
  · rintro ⟨directives, scanned⟩
    rw [scanned] at ends
    exact ⟨ends.inTurn, ends.last⟩
  · cases scanned : scan text with
    | ok directives => exact ⟨directives, rfl⟩
    | error failure =>
      rw [scanned] at ends
      exact absurd ends (not_breaks_of_wellPaired paired failure)
  · intro directives scanned
    rw [scanned] at ends
    obtain ⟨_, _, lengths, pairs⟩ := ends
    refine ⟨?_, lengths, pairs⟩
    rw [pairs.length_eq, List.length_zip, lengths]
    exact Nat.min_self _
  · intro failure failed
    rw [failed] at ends
    cases ends with
    | @outOfTurn earlier later placed split inTurn rejects =>
      have proper : placed.line.Proper := proper_of_mem_markerLines (by rw [split]; simp)
      refine .inl ⟨earlier, placed, later, split, inTurn, fun whole => ?_, rejects,
        fun fault isFault => rejects.fault_line proper isFault⟩
      exact rejects.not_inTurn (InTurn.after none (by rintro _ ⟨⟩) whole)
    | @neverClosed opening header headerText inTurn last accepts report =>
      obtain ⟨earlier, split⟩ := List.getLast?_eq_some_iff.mp last
      exact .inr ⟨earlier, opening, header, headerText, split, inTurn, accepts, report⟩

end Directive

end Regen
