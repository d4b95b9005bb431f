import Regen.Proofs.Pairing
import Regen.Proofs.Splicing

/-! # Where directives stand

The marker lines and the bodies of the directives of a text follow each other without a gap inside a directive and
without overlap between two. The stretches of the marker lines are physical lines with the numbers that the directive
gives, its body is the text of the lines between them, and no marker line of the text is left over.
-/

namespace Regen

open Text

namespace Line

def IsIndentation (c : Char) : Prop := c = ' ' ∨ c = '\t'

/-- The longest stretch of spaces and tabs at the start of a text. -/
structure IndentOf (text indent : Text) : Prop where
  start : indent <+: text
  blank : ∀ c ∈ indent, IsIndentation c
  longest : ∀ other, other <+: text → (∀ c ∈ other, IsIndentation c) → other.length ≤ indent.length

theorem indentOf_takeWhile (text : Text) : IndentOf text (text.takeWhile fun c => c == ' ' || c == '\t') where
  start := List.takeWhile_prefix _
  blank c member := by simpa [IsIndentation] using List.mem_takeWhile_imp member
  longest := by
    rintro other ⟨rest, rfl⟩ blank
    rw [List.takeWhile_append_of_pos (by simpa [IsIndentation] using blank), List.length_append]
    omega

/-- The end of a line holds none of its indentation. -/
theorem indentOf_indent (line : Line) : IndentOf line.text line.indent := by
  have whole := indentOf_takeWhile line.text
  obtain ⟨ending, split, breaks⟩ := line.exists_ending
  have stops : ending.takeWhile (fun c => c == ' ' || c == '\t') = [] := by
    cases ending with
    | nil => rfl
    | cons c rest =>
      rcases breaks c (List.mem_cons_self ..) with rfl | rfl <;> rfl
  have same : line.text.takeWhile (fun c => c == ' ' || c == '\t') = line.indent := by
    rw [split, List.takeWhile_append, stops, indent]
    split
    · next all => rw [List.append_nil, (List.takeWhile_prefix _).eq_of_length all]
    · rfl
  rwa [same] at whole

/-- Generated text ends its lines as one of three line ends does. -/
theorem Proper.newline_cases {line : Line} (proper : line.Proper) :
    line.newline = ['\n'] ∨ line.newline = ['\r', '\n'] ∨ line.newline = ['\r'] := by
  unfold newline
  split
  · next plainly =>
    simp only [Bool.and_eq_true, Bool.not_eq_true', List.isEmpty_eq_false_iff] at plainly
    rcases proper.ending with missing | pair | ⟨c, _, single⟩
    · exact absurd missing plainly.2
    · exact .inr (.inl pair)
    · have isPlain : c = '\n' ∨ c = '\r' := by simpa [endsPlainly, single] using plainly.1
      rw [single]
      rcases isPlain with rfl | rfl
      · exact .inl rfl
      · exact .inr (.inr rfl)
  · exact .inl rfl

end Line

/-- A stretch of a text that is a physical line with its end, the line with the number given when they are counted from
one. -/
structure Span.IsLine (text : Text) (number : Nat) (line : Line) (span : Span) : Prop where
  counted : 0 < number ∧ text.lines[number - 1]? = some line
  slice : text.slice span = line.text
  nonempty : span.start < span.stop

theorem Span.isLine_of_split {text : Text} {earlier later : List Line} {line : Line}
    (split : text.lines = earlier ++ line :: later) {number : Nat} {span : Span}
    (isNumber : number = earlier.length + 1)
    (isSpan : span = ⟨(unlines earlier).length, (unlines earlier).length + line.text.length⟩) :
    span.IsLine text number line where
  counted := by
    rw [isNumber, Nat.add_sub_cancel, split, List.getElem?_append_right le_rfl, Nat.sub_self]
    exact ⟨Nat.succ_pos _, rfl⟩
  slice := by
    refine slice_of_append (unlines earlier) (unlines later) ?_ (by rw [isSpan]) (by rw [isSpan, List.length_append])
    rw [← unlines_lines text, split, unlines_append, unlines_cons, List.append_assoc]
  nonempty := by
    have proper := (lines_sequence text).proper line (by rw [split]; simp)
    have := List.length_pos_iff.mpr proper.nonempty
    rw [isSpan]
    dsimp only
    omega

namespace Directive

/-- Directives from the offset `cursor` on, up to the offset `stop` at most: each takes up its marker lines and what
stands between them, and ends before the next one starts. -/
def Tile (stop : Nat) : (cursor : Nat) → List Directive → Prop
  | cursor, [] => cursor ≤ stop
  | cursor, directive :: rest =>
    cursor ≤ directive.openSpan.start ∧ directive.openSpan.start < directive.openSpan.stop ∧
    directive.openSpan.stop = directive.bodySpan.start ∧ directive.bodySpan.start ≤ directive.bodySpan.stop ∧
    directive.bodySpan.stop = directive.closeSpan.start ∧ directive.closeSpan.start < directive.closeSpan.stop ∧
    Tile stop directive.closeSpan.stop rest

/-- What the places of a directive say about the text that it stands in. -/
structure StandsIn (text : Text) (directive : Directive) : Prop where
  opening : ∃ line, directive.openSpan.IsLine text directive.line line ∧ Line.IndentOf line.text directive.indent
  closing : ∃ line, directive.closeSpan.IsLine text directive.closeLine line
  between : directive.line < directive.closeLine ∧
    directive.body = unlines ((text.lines.take (directive.closeLine - 1)).drop directive.line)
  body : text.slice directive.bodySpan = directive.body
  newline : directive.newline = ['\n'] ∨ directive.newline = ['\r', '\n'] ∨ directive.newline = ['\r']

end Directive

namespace Passage

variable {number start : Nat}

/-- The directive of a passage stands where the passage does. -/
theorem standsIn {text : Text} {earlier later : List Line} (passage : Passage)
    (split : text.lines = earlier ++ passage.lines ++ later) (isNumber : number = 1 + earlier.length)
    (isStart : start = (unlines earlier).length) : (passage.directive number start).StandsIn text := by
  have opening : text.lines = (earlier ++ passage.before) ++ passage.opening ::
      (passage.inside ++ passage.closing :: later) := by
    rw [split, lines]
    simp only [List.append_assoc, List.cons_append, List.nil_append]
  have closing : text.lines = (earlier ++ passage.before ++ [passage.opening] ++ passage.inside) ++
      passage.closing :: later := by
    rw [opening]
    simp only [List.append_assoc, List.cons_append, List.nil_append]
  have proper := (lines_sequence text).proper passage.opening (by rw [opening]; simp)
  subst isNumber isStart
  constructor
  case opening =>
    refine ⟨passage.opening, Span.isLine_of_split opening ?_ ?_, passage.opening.indentOf_indent⟩
    · simp only [directive, List.length_append]
      omega
    · simp only [directive, unlines_append, List.length_append]
  case closing =>
    refine ⟨passage.closing, Span.isLine_of_split closing ?_ ?_⟩
    · simp only [directive, List.length_append, List.length_cons, List.length_nil]
      omega
    · simp only [directive, unlines_append, unlines_cons, unlines_nil, List.length_append, List.length_nil,
        Nat.add_zero]
  case between =>
    refine ⟨by simp only [directive]; omega, ?_⟩
    have taken : text.lines.take ((passage.directive (1 + earlier.length) (unlines earlier).length).closeLine - 1) =
        earlier ++ passage.before ++ [passage.opening] ++ passage.inside := by
      rw [closing]
      refine List.take_left' ?_
      simp only [directive, List.length_append, List.length_cons, List.length_nil]
      omega
    rw [taken, List.drop_left' (by simp only [directive, List.length_append, List.length_cons, List.length_nil]; omega)]
    rfl
  case body =>
    refine slice_of_append (unlines (earlier ++ passage.before ++ [passage.opening]))
      (unlines (passage.closing :: later)) ?_ ?_ ?_
    · rw [← unlines_lines text, closing, unlines_append, unlines_append]
      rfl
    · simp [directive, Directive.bodySpan, Nat.add_assoc]
    · simp [directive, Directive.bodySpan, Nat.add_assoc]
  case newline =>
    exact proper.newline_cases

theorem tile_directives {stop cursor : Nat} {passages : List Passage}
    (proper : ∀ line ∈ passages.flatMap lines, line.Proper) (fits : cursor ≤ start)
    (bound : start + (passages.flatMap text).length ≤ stop) :
    Directive.Tile stop cursor (directives number start passages) := by
  induction passages generalizing number start cursor with
  | nil => exact fits.trans bound
  | cons passage rest ih =>
    rw [List.flatMap_cons, List.forall_mem_append] at proper
    have opening := List.length_pos_iff.mpr (proper.1 passage.opening (by simp [lines])).nonempty
    have closing := List.length_pos_iff.mpr (proper.1 passage.closing (by simp [lines])).nonempty
    have size := congrArg List.length passage.text_eq
    simp only [List.flatMap_cons, List.length_append] at bound size
    rw [directives_cons, Directive.Tile]
    simp only [directive, Directive.bodySpan]
    refine ⟨by omega, by omega, trivial, by omega, trivial, by omega, ih proper.2 ?_ ?_⟩
    · omega
    · omega

end Passage

namespace PlacedLine

/-- Every open and every close line belongs to a directive. -/
theorem Matched.numbers {lines : List PlacedLine} {directives : List Directive}
    (found : Matched none lines directives) :
    directives.map Directive.line = (opens lines).map number ∧
      directives.map Directive.closeLine = (closes lines).map number := by
  obtain ⟨_, _, lengths, pairs⟩ := found
  have sameLength : (opens lines).length = (closes lines).length := lengths.symm
  have lineNumbers : directives.map Directive.line = ((opens lines).zip (closes lines)).map (number ∘ Prod.fst) := by
    rw [← List.forall₂_eq_eq_eq, List.forall₂_map_left_iff, List.forall₂_map_right_iff]
    exact pairs.imp fun _ _ isPair => isPair.line
  have closeNumbers :
      directives.map Directive.closeLine = ((opens lines).zip (closes lines)).map (number ∘ Prod.snd) := by
    rw [← List.forall₂_eq_eq_eq, List.forall₂_map_left_iff, List.forall₂_map_right_iff]
    exact pairs.imp fun _ _ isPair => isPair.closeLine
  rw [lineNumbers, closeNumbers, ← List.map_map, ← List.map_map, List.map_fst_zip sameLength.le,
    List.map_snd_zip sameLength.ge]
  exact ⟨rfl, rfl⟩

end PlacedLine

namespace Directive

open PlacedLine

/-- The directives of a text take up stretches in order, each from a physical line with an open marker to one with a
close marker. All marker lines are used up. -/
theorem scan_tiles {text : Text} {directives : List Directive} (scanned : scan text = .ok directives) :
    Tile text.length 0 directives ∧ (∀ directive ∈ directives, directive.StandsIn text) ∧
      directives.map line = (opens text.markerLines).map number ∧
      directives.map closeLine = (closes text.markerLines).map number := by
  obtain ⟨document, same, rfl⟩ := (Document.scan_eq_ok_iff text directives).mp scanned
  refine ⟨?_, ?_, ?_⟩
  · refine Passage.tile_directives (fun line member => ?_) le_rfl (Document.length_passages_le same)
    refine (lines_sequence text).proper line ?_
    rw [← same, Document.lines]
    exact List.mem_append_left _ member
  · intro directive member
    obtain ⟨first, passage, later, split, rfl⟩ := Passage.exists_of_mem_directives member
    have whole : text.lines =
        first.flatMap Passage.lines ++ passage.lines ++ (later.flatMap Passage.lines ++ document.after) := by
      rw [← same, Document.lines, split]
      simp only [List.flatMap_append, List.flatMap_cons, List.append_assoc]
    refine passage.standsIn whole rfl ?_
    rw [Nat.zero_add, unlines, List.flatMap_assoc]
    rfl
  · have matched := scan_matched text
    rw [scanned] at matched
    exact matched.numbers

/-- Lines with five kinds of ends, a directive with an indent and a body of two lines, and one without a body. -/
def mixedEnds : Text :=
  " \tautoc:lines a\r\n".toList ++ "x\x0by\x1d".toList ++ "autoc#\rplain\n".toList ++
    "autoc:message \"m\"\nautoc#".toList

theorem scan_tiles_mixedEnds :
    ∃ directives, scan mixedEnds = .ok directives ∧
      directives.map (fun directive => (directive.line, directive.closeLine)) = [(1, 4), (6, 7)] ∧
      Tile mixedEnds.length 0 directives ∧ (∀ directive ∈ directives, directive.StandsIn mixedEnds) ∧
      directives.map line = (opens mixedEnds.markerLines).map number ∧
      directives.map closeLine = (closes mixedEnds.markerLines).map number := by
  have scans : succeedsWith (fun directives => directives.map
      (fun directive => (directive.line, directive.closeLine)) == [(1, 4), (6, 7)]) (scan mixedEnds) = true := by
    decide +kernel
  obtain ⟨directives, scanned, numbers⟩ := exists_of_succeedsWith scans
  exact ⟨directives, scanned, eq_of_beq numbers, scan_tiles scanned⟩

end Directive

end Regen
