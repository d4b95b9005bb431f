import Regen.Proofs.Documents
import Regen.Proofs.Failures

/-! # Texts after each other

A text that ends with a line can be followed by another text, and both keep their lines, unless a carriage return would
join a line feed. If both can be scanned, then so can the two together, and the directives are those of the first text
and those of the second one, which stand further down by the length and the number of lines of the first.
-/

namespace Regen

open Text

namespace Line

variable {lines : List Line} {line : Line}

theorem getLast?_unlines (last : lines.getLast? = some line) (nonempty : line.text ≠ []) :
    (unlines lines).getLast? = line.text.getLast? := by
  obtain ⟨earlier, rfl⟩ := List.getLast?_eq_some_iff.mp last
  rw [unlines_append, unlines_cons, unlines_nil, List.append_nil, List.getLast?_append_of_ne_nil _ nonempty]

theorem head?_unlines (first : lines.head? = some line) (nonempty : line.text ≠ []) :
    (unlines lines).head? = line.text.head? := by
  obtain ⟨later, rfl⟩ := List.head?_eq_some_iff.mp first
  rw [unlines_cons, List.head?_append_of_ne_nil _ nonempty]

end Line

/-- Splitting goes through two texts one after the other, if the first ends with a line and its end does not run on. -/
theorem Text.lines_append {first second : Text} (ends : ∀ c ∈ first.getLast?, isLineBreak c = true)
    (apart : ¬ (first.getLast? = some '\r' ∧ second.head? = some '\n')) :
    (first ++ second).lines = first.lines ++ second.lines := by
  have firstLines := lines_sequence first
  have secondLines := lines_sequence second
  have joins : ∀ line ∈ first.lines.getLast?, ∀ next ∈ second.lines.head?, line.CanPrecede next := by
    intro line isLast next isNext
    have proper := firstLines.proper line (List.mem_of_getLast? isLast)
    have properNext := secondLines.proper next (List.mem_of_head? isNext)
    have endings := Line.getLast?_unlines isLast proper.nonempty
    have starts := Line.head?_unlines isNext properNext.nonempty
    rw [unlines_lines] at endings starts
    refine ⟨fun missing => ?_, fun fused => apart ?_⟩
    · -- a line that does not end has no break in it
      obtain ⟨c, isLastChar⟩ := Option.ne_none_iff_exists'.mp (List.getLast?_eq_none_iff.not.mpr proper.nonempty)
      have isBreak := ends c (endings.trans isLastChar)
      rw [Line.text, missing, List.append_nil] at isLastChar
      rw [proper.unbroken c (List.mem_of_getLast? isLastChar)] at isBreak
      cases isBreak
    · refine ⟨?_, starts.trans fused.2⟩
      rw [endings, Line.text, fused.1, List.getLast?_concat]
  have sequence : Line.Sequence (first.lines ++ second.lines) :=
    ⟨List.forall_mem_append.mpr ⟨firstLines.proper, secondLines.proper⟩,
      List.isChain_append.mpr ⟨firstLines.chain, secondLines.chain, joins⟩⟩
  have split := sequence.lines_unlines
  rwa [unlines_append, unlines_lines, unlines_lines] at split

def Span.shift (offset : Nat) (span : Span) : Span := ⟨span.start + offset, span.stop + offset⟩

/-- A directive further down, by characters and by lines. -/
def Directive.shift (offset lines : Nat) (directive : Directive) : Directive :=
  { directive with
    line := directive.line + lines
    closeLine := directive.closeLine + lines
    openSpan := directive.openSpan.shift offset
    closeSpan := directive.closeSpan.shift offset }

namespace Passage

theorem directive_add (number start offset lines : Nat) (passage : Passage) :
    passage.directive (number + lines) (start + offset) = (passage.directive number start).shift offset lines := by
  simp only [directive, Directive.shift, Span.shift, Directive.mk.injEq, Span.mk.injEq, true_and, and_true]
  omega

/-- Passages that start further down have directives further down. -/
theorem directives_add (number start offset lines : Nat) (passages : List Passage) :
    directives (number + lines) (start + offset) passages =
      (directives number start passages).map (Directive.shift offset lines) := by
  induction passages generalizing number start with
  | nil => rfl
  | cons passage rest ih =>
    rw [directives_cons, directives_cons, List.map_cons, directive_add, Nat.add_right_comm number,
      Nat.add_right_comm start, ih]

end Passage

/-- Scanning goes on after a document as if nothing had been before. -/
theorem Document.ofLines_lines_append (number start : Nat) (document : Document) (rest : List Line) :
    Directive.ofLines number start none (document.lines ++ rest) =
      Directive.ofLines (number + document.lines.length) (start + document.text.length) none rest >>= fun more =>
        .ok (Passage.directives number start document.passages ++ more) := by
  obtain ⟨passages, after, after_plain⟩ := document
  dsimp only [lines, text]
  induction passages generalizing number start with
  | nil =>
    rw [List.flatMap_nil, List.nil_append, Directive.ofLines_plain_append after_plain]
    cases Directive.ofLines (number + after.length) (start + (unlines after).length) none rest <;> rfl
  | cons passage passages ih =>
    have number_eq (tail : List Line) : number + (passage.lines ++ tail).length =
        number + passage.lines.length + tail.length := by rw [List.length_append, Nat.add_assoc]
    have start_eq (tail : List Line) : start + (unlines (passage.lines ++ tail)).length =
        start + passage.text.length + (unlines tail).length := by
      rw [unlines_append, List.length_append, Nat.add_assoc, Passage.text]
    rw [List.flatMap_cons, List.append_assoc passage.lines, List.append_assoc passage.lines, Directive.ofLines_passage,
      ih, bind_assoc, number_eq, start_eq]
    rfl

namespace Directive

/-- Two texts after each other are scanned one after the other. -/
theorem scan_append {first second : Text} {directives later : List Directive}
    (ends : ∀ c ∈ first.getLast?, isLineBreak c = true)
    (apart : ¬ (first.getLast? = some '\r' ∧ second.head? = some '\n'))
    (scanned : scan first = .ok directives) (scannedLater : scan second = .ok later) :
    scan (first ++ second) = .ok (directives ++ later.map (shift first.length first.lines.length)) := by
  obtain ⟨document, same, rfl⟩ := (Document.scan_eq_ok_iff ..).mp scanned
  obtain ⟨next, sameNext, rfl⟩ := (Document.scan_eq_ok_iff ..).mp scannedLater
  have size : document.text.length = first.length := by rw [Document.text, same, unlines_lines]
  rw [scan, lines_append ends apart, ← same, ← sameNext, Document.ofLines_lines_append, size, Document.ofLines_lines,
    Passage.directives_add]
  rfl

/-- A text whose last line ends in a carriage return, with a plain line after its directive. -/
def returnAtEnd : Text := "\n autoc:block b\nx\n".toList ++ "autoc#\u2028plain\r".toList

/-- A text without a line end of its own. -/
def unended : Text := "\rautoc:message \"m\"\nautoc#".toList

theorem scan_append_unended :
    ∃ directives later, scan returnAtEnd = .ok directives ∧ scan unended = .ok later ∧
      scan (returnAtEnd ++ unended) = .ok (directives ++ later.map (shift 31 5)) ∧
      (directives ++ later.map (shift 31 5)).map line = [2, 7] := by
  have scans : succeedsWith (fun directives => directives.map line == [2]) (scan returnAtEnd) = true ∧
      succeedsWith (fun directives => directives.map line == [2]) (scan unended) = true ∧
      returnAtEnd.getLast?.all isLineBreak = true ∧ returnAtEnd.length = 31 ∧ returnAtEnd.lines.length = 5 ∧
      unended.head? = some '\r' := by decide +kernel
  obtain ⟨scansFirst, scansSecond, ends, length, lines, starts⟩ := scans
  obtain ⟨directives, scanned, isLine⟩ := exists_of_succeedsWith scansFirst
  obtain ⟨later, scannedLater, isLater⟩ := exists_of_succeedsWith scansSecond
  refine ⟨directives, later, scanned, scannedLater, ?_, ?_⟩
  · rw [← length, ← lines]
    refine scan_append (fun c isLast => ?_) (fun fused => ?_) scanned scannedLater
    · rw [Option.mem_def.mp isLast] at ends
      exact ends
    · rw [starts] at fused
      exact absurd fused.2 (by decide)
  · have shifted : (later.map (shift 31 5)).map line = (later.map line).map (· + 5) := by
      rw [List.map_map, List.map_map]
      rfl
    rw [List.map_append, shifted, eq_of_beq isLine, eq_of_beq isLater]
    rfl

end Directive

end Regen
