import Regen.Proofs.Placeless

/-! # New text between marker lines

Text without a token that ends its last line can stand between two marker lines: what comes out is again a document
with the same passages around the new insides. One thing reaches beyond the inside. If the open marker's line ends in
a carriage return and the new text starts with a line feed, the two make one terminator, and the line feed goes
over to the marker's line.
-/

namespace Regen

open Text

/-- Text that can stand between two marker lines. -/
structure Region where
  text : Text
  noOpen : ¬ openToken <:+: text
  noClose : ¬ closeToken <:+: text
  /-- The last line is ended, so that the close marker keeps its own. -/
  ended : ∀ c ∈ text.getLast?, isLineBreak c = true

/-- No text at all. -/
def Region.empty : Region := ⟨[], by decide, by decide, by simp⟩

namespace Line

variable {line : Line} {after : Text}

/-- The carriage return at the end of a line makes one terminator with the line feed after it. -/
def Fuses (line : Line) (after : Text) : Prop := line.terminator = ['\r'] ∧ after.head? = some '\n'

instance (line : Line) (after : Text) : Decidable (line.Fuses after) := inferInstanceAs (Decidable (_ ∧ _))

/-- The line with the terminator it has in front of a text. -/
def before (after : Text) (line : Line) : Line :=
  if line.Fuses after then { line with terminator := ['\r', '\n'] } else line

/-- What is left of a text after a line. -/
def leave (after : Text) (line : Line) : Text := if line.Fuses after then after.tail else after

theorem text_before_append_leave (after : Text) (line : Line) :
    (line.before after).text ++ line.leave after = line.text ++ after := by
  unfold before leave
  split
  · next fuses =>
    obtain ⟨rest, rfl⟩ := List.head?_eq_some_iff.mp fuses.2
    simp [text, fuses.1]
  · rfl

theorem leave_suffix (after : Text) (line : Line) : line.leave after <:+ after := by
  unfold leave
  split
  · exact List.tail_suffix after
  · exact List.suffix_refl after

@[simp] theorem body_before (after : Text) (line : Line) : (line.before after).body = line.body := by
  unfold before
  split <;> rfl

@[simp] theorem content_before (after : Text) (line : Line) : (line.before after).content = line.content := by
  unfold before
  split
  · next fuses => simp [content, endsPlainly, fuses.1]
  · rfl

@[simp] theorem marker_before (after : Text) (line : Line) : (line.before after).marker = line.marker := by
  rw [marker, content_before, marker]

@[simp] theorem indent_before (after : Text) (line : Line) : (line.before after).indent = line.indent := by
  rw [indent, content_before, indent]

theorem newline_before (after : Text) (line : Line) :
    (line.before after).newline = if line.Fuses after then ['\r', '\n'] else line.newline := by
  unfold before
  split <;> rfl

theorem terminator_before_ne_nil (ends : line.terminator ≠ []) (after : Text) :
    (line.before after).terminator ≠ [] := by
  unfold before
  split
  · simp
  · exact ends

theorem Proper.before (proper : line.Proper) (after : Text) : (line.before after).Proper := by
  unfold Line.before
  split
  · exact ⟨proper.unbroken, .inr (.inl rfl), by simp [text]⟩
  · exact proper

theorem ended_leave (ended : ∀ c ∈ after.getLast?, isLineBreak c = true) (line : Line) :
    ∀ c ∈ (line.leave after).getLast?, isLineBreak c = true := by
  intro c last
  obtain ⟨taken, split⟩ := line.leave_suffix after
  refine ended c ?_
  rw [← split, List.getLast?_append, Option.mem_def.mp last]
  rfl

/-- A line that ends can stand before any line with a body. -/
theorem CanPrecede.of_body {next : Line} (ends : line.terminator ≠ []) (proper : next.Proper) (body : next.body ≠ []) :
    line.CanPrecede next :=
  ⟨ends, fun fused => head?_text_ne proper body (by decide) fused.2⟩

/-- The end of the last line of a text that ends in a break. -/
theorem terminator_ne_nil_of_getLast? {text : Text} (ended : ∀ c ∈ text.getLast?, isLineBreak c = true)
    (last : line ∈ text.lines.getLast?) : line.terminator ≠ [] := by
  intro missing
  have proper := (lines_sequence text).proper line (List.mem_of_getLast? last)
  obtain ⟨others, split⟩ := List.getLast?_eq_some_iff.mp last
  have parts : text = unlines others ++ line.body := by
    rw [← unlines_lines text, split, unlines_append, unlines_cons, unlines_nil, Line.text, missing]
    simp
  have nonempty : line.body ≠ [] := by
    have := proper.nonempty
    rwa [Line.text, missing, List.append_nil] at this
  have broken := ended (line.body.getLast nonempty) (by
    rw [parts, List.getLast?_append_of_ne_nil _ nonempty, List.getLast?_eq_some_getLast nonempty]
    rfl)
  rw [proper.unbroken _ (List.getLast_mem nonempty)] at broken
  cases broken

/-- A terminator that took over a line feed runs on no further. -/
theorem not_fused_of_head? {next : Line} (atNext : (line.leave after).lines.head? = some next) :
    ¬ ((line.before after).terminator = ['\r'] ∧ next.text.head? = some '\n') := by
  rintro ⟨isReturn, isFeed⟩
  have alone : ¬ line.Fuses after := by
    intro fuses
    rw [before, if_pos fuses] at isReturn
    cases isReturn
  rw [before, if_neg alone] at isReturn
  rw [leave, if_neg alone] at atNext
  obtain ⟨more, split⟩ := List.head?_eq_some_iff.mp atNext
  obtain ⟨rest, start⟩ := List.head?_eq_some_iff.mp isFeed
  refine alone ⟨isReturn, ?_⟩
  rw [← unlines_lines after, split, unlines_cons, start]
  rfl

end Line

namespace Line.Sequence

variable {first inside rest : List Line} {opening closing : Line}

/-- Between two lines with bodies, lines can be exchanged for those of a region. -/
theorem exchange (sequence : Sequence (first ++ opening :: (inside ++ closing :: rest))) (opens : opening.body ≠ [])
    (closes : closing.body ≠ []) (region : Region) :
    Sequence (first ++ opening.before region.text :: ((opening.leave region.text).lines ++ closing :: rest)) := by
  have properOpening := sequence.proper opening (by simp)
  have properClosing := sequence.proper closing (by simp)
  have properLines := lines_sequence (opening.leave region.text)
  refine ⟨?_, ?_⟩
  · intro line member
    simp only [List.mem_append, List.mem_cons] at member
    rcases member with member | rfl | member | member | member
    · exact sequence.proper line (by simp [member])
    · exact properOpening.before region.text
    · exact properLines.proper line member
    · exact sequence.proper line (by simp [member])
    · exact sequence.proper line (by simp [member])
  · obtain ⟨firstChain, openingChain, join⟩ := List.isChain_append.mp sequence.chain
    obtain ⟨opensBefore, insideChain⟩ := List.isChain_cons.mp openingChain
    have closingChain := (List.isChain_append.mp insideChain).2.1
    have ends : (opening.before region.text).terminator ≠ [] := by
      refine terminator_before_ne_nil ?_ _
      cases inside with
      | nil => exact (opensBefore closing rfl).1
      | cons next more => exact (opensBefore next rfl).1
    refine List.isChain_append.mpr ⟨firstChain, List.isChain_cons.mpr ⟨?_, ?_⟩, ?_⟩
    · intro next atNext
      rw [List.head?_append, Option.mem_def, Option.or_eq_some_iff] at atNext
      rcases atNext with atNext | ⟨_, atNext⟩
      · exact ⟨ends, not_fused_of_head? atNext⟩
      · cases atNext
        exact .of_body ends properClosing closes
    · refine List.isChain_append.mpr ⟨properLines.chain, closingChain, ?_⟩
      intro last atLast next atNext
      cases atNext
      exact .of_body (terminator_ne_nil_of_getLast? (ended_leave region.ended opening) atLast) properClosing closes
    · intro last atLast next atNext
      cases atNext
      exact .of_body (join last atLast opening rfl).1 (properOpening.before region.text) (by rwa [body_before])

end Line.Sequence

theorem Line.Opens.of_marker {line other : Line} {header : Header} {headerText leader : Text}
    (opens : line.Opens header headerText leader) (same : other.marker = line.marker) :
    other.Opens header headerText leader := by
  cases opens with
  | intro marked named read => exact .intro (same.trans marked) named read

theorem Line.Opens.marker_ne_plain {line : Line} {header : Header} {headerText leader : Text}
    (opens : line.Opens header headerText leader) : line.marker ≠ .plain := by
  cases opens with
  | intro marked named read => simp [marked]

/-- No line of a region has a marker. -/
theorem Region.marker_eq_plain (region : Region) {rest : Text} (isSuffix : rest <:+ region.text) {line : Line}
    (member : line ∈ rest.lines) : line.marker = .plain := by
  have inRest : line.text <:+: rest := by
    obtain ⟨before, after, split⟩ := List.append_of_mem member
    refine ⟨unlines before, unlines after, ?_⟩
    rw [← unlines_lines rest, split, unlines_append, unlines_cons, List.append_assoc]
  have inRegion : line.content <:+: region.text :=
    line.content_prefix.isInfix.trans (inRest.trans isSuffix.isInfix)
  exact Marker.ofLine_eq_plain (fun found => region.noOpen (found.trans inRegion))
    fun found => region.noClose (found.trans inRegion)

namespace Passage

/-- The passage with a region inside, if its inside is regenerated. -/
def refill (region : Region) (passage : Passage) : Passage :=
  if passage.producesOutput then
    { passage with
      opening := passage.opening.before region.text
      inside := (passage.opening.leave region.text).lines
      opens := passage.opens.of_marker (Line.marker_before ..)
      inside_plain := fun _ member => region.marker_eq_plain (Line.leave_suffix ..) member }
  else passage

theorem text_refill (region : Region) (passage : Passage) :
    (passage.refill region).text = passage.filled region.text := by
  unfold refill filled
  split
  · have joined := passage.opening.text_before_append_leave region.text
    rw [text_eq, unlines_lines]
    simp only [List.append_assoc] at joined ⊢
    rw [← List.append_assoc _ _ passage.closing.text, joined, List.append_assoc]
  · rfl

@[simp] theorem producesOutput_refill (region : Region) (passage : Passage) :
    (passage.refill region).producesOutput = passage.producesOutput := by
  unfold refill
  split <;> rfl

@[simp] theorem before_refill (region : Region) (passage : Passage) :
    (passage.refill region).before = passage.before := by
  unfold refill
  split <;> rfl

@[simp] theorem closing_refill (region : Region) (passage : Passage) :
    (passage.refill region).closing = passage.closing := by
  unfold refill
  split <;> rfl

theorem opening_refill {region : Region} {passage : Passage} (produces : passage.producesOutput = true) :
    (passage.refill region).opening = passage.opening.before region.text := by
  rw [refill, if_pos produces]

theorem refill_of_definition (region : Region) {passage : Passage} (defines : passage.producesOutput = false) :
    passage.refill region = passage := if_neg (by rw [defines]; decide)

/-- A passage with a new region inside is the same directive. -/
theorem resembles_refill (region : Region) (passage : Passage) (number start number' start' : Nat) :
    (passage.directive number start).Resembles ((passage.refill region).directive number' start') := by
  unfold refill
  split
  · next produces =>
    refine ⟨rfl, rfl, (Line.indent_before ..).symm, rfl, fun defines => ?_, fun defines => ?_⟩
    · rw [show passage.producesOutput = false from defines] at produces
      cases produces
    · rw [show passage.producesOutput = false from defines] at produces
      cases produces
  · exact ⟨rfl, rfl, rfl, rfl, fun _ => rfl, fun _ => rfl⟩

theorem resembling_refill (regions : Passage → Region) (passages : List Passage) (number start number' start' : Nat) :
    List.Forall₂ Directive.Resembles (directives number start passages)
      (directives number' start' (passages.map fun passage => passage.refill (regions passage))) :=
  forall₂_directives_map fun passage => passage.resembles_refill (regions passage)

/-- Passages can be refilled one after the other. -/
theorem sequence_refill (regions : Passage → Region) (first : List Line) {after : List Line} {passages : List Passage}
    (sequence : Line.Sequence (first ++ (passages.flatMap lines ++ after))) :
    Line.Sequence (first ++
      ((passages.map fun passage => passage.refill (regions passage)).flatMap lines ++ after)) := by
  -- the passages that are done go over to the lines in front
  induction passages generalizing first with
  | nil => exact sequence
  | cons passage rest ih =>
    have one : Line.Sequence
        (first ++ ((passage.refill (regions passage)).lines ++ (rest.flatMap lines ++ after))) := by
      rw [List.flatMap_cons, List.append_assoc] at sequence
      unfold refill
      split
      · have opens : passage.opening.body ≠ [] :=
          Line.body_ne_nil_of_marker (sequence.proper _ (by simp [lines])) passage.opens.marker_ne_plain
        have closes : passage.closing.body ≠ [] :=
          Line.body_ne_nil_of_marker (sequence.proper _ (by simp [lines])) (by simp [passage.closes])
        have split : Line.Sequence ((first ++ passage.before) ++
            passage.opening :: (passage.inside ++ passage.closing :: (rest.flatMap lines ++ after))) := by
          simpa [lines] using sequence
        simpa [lines] using split.exchange opens closes (regions passage)
      · exact sequence
    rw [List.map_cons, List.flatMap_cons, List.append_assoc, ← List.append_assoc]
    rw [← List.append_assoc] at one
    exact ih _ one

end Passage

namespace Document

/-- The document with regions inside the passages that are regenerated. -/
def refill (regions : Passage → Region) (document : Document) : Document where
  passages := document.passages.map fun passage => passage.refill (regions passage)
  after := document.after
  after_plain := document.after_plain

theorem text_refill (regions : Passage → Region) (document : Document) :
    (document.refill regions).text =
      document.passages.flatMap (fun passage => passage.filled (regions passage).text) ++ unlines document.after := by
  rw [text, lines, unlines_append, unlines, List.flatMap_assoc, refill, List.flatMap_map]
  exact congrArg (· ++ _) (List.flatMap_congr fun passage _ => Passage.text_refill ..)

/-- Splitting the text of a refilled document gives its lines back. -/
theorem lines_refill (regions : Passage → Region) {document : Document} {text : Text}
    (same : document.lines = text.lines) : (document.refill regions).text.lines = (document.refill regions).lines := by
  have sequence := lines_sequence text
  rw [← same] at sequence
  exact Line.Sequence.lines_unlines (Passage.sequence_refill regions [] sequence)

end Document

end Regen
