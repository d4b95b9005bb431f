import Regen.Proofs.Refilling

/-! # Scanning what was expanded

Expanding a document puts regions into its passages and changes nothing else, so the expanded text is again a
document: scanning it succeeds and finds the same directives, with the same definitions.
-/

namespace Regen

open Text Directive

/-- The line end that generated text takes over consists of carriage returns and line feeds. -/
theorem Line.mem_newline {line : Line} {c : Char} (member : c ∈ line.newline) : c = '\n' ∨ c = '\r' := by
  unfold newline at member
  split at member
  · next plain =>
    have all := (Bool.and_eq_true_iff.mp plain).1
    simpa using List.all_eq_true.mp all c member
  · exact .inl (List.mem_singleton.mp member)

theorem Line.newline_ne_nil (line : Line) : line.newline ≠ [] := by
  unfold newline
  split
  · next plain =>
    intro empty
    rw [empty] at plain
    simp at plain
  · simp

namespace Expansion

variable {program : Program} {limits : Limits} {directive : Directive} {text : Text}

/-- Appending a line end to a text ends it. -/
theorem ended_append {newline : Text} (nonempty : newline ≠ []) (breaks : ∀ c ∈ newline, isLineBreak c = true)
    (text : Text) : ∀ c ∈ (text ++ newline).getLast?, isLineBreak c = true := by
  intro c last
  rw [List.getLast?_append_of_ne_nil _ nonempty] at last
  exact breaks c (List.mem_of_getLast? last)

/-- What a directive generates ends its last line. -/
theorem ended_of_generate (nonempty : directive.newline ≠ []) (breaks : ∀ c ∈ directive.newline, isLineBreak c = true)
    (generated : generate program limits directive = .ok text) : ∀ c ∈ text.getLast?, isLineBreak c = true := by
  obtain ⟨draft, rfl⟩ := exists_draft generated
  cases draft with
  | steps indent events =>
    rw [Draft.text, asRegion]
    split
    · next ended =>
      intro c last
      rcases Bool.or_eq_true_iff.mp ended with empty | feed
      · rw [List.isEmpty_iff.mp empty] at last
        cases last
      · rw [Option.mem_def.mp last] at feed
        obtain rfl : c = '\n' := by simpa using feed
        rfl
    · exact ended_append nonempty breaks _
  | rows parts =>
    rw [Draft.text]
    split
    · simp
    · exact ended_append nonempty breaks _

theorem generate_of_region (success : region program limits directive = .ok text) :
    generate program limits directive = .ok text ∧ ¬ openToken <:+: text ∧ ¬ closeToken <:+: text := by
  obtain ⟨generated, made, success⟩ := bind_eq_ok success
  split at success
  · cases success
  · next clean =>
    cases success
    rw [Bool.or_eq_true, not_or, occursIn_iff_infix, occursIn_iff_infix] at clean
    exact ⟨made, clean⟩

end Expansion

namespace Passage

variable {program : Program} {limits : Limits}

/-- The region that a passage generates, or none if it fails to. -/
def generated (program : Program) (limits : Limits) (passage : Passage) : Region :=
  match success : Expansion.region program limits (passage.directive 0 0) with
  | .ok text =>
    have clean := Expansion.generate_of_region success
    { text
      noOpen := clean.2.1
      noClose := clean.2.2
      ended := Expansion.ended_of_generate passage.opening.newline_ne_nil
        (fun c member => by rcases Line.mem_newline member with rfl | rfl <;> rfl) clean.1 }
  | .error _ => .empty

/-- Where a passage stands decides nothing about what it generates. -/
theorem region_anywhere {passage : Passage} {number start : Nat} {text : Text}
    (success : Expansion.region program limits (passage.directive number start) = .ok text) (number' start' : Nat) :
    Expansion.region program limits (passage.directive number' start') = .ok text := by
  have alike : Alike Eq (Expansion.region program limits (passage.directive number start))
      (Expansion.region program limits (passage.directive number' start')) :=
    Expansion.region_alike rfl limits ⟨⟨rfl, rfl, rfl, rfl, fun _ => rfl, fun _ => rfl⟩, rfl⟩
  rw [success] at alike
  obtain ⟨_, made, rfl⟩ := alike.exists_ok
  exact made

theorem text_generated {passage : Passage} {number start : Nat} {text : Text}
    (success : Expansion.region program limits (passage.directive number start) = .ok text) :
    (passage.generated program limits).text = text := by
  have here := region_anywhere success 0 0
  unfold generated
  split
  · next made => exact Except.ok.inj (made.symm.trans here)
  · next failed => cases failed.symm.trans here

/-- All passages of a list that are regenerated generate a region. -/
def AllGenerate (program : Program) (limits : Limits) (passages : List Passage) : Prop :=
  ∀ passage ∈ passages, passage.producesOutput = true →
    ∃ text, Expansion.region program limits (passage.directive 0 0) = .ok text

/-- The regions of output directives are those that their passages generate. -/
theorem forall₂_region_iff {passages : List Passage} {pieces : List Text} {number start : Nat} :
    List.Forall₂ (fun directive piece => Expansion.region program limits directive = .ok piece)
        (outputs (directives number start passages)) pieces ↔
      AllGenerate program limits passages ∧
        pieces = (passages.filter producesOutput).map fun passage => (passage.generated program limits).text := by
  induction passages generalizing pieces number start with
  | nil =>
    rw [directives_nil, outputs, List.filter_nil, List.forall₂_nil_left_iff]
    exact ⟨fun none => ⟨fun _ member => (by cases member), none⟩, fun both => both.2⟩
  | cons passage rest ih =>
    have split : AllGenerate program limits (passage :: rest) ↔
        (passage.producesOutput = true → ∃ text, Expansion.region program limits (passage.directive 0 0) = .ok text) ∧
          AllGenerate program limits rest := List.forall_mem_cons
    rw [directives_cons, outputs_cons_directive, List.filter_cons, split]
    by_cases produces : passage.producesOutput = true
    · simp only [produces, if_true, true_implies, List.map_cons]
      constructor
      · rintro (_ | ⟨made, more⟩)
        obtain ⟨others, rfl⟩ := ih.mp more
        exact ⟨⟨⟨_, region_anywhere made 0 0⟩, others⟩, by rw [text_generated made]⟩
      · rintro ⟨⟨⟨text, made⟩, others⟩, rfl⟩
        refine .cons ?_ (ih.mpr ⟨others, rfl⟩)
        rw [text_generated made]
        exact region_anywhere made _ _
    · rw [if_neg produces, if_neg produces, ih]
      simp only [produces, Bool.false_eq_true, false_implies, true_and]

end Passage

def Document.regenerate (program : Program) (limits : Limits) (document : Document) : Document :=
  document.refill (Passage.generated program limits)

namespace Expansion

variable {file : Option Text} {limits : Limits} {text : Text} {expansion : Expansion}

theorem scan_of_expand (success : expand file limits text = .ok expansion) : scan text = .ok expansion.directives := by
  obtain ⟨directives, scanned, success⟩ := bind_eq_ok success
  obtain ⟨gathered, _, success⟩ := bind_eq_ok success
  obtain ⟨replaced, _, success⟩ := bind_eq_ok success
  obtain ⟨expanded, _, success⟩ := bind_eq_ok success
  cases success
  cases result : scan text with
  | ok found =>
    rw [result] at scanned
    exact scanned
  | error failure =>
    rw [result] at scanned
    cases scanned

/-- Expanding the text of a document succeeds if its definitions can be gathered and its regions generated, and
gives the text of the document with new regions. -/
theorem expand_eq_ok_iff {document : Document} (same : document.lines = text.lines) :
    expand file limits text = .ok expansion ↔
      ∃ gathered, gather file document.directives = .ok gathered ∧
        Passage.AllGenerate gathered.program limits document.passages ∧
        expansion = ⟨(document.regenerate gathered.program limits).text, document.directives,
          gathered.warnings ++ messages file document.directives⟩ := by
  have scanned : scan text = .ok document.directives := (Document.scan_eq_ok_iff ..).mpr ⟨document, same, rfl⟩
  have woven (program : Program) :
      weave (text.gaps (outputSpans document.directives))
          ((document.passages.filter Passage.producesOutput).map fun passage =>
            (passage.generated program limits).text) =
        (document.regenerate program limits).text := by
    rw [Document.gaps_eq same, Passage.weave_gaps, Document.regenerate, Document.text_refill, List.nil_append]
  rw [expand_of_scan scanned]
  constructor
  · intro success
    obtain ⟨gathered, defined, success⟩ := bind_eq_ok success
    obtain ⟨pieces, made, success⟩ := bind_eq_ok success
    obtain ⟨all, rfl⟩ := Passage.forall₂_region_iff.mp (regions_eq_ok_iff.mp made)
    cases success
    exact ⟨gathered, defined, all, by rw [woven]⟩
  · rintro ⟨gathered, defined, all, rfl⟩
    have made : regions file gathered.program limits document.directives = .ok _ :=
      regions_eq_ok_iff.mpr (Passage.forall₂_region_iff.mpr ⟨all, rfl⟩)
    rw [defined]
    change (regions file gathered.program limits document.directives >>= _) = _
    rw [made, ← woven]
    rfl

/-- The lines of the expanded text are those of the document with new regions. -/
theorem lines_regenerate {document : Document} (same : document.lines = text.lines) (program : Program) :
    (document.regenerate program limits).text.lines = (document.regenerate program limits).lines :=
  Document.lines_refill _ same

/-- The expanded text scans the way the text does: with as many directives, which say the same one by one. -/
theorem rescan_expanded (success : expand file limits text = .ok expansion) :
    ∃ directives rescanned, scan text = .ok directives ∧ scan expansion.text = .ok rescanned ∧
      List.Forall₂ Resembles directives rescanned := by
  obtain ⟨document, same, _⟩ := (Document.scan_eq_ok_iff ..).mp (scan_of_expand success)
  obtain ⟨gathered, _, _, rfl⟩ := (expand_eq_ok_iff same).mp success
  refine ⟨document.directives, (document.regenerate gathered.program limits).directives,
    (Document.scan_eq_ok_iff ..).mpr ⟨document, same, rfl⟩, ?_, ?_⟩
  · exact (Document.scan_eq_ok_iff ..).mpr ⟨_, (lines_regenerate same _).symm, rfl⟩
  · exact Passage.resembling_refill ..

/-- A region that starts with a line feed behind an open marker that ends in a carriage return. -/
def feedAfterReturn : Text := "autoc:format-lines f \"\\n%s\"\rautoc#\rautoc:lines f\rx\rautoc#\r".toList

set_option maxRecDepth 4000 in
theorem rescan_expanded_feedAfterReturn :
    ∃ expansion directives rescanned, expand none {} feedAfterReturn = .ok expansion ∧
      scan feedAfterReturn = .ok directives ∧ scan expansion.text = .ok rescanned ∧
      List.Forall₂ Resembles directives rescanned := by
  obtain ⟨expansion, success⟩ : ∃ expansion, expand none {} feedAfterReturn = .ok expansion := ⟨_, rfl⟩
  obtain ⟨directives, rescanned, scanned, again, resembling⟩ := rescan_expanded success
  exact ⟨expansion, directives, rescanned, success, scanned, again, resembling⟩

end Expansion

end Regen
