import Regen.Proofs.Widening

/-! # Expanding a second time

What was expanded can be expanded again. The second expansion changes nothing, unless a region starts with a line feed
behind an open marker that ends in a carriage return: the two make one terminator, the next scan reads another line
end off the marker, and the text grows. So expansion is idempotent on exactly the documents without such a region.
-/

namespace Regen

open Text Directive

section Pieces

variable {α : Type} {old new : α → Text} {items : List α}

theorem Text.length_flatMap_le_of_grows (grows : ∀ a ∈ items, new a = old a ∨ (old a).length < (new a).length) :
    (items.flatMap old).length ≤ (items.flatMap new).length := by
  induction items with
  | nil => exact le_rfl
  | cons a rest ih =>
    have more := ih fun b member => grows b (List.mem_cons_of_mem _ member)
    simp only [List.flatMap_cons, List.length_append]
    rcases grows a (List.mem_cons_self ..) with same | grown
    · rw [same]
      omega
    · omega

/-- If pieces are kept or grow, the whole is kept only if every piece is. -/
theorem Text.flatMap_eq_iff_of_grows (grows : ∀ a ∈ items, new a = old a ∨ (old a).length < (new a).length) :
    items.flatMap new = items.flatMap old ↔ ∀ a ∈ items, new a = old a := by
  constructor
  · intro same
    induction items with
    | nil => exact fun a member => by cases member
    | cons a rest ih =>
      have grownRest := fun b member => grows b (List.mem_cons_of_mem a member)
      have more := length_flatMap_le_of_grows grownRest
      rw [List.flatMap_cons, List.flatMap_cons] at same
      rcases grows a (List.mem_cons_self ..) with kept | grown
      · rw [kept, List.append_cancel_left_eq] at same
        rintro b (_ | ⟨_, member⟩)
        · exact kept
        · exact ih grownRest same b member
      · have lengths := congrArg List.length same
        simp only [List.length_append] at lengths
        omega
  · exact fun same => List.flatMap_congr same

end Pieces

theorem Line.newline_eq_return_iff (line : Line) : line.newline = ['\r'] ↔ line.terminator = ['\r'] := by
  unfold newline
  split
  · exact Iff.rfl
  · next other =>
    constructor
    · intro same
      cases same
    · intro isReturn
      simp [endsPlainly, isReturn] at other

/-- The region of a directive starts with a line feed that goes over to the terminator of the open marker's line. -/
def Directive.Fuses (program : Program) (limits : Limits) (directive : Directive) : Prop :=
  directive.kind.producesOutput = true ∧ directive.newline = ['\r'] ∧
    ∃ rest, Expansion.region program limits directive = .ok ('\n' :: rest)

namespace Passage

variable {program program' : Program} {limits : Limits} {passage : Passage}

/-- The new region of a passage runs together with its open marker's line. -/
def Fuses (program : Program) (limits : Limits) (passage : Passage) : Prop :=
  passage.producesOutput = true ∧ passage.opening.Fuses (passage.generated program limits).text

abbrev regenerate (program : Program) (limits : Limits) (passage : Passage) : Passage :=
  passage.refill (passage.generated program limits)

/-- A passage generates again, the same text or one that is no shorter. -/
theorem region_regenerate (same : program.unplaced = program'.unplaced) (produces : passage.producesOutput = true)
    {text : Text} (success : Expansion.region program limits (passage.directive 0 0) = .ok text) :
    ∃ again, Expansion.region program' limits ((passage.regenerate program limits).directive 0 0) = .ok again ∧
      (¬ passage.Fuses program limits → again = text) ∧ text.length ≤ again.length := by
  have resembles := passage.resembles_refill (passage.generated program limits) 0 0 0 0
  have newline : ((passage.regenerate program limits).directive 0 0).newline =
      ((passage.opening.before (passage.generated program limits).text).newline) :=
    congrArg Line.newline (opening_refill produces)
  rw [Line.newline_before] at newline
  by_cases fuses : passage.opening.Fuses (passage.generated program limits).text
  · rw [if_pos fuses] at newline
    have narrow : (passage.directive 0 0).newline = ['\r'] := (Line.newline_eq_return_iff _).mpr fuses.1
    obtain ⟨again, made, longer⟩ := Expansion.region_widened same resembles narrow newline success
    exact ⟨again, made, fun alone => absurd ⟨produces, fuses⟩ alone, longer⟩
  · rw [if_neg fuses] at newline
    have alike := Expansion.region_alike same limits ⟨resembles, newline.symm⟩
    rw [success] at alike
    obtain ⟨_, made, rfl⟩ := alike.exists_ok
    exact ⟨_, made, fun _ => rfl, le_rfl⟩

/-- The text of a passage after the second expansion. -/
def filledAgain (program program' : Program) (limits : Limits) (passage : Passage) : Text :=
  (passage.regenerate program limits).filled ((passage.regenerate program limits).generated program' limits).text

variable (same : program.unplaced = program'.unplaced)
  (generates : passage.producesOutput = true →
    ∃ text, Expansion.region program limits (passage.directive 0 0) = .ok text)

include same generates

theorem filledAgain_of_not_fuses (alone : ¬ passage.Fuses program limits) :
    passage.filledAgain program program' limits = (passage.regenerate program limits).text := by
  rw [text_refill, filledAgain]
  by_cases produces : passage.producesOutput = true
  · obtain ⟨text, success⟩ := generates produces
    obtain ⟨again, made, kept, _⟩ := region_regenerate same produces success
    have opening : (passage.regenerate program limits).opening = passage.opening := by
      rw [opening_refill produces, Line.before, if_neg fun fuses => alone ⟨produces, fuses⟩]
    rw [text_generated made, kept alone, text_generated success]
    simp only [filled, producesOutput_refill, opening, before_refill, closing_refill, produces, if_true]
  · have defines := Bool.eq_false_iff.mpr produces
    rw [regenerate, refill_of_definition _ defines, filled, filled, if_neg produces, if_neg produces]

theorem length_lt_filledAgain_of_fuses (fused : passage.Fuses program limits) :
    (passage.regenerate program limits).text.length < (passage.filledAgain program program' limits).length := by
  obtain ⟨produces, fuses⟩ := fused
  obtain ⟨text, success⟩ := generates produces
  obtain ⟨again, made, _, longer⟩ := region_regenerate same produces success
  have opening : (passage.regenerate program limits).opening.text.length = passage.opening.text.length + 1 := by
    rw [opening_refill produces, Line.before, if_pos fuses]
    simp [Line.text, fuses.1]
  -- the marker's line took over a character that the region generates again
  rw [text_refill, filledAgain, text_generated made, text_generated success]
  simp only [filled, producesOutput_refill, before_refill, closing_refill, produces, if_true, List.length_append,
    opening]
  omega

omit same

theorem directive_fuses_iff (number start : Nat) :
    (passage.directive number start).Fuses program limits ↔ passage.Fuses program limits := by
  constructor
  · rintro ⟨produces, narrow, rest, success⟩
    refine ⟨produces, (Line.newline_eq_return_iff _).mp narrow, ?_⟩
    rw [text_generated success]
    rfl
  · rintro ⟨produces, isReturn, isFeed⟩
    obtain ⟨text, success⟩ := generates produces
    rw [text_generated success] at isFeed
    obtain ⟨rest, rfl⟩ := List.head?_eq_some_iff.mp isFeed
    exact ⟨produces, (Line.newline_eq_return_iff _).mpr isReturn, rest, region_anywhere success _ _⟩

end Passage

namespace Document

variable {program program' : Program} {limits : Limits} {document : Document}

/-- A regenerated document generates again what it needs. -/
theorem allGenerate_regenerate (same : program.unplaced = program'.unplaced)
    (generates : Passage.AllGenerate program limits document.passages) :
    Passage.AllGenerate program' limits (document.regenerate program limits).passages := by
  intro passage member produces
  obtain ⟨original, inDocument, rfl⟩ := List.mem_map.mp member
  rw [Passage.producesOutput_refill] at produces
  obtain ⟨text, success⟩ := generates original inDocument produces
  obtain ⟨again, made, _⟩ := Passage.region_regenerate same produces success
  exact ⟨again, made⟩

/-- A second regeneration keeps a text exactly if no region runs together with its marker's line. -/
theorem text_regenerate_again_iff (same : program.unplaced = program'.unplaced)
    (generates : Passage.AllGenerate program limits document.passages) :
    ((document.regenerate program limits).regenerate program' limits).text = (document.regenerate program limits).text ↔
      ∀ passage ∈ document.passages, ¬ passage.Fuses program limits := by
  have once : (document.regenerate program limits).text =
      document.passages.flatMap (fun passage => (passage.regenerate program limits).text) ++
        unlines document.after := by
    rw [regenerate, text_refill]
    simp only [Passage.text_refill]
  have twice : ((document.regenerate program limits).regenerate program' limits).text =
      document.passages.flatMap (Passage.filledAgain program program' limits) ++ unlines document.after := by
    rw [regenerate, text_refill, regenerate, refill, List.flatMap_map]
    rfl
  rw [once, twice, List.append_cancel_right_eq, Text.flatMap_eq_iff_of_grows]
  · refine forall₂_congr fun passage member => ⟨fun kept fused => ?_, fun alone => ?_⟩
    · have grown := Passage.length_lt_filledAgain_of_fuses same (generates passage member) fused
      rw [kept] at grown
      exact lt_irrefl _ grown
    · exact Passage.filledAgain_of_not_fuses same (generates passage member) alone
  · intro passage member
    by_cases fused : passage.Fuses program limits
    · exact .inr (Passage.length_lt_filledAgain_of_fuses same (generates passage member) fused)
    · exact .inl (Passage.filledAgain_of_not_fuses same (generates passage member) fused)

end Document

namespace Expansion

variable {file : Option Text} {limits : Limits} {text : Text}

/-- What was expanded can be expanded again, and the second expansion gives the same text exactly if no region starts
with a line feed that goes over to the terminator of its open marker's line. -/
theorem expand_expanded {first : Expansion} (success : expand file limits text = .ok first) :
    ∃ gathered second, gather file first.directives = .ok gathered ∧ expand file limits first.text = .ok second ∧
      (second.text = first.text ↔ ∀ directive ∈ first.directives, ¬ directive.Fuses gathered.program limits) := by
  obtain ⟨document, same, _⟩ := (Document.scan_eq_ok_iff ..).mp (scan_of_expand success)
  obtain ⟨gathered, defined, generates, rfl⟩ := (expand_eq_ok_iff same).mp success
  have resembling : List.Forall₂ Resembles document.directives
      (document.regenerate gathered.program limits).directives := Passage.resembling_refill ..
  have alike := gather_alike file file resembling
  rw [defined] at alike
  obtain ⟨gathered', defined', unplaced⟩ := alike.exists_ok
  refine ⟨gathered, _, defined, (expand_eq_ok_iff (lines_regenerate same _).symm).mpr ⟨gathered', defined',
    Document.allGenerate_regenerate unplaced generates, rfl⟩, ?_⟩
  rw [Document.text_regenerate_again_iff unplaced generates, Document.directives,
    Passage.forall_mem_directives_iff]
  exact fun passage member number start =>
    not_congr (Passage.directive_fuses_iff (generates passage member) number start)

set_option maxRecDepth 4000 in
theorem expand_expanded_feedAfterReturn :
    ∃ first gathered second, expand none {} feedAfterReturn = .ok first ∧
      gather none first.directives = .ok gathered ∧ expand none {} first.text = .ok second ∧
      (second.text = first.text ↔ ∀ directive ∈ first.directives, ¬ directive.Fuses gathered.program {}) := by
  obtain ⟨first, success⟩ : ∃ first, expand none {} feedAfterReturn = .ok first := ⟨_, rfl⟩
  obtain ⟨gathered, second, defined, again, kept⟩ := expand_expanded success
  exact ⟨first, gathered, second, success, defined, again, kept⟩

set_option maxRecDepth 4000 in
/-- Not every expanded text is kept by another expansion. -/
theorem not_expand_idempotent :
    ¬ ∀ (file : Option Text) (limits : Limits) (text : Text) (first : Expansion),
      expand file limits text = .ok first →
        ∃ second, expand file limits first.text = .ok second ∧ second.text = first.text := by
  intro idempotent
  obtain ⟨first, second, once, twice, differs⟩ : ∃ first second, expand none {} feedAfterReturn = .ok first ∧
      expand none {} first.text = .ok second ∧ second.text ≠ first.text := ⟨_, _, rfl, rfl, by decide +kernel⟩
  obtain ⟨other, again, same⟩ := idempotent none {} feedAfterReturn first once
  obtain rfl := Except.ok.inj (again.symm.trans twice)
  exact differs same

end Expansion

end Regen
