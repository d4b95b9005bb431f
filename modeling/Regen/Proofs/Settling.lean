import Regen.Proofs.Idempotence

/-! # Expanding until nothing changes

Every document settles with its second expansion. The only thing that an expansion can change about the next one is
the line end of an open marker whose region starts with a line feed. That marker then ends in a carriage return with a
line feed, which takes over no further line feed, and every other directive generates what it generated before. So
no region runs together with its marker's line a second time.
-/

namespace Regen

open Text Directive

/-- A line that took over a line feed takes over no other one. -/
theorem Line.not_fuses_before_of_fuses {line : Line} {after : Text} (fuses : line.Fuses after) (next : Text) :
    ¬ (line.before after).Fuses next := by
  intro again
  have isReturn := again.1
  rw [before, if_pos fuses] at isReturn
  cases isReturn

namespace Passage

variable {program program' : Program} {limits : Limits} {passage : Passage}

/-- The region of a passage that was regenerated does not run together with its open marker's line. -/
theorem not_fuses_regenerate (same : program.unplaced = program'.unplaced)
    (generates : passage.producesOutput = true →
      ∃ text, Expansion.region program limits (passage.directive 0 0) = .ok text) :
    ¬ (passage.regenerate program limits).Fuses program' limits := by
  rintro ⟨produces, fusesAgain⟩
  rw [producesOutput_refill] at produces
  rw [opening_refill produces] at fusesAgain
  have alone : ¬ passage.opening.Fuses (passage.generated program limits).text := fun fuses =>
    Line.not_fuses_before_of_fuses fuses _ fusesAgain
  -- the line end stayed as it was, so the second region is the first one
  obtain ⟨text, success⟩ := generates produces
  obtain ⟨again, made, kept, _⟩ := region_regenerate same produces success
  have sameText : ((passage.regenerate program limits).generated program' limits).text =
      (passage.generated program limits).text := by
    rw [text_generated made, text_generated success, kept fun fused => alone fused.2]
  rw [Line.before, if_neg alone, sameText] at fusesAgain
  exact alone fusesAgain

end Passage

/-- A document that was regenerated twice is kept by a third regeneration. -/
theorem Document.text_regenerate_settled {program program' program'' : Program} {limits : Limits} {document : Document}
    (same : program.unplaced = program'.unplaced) (same' : program'.unplaced = program''.unplaced)
    (generates : Passage.AllGenerate program limits document.passages) :
    (((document.regenerate program limits).regenerate program' limits).regenerate program'' limits).text =
      ((document.regenerate program limits).regenerate program' limits).text := by
  rw [text_regenerate_again_iff same' (allGenerate_regenerate same generates)]
  intro passage member
  obtain ⟨earlier, inDocument, rfl⟩ := List.mem_map.mp member
  exact Passage.not_fuses_regenerate same (generates earlier inDocument)

namespace Expansion

variable {file : Option Text} {limits : Limits} {text : Text}

/-- The expanded text of a document can be expanded with a program that differs from the first one in its lines only. -/
theorem expand_regenerated {document : Document} {gathered : Gathered} (same : document.lines = text.lines)
    (defined : gather file document.directives = .ok gathered)
    (generates : Passage.AllGenerate gathered.program limits document.passages) :
    let once := document.regenerate gathered.program limits
    ∃ gathered', gather file once.directives = .ok gathered' ∧
      gathered.program.unplaced = gathered'.program.unplaced ∧
      expand file limits once.text = .ok ⟨(once.regenerate gathered'.program limits).text, once.directives,
        gathered'.warnings ++ messages file once.directives⟩ := by
  intro once
  have resembling : List.Forall₂ Resembles document.directives once.directives := Passage.resembling_refill ..
  have alike := gather_alike file file resembling
  rw [defined] at alike
  obtain ⟨gathered', defined', unplaced⟩ := alike.exists_ok
  have again := Document.allGenerate_regenerate unplaced generates
  exact ⟨gathered', defined', unplaced,
    (expand_eq_ok_iff (lines_regenerate same _).symm).mpr ⟨gathered', defined', again, rfl⟩⟩

/-- What was expanded can be expanded again and again, and from the second expansion on the text stays the same. -/
theorem expand_settles {first : Expansion} (success : expand file limits text = .ok first) :
    ∃ second third, expand file limits first.text = .ok second ∧ expand file limits second.text = .ok third ∧
      third.text = second.text := by
  obtain ⟨document, same, _⟩ := (Document.scan_eq_ok_iff ..).mp (scan_of_expand success)
  obtain ⟨gathered, defined, generates, rfl⟩ := (expand_eq_ok_iff same).mp success
  obtain ⟨gathered', defined', unplaced, expanded⟩ := expand_regenerated same defined generates
  have sameOnce : (document.regenerate gathered.program limits).lines =
      (document.regenerate gathered.program limits).text.lines := (lines_regenerate same _).symm
  have generates' := Document.allGenerate_regenerate unplaced generates
  obtain ⟨gathered'', _, unplaced', expandedAgain⟩ := expand_regenerated sameOnce defined' generates'
  exact ⟨_, _, expanded, expandedAgain, Document.text_regenerate_settled unplaced unplaced' generates⟩

set_option maxRecDepth 4000 in
/-- A document that settles with its second expansion and not before. -/
theorem expand_settles_feedAfterReturn :
    ∃ first second third, expand none {} feedAfterReturn = .ok first ∧ expand none {} first.text = .ok second ∧
      expand none {} second.text = .ok third ∧ second.text ≠ first.text ∧ third.text = second.text := by
  obtain ⟨first, twice, once, again, differs⟩ : ∃ first twice, expand none {} feedAfterReturn = .ok first ∧
      expand none {} first.text = .ok twice ∧ twice.text ≠ first.text := ⟨_, _, rfl, rfl, by decide +kernel⟩
  obtain ⟨second, third, expanded, expandedAgain, settled⟩ := expand_settles once
  obtain rfl := Except.ok.inj (expanded.symm.trans again)
  exact ⟨first, second, third, once, expanded, expandedAgain, differs, settled⟩

end Expansion

end Regen
