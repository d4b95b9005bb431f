import Regen.Proofs.FailureModes
import Regen.Proofs.Rescan

/-! # Old output decides nothing

What stood in the regions of a document has no influence on the new text and on how an expansion fails. Emptying all
regions leaves a text that is put together from the gaps alone, so two documents with the same gaps have the same
directives up to places and old output; and places show neither in generated text nor in the wording of a failure.
-/

namespace Regen

open Text Directive

/-- What sort of thing went wrong. -/
inductive FailureClass where
  | fault (category : Category)
  /-- An integer or a span out of bounds. -/
  | outOfBounds
  /-- A node in a place where it does not belong. -/
  | misplaced
  | stackExhausted
deriving DecidableEq, Repr

namespace Failure

def toClass : Failure → FailureClass
  | fault f => .fault f.content.category
  | oversizedInteger _ | badSpan .. => .outOfBounds
  | misplacedForm _ | misplacedExpression _ => .misplaced
  | stackExhausted => .stackExhausted

/-- What a failure reports besides its place: its class and its wording. -/
def report (failure : Failure) : FailureClass × Text := (failure.toClass, failure.message)

theorem isMisplaced_unplaced (failure : Failure) : failure.unplaced.isMisplaced = failure.isMisplaced := by
  cases failure <;> rfl

/-- Only the wording about a misplaced node shows a place. -/
theorem Placed.report_unplaced {failure : Failure} (placed : failure.Placed) :
    failure.unplaced.report = failure.report := by
  cases failure with
  | misplacedForm node => cases placed
  | misplacedExpression node => cases placed
  | _ => rfl

theorem Placed.report_eq {failure other : Failure} (placed : failure.Placed)
    (same : failure.unplaced = other.unplaced) : failure.report = other.report := by
  have otherPlaced : other.Placed := by
    rw [Placed, ← isMisplaced_unplaced, ← same, isMisplaced_unplaced]
    exact placed
  rw [← placed.report_unplaced, same, otherPlaced.report_unplaced]

/-- An expansion never fails on a misplaced node. -/
theorem OfExpansion.placed {limits : Limits} {text : Text} {failure : Failure}
    (ofExpansion : failure.OfExpansion limits text) : failure.Placed := by
  cases failure with
  | misplacedForm node => rcases ofExpansion with ofText | reportable <;> contradiction
  | misplacedExpression node => rcases ofExpansion with ofText | reportable <;> contradiction
  | _ => rfl

end Failure

namespace Expansion

variable {text text' : Text} {directives directives' : List Directive}

/-- Documents whose directives match and whose gaps are the same expand alike. -/
theorem expand_alike (file : Option Text) (limits : Limits) (scanned : scan text = .ok directives)
    (scanned' : scan text' = .ok directives')
    (gaps : text.gaps (outputSpans directives) = text'.gaps (outputSpans directives'))
    (matching : List.Forall₂ Matches directives directives') :
    Alike (fun expansion expansion' => expansion.text = expansion'.text)
      (expand file limits text) (expand file limits text') := by
  rw [expand_of_scan scanned, expand_of_scan scanned']
  have resembling := matching.imp fun _ _ both => both.toResembles
  refine (gather_alike file file resembling).bind fun gathered gathered' same => ?_
  have outputsMatch : List.Forall₂ Matches (outputs directives) (outputs directives') := by
    refine List.rel_filter ?_ matching
    intro directive directive' both
    dsimp only
    rw [both.kind]
  have made : Alike (List.Forall₂ Eq) (regions file gathered.program limits directives)
      (regions file gathered'.program limits directives') := by
    refine Alike.mapM outputsMatch fun directive directive' both => ?_
    exact (region_alike same limits both).atDirective file file _ _
  refine made.bind fun pieces pieces' equal => .ok ?_
  rw [List.forall₂_eq_eq_eq] at equal
  rw [equal, gaps]

end Expansion

namespace Text

theorem weave_blank {gaps pieces : List Text} (blank : ∀ piece ∈ pieces, piece = []) :
    weave gaps pieces = gaps.flatten := by
  induction gaps generalizing pieces with
  | nil => exact List.flatten_eq_nil_iff.mpr blank
  | cons gap gaps ih =>
    cases pieces with
    | nil => rw [weave, ih blank, List.flatten_cons]
    | cons piece pieces =>
      rw [weave, blank piece (List.mem_cons_self ..), List.append_nil, List.flatten_cons,
        ih fun other member => blank other (List.mem_cons_of_mem _ member)]

end Text

namespace Passage

/-- The passage with nothing inside, if its inside is regenerated. -/
abbrev cleared (passage : Passage) : Passage := passage.refill .empty

theorem opening_cleared (passage : Passage) : passage.cleared.opening = passage.opening := by
  unfold cleared refill
  split
  · exact if_neg fun fuses => by cases fuses.2
  · rfl

theorem matches_cleared (passage : Passage) (number start number' start' : Nat) :
    (passage.directive number start).Matches (passage.cleared.directive number' start') where
  toResembles := passage.resembles_refill ..
  ends := congrArg Line.newline passage.opening_cleared.symm

theorem matching_cleared (passages : List Passage) (number start number' start' : Nat) :
    List.Forall₂ Matches (directives number start passages) (directives number' start' (passages.map cleared)) :=
  forall₂_directives_map matches_cleared

theorem gaps_cleared (after lead : Text) (passages : List Passage) :
    gaps after lead (passages.map cleared) = gaps after lead passages := by
  induction passages generalizing lead with
  | nil => rfl
  | cons passage rest ih =>
    rw [List.map_cons, gaps, gaps, producesOutput_refill, opening_cleared, before_refill, closing_refill, ih, ih]
    split
    · rfl
    · next defines => rw [cleared, refill_of_definition _ (Bool.eq_false_iff.mpr defines)]

end Passage

namespace Document

/-- The document with nothing inside the passages that are regenerated. -/
abbrev cleared (document : Document) : Document := document.refill fun _ => .empty

/-- A cleared document is its gaps, one after the other. -/
theorem text_cleared {document : Document} {text : Text} (same : document.lines = text.lines) :
    document.cleared.text = (text.gaps (outputSpans document.directives)).flatten := by
  have blank : ∀ piece ∈ (document.passages.filter Passage.producesOutput).map fun _ => ([] : Text), piece = [] := by
    simp
  rw [gaps_eq same, ← weave_blank blank, Passage.weave_gaps, text_refill, List.nil_append]
  rfl

end Document

namespace Expansion

variable {file : Option Text} {limits : Limits} {text text' : Text} {directives directives' : List Directive}

/-- How an expansion ends, apart from places: with a new text, or with a failure of some class and wording. -/
def outcome (result : Except Failure Expansion) : Except (FailureClass × Text) Text :=
  match result with
  | .ok expansion => .ok expansion.text
  | .error failure => .error failure.report

theorem outcome_eq_of_alike {result result' : Except Failure Expansion}
    (alike : Alike (fun expansion expansion' => expansion.text = expansion'.text) result result')
    (placed : Ends Failure.Placed (fun _ => True) result) : outcome result = outcome result' := by
  cases alike with
  | ok texts => exact congrArg Except.ok texts
  | error same => exact congrArg Except.error (Failure.Placed.report_eq placed same)

/-- A document expands as its gaps do without anything between them. -/
theorem outcome_expand_flatten_gaps (scanned : scan text = .ok directives) :
    outcome (expand file limits text) =
      outcome (expand file limits (text.gaps (outputSpans directives)).flatten) := by
  obtain ⟨document, same, rfl⟩ := (Document.scan_eq_ok_iff ..).mp scanned
  have sameCleared : document.cleared.lines = document.cleared.text.lines := (Document.lines_refill _ same).symm
  have scannedCleared : scan document.cleared.text = .ok document.cleared.directives :=
    (Document.scan_eq_ok_iff ..).mpr ⟨_, sameCleared, rfl⟩
  -- nothing runs together with an empty region, so clearing keeps the marker lines and with them the gaps
  have gaps : text.gaps (outputSpans document.directives) =
      document.cleared.text.gaps (outputSpans document.cleared.directives) := by
    rw [Document.gaps_eq same, Document.gaps_eq sameCleared]
    exact (Passage.gaps_cleared ..).symm
  have alike := expand_alike file limits scanned scannedCleared gaps (Passage.matching_cleared ..)
  rw [← Document.text_cleared same]
  exact outcome_eq_of_alike alike ((expand_ends file limits text).imp (fun _ => Failure.OfExpansion.placed) fun _ => id)

/-- Old output decides nothing: texts with the same gaps around their output spans expand to the same text, or fail
with the same class and wording. -/
theorem outcome_expand_eq_of_gaps_eq (scanned : scan text = .ok directives) (scanned' : scan text' = .ok directives')
    (gaps : text.gaps (outputSpans directives) = text'.gaps (outputSpans directives')) :
    outcome (expand file limits text) = outcome (expand file limits text') := by
  rw [outcome_expand_flatten_gaps scanned, gaps, ← outcome_expand_flatten_gaps scanned']

/-- A document with old output that looks like the start of a comment. -/
def withOldOutput : Text := "autoc:format-lines f \"%s\"\r/*\n\n\rautoc#\rautoc:block f\rx\rautoc#".toList

/-- The same document without output. -/
def withoutOutput : Text := "autoc:format-lines f \"%s\"\rautoc#\rautoc:block f\rx\rautoc#".toList

set_option maxRecDepth 4000 in
theorem outcome_expand_withOldOutput :
    ∃ directives directives', scan withOldOutput = .ok directives ∧ scan withoutOutput = .ok directives' ∧
      withOldOutput.gaps (outputSpans directives) = withoutOutput.gaps (outputSpans directives') ∧
      outcome (expand none {} withOldOutput) = outcome (expand none {} withoutOutput) := by
  obtain ⟨directives, directives', scanned, scanned', gaps⟩ : ∃ directives directives',
      scan withOldOutput = .ok directives ∧ scan withoutOutput = .ok directives' ∧
        withOldOutput.gaps (outputSpans directives) = withoutOutput.gaps (outputSpans directives') :=
    ⟨_, _, rfl, rfl, by decide +kernel⟩
  exact ⟨directives, directives', scanned, scanned', gaps, outcome_expand_eq_of_gaps_eq scanned scanned' gaps⟩

end Expansion

end Regen
