import Regen.Expansion
import Regen.Proofs.Documents
import Regen.Proofs.Splicing

/-! # Expansion is local

The output spans of a text that can be scanned are in order and inside it, so putting the new regions into them never
fails. The text and the expanded text share the gaps around the output spans: the first has the old bodies between
them, the second the new regions. Definitions lie in the gaps.
-/

namespace Regen

open Text

namespace Directive

/-- The directives with a region that is regenerated. -/
def outputs (directives : List Directive) : List Directive :=
  directives.filter fun directive => directive.kind.producesOutput

/-- The stretches that are regenerated. -/
def outputSpans (directives : List Directive) : List Span := directives.filterMap outputSpan?

theorem outputSpans_eq (directives : List Directive) : outputSpans directives = (outputs directives).map bodySpan := by
  induction directives with
  | nil => rfl
  | cons directive rest ih =>
    simp only [outputSpans, outputs, List.filterMap_cons, List.filter_cons, outputSpan?] at ih ⊢
    cases directive.kind.producesOutput
    · exact ih
    · simpa using ih

/-- A directive stands between two marker lines of a text: its body runs from the end of the first, terminator
included, to the start of the second. -/
def Delimited (text : Text) (directive : Directive) : Prop :=
  ∃ (before inside after : List Line) (opening closing : Line),
    text.lines = before ++ opening :: (inside ++ closing :: after) ∧
    opening.Opens directive.header directive.headerText directive.leader ∧
    (∀ line ∈ inside, line.marker = .plain) ∧ closing.marker = .closes ∧
    directive.openSpan = ⟨(unlines before).length, (unlines (before ++ [opening])).length⟩ ∧
    directive.closeSpan =
      ⟨(unlines (before ++ opening :: inside)).length, (unlines (before ++ opening :: (inside ++ [closing]))).length⟩ ∧
    directive.body = unlines inside

end Directive

open Directive

namespace Passage

variable {number start cursor stop : Nat}

theorem bodySpan_directive (passage : Passage) :
    (passage.directive number start).bodySpan =
      ⟨start + (unlines passage.before ++ passage.opening.text).length,
        start + (unlines passage.before ++ passage.opening.text ++ unlines passage.inside).length⟩ := by
  simp only [bodySpan, directive, List.length_append, Nat.add_assoc]

theorem outputs_cons_directive (passage : Passage) (rest : List Directive) :
    outputs (passage.directive number start :: rest) =
      if passage.producesOutput then passage.directive number start :: outputs rest else outputs rest :=
  List.filter_cons

theorem outputSpans_cons_directive (passage : Passage) (rest : List Directive) :
    outputSpans (passage.directive number start :: rest) =
      if passage.producesOutput then (passage.directive number start).bodySpan :: outputSpans rest
      else outputSpans rest := by
  rw [outputSpans_eq, outputs_cons_directive, outputSpans_eq]
  split <;> rfl

/-- The texts around the insides of output passages, with `lead` in front of the first passage and `after` behind
the last one. -/
def gaps (after : Text) : (lead : Text) → List Passage → List Text
  | lead, [] => [lead ++ after]
  | lead, passage :: rest =>
    if passage.producesOutput then
      (lead ++ unlines passage.before ++ passage.opening.text) :: gaps after passage.closing.text rest
    else gaps after (lead ++ passage.text) rest

/-- The text of a passage with `region` for its inside if that is regenerated. -/
def filled (region : Text) (passage : Passage) : Text :=
  if passage.producesOutput then
    unlines passage.before ++ passage.opening.text ++ region ++ passage.closing.text
  else passage.text

/-- The gaps with regions between them are the passages with these regions inside. -/
theorem weave_gaps (after : Text) (regions : Passage → Text) (lead : Text) (passages : List Passage) :
    weave (gaps after lead passages) ((passages.filter producesOutput).map regions) =
      lead ++ passages.flatMap (fun passage => passage.filled (regions passage)) ++ after := by
  induction passages generalizing lead with
  | nil => simp [gaps, weave]
  | cons passage rest ih =>
    simp only [gaps, List.filter_cons, filled, List.flatMap_cons]
    split
    · rw [List.map_cons, weave, ih]
      simp [filled]
    · rw [ih]
      simp [filled]

theorem output_spans_ordered (passages : List Passage) (fits : cursor ≤ start)
    (bound : start + (passages.flatMap text).length ≤ stop) :
    Span.Ordered stop cursor (outputSpans (directives number start passages)) := by
  induction passages generalizing number start cursor with
  | nil => exact fits.trans bound
  | cons passage rest ih =>
    have size := congrArg List.length passage.text_eq
    simp only [List.flatMap_cons, List.length_append] at bound size
    rw [directives_cons, outputSpans_cons_directive]
    split
    · rw [bodySpan_directive]
      simp only [Span.Ordered, List.length_append]
      exact ⟨by omega, by omega, ih (by omega) (by omega)⟩
    · exact ih (by omega) (by omega)

/-- Cutting a text at the output spans gives the gaps of its passages. -/
theorem slices_gaps {text lead after : Text} {passages : List Passage} (done : Text) (atCursor : cursor = done.length)
    (atStart : start = (done ++ lead).length)
    (split : text = done ++ lead ++ passages.flatMap Passage.text ++ after) :
    (Span.gaps text.length cursor (outputSpans (directives number start passages))).map text.slice =
      gaps after lead passages := by
  -- what is done is cut off already; the gap that is being read starts with the lead
  induction passages generalizing number start cursor done lead with
  | nil =>
    have whole : text.slice ⟨cursor, text.length⟩ = lead ++ after :=
      slice_of_append done [] (by simp [split]) atCursor (by simp [split])
    rw [directives_nil, gaps, ← whole]
    rfl
  | cons passage rest ih =>
    have parts := passage.text_eq
    rw [directives_cons, outputSpans_cons_directive]
    simp only [gaps]
    split
    · have gap : text.slice ⟨cursor, (passage.directive number start).bodySpan.start⟩ =
          lead ++ unlines passage.before ++ passage.opening.text := by
        refine slice_of_append done
          (unlines passage.inside ++ passage.closing.text ++ rest.flatMap Passage.text ++ after) ?_ atCursor ?_
        · rw [split, List.flatMap_cons, parts]
          simp only [List.append_assoc]
        · rw [bodySpan_directive, atStart]
          simp [Nat.add_assoc]
      rw [Span.gaps, List.map_cons, gap]
      congr 1
      apply ih (done ++ lead ++ unlines passage.before ++ passage.opening.text ++ unlines passage.inside)
      · rw [bodySpan_directive, atStart]
        simp [Nat.add_assoc]
      · rw [atStart, parts]
        simp [Nat.add_assoc]
      · rw [split, List.flatMap_cons, parts]
        simp
    · exact ih done atCursor (by rw [atStart]; simp [Nat.add_assoc]) (by rw [split]; simp)

/-- The output spans hold the bodies of the output directives. -/
theorem slices_output_spans {text after : Text} {passages : List Passage} (done : Text) (atStart : start = done.length)
    (split : text = done ++ passages.flatMap Passage.text ++ after) :
    (outputSpans (directives number start passages)).map text.slice =
      (outputs (directives number start passages)).map body := by
  induction passages generalizing number start done with
  | nil => rfl
  | cons passage rest ih =>
    have inside : text.slice (passage.directive number start).bodySpan = unlines passage.inside := by
      refine slice_of_append (done ++ (unlines passage.before ++ passage.opening.text))
        (passage.closing.text ++ rest.flatMap Passage.text ++ after) ?_ ?_ ?_
      · rw [split, List.flatMap_cons, passage.text_eq]
        simp only [List.append_assoc]
      · rw [bodySpan_directive, atStart]
        simp
      · rw [bodySpan_directive, atStart]
        simp
    rw [directives_cons, outputSpans_cons_directive, outputs_cons_directive]
    split
    · rw [List.map_cons, List.map_cons, inside,
        ih (done ++ passage.text) (by rw [atStart]; simp) (by rw [split]; simp)]
      rfl
    · exact ih (done ++ passage.text) (by rw [atStart]; simp) (by rw [split]; simp)

/-- A directive that defines something lies in one of the gaps. -/
theorem exists_gap_of_definition {passages : List Passage} {definition : Directive} (fits : cursor ≤ start)
    (bound : start + (passages.flatMap text).length ≤ stop) (member : definition ∈ directives number start passages)
    (defines : definition.kind.producesOutput = false) :
    ∃ gap ∈ Span.gaps stop cursor (outputSpans (directives number start passages)),
      gap.start ≤ definition.openSpan.start ∧ definition.closeSpan.stop ≤ gap.stop := by
  induction passages generalizing number start cursor with
  | nil => cases member
  | cons passage rest ih =>
    have size := congrArg List.length passage.text_eq
    simp only [List.flatMap_cons, List.length_append] at bound size
    rw [directives_cons] at member ⊢
    rw [outputSpans_cons_directive]
    rcases List.mem_cons.mp member with rfl | member
    · -- the gap that the definition lies in runs on to the next output span
      have defines : passage.producesOutput = false := defines
      have ordered : Span.Ordered stop (start + passage.text.length)
          (outputSpans (directives (number + passage.lines.length) (start + passage.text.length) rest)) :=
        output_spans_ordered rest le_rfl (by omega)
      obtain ⟨gap, first, starts, stops⟩ := ordered.exists_gap cursor
      rw [if_neg (Bool.eq_false_iff.mp defines)]
      refine ⟨gap, first, ?_, ?_⟩
      · simp only [directive]
        omega
      · simp only [directive]
        omega
    · split
      · have fits : (passage.directive number start).bodySpan.stop ≤ start + passage.text.length := by
          rw [bodySpan_directive]
          simp only [List.length_append]
          omega
        obtain ⟨gap, inGaps, starts, stops⟩ := ih fits (by omega) member
        exact ⟨gap, List.mem_cons_of_mem _ inGaps, starts, stops⟩
      · exact ih (by omega) (by omega) member

end Passage

namespace Document

variable {document : Document} {text : Text}

theorem text_eq (same : document.lines = text.lines) :
    text = document.passages.flatMap Passage.text ++ unlines document.after := by
  rw [← unlines_lines text, ← same, lines, unlines_append, unlines, List.flatMap_assoc]
  rfl

theorem length_passages_le (same : document.lines = text.lines) :
    0 + (document.passages.flatMap Passage.text).length ≤ text.length := by
  have size := congrArg List.length (text_eq same)
  rw [List.length_append] at size
  omega

theorem output_spans_ordered (same : document.lines = text.lines) :
    Span.Ordered text.length 0 (outputSpans document.directives) :=
  Passage.output_spans_ordered _ le_rfl (length_passages_le same)

theorem gaps_eq (same : document.lines = text.lines) :
    text.gaps (outputSpans document.directives) = Passage.gaps (unlines document.after) [] document.passages :=
  Passage.slices_gaps [] rfl rfl (text_eq same)

theorem slices_output_spans (same : document.lines = text.lines) :
    (outputSpans document.directives).map text.slice = (outputs document.directives).map body :=
  Passage.slices_output_spans [] rfl (text_eq same)

theorem delimited (same : document.lines = text.lines) {directive : Directive}
    (member : directive ∈ document.directives) : Delimited text directive := by
  obtain ⟨first, passage, later, split, rfl⟩ := Passage.exists_of_mem_directives member
  refine ⟨first.flatMap Passage.lines ++ passage.before, passage.inside,
    later.flatMap Passage.lines ++ document.after, passage.opening, passage.closing, ?_, passage.opens,
    passage.inside_plain, passage.closes, ?_, ?_, rfl⟩
  · rw [← same, lines, split]
    simp [Passage.lines]
  all_goals
    have texts : first.flatMap Passage.text = unlines (first.flatMap Passage.lines) := List.flatMap_assoc.symm
    simp [Passage.directive, texts, Nat.add_assoc]

end Document

namespace Expansion

variable {file : Option Text} {limits : Limits} {program : Program} {text : Text} {directives : List Directive}

theorem atDirective_eq_ok_iff {α : Type} {directive : Directive} {result : Except Failure α} {a : α} :
    atDirective file directive result = .ok a ↔ result = .ok a := by
  cases result with
  | ok b => exact Iff.rfl
  | error failure => exact ⟨fun success => (by cases success), fun success => (by cases success)⟩

/-- The new regions of the output directives. -/
def regions (file : Option Text) (program : Program) (limits : Limits) (directives : List Directive) :
    Except Failure (List Text) :=
  (outputs directives).mapM fun directive => atDirective file directive (region program limits directive)

theorem regions_eq_ok_iff {pieces : List Text} :
    regions file program limits directives = .ok pieces ↔
      List.Forall₂ (fun directive piece => region program limits directive = .ok piece)
        (outputs directives) pieces := by
  simp only [regions, mapM_eq_ok_iff, atDirective_eq_ok_iff]

/-- The replacements put the regions into the output spans. -/
theorem replacements_eq (file : Option Text) (program : Program) (limits : Limits) (directives : List Directive) :
    replacements file program limits directives =
      regions file program limits directives >>= fun pieces =>
        .ok (List.zipWith Replacement.ofSpan (outputSpans directives) pieces) := by
  rw [outputSpans_eq]
  unfold replacements regions
  change (outputs directives).mapM _ = _
  generalize outputs directives = items
  induction items with
  | nil => rfl
  | cons directive rest ih =>
    rw [List.mapM_cons, List.mapM_cons, ih]
    cases atDirective file directive (region program limits directive) with
    | error failure => rfl
    | ok piece =>
      cases rest.mapM fun directive => atDirective file directive (region program limits directive) with
      | error failure => rfl
      | ok pieces => rfl

/-- Expanding a text that can be scanned gathers its definitions, generates its regions and puts these between the
gaps; putting them in never fails. -/
theorem expand_of_scan (scanned : scan text = .ok directives) :
    expand file limits text =
      gather file directives >>= fun gathered =>
        regions file gathered.program limits directives >>= fun pieces =>
          .ok ⟨weave (text.gaps (outputSpans directives)) pieces, directives,
            gathered.warnings ++ messages file directives⟩ := by
  obtain ⟨document, same, rfl⟩ := (Document.scan_eq_ok_iff ..).mp scanned
  rw [expand, scanned]
  change (gather file document.directives >>= _) = _
  congr 1
  funext gathered
  rw [replacements_eq]
  cases made : regions file gathered.program limits document.directives with
  | error failure => rfl
  | ok pieces =>
    have lengths : pieces.length = (outputSpans document.directives).length := by
      rw [outputSpans_eq, List.length_map, (regions_eq_ok_iff.mp made).length_eq]
    have spliced := Replacement.splice_ordered text (Document.output_spans_ordered same) lengths
    change (Replacement.splice text _ >>= _) = _
    rw [spliced]
    rfl

/-- Where scanning and both passes succeed, putting the regions in succeeds too. The text is its gaps with the bodies
of the output directives between them, and the expanded text the same gaps with the regions that these directives
generate. Every directive stands between its marker lines, and those that define something lie in the gaps. -/
theorem expand_replaces_output_bodies {gathered : Gathered} {replaced : List Replacement}
    (scanned : scan text = .ok directives) (defined : gather file directives = .ok gathered)
    (rendered : replacements file gathered.program limits directives = .ok replaced) :
    ∃ gaps pieces : List Text,
      gaps = text.gaps (outputSpans directives) ∧ gaps.length = (outputs directives).length + 1 ∧
      List.Forall₂ (fun directive piece => region gathered.program limits directive = .ok piece)
        (outputs directives) pieces ∧
      text = weave gaps ((outputs directives).map body) ∧
      Replacement.splice text replaced = .ok (weave gaps pieces) ∧
      expand file limits text =
        .ok ⟨weave gaps pieces, directives, gathered.warnings ++ messages file directives⟩ ∧
      (∀ directive ∈ directives, Delimited text directive) ∧
      ∀ directive ∈ directives, directive.kind.producesOutput = false →
        ∃ gap ∈ Span.gaps text.length 0 (outputSpans directives),
          gap.start ≤ directive.openSpan.start ∧ directive.closeSpan.stop ≤ gap.stop := by
  obtain ⟨document, same, rfl⟩ := (Document.scan_eq_ok_iff ..).mp scanned
  rw [replacements_eq] at rendered
  obtain ⟨pieces, made, rendered⟩ := bind_eq_ok rendered
  cases rendered
  have each := regions_eq_ok_iff.mp made
  have ordered := Document.output_spans_ordered same
  have bodies := weave_gaps_slices text ordered
  rw [Document.slices_output_spans same] at bodies
  have lengths : pieces.length = (outputSpans document.directives).length := by
    rw [outputSpans_eq, List.length_map, each.length_eq]
  refine ⟨_, pieces, rfl, ?_, each, bodies.symm, Replacement.splice_ordered text ordered lengths, ?_,
    fun directive member => Document.delimited same member, fun directive member defines => ?_⟩
  · rw [Text.gaps, List.length_map, Span.length_gaps, outputSpans_eq, List.length_map]
  · rw [expand_of_scan scanned, defined]
    change (regions file gathered.program limits document.directives >>= _) = _
    rw [made]
    rfl
  · exact Passage.exists_gap_of_definition le_rfl (Document.length_passages_le same) member defines

/-- Two output directives and a definition on lines that end in four ways. -/
def mixedEnds : Text :=
  "autoc:format-lines f \"%s.\"\r\nold\nautoc#\rautoc:lines f\x0bx\nautoc#\nautoc:message \"\"\nautoc#".toList

set_option maxRecDepth 4000 in
theorem expand_replaces_mixedEnds :
    ∃ directives gathered replaced, scan mixedEnds = .ok directives ∧ gather none directives = .ok gathered ∧
      replacements none gathered.program {} directives = .ok replaced ∧ (outputs directives).length = 2 ∧
      ∃ gaps pieces, mixedEnds = weave gaps ((outputs directives).map body) ∧
        Replacement.splice mixedEnds replaced = .ok (weave gaps pieces) ∧
        ∃ diagnostics, expand none {} mixedEnds = .ok ⟨weave gaps pieces, directives, diagnostics⟩ := by
  obtain ⟨directives, gathered, replaced, scanned, defined, rendered, two⟩ : ∃ directives gathered replaced,
      scan mixedEnds = .ok directives ∧ gather none directives = .ok gathered ∧
        replacements none gathered.program {} directives = .ok replaced ∧ (outputs directives).length = 2 :=
    ⟨_, _, _, rfl, rfl, rfl, rfl⟩
  obtain ⟨gaps, pieces, _, _, _, bodies, spliced, expanded, _⟩ :=
    expand_replaces_output_bodies scanned defined rendered
  exact ⟨directives, gathered, replaced, scanned, defined, rendered, two, gaps, pieces, bodies, spliced, _, expanded⟩

end Expansion

end Regen
