import Regen.Proofs.Independence
import Regen.Proofs.Locations

/-!
# The order of definitions

The first pass folds the definitions of a document into two tables, and the second pass reads these by name only. Where
a definition stands is therefore of no account: what counts is which definition of its name comes last.
-/

namespace Regen

namespace Directive

/-- A function definition has a body that can be read. -/
def BodyParses (directive : Directive) : Prop :=
  directive.kind = .defun → (Node.readBody directive.source directive.bodyLine).isOk = true

instance (directive : Directive) : Decidable directive.BodyParses := inferInstanceAs (Decidable (_ → _))

theorem settings_eq_nil_iff {slot : Slot} {directives : List Directive} :
    settings slot directives = [] ↔ slot ∉ directives.filterMap slot? := by
  simp [settings]

/-- A directive either produces output or sets a slot. -/
theorem slot?_isNone (directive : Directive) : directive.slot?.isNone = directive.kind.producesOutput := by
  unfold slot? kind
  cases directive.header <;> rfl

/-- The same directives in another order, which keeps that of the output directives and, for each slot, that of the
directives that set it. -/
structure Reorders (directives others : List Directive) : Prop where
  perm : directives.Perm others
  outputs : outputs directives = outputs others
  settings : ∀ slot, settings slot directives = settings slot others

/-- Only the slots that are set somewhere need to be compared. -/
theorem reorders_iff {directives others : List Directive} :
    Reorders directives others ↔ directives.Perm others ∧ outputs directives = outputs others ∧
      ∀ slot ∈ directives.filterMap slot?, settings slot directives = settings slot others := by
  constructor
  · rintro ⟨perm, outputs, settings⟩
    exact ⟨perm, outputs, fun slot _ => settings slot⟩
  · rintro ⟨perm, outputs, same⟩
    refine ⟨perm, outputs, fun slot => ?_⟩
    by_cases isSet : slot ∈ directives.filterMap slot?
    · exact same slot isSet
    · have others_unset : slot ∉ others.filterMap slot? := fun member =>
        isSet ((perm.filterMap slot?).mem_iff.mpr member)
      rw [settings_eq_nil_iff.mpr isSet, settings_eq_nil_iff.mpr others_unset]

instance (directives others : List Directive) : Decidable (Reorders directives others) :=
  decidable_of_iff _ reorders_iff.symm

/-- Every use may stand before every definition. -/
theorem reorders_outputs_first (directives : List Directive) :
    Reorders directives (outputs directives ++ definitions directives) where
  perm := (List.filter_append_perm _ directives).symm
  outputs := by
    simp [outputs, definitions, List.filter_filter]
  settings slot := by
    have none_set : settings slot (outputs directives) = [] := by
      apply List.filter_eq_nil_iff.mpr
      intro directive member
      have produces : directive.kind.producesOutput = true := (List.mem_filter.mp member).2
      rw [← slot?_isNone, Option.isNone_iff_eq_none] at produces
      simp [produces]
    have all_kept : settings slot (definitions directives) = settings slot directives := by
      rw [settings, definitions, List.filter_filter]
      refine List.filter_congr fun directive _ => ?_
      rw [← slot?_isNone]
      cases directive.slot? <;> simp
    rw [settings_append, none_set, all_kept, List.nil_append]

end Directive

namespace Expansion

open Directive

variable {file : Option Text} {limits : Limits} {directives others : List Directive}

/-! ## What the first pass finds -/

theorem Gathered.exists_add (file : Option Text) {directive : Directive} (parses : directive.BodyParses)
    (gathered : Gathered) :
    ∃ next, gathered.add file directive = .ok next := by
  unfold Gathered.add
  cases named : directive.header with
  | defun name parameters =>
    have isRead := parses (by rw [kind, named]; rfl)
    cases body : Node.readBody directive.source directive.bodyLine with
    | ok forms => exact ⟨_, rfl⟩
    | error failure =>
      rw [body] at isRead
      cases isRead
  | _ => exact ⟨_, rfl⟩

/-- Only a body that cannot be read stops the first pass. -/
theorem exists_gather (file : Option Text) (parses : ∀ directive ∈ directives, directive.BodyParses) :
    ∃ gathered, gather file directives = .ok gathered := by
  induction directives using List.reverseRecOn with
  | nil => exact ⟨_, rfl⟩
  | append_singleton earlier directive ih =>
    obtain ⟨before, gathers⟩ := ih fun other member => parses other (List.mem_append_left _ member)
    obtain ⟨next, added⟩ := Gathered.exists_add file (parses directive (by simp)) before
    refine ⟨next, ?_⟩
    rw [gather_concat, gathers]
    exact atDirective_eq_ok_iff.mpr added

/-! ## What the second pass reads -/

/-- The second pass reads a program by name only. -/
theorem region_congr {program other : Program}
    (functions : ∀ name, program.functions.find? name = other.functions.find? name)
    (collections : ∀ name, program.collections.find? name = other.collections.find? name) :
    region program limits = region other limits := by
  have generates : generate program limits = generate other limits := by
    funext directive
    unfold generate
    cases directive.header with
    | funcall name arguments => rw [Program.call_congr limits functions]
    | formatLines name template =>
      dsimp only
      rw [collections name]
    | _ => rfl
  funext directive
  rw [region, region, generates]

/-- Both passes succeed, and give each output directive its piece. -/
def Renders (file : Option Text) (limits : Limits) (directives : List Directive) (pieces : List Text) : Prop :=
  ∃ gathered, gather file directives = .ok gathered ∧
    List.Forall₂ (fun directive piece => region gathered.program limits directive = .ok piece)
      (outputs directives) pieces ∧
    replacements file gathered.program limits directives =
      .ok (List.zipWith Replacement.ofSpan (outputSpans directives) pieces)

/-- The second pass gets through some output directives and fails at the one after them. -/
def FailsAt (file : Option Text) (limits : Limits) (directives earlier : List Directive) (directive : Directive)
    (failure : Failure) : Prop :=
  ∃ gathered later, gather file directives = .ok gathered ∧ outputs directives = earlier ++ directive :: later ∧
    (∀ before ∈ earlier, ∃ piece, region gathered.program limits before = .ok piece) ∧
    atDirective file directive (region gathered.program limits directive) = .error failure ∧
    replacements file gathered.program limits directives = .error failure

theorem renders_or_failsAt {gathered : Gathered} (limits : Limits) (gathers : gather file directives = .ok gathered) :
    (∃ pieces, Renders file limits directives pieces) ∨
      ∃ earlier directive failure, FailsAt file limits directives earlier directive failure := by
  cases rendered : regions file gathered.program limits directives with
  | ok pieces =>
    refine .inl ⟨pieces, gathered, gathers, regions_eq_ok_iff.mp rendered, ?_⟩
    rw [replacements_eq, rendered]
    rfl
  | error failure =>
    obtain ⟨earlier, directive, later, split, succeed, fails⟩ := mapM_eq_error rendered
    refine .inr ⟨earlier, directive, failure, gathered, later, gathers, split, fun before member => ?_, fails, ?_⟩
    · obtain ⟨piece, made⟩ := succeed before member
      exact ⟨piece, atDirective_eq_ok_iff.mp made⟩
    · rw [replacements_eq, rendered]
      rfl

section Reordered

variable {gathered regathered : Gathered} (reorders : Reorders directives others)
  (gathers : gather file directives = .ok gathered) (regathers : gather file others = .ok regathered)

include reorders gathers regathers

theorem region_reordered : region gathered.program limits = region regathered.program limits := by
  apply region_congr
  · intro name
    rw [(find?_gather gathers name).1, (find?_gather regathers name).1, latest, latest, reorders.settings]
  · intro name
    rw [(find?_gather gathers name).2, (find?_gather regathers name).2, latest, latest, reorders.settings]

theorem replacements_reordered :
    replacements file gathered.program limits directives = replacements file regathered.program limits others := by
  rw [replacements_eq, replacements_eq, regions, regions, outputSpans_eq, outputSpans_eq, reorders.outputs,
    region_reordered reorders gathers regathers]

end Reordered

theorem Renders.reorder {pieces : List Text} (renders : Renders file limits directives pieces)
    (reorders : Reorders directives others) {regathered : Gathered} (regathers : gather file others = .ok regathered) :
    Renders file limits others pieces := by
  obtain ⟨gathered, gathers, made, replaced⟩ := renders
  refine ⟨regathered, regathers, ?_, ?_⟩
  · rwa [← region_reordered reorders gathers regathers, ← reorders.outputs]
  · rw [← replacements_reordered reorders gathers regathers, replaced, outputSpans_eq, outputSpans_eq,
      reorders.outputs]

theorem FailsAt.reorder {earlier : List Directive} {directive : Directive} {failure : Failure}
    (fails : FailsAt file limits directives earlier directive failure) (reorders : Reorders directives others)
    {regathered : Gathered} (regathers : gather file others = .ok regathered) :
    FailsAt file limits others earlier directive failure := by
  obtain ⟨gathered, later, gathers, split, succeed, failed, stopped⟩ := fails
  refine ⟨regathered, later, regathers, reorders.outputs ▸ split, ?_, ?_, ?_⟩
  · rwa [← region_reordered reorders gathers regathers]
  · rwa [← region_reordered reorders gathers regathers]
  · rwa [← replacements_reordered reorders gathers regathers]

/-- Where definitions stand does not matter: once the bodies of the functions can be read, directives in another order
give each output directive the same region, or fail at the same one in the same way. Every use may thus stand before
its definition, and the last definition of a name serves all of them. -/
theorem reordered_expansion (file : Option Text) (limits : Limits) (reorders : Reorders directives others)
    (parses : ∀ directive ∈ directives, directive.BodyParses) :
    ((∃ pieces, Renders file limits directives pieces ∧ Renders file limits others pieces) ∨
      ∃ earlier directive failure, FailsAt file limits directives earlier directive failure ∧
        FailsAt file limits others earlier directive failure) ∧
    Reorders directives (outputs directives ++ definitions directives) ∧
    ∃ gathered, gather file others = .ok gathered ∧ ∀ name,
      gathered.program.functions.find? name = (latest (.function name) directives).bind function? ∧
      gathered.program.collections.find? name = (latest (.collection name) directives).bind collection? := by
  obtain ⟨gathered, gathers⟩ := exists_gather file parses
  obtain ⟨regathered, regathers⟩ :=
    exists_gather file fun directive member => parses directive (reorders.perm.mem_iff.mpr member)
  refine ⟨?_, reorders_outputs_first directives, regathered, regathers, fun name => ?_⟩
  · rcases renders_or_failsAt limits gathers with ⟨pieces, renders⟩ | ⟨earlier, directive, failure, fails⟩
    · exact .inl ⟨pieces, renders, renders.reorder reorders regathers⟩
    · exact .inr ⟨earlier, directive, failure, fails, fails.reorder reorders regathers⟩
  · rw [latest, latest, reorders.settings, reorders.settings]
    exact find?_gather regathers name

/-- A function defined twice, and a collection of the same name. -/
def shadowed : Text :=
  "autoc:defun f ()\n(insert \"a\")\nautoc#\n".toList ++ "autoc:lines f\nx\ny\nautoc#\n".toList ++
    "autoc:funcall f\nautoc#\n".toList ++ "autoc:defun f ()\n(insert \"b\")\nautoc#\n".toList ++
    "autoc:format-lines f \"%s.\"\nautoc#\n".toList

def inOrder : List Directive := (scan shadowed).toOption.getD []

/-- The uses come first, and the collection after the functions. -/
def usesFirst : List Directive := [2, 4, 0, 3, 1].filterMap fun place => inOrder[place]?

theorem reordered_expansion_usesFirst :
    inOrder.length = 5 ∧ inOrder ≠ usesFirst ∧ Reorders inOrder usesFirst ∧
      (∀ directive ∈ inOrder, directive.BodyParses) ∧
      ((∃ pieces, Renders none {} inOrder pieces ∧ Renders none {} usesFirst pieces) ∨
        ∃ earlier directive failure, FailsAt none {} inOrder earlier directive failure ∧
          FailsAt none {} usesFirst earlier directive failure) ∧
      succeedsWith (fun pieces => pieces == ["b\n".toList, "x.\ny.\n".toList])
        (gather none usesFirst >>= fun gathered => regions none gathered.program {} usesFirst) := by
  -- one evaluation, in which the text is scanned once
  have evaluated : inOrder.length = 5 ∧ inOrder ≠ usesFirst ∧ Reorders inOrder usesFirst ∧
      (∀ directive ∈ inOrder, directive.BodyParses) ∧
      succeedsWith (fun pieces => pieces == ["b\n".toList, "x.\ny.\n".toList])
        (gather none usesFirst >>= fun gathered => regions none gathered.program {} usesFirst) = true := by
    decide +kernel
  obtain ⟨length, differs, reorders, parses, made⟩ := evaluated
  exact ⟨length, differs, reorders, parses, (reordered_expansion none {} reorders parses).1, made⟩

end Expansion

end Regen
