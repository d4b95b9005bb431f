import Mathlib.Data.List.Forall2

/-! # Computations that can fail

What the outcome of a computation says about its parts: two in a row, one after the other along a list, and one for
each member of a list.
-/

namespace Regen

section Except

variable {α β γ ε ε' : Type}

/-- Two computations in a row succeed if both do. -/
theorem bind_eq_ok {result : Except ε α} {next : α → Except ε β} {b : β}
    (success : (result >>= next) = .ok b) : ∃ a, result = .ok a ∧ next a = .ok b := by
  cases result with
  | ok a => exact ⟨a, rfl, success⟩
  | error f => cases success

/-- Two computations in a row fail in the first or, after it, in the second. -/
theorem bind_eq_error {result : Except ε α} {next : α → Except ε β} {fault : ε}
    (failed : (result >>= next) = .error fault) :
    result = .error fault ∨ ∃ a, result = .ok a ∧ next a = .error fault := by
  cases result with
  | ok a => exact .inr ⟨a, rfl, failed⟩
  | error other => exact .inl (congrArg _ (Except.error.inj failed))

theorem eq_ok_of_mapError {change : ε → ε'} {result : Except ε α} {a : α}
    (success : result.mapError change = .ok a) : result = .ok a := by
  cases result with
  | ok b =>
    cases success
    rfl
  | error failure => cases success

/-- Work on a list succeeds if it does for every member. -/
theorem mapM_eq_ok_iff {make : α → Except ε β} {items : List α} {results : List β} :
    items.mapM make = .ok results ↔ List.Forall₂ (fun a b => make a = .ok b) items results := by
  induction items generalizing results with
  | nil =>
    rw [List.forall₂_nil_left_iff, List.mapM_nil]
    exact ⟨fun same => (Except.ok.inj same).symm, fun empty => congrArg Except.ok empty.symm⟩
  | cons a rest ih =>
    rw [List.mapM_cons]
    constructor
    · intro success
      obtain ⟨b, made, success⟩ := bind_eq_ok success
      obtain ⟨bs, more, success⟩ := bind_eq_ok success
      cases success
      exact .cons made (ih.mp more)
    · rintro (_ | ⟨made, more⟩)
      rw [made, ih.mpr more]
      rfl

/-- Work on a list fails at the first item on which it fails. -/
theorem mapM_eq_error {make : α → Except ε β} {items : List α} {failure : ε}
    (failed : items.mapM make = .error failure) :
    ∃ before item after, items = before ++ item :: after ∧ (∀ earlier ∈ before, ∃ b, make earlier = .ok b) ∧
      make item = .error failure := by
  induction items with
  | nil => cases failed
  | cons item rest ih =>
    rw [List.mapM_cons] at failed
    obtain failed | ⟨b, made, failed⟩ := bind_eq_error failed
    · exact ⟨[], item, rest, rfl, fun _ member => (by cases member), failed⟩
    · obtain failed | ⟨bs, -, failed⟩ := bind_eq_error failed
      · obtain ⟨before, next, after, rfl, earlier, failed⟩ := ih failed
        exact ⟨item :: before, next, after, rfl, List.forall_mem_cons.mpr ⟨⟨b, made⟩, earlier⟩, failed⟩
      · cases failed

theorem mapM_map_eq_ok {view : α → β} {make : β → Except ε γ} {value : α → γ} {items : List α}
    (each : ∀ a ∈ items, make (view a) = .ok (value a)) : (items.map view).mapM make = .ok (items.map value) := by
  rw [mapM_eq_ok_iff, List.forall₂_map_left_iff, List.forall₂_map_right_iff, List.forall₂_same]
  exact each

/-- A pass over a list fails in one of its steps. -/
theorem foldlM_eq_error {step : β → α → Except ε β} {items : List α} {b : β} {failure : ε}
    (failed : items.foldlM step b = .error failure) : ∃ item ∈ items, ∃ c, step c item = .error failure := by
  induction items generalizing b with
  | nil => cases failed
  | cons item rest ih =>
    rw [List.foldlM_cons] at failed
    obtain failed | ⟨next, -, failed⟩ := bind_eq_error failed
    · exact ⟨item, List.mem_cons_self .., b, failed⟩
    · obtain ⟨other, member, found⟩ := ih failed
      exact ⟨other, List.mem_cons_of_mem _ member, found⟩

/-- Whether the outcome is a value that passes a test. -/
def succeedsWith (test : α → Bool) : Except ε α → Bool
  | .ok a => test a
  | .error _ => false

theorem exists_of_succeedsWith {test : α → Bool} {result : Except ε α}
    (succeeds : succeedsWith test result = true) : ∃ a, result = .ok a ∧ test a = true := by
  cases result with
  | ok a => exact ⟨a, rfl, succeeds⟩
  | error failure => cases succeeds

/-- Whether the outcome is a failure that passes a test. -/
def refusedWith (test : ε → Bool) : Except ε α → Bool
  | .ok _ => false
  | .error failure => test failure

theorem exists_of_refusedWith {test : ε → Bool} {result : Except ε α}
    (refused : refusedWith test result = true) : ∃ failure, result = .error failure ∧ test failure = true := by
  cases result with
  | ok a => cases refused
  | error failure => exact ⟨failure, rfl, refused⟩

end Except

section Option

variable {α β : Type} {make : α → Option β} {items : List α} {results : List β}

/-- Work on a list that can lack a result has one if it does for every member. -/
theorem mapM_eq_some_iff :
    items.mapM make = some results ↔ List.Forall₂ (fun a b => make a = some b) items results := by
  induction items generalizing results with
  | nil =>
    rw [List.forall₂_nil_left_iff, List.mapM_nil]
    exact Option.some_inj.trans eq_comm
  | cons a rest ih =>
    rw [List.mapM_cons]
    constructor
    · intro made
      obtain ⟨first, isFirst, made⟩ := Option.bind_eq_some_iff.mp made
      obtain ⟨later, isLater, made⟩ := Option.bind_eq_some_iff.mp made
      cases made
      exact .cons isFirst (ih.mp isLater)
    · rintro (_ | ⟨isFirst, isLater⟩)
      rw [isFirst, ih.mpr isLater]
      rfl

theorem exists_of_forall₂ {related : α → β → Prop} (each : List.Forall₂ related items results) {b : β}
    (member : b ∈ results) : ∃ a ∈ items, related a b := by
  induction each with
  | nil => cases member
  | cons first _ ih =>
    rcases List.mem_cons.mp member with rfl | member
    · exact ⟨_, List.mem_cons_self .., first⟩
    · obtain ⟨a, inRest, isRelated⟩ := ih member
      exact ⟨a, List.mem_cons_of_mem _ inRest, isRelated⟩

/-- The results of work on a list come from its members. -/
theorem mapM_eq_some (made : items.mapM make = some results) :
    results.length = items.length ∧ (∀ a ∈ items, (make a).isSome = true) ∧
      ∀ b ∈ results, ∃ a ∈ items, make a = some b := by
  have each := mapM_eq_some_iff.mp made
  refine ⟨each.length_eq.symm, fun a member => ?_, fun b => exists_of_forall₂ each⟩
  have back : List.Forall₂ (fun b a => make a = some b) results items := each.flip
  obtain ⟨b, -, isResult⟩ := exists_of_forall₂ back member
  rw [isResult]
  rfl

/-- Work on a list that undoes the writing of an item has the written results as its only source. -/
theorem mapM_eq_some_iff_map {back : β → α} (reads : ∀ a b, make a = some b ↔ a = back b) :
    items.mapM make = some results ↔ items = results.map back := by
  have same : List.Forall₂ (fun a b => make a = some b) items results ↔
      List.Forall₂ (· = ·) items (results.map back) := by
    rw [List.forall₂_map_right_iff]
    simp only [reads]
  rw [mapM_eq_some_iff, same, List.forall₂_eq_eq_eq]

theorem exists_of_mapM_eq_none (failed : items.mapM make = none) : ∃ item ∈ items, make item = none := by
  induction items with
  | nil => cases failed
  | cons item rest ih =>
    rw [List.mapM_cons] at failed
    cases first : make item with
    | none => exact ⟨item, List.mem_cons_self .., first⟩
    | some b =>
      cases later : rest.mapM make with
      | none =>
        obtain ⟨other, member, missing⟩ := ih later
        exact ⟨other, List.mem_cons_of_mem _ member, missing⟩
      | some bs =>
        rw [first, later] at failed
        cases failed

end Option

end Regen
