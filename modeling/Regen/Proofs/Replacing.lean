import Regen.Proofs.Splicing

/-! # One replacement after the other

Replacing stretches in one pass gives what replacing them one at a time gives, from the last to the first, so that no
replacement moves a stretch that is still to come. The pass refuses exactly the stretches that are not in order inside
the text. What it makes can be undone: the old texts, put back where the new ones have come to stand, give the text
that there was before.
-/

namespace Regen.Replacement

open Text

def span (r : Replacement) : Span := ⟨r.start.toNat, r.stop.toNat⟩

/-- The bounds of stretches, one after the other. -/
def bounds (replacements : List Replacement) : List Int := replacements.flatMap fun r => [r.start, r.stop]

/-- Stretches in order between two offsets: from the first offset to the last, no bound is below the one before it. -/
def Within (first last : Int) (replacements : List Replacement) : Prop :=
  (first :: bounds replacements ++ [last]).IsChain (· ≤ ·)

/-- A text in which a single stretch is replaced. -/
def replaceOne (r : Replacement) (text : Text) : Text := text.take r.span.start ++ r.text ++ text.drop r.span.stop

/-- A text in which stretches are replaced one at a time, the last one first. -/
def replaceEach (text : Text) (replacements : List Replacement) : Text := replacements.foldr replaceOne text

/-- By how much a replacement makes a text longer. -/
def growth (r : Replacement) : Int := r.text.length - (r.stop - r.start)

/-- The replacements that put the stretches of a text back, where the first one has moved by `shift`. Each one moves
those after it. -/
def undoFrom (text : Text) (shift : Int) : List Replacement → List Replacement
  | [] => []
  | r :: more =>
    ⟨r.start + shift, r.start + shift + r.text.length, text.slice r.span⟩ :: undoFrom text (shift + r.growth) more

/-- The replacements that put the stretches of a text back after they have been replaced. -/
def undo (text : Text) (replacements : List Replacement) : List Replacement := undoFrom text 0 replacements

section Order

variable {first last : Int} {r : Replacement} {more : List Replacement}

theorem within_nil_iff : Within first last [] ↔ first ≤ last := by simp [Within, bounds]

theorem within_cons_iff :
    Within first last (r :: more) ↔ first ≤ r.start ∧ r.start ≤ r.stop ∧ Within r.stop last more := by
  simp [Within, bounds]

theorem Within.le {replacements : List Replacement} (within : Within first last replacements) : first ≤ last := by
  induction replacements generalizing first with
  | nil => exact within_nil_iff.mp within
  | cons r more ih =>
    obtain ⟨before, inside, after⟩ := within_cons_iff.mp within
    have := ih after
    omega

end Order

variable {text : Text} {cursor : Nat} {replacements : List Replacement}

/-- Replacing stretches from the cursor on changes nothing before it. -/
theorem take_replaceEach (within : Within cursor text.length replacements) {n : Nat} (before : n ≤ cursor) :
    (replaceEach text replacements).take n = text.take n := by
  induction replacements generalizing cursor n with
  | nil => rfl
  | cons r more ih =>
    obtain ⟨starts, ends, after⟩ := within_cons_iff.mp within
    have inside := after.le
    obtain ⟨stop, isStop⟩ : ∃ stop : Nat, r.stop = stop := ⟨r.stop.toNat, by omega⟩
    rw [isStop] at after
    have kept : (replaceEach text more).take r.span.start = text.take r.span.start := by
      apply ih after
      simp only [span]
      omega
    have long : n ≤ (text.take r.span.start).length := by
      simp only [span, List.length_take]
      omega
    have shorter : n ≤ r.span.start := by
      simp only [span]
      omega
    change (replaceOne r (replaceEach text more)).take n = _
    rw [replaceOne, kept, List.append_assoc, List.take_append_of_le_length long, List.take_take,
      Nat.min_eq_left shorter]

/-- The pass from the cursor on goes through exactly if the stretches are in order, and it gives what replacing them one
at a time gives. -/
theorem spliceFrom_cases (text : Text) (inside : cursor ≤ text.length) (replacements : List Replacement) :
    (Within cursor text.length replacements ∧
      spliceFrom cursor (text.drop cursor) replacements = .ok ((replaceEach text replacements).drop cursor)) ∨
    (¬ Within cursor text.length replacements ∧
      ∃ r ∈ replacements, spliceFrom cursor (text.drop cursor) replacements = .error (.badSpan r.start r.stop)) := by
  induction replacements generalizing cursor with
  | nil => exact .inl ⟨within_nil_iff.mpr (by omega), rfl⟩
  | cons r more ih =>
    rw [within_cons_iff, spliceFrom, List.length_drop]
    by_cases valid : (cursor : Int) ≤ r.start ∧ r.start ≤ r.stop ∧ r.stop ≤ text.length
    · obtain ⟨starts, ends, stops⟩ := valid
      obtain ⟨stop, isStop⟩ : ∃ stop : Nat, r.stop = stop := ⟨r.stop.toNat, by omega⟩
      have tail : (text.drop cursor).drop (stop - cursor) = text.drop stop := by
        rw [List.drop_drop]
        congr 1
        omega
      rw [if_neg (by omega), isStop]
      simp only [Int.toNat_natCast, tail]
      rcases @ih stop (by omega) with ⟨within, spliced⟩ | ⟨notWithin, bad, member, failed⟩
      · refine .inl ⟨⟨starts, by omega, within⟩, ?_⟩
        have kept := take_replaceEach within (n := r.start.toNat) (by omega)
        have long : cursor ≤ ((replaceEach text more).take r.start.toNat).length := by
          rw [kept, List.length_take]
          omega
        rw [spliced]
        change Except.ok _ = Except.ok ((replaceOne r (replaceEach text more)).drop cursor)
        rw [replaceOne, span, isStop, Int.toNat_natCast, List.append_assoc, List.append_assoc,
          List.drop_append_of_le_length long, kept, List.drop_take]
      · refine .inr ⟨fun within => notWithin within.2.2, bad, List.mem_cons_of_mem _ member, ?_⟩
        rw [failed]
        rfl
    · refine .inr ⟨fun within => valid ⟨within.1, within.2.1, within.2.2.le⟩, r, List.mem_cons_self .., ?_⟩
      rw [if_pos (by omega)]

/-- The pass over a text of which the part before the first stretch and the stretch are known. -/
theorem spliceFrom_append (cursor : Nat) (gap old tail new : Text) (more : List Replacement) :
    spliceFrom cursor (gap ++ old ++ tail)
      (⟨(cursor + gap.length : Nat), (cursor + gap.length + old.length : Nat), new⟩ :: more) =
    (gap ++ new ++ ·) <$> spliceFrom (cursor + gap.length + old.length) tail more := by
  rw [spliceFrom, if_neg (by simp only [List.length_append]; omega)]
  simp only [Int.toNat_natCast, Nat.add_assoc cursor, Nat.add_sub_cancel_left]
  rw [← List.length_append, List.drop_left, List.append_assoc gap old, List.take_left]
  cases spliceFrom (cursor + (gap ++ old).length) tail more <;> rfl

/-- What a pass has made of the rest of a text is made into this rest again. -/
theorem spliceFrom_undoFrom {out : Text} (spliced : spliceFrom cursor (text.drop cursor) replacements = .ok out)
    (moved : Nat) : spliceFrom moved out (undoFrom text (moved - cursor) replacements) = .ok (text.drop cursor) := by
  induction replacements generalizing cursor moved out with
  | nil =>
    cases spliced
    rfl
  | cons r more ih =>
    rw [spliceFrom, List.length_drop] at spliced
    split at spliced
    · cases spliced
    · next valid =>
      obtain ⟨start, isStart⟩ : ∃ start : Nat, r.start = start := ⟨r.start.toNat, by omega⟩
      obtain ⟨stop, isStop⟩ : ∃ stop : Nat, r.stop = stop := ⟨r.stop.toNat, by omega⟩
      rw [isStart, isStop] at valid spliced
      simp only [Int.toNat_natCast, List.drop_drop] at spliced
      rw [Nat.add_sub_cancel' (by omega)] at spliced
      obtain ⟨tail, splicedTail, made⟩ := bind_eq_ok spliced
      cases made
      -- the gap before the stretch keeps its length, so the new text starts as far behind the cursor as the old one
      have gap : (text.slice ⟨cursor, start⟩).length = start - cursor := by
        simp only [slice, List.length_take, List.length_drop]
        omega
      have newStart : r.start + ((moved : Int) - cursor) = (moved + (start - cursor) : Nat) := by omega
      have newShift : (moved : Int) - cursor + r.growth = (moved + (start - cursor) + r.text.length : Nat) - stop := by
        simp only [growth]
        omega
      change spliceFrom moved (text.slice ⟨cursor, start⟩ ++ r.text ++ tail) _ = _
      rw [undoFrom, newStart, newShift, ← Int.natCast_add, ← gap, spliceFrom_append, ih splicedTail]
      apply congrArg Except.ok
      calc text.slice ⟨cursor, start⟩ ++ text.slice r.span ++ text.drop stop
        _ = text.slice ⟨cursor, start⟩ ++ text.drop start := by
          rw [List.append_assoc, span, isStart, isStop]
          exact congrArg _ (text.slice_append_drop (show start ≤ stop by omega))
        _ = text.drop cursor := text.slice_append_drop (show cursor ≤ start by omega)

/-- The pass fails if and only if the stretches are not in order inside the text, on one of them. Otherwise it gives
what replacing the stretches one at a time gives, from the last to the first, and the old texts can be put back. -/
theorem splice_eq_replaceEach (text : Text) (replacements : List Replacement) :
    ((∃ r ∈ replacements, splice text replacements = .error (.badSpan r.start r.stop)) ↔
      ¬ Within 0 text.length replacements) ∧
    (Within 0 text.length replacements →
      splice text replacements = .ok (replaceEach text replacements) ∧
      splice (replaceEach text replacements) (undo text replacements) = .ok text) := by
  rcases spliceFrom_cases text (Nat.zero_le _) replacements with ⟨within, spliced⟩ | ⟨notWithin, failed⟩
  · have undone := spliceFrom_undoFrom spliced 0
    rw [List.drop_zero, List.drop_zero] at spliced
    refine ⟨⟨?_, fun notWithin => absurd within notWithin⟩, fun _ => ⟨spliced, undone⟩⟩
    rintro ⟨r, _, failed⟩
    cases spliced.symm.trans failed
  · rw [List.drop_zero] at failed
    exact ⟨⟨fun _ => notWithin, fun _ => failed⟩, fun within => absurd within notWithin⟩

/-- Stretches that are empty, at the start and next to each other, with texts that are longer and shorter than they. -/
def touching : List Replacement :=
  [⟨0, 0, "new ".toList⟩, ⟨2, 4, []⟩, ⟨4, 4, "xyz".toList⟩, ⟨4, 5, "e".toList⟩, ⟨6, 6, []⟩]

theorem splice_touching :
    Within 0 "abcdef".toList.length touching ∧ replaceEach "abcdef".toList touching = "new abxyzef".toList ∧
      splice "abcdef".toList touching = .ok "new abxyzef".toList ∧
      splice "new abxyzef".toList (undo "abcdef".toList touching) = .ok "abcdef".toList ∧
      ∃ r ∈ touching, splice "abcd".toList touching = .error (.badSpan r.start r.stop) := by
  have within : Within 0 "abcdef".toList.length touching := by
    simp only [Within]
    decide
  have beyond : ¬ Within 0 "abcd".toList.length touching := by
    simp only [Within]
    decide
  have result : replaceEach "abcdef".toList touching = "new abxyzef".toList := by decide
  have both := (splice_eq_replaceEach "abcdef".toList touching).2 within
  rw [result] at both
  exact ⟨within, result, both.1, both.2, (splice_eq_replaceEach "abcd".toList touching).1.mpr beyond⟩

end Regen.Replacement
