import Mathlib.Data.List.Basic
import Regen.Directive
import Regen.Proofs.Places
import Regen.Replacement

/-! # Replacing stretches of a text

Stretches in order cut a text into the gaps before, between and after them. Replacing the stretches keeps every gap
and puts the new texts between them; it fails for no stretches that are in order and inside the text.
-/

namespace Regen

namespace Span

/-- The stretches between the offset `cursor` and the offset `stop` that the given ones leave. -/
def gaps (stop : Nat) : (cursor : Nat) → List Span → List Span
  | cursor, [] => [⟨cursor, stop⟩]
  | cursor, span :: rest => ⟨cursor, span.start⟩ :: gaps stop span.stop rest

/-- Stretches from the offset `cursor` on, in order, apart, and up to the offset `stop` at most. -/
def Ordered (stop : Nat) : (cursor : Nat) → List Span → Prop
  | cursor, [] => cursor ≤ stop
  | cursor, span :: rest => cursor ≤ span.start ∧ span.start ≤ span.stop ∧ Ordered stop span.stop rest

@[simp] theorem length_gaps (stop cursor : Nat) (spans : List Span) :
    (gaps stop cursor spans).length = spans.length + 1 := by
  induction spans generalizing cursor with
  | nil => rfl
  | cons span rest ih => rw [gaps, List.length_cons, ih, List.length_cons]

theorem Ordered.le {stop cursor : Nat} {spans : List Span} (ordered : Ordered stop cursor spans) : cursor ≤ stop := by
  induction spans generalizing cursor with
  | nil => exact ordered
  | cons span rest ih => exact Nat.le_trans (Nat.le_trans ordered.1 ordered.2.1) (ih ordered.2.2)

/-- The first gap runs on to where the first stretch may start. -/
theorem Ordered.exists_gap {stop bound : Nat} {spans : List Span} (ordered : Ordered stop bound spans) (cursor : Nat) :
    ∃ gap ∈ gaps stop cursor spans, gap.start = cursor ∧ bound ≤ gap.stop := by
  cases spans with
  | nil => exact ⟨_, List.mem_singleton_self _, rfl, ordered⟩
  | cons span rest => exact ⟨_, List.mem_cons_self .., rfl, ordered.1⟩

end Span

namespace Text

def slice (text : Text) (span : Span) : Text := (text.drop span.start).take (span.stop - span.start)

/-- The texts of the gaps that stretches leave. -/
def gaps (text : Text) (spans : List Span) : List Text := (Span.gaps text.length 0 spans).map text.slice

/-- Gaps with pieces between them, in turn. -/
def weave : (gaps pieces : List Text) → Text
  | [], pieces => pieces.flatten
  | gap :: gaps, [] => gap ++ weave gaps []
  | gap :: gaps, piece :: pieces => gap ++ piece ++ weave gaps pieces

theorem slice_of_append {text middle : Text} (before after : Text) {span : Span}
    (split : text = before ++ middle ++ after) (atStart : span.start = before.length)
    (atStop : span.stop = (before ++ middle).length) : text.slice span = middle := by
  rw [slice, atStart, atStop, split, List.append_assoc, List.drop_left, List.length_append, Nat.add_sub_cancel_left,
    List.take_left]

theorem slice_append_drop (text : Text) {span : Span} (ordered : span.start ≤ span.stop) :
    text.slice span ++ text.drop span.stop = text.drop span.start := by
  have split := List.take_append_drop (span.stop - span.start) (text.drop span.start)
  rw [List.drop_drop, Nat.add_sub_cancel' ordered] at split
  exact split

/-- A text consists of its gaps and the stretches between them. -/
theorem weave_gaps_slices_from (text : Text) {cursor : Nat} {spans : List Span}
    (ordered : Span.Ordered text.length cursor spans) :
    weave ((Span.gaps text.length cursor spans).map text.slice) (spans.map text.slice) = text.drop cursor := by
  induction spans generalizing cursor with
  | nil =>
    simp only [Span.gaps, List.map_cons, List.map_nil, weave, List.flatten_nil, List.append_nil, slice]
    exact List.take_of_length_le (by simp)
  | cons span rest ih =>
    have gap : text.slice ⟨cursor, span.start⟩ ++ text.drop span.start = text.drop cursor :=
      text.slice_append_drop ordered.1
    simp only [Span.gaps, List.map_cons, weave]
    rw [ih ordered.2.2, List.append_assoc, text.slice_append_drop ordered.2.1, gap]

theorem weave_gaps_slices (text : Text) {spans : List Span} (ordered : Span.Ordered text.length 0 spans) :
    weave (text.gaps spans) (spans.map text.slice) = text :=
  weave_gaps_slices_from text ordered

end Text

namespace Replacement

open Text

def ofSpan (span : Span) (text : Text) : Replacement := ⟨span.start, span.stop, text⟩

/-- Replacing stretches that are in order never fails, and keeps the gaps from the cursor on. -/
theorem spliceFrom_ordered (text : Text) {cursor : Nat} {spans : List Span} {pieces : List Text}
    (ordered : Span.Ordered text.length cursor spans) (lengths : pieces.length = spans.length) :
    spliceFrom cursor (text.drop cursor) (List.zipWith ofSpan spans pieces) =
      .ok (weave ((Span.gaps text.length cursor spans).map text.slice) pieces) := by
  induction spans generalizing cursor pieces with
  | nil =>
    obtain rfl := List.length_eq_zero_iff.mp lengths
    simp only [List.zipWith_nil_left, spliceFrom, Span.gaps, List.map_cons, List.map_nil, weave, List.flatten_nil,
      List.append_nil, slice]
    rw [List.take_of_length_le (by simp)]
  | cons span rest ih =>
    obtain _ | ⟨piece, pieces⟩ := pieces
    · cases lengths
    obtain ⟨before, inside, ordered⟩ := ordered
    have bound := ordered.le
    have tail : (text.drop cursor).drop (span.stop - cursor) = text.drop span.stop := by
      rw [List.drop_drop, Nat.add_sub_cancel' (Nat.le_trans before inside)]
    have valid : ¬ ((span.start : Int) < cursor ∨ (span.stop : Int) < span.start ∨
        (span.stop : Int) > cursor + (text.drop cursor).length) := by
      rw [List.length_drop]
      omega
    have rest := ih ordered (Nat.succ.inj lengths)
    rw [List.zipWith_cons_cons, ofSpan, spliceFrom, if_neg valid]
    simp only [Int.toNat_natCast]
    rw [tail, rest]
    rfl

theorem splice_ordered (text : Text) {spans : List Span} {pieces : List Text}
    (ordered : Span.Ordered text.length 0 spans) (lengths : pieces.length = spans.length) :
    splice text (List.zipWith ofSpan spans pieces) = .ok (weave (text.gaps spans) pieces) :=
  spliceFrom_ordered text ordered lengths

end Replacement

end Regen
