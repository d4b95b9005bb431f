import Regen.Fault

/-!
# Replacements

Stretches of a text are replaced in one pass from left to right; everything outside them stays. The
stretches have to be in order, must not overlap and lie inside the text.
-/

namespace Regen

/-- New text for the stretch between two offsets. -/
structure Replacement where
  start : Int
  stop : Int
  text : Text
deriving DecidableEq, Repr

namespace Replacement

/-- Replaces stretches of a text of which `rest` remains after the offset `cursor`. -/
def spliceFrom (cursor : Nat) (rest : Text) : List Replacement → Except Failure Text
  | [] => .ok rest
  | r :: more =>
    if r.start < cursor ∨ r.stop < r.start ∨ r.stop > cursor + rest.length then .error (.badSpan r.start r.stop)
    else do
      let stop := r.stop.toNat
      let spliced ← spliceFrom stop (rest.drop (stop - cursor)) more
      return rest.take (r.start.toNat - cursor) ++ r.text ++ spliced

def splice (text : Text) (replacements : List Replacement) : Except Failure Text :=
  spliceFrom 0 text replacements

end Replacement

end Regen
