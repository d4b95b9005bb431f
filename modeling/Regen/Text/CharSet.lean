/-!
# Sets of characters

A property of characters that a standard fixes by enumeration is kept as a list of inclusive ranges of
code points in ascending order.
-/

namespace Regen

/-- Inclusive ranges of code points, in ascending order. -/
abbrev CharSet := List (Nat × Nat)

def CharSet.contains (set : CharSet) (c : Char) : Bool :=
  set.any fun (first, last) => first ≤ c.toNat && c.toNat ≤ last

end Regen
