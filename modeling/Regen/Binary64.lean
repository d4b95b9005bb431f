import Regen.Text

/-!
# Binary floating point

The numbers of the binary64 format: multiples of a power of two with at most 53 significant bits, the two
infinities and the result of operations that have none. A rational number goes to the nearest of them, and a tie
to the one with an even significand.
-/

namespace Regen

/-- A number of the binary64 format. Both zeros are one number here. -/
inductive Binary64 where
  | finite (value : Rat)
  | infinite (negative : Bool)
  | notANumber
deriving DecidableEq, Repr

namespace Binary64

/-- The integer nearest to a quotient; a tie goes to the even one. -/
def nearest (numerator denominator : Nat) : Nat :=
  let quotient := numerator / denominator
  let twice := 2 * (numerator % denominator)
  if denominator < twice ∨ (twice = denominator ∧ quotient % 2 = 1) then quotient + 1 else quotient

/-- A quotient as it is after division by a power of two. -/
def scaled (numerator denominator : Nat) (exponent : Int) : Nat × Nat :=
  (numerator * Nat.pow 2 (-exponent).toNat, denominator * Nat.pow 2 exponent.toNat)

/-- The exponent of the largest power of two that is not above a positive quotient. -/
def magnitude (numerator denominator : Nat) : Int :=
  let exponent : Int := numerator.log2 - denominator.log2
  let (above, below) := scaled numerator denominator exponent
  if below ≤ above then exponent else exponent - 1

/-- The number nearest to a rational one. -/
def ofRat (value : Rat) : Binary64 :=
  if value = 0 then finite 0
  else
    let (numerator, denominator) := (value.num.natAbs, value.den)
    let unit := max (magnitude numerator denominator - 52) (-1074)
    let (above, below) := scaled numerator denominator unit
    let significand := nearest above below
    let absolute := mkRat (significand * Nat.pow 2 unit.toNat : Nat) (Nat.pow 2 (-unit).toNat)
    if absolute ≥ mkRat (Nat.pow 2 1024) 1 then infinite (value < 0)
    else finite (if value < 0 then -absolute else absolute)

/-- The number nearest to `digits * 10 ^ exponent`. Exponents far outside the format are not multiplied out. -/
def ofDecimal (digits : Nat) (exponent : Int) : Binary64 :=
  let places := (Text.ofNat digits).length + exponent
  if digits = 0 ∨ places < -400 then finite 0
  else if places > 400 then infinite false
  else ofRat (mkRat (digits * Nat.pow 10 exponent.toNat : Nat) (Nat.pow 10 (-exponent).toNat))

def neg : Binary64 → Binary64
  | finite value => finite (-value)
  | infinite negative => infinite !negative
  | notANumber => notANumber

/-- The sum of two numbers, rounded. -/
def add : Binary64 → Binary64 → Binary64
  | finite a, finite b => ofRat (a + b)
  | infinite a, infinite b => if a = b then infinite a else notANumber
  | infinite a, finite _ | finite _, infinite a => infinite a
  | notANumber, _ | _, notANumber => notANumber

/-- The product of two numbers, rounded. -/
def mul : Binary64 → Binary64 → Binary64
  | finite a, finite b => ofRat (a * b)
  | infinite a, infinite b => infinite (a != b)
  | infinite a, finite b | finite b, infinite a => if b = 0 then notANumber else infinite (a != (b < 0))
  | notANumber, _ | _, notANumber => notANumber

def lt : Binary64 → Binary64 → Bool
  | finite a, finite b => a < b
  | infinite a, infinite b => a && !b
  | infinite a, finite _ => a
  | finite _, infinite b => !b
  | notANumber, _ | _, notANumber => false

end Binary64

end Regen
