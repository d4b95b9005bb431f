import Regen.Yaml.Fault

/-!
# Numbers in YAML

What plain scalars look like that are integers or floats, and which number a scalar denotes that is to be one.
Underscores are passed over, and groups of digits between colons are to base sixty. A scalar can be asked for a
number that it does not look like, so reading is a matter of its own.
-/

namespace Regen.Yaml.Number

open Numeral (isDigit)

def unsigned : Text → Text
  | c :: rest => if c == '-' || c == '+' then rest else c :: rest
  | [] => []

/-- Whether a text is a row of digits to the base given and of underscores. -/
def isDigits (base : Nat) (text : Text) : Bool := text.all fun c => isDigit base c || c == '_'

/-- Whether a text is a group of a number to base sixty: a number below sixty with one or two digits. -/
def isSixtieth : Text → Bool
  | [c] => isDigit 10 c
  | [c, d] => isDigit 6 c && isDigit 10 d
  | _ => false

/-- Whether a text is a number to base sixty with at least two groups. -/
def isBaseSixty (text : Text) : Bool :=
  match text.splitOn ':' with
  | (c :: first) :: group :: groups => isDigit 10 c && isDigits 10 first && (group :: groups).all isSixtieth
  | _ => false

def looksInteger (text : Text) : Bool :=
  match text with
  | [] => false
  | '0' :: [] => true
  | '0' :: 'b' :: rest => !rest.isEmpty && isDigits 2 rest
  | '0' :: 'x' :: rest => !rest.isEmpty && isDigits 16 rest
  | '0' :: rest => isDigits 8 rest
  | c :: rest => isDigit 10 c && (isDigits 10 rest || isBaseSixty text)

/-- The spellings of infinity without a sign. -/
def infinities : List Text := [".inf", ".Inf", ".INF"].map String.toList

/-- The spellings of what is no number. -/
def noNumbers : List Text := [".nan", ".NaN", ".NAN"].map String.toList

/-- Whether a text is an exponent with its sign, or nothing. -/
def isExponent : Text → Bool
  | [] => true
  | e :: sign :: digits =>
    (e == 'e' || e == 'E') && (sign == '-' || sign == '+') && !digits.isEmpty && digits.all (isDigit 10)
  | [_] => false

/-- Whether a text is the part of a number after its point. -/
def isFraction (text : Text) : Bool :=
  isExponent (text.dropWhile fun c => isDigit 10 c || c == '_')

def looksFloat (text : Text) : Bool :=
  if infinities.contains (unsigned text) || noNumbers.contains text then true
  else
    match text, Text.splitAtFirst? ['.'] (unsigned text) with
    | '.' :: c :: rest, _ => isDigit 10 c && isFraction rest
    | _, some (c :: whole, fraction) =>
      isDigit 10 c &&
        ((isDigits 10 whole && isFraction fraction) || (isBaseSixty (c :: whole) && isDigits 10 fraction))
    | _, _ => false

/-- A number without underscores and without its sign, and whether that is a minus sign. -/
def signed (text : WideText) : Except Fault (Bool × WideText) :=
  match text.filter (· != .char '_') with
  | [] => .error (.misfit .noNumber)
  | .char '-' :: rest => .ok (true, rest)
  | .char '+' :: rest => .ok (false, rest)
  | rest => .ok (false, rest)

def toBase (base : Nat) (text : WideText) : Except Fault Int :=
  (Numeral.integer base text).mapError fun fault => .misfit (.numeral fault)

/-- The integer that a text without sign denotes. A zero in front stands for base eight. -/
def magnitude (digits : WideText) : Except Fault Int :=
  match digits with
  | [] => .error (.misfit .noNumber)
  | [.char '0'] => .ok 0
  | .char '0' :: .char 'b' :: rest => toBase 2 rest
  | .char '0' :: .char 'x' :: rest => toBase 16 rest
  | .char '0' :: _ => toBase 8 digits
  | _ => do
    let groups ← (digits.splitOn (.char ':')).mapM (toBase 10)
    return groups.foldl (fun n group => n * 60 + group) 0

def integer (text : WideText) : Except Fault Int := do
  let (negative, digits) ← signed text
  let n ← magnitude digits
  return if negative then -n else n

/-- The sum of groups to base sixty, the last group first, each of which counts `unit` times. -/
def sixtieths (unit : Nat) (total : Binary64) : List Binary64 → Except Fault Binary64
  | [] => .ok total
  | group :: rest =>
    match Binary64.ofRat unit with
    | .finite worth => sixtieths (unit * 60) (total.add (group.mul (.finite worth))) rest
    | _ => .error (.misfit .beyondFloat)

def float (text : WideText) : Except Fault Binary64 := do
  let (negative, digits) ← signed text.lowercase
  let absolute ←
    if digits = .ofText ".inf".toList then pure (.infinite false)
    else if digits = .ofText ".nan".toList then pure .notANumber
    else do
      let groups ← (digits.splitOn (.char ':')).mapM fun group =>
        (Numeral.decimal group).mapError fun fault => Fault.misfit (.numeral fault)
      match groups with
      | [number] => pure number
      | groups => sixtieths 1 (.finite 0) groups.reverse
  return if negative then absolute.neg else absolute

end Regen.Yaml.Number
