import Regen.Binary64
import Regen.Text.Blank
import Regen.Text.Digit
import Regen.Text.Wide
import Regen.Token

/-!
# Numerals

How a text is read as an integer to a base or as a decimal number. Blanks may stand around it and a sign in front.
Digits of all scripts count as those of ASCII. A mark such as `0x` may stand before the digits if it fits the base.
-/

namespace Regen.Numeral

/-- Why a text is no numeral. -/
inductive Fault where
  | notInteger (base : Nat) (text : WideText)
  | notDecimal (text : WideText)
  | oversized (digits : Nat)
deriving DecidableEq, Repr

/-- How much of an integer that is none is shown. -/
def shownLength : Nat := 200

def Fault.message : Fault → Text
  | notInteger base text =>
    "invalid literal for int() with base ".toList ++ Text.ofNat base ++ ": ".toList ++ text.quoted.take shownLength
  | notDecimal text => "could not convert string to float: ".toList ++ text.quoted
  | oversized digits => Failure.message (.oversizedInteger (some digits))

/-- A code point as it reads in ASCII. What is neither blank nor digit reads as a question mark. -/
def asciiOf : CodePoint → Char
  | .char c =>
    if c.toNat < 0x80 then c
    else if Text.isBlank c then ' '
    else match Text.digit? c with
      | some digit => Char.ofNat ('0'.toNat + digit)
      | none => '?'
  | .surrogate _ => '?'

/-- Whether a character of ASCII may stand around a numeral. -/
def isSpace (c : Char) : Bool := c == ' ' || ('\t' ≤ c && c ≤ '\r')

/-- The value of a digit to a base up to sixteen. -/
def digit? (c : Char) : Option Nat :=
  if '0' ≤ c ∧ c ≤ '9' then some (c.toNat - '0'.toNat)
  else if 'a' ≤ c ∧ c ≤ 'f' then some (c.toNat - 'a'.toNat + 10)
  else if 'A' ≤ c ∧ c ≤ 'F' then some (c.toNat - 'A'.toNat + 10)
  else none

/-- Whether a character is a digit to the base given. -/
def isDigit (base : Nat) (c : Char) : Bool := (digit? c).any (· < base)

/-- The number that digits to a base denote. -/
def ofDigits (base : Nat) (digits : Text) : Nat :=
  digits.foldl (fun n c => n * base + (digit? c).getD 0) 0

/-- A numeral in ASCII without the blanks around it and without its sign, and whether that is a minus sign. -/
def body (text : WideText) : Bool × Text :=
  match Text.dropEndWhile isSpace ((text.map asciiOf).dropWhile isSpace) with
  | '-' :: rest => (true, rest)
  | '+' :: rest => (false, rest)
  | rest => (false, rest)

/-- The letters that mark a base after a zero. -/
def marks (base : Nat) : List Char :=
  if base = 2 then ['b', 'B'] else if base = 8 then ['o', 'O'] else if base = 16 then ['x', 'X'] else []

/-- The digits after the mark of a base. -/
def unmarked (base : Nat) : Text → Text
  | '0' :: c :: rest => if (marks base).contains c then rest else '0' :: c :: rest
  | digits => digits

/-- The integer to a base that a text denotes. Only the number of decimal digits is limited. -/
def integer (base : Nat) (text : WideText) : Except Fault Int :=
  let (negative, rest) := body text
  let digits := unmarked base rest
  let ahead := digits.takeWhile (isDigit base)
  if base = 10 ∧ ahead.length > Value.maxDigits then .error (.oversized ahead.length)
  else if ahead.isEmpty ∨ ahead.length ≠ digits.length then .error (.notInteger base text)
  else .ok (if negative then -(ofDigits base ahead : Int) else ofDigits base ahead)

/-- The exponent that a text denotes: a letter, an optional sign and digits. No text denotes zero. -/
def exponent? : Text → Option Int
  | [] => some 0
  | mark :: rest =>
    let (negative, digits) := match rest with
      | '-' :: digits => (true, digits)
      | '+' :: digits => (false, digits)
      | digits => (false, digits)
    if (mark != 'e' && mark != 'E') || digits.isEmpty || !digits.all (isDigit 10) then none
    else some (if negative then -(ofDigits 10 digits : Int) else ofDigits 10 digits)

/-- The number that a decimal without sign denotes. -/
def absolute? (text : Text) : Option Binary64 :=
  let word := text.map Char.toLower
  if word = "inf".toList ∨ word = "infinity".toList then some (.infinite false)
  else if word = "nan".toList then some .notANumber
  else do
    let whole := text.takeWhile (isDigit 10)
    let rest := text.drop whole.length
    let fraction := match rest with
      | '.' :: rest => rest.takeWhile (isDigit 10)
      | _ => []
    let rest := match rest with
      | '.' :: rest => rest.drop fraction.length
      | rest => rest
    if whole.isEmpty && fraction.isEmpty then none
    let exponent ← exponent? rest
    return .ofDecimal (ofDigits 10 (whole ++ fraction)) (exponent - fraction.length)

/-- The decimal number that a text denotes. -/
def decimal (text : WideText) : Except Fault Binary64 :=
  let (negative, rest) := body text
  match absolute? rest with
  | some number => .ok (if negative then number.neg else number)
  | none => .error (.notDecimal text)

end Regen.Numeral
