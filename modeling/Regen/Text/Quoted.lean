import Regen.Text
import Regen.Text.Printable

/-!
# Quoted text

How messages show a piece of text: between quotes, with the backslash, the quote in use and every character
that cannot be printed escaped.
-/

namespace Regen.Text

/-- A number in hexadecimal with at least `width` digits. -/
def hexadecimal (width n : Nat) : Text :=
  let digits := Nat.toDigits 16 n
  List.replicate (width - digits.length) '0' ++ digits

/-- The quotes around a text: double ones only for a text that holds single ones and no double ones. -/
def quoteMark (text : Text) : Char :=
  if text.contains '\'' && !text.contains '"' then '"' else '\''

/-- A character as it stands between the quotes `mark`. -/
def escapeChar (mark c : Char) : Text :=
  if c == mark || c == '\\' then ['\\', c]
  else if c == '\n' then ['\\', 'n']
  else if c == '\r' then ['\\', 'r']
  else if c == '\t' then ['\\', 't']
  else if isPrintable c then [c]
  else if c.toNat ≤ 0xFF then '\\' :: 'x' :: hexadecimal 2 c.toNat
  else if c.toNat ≤ 0xFFFF then '\\' :: 'u' :: hexadecimal 4 c.toNat
  else '\\' :: 'U' :: hexadecimal 8 c.toNat

def quoted (text : Text) : Text :=
  let mark := quoteMark text
  mark :: text.flatMap (escapeChar mark) ++ [mark]

end Regen.Text
