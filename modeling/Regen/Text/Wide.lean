import Regen.Text.Lowercase
import Regen.Text.Quoted

/-!
# Code points

An escape can name any code point. Most are characters, but the surrogates are not, and no character set can write
them: a text that holds one can be shown between quotes, but it never equals a text of a file or a name.
-/

namespace Regen

inductive CodePoint where
  | char (c : Char)
  /-- A code between 0xD800 and 0xDFFF. -/
  | surrogate (code : Nat)
deriving DecidableEq, Repr

/-- A text that may hold surrogates. -/
abbrev WideText := List CodePoint

namespace CodePoint

/-- The code point of a number below 0x110000. -/
def ofNat (code : Nat) : CodePoint :=
  if 0xD800 ≤ code ∧ code ≤ 0xDFFF then surrogate code else char (Char.ofNat code)

def toNat : CodePoint → Nat
  | char c => c.toNat
  | surrogate code => code

def char? : CodePoint → Option Char
  | char c => some c
  | surrogate _ => none

end CodePoint

namespace WideText

def ofText (text : Text) : WideText := text.map .char

/-- The text that code points make up, unless one of them is a surrogate. -/
def toText? (text : WideText) : Option Text := text.mapM CodePoint.char?

/-- The text with the replacement character in the place of surrogates. -/
def display (text : WideText) : Text := text.map fun point => point.char?.getD '�'

/-- A code point as it stands between the quotes `mark`. -/
def escape (mark : Char) : CodePoint → Text
  | .char c => Text.escapeChar mark c
  | .surrogate code => '\\' :: 'u' :: Text.hexadecimal 4 code

def quoted (text : WideText) : Text :=
  let mark := Text.quoteMark (text.filterMap CodePoint.char?)
  mark :: text.flatMap (escape mark) ++ [mark]

/-- The text in small letters. A surrogate has no bearing on the letters around it. -/
def lowercase (text : WideText) : WideText :=
  let (stretch, rest) := text.foldr (fun point (stretch, rest) =>
    match point with
    | .char c => (c :: stretch, rest)
    | .surrogate code => ([], .surrogate code :: (ofText (Text.lowercase stretch) ++ rest))) (([] : Text), [])
  ofText (Text.lowercase stretch) ++ rest

/-- The first surrogates that stand in a row, and how many code points there are before them. -/
def surrogates? (text : WideText) : Option (Nat × List Nat) :=
  let before := text.takeWhile fun point => point.char?.isSome
  match (text.drop before.length).takeWhile fun point => point.char?.isNone with
  | [] => none
  | row => some (before.length, row.map CodePoint.toNat)

end WideText

end Regen
