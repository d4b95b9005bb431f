import Regen.Text

/-!
# Bytes as text

Four characters of an alphabet of 64 stand for three bytes. Characters outside the alphabet are passed over. In
the last group equals signs may stand for the last one or two characters; whatever follows them is left unread.
-/

namespace Regen.Base64

/-- The value of a character of the alphabet. -/
def value? (c : Char) : Option Nat :=
  if 'A' ≤ c ∧ c ≤ 'Z' then some (c.toNat - 'A'.toNat)
  else if 'a' ≤ c ∧ c ≤ 'z' then some (c.toNat - 'a'.toNat + 26)
  else if '0' ≤ c ∧ c ≤ '9' then some (c.toNat - '0'.toNat + 52)
  else if c == '+' then some 62
  else if c == '/' then some 63
  else none

/-- The bytes that the values of one group stand for; what is left over of the last byte is dropped. -/
def groupBytes : List Nat → List UInt8
  | [a, b] => [(a * 4 + b / 16).toUInt8]
  | [a, b, c] => [(a * 4 + b / 16).toUInt8, (b % 16 * 16 + c / 4).toUInt8]
  | [a, b, c, d] => [(a * 4 + b / 16).toUInt8, (b % 16 * 16 + c / 4).toUInt8, (c % 4 * 64 + d).toUInt8]
  | _ => []

/-- Reads on in a group of which some values are known, after a number of equals signs in a row. -/
def decodeFrom (group : List Nat) (signs : Nat) : Text → Option (List UInt8)
  | [] => if group.isEmpty then some [] else none
  | c :: rest =>
    if c == '=' then
      if group.length ≥ 2 ∧ group.length + signs + 1 ≥ 4 then some (groupBytes group)
      else decodeFrom group (if group.length ≥ 2 then signs + 1 else signs) rest
    else
      match value? c with
      | none => decodeFrom group signs rest
      | some value =>
        if group.length = 3 then (decodeFrom [] 0 rest).map (groupBytes (group ++ [value]) ++ ·)
        else decodeFrom (group ++ [value]) 0 rest

/-- The bytes that a text stands for, if its last group is whole. -/
def decode? (text : Text) : Option (List UInt8) := decodeFrom [] 0 text

end Regen.Base64
