import Regen.Text

/-!
# UTF-8

A character takes one to four bytes. The first byte gives their number and the range of the second; all further
bytes lie between 80 and BF. Decoding stops at the first byte that fits no character and says which bytes before
it belong to the broken one.
-/

namespace Regen.Utf8

def encodeChar (c : Char) : List UInt8 := String.utf8EncodeChar c

def encode (text : Text) : List UInt8 := text.flatMap encodeChar

/-- Why bytes are not UTF-8. -/
inductive Reason where
  | invalidStart
  | invalidContinuation
  | unexpectedEnd
deriving DecidableEq, Repr

def Reason.message : Reason → Text
  | invalidStart => "invalid start byte".toList
  | invalidContinuation => "invalid continuation byte".toList
  | unexpectedEnd => "unexpected end of data".toList

/-- A character of which bytes are still to come: where it starts, the bits of its code point so far, how many
bytes follow and between which bounds the next one lies. -/
structure Partial where
  start : Nat
  bits : Nat
  more : Nat
  low : Nat
  high : Nat
deriving DecidableEq, Repr

/-- A point in the pass over the bytes: how many were read, the characters they gave, newest first, and the
character in the middle of which the pass is. -/
structure Decoder where
  offset : Nat
  chars : Text
  pending : Option Partial
deriving DecidableEq, Repr

/-- Where bytes stop to be UTF-8: the offset and the number of bytes of the broken character. -/
structure Fault where
  reason : Reason
  start : Nat
  length : Nat
deriving DecidableEq, Repr

/-- Reads the first byte of a character. -/
def lead? (start : Nat) (byte : UInt8) : Option Partial :=
  let b := byte.toNat
  if b < 0x80 then some ⟨start, b, 0, 0x80, 0xBF⟩
  else if b < 0xC2 then none
  else if b < 0xE0 then some ⟨start, b - 0xC0, 1, 0x80, 0xBF⟩
  else if b = 0xE0 then some ⟨start, 0x0, 2, 0xA0, 0xBF⟩
  else if b = 0xED then some ⟨start, 0xD, 2, 0x80, 0x9F⟩
  else if b < 0xF0 then some ⟨start, b - 0xE0, 2, 0x80, 0xBF⟩
  else if b = 0xF0 then some ⟨start, 0x0, 3, 0x90, 0xBF⟩
  else if b < 0xF4 then some ⟨start, b - 0xF0, 3, 0x80, 0xBF⟩
  else if b = 0xF4 then some ⟨start, 0x4, 3, 0x80, 0x8F⟩
  else none

namespace Decoder

/-- Goes on after a byte of a character, which is complete if no bytes follow. -/
def advance (decoder : Decoder) (char : Partial) : Decoder :=
  if char.more = 0 then
    { offset := decoder.offset + 1, chars := Char.ofNat char.bits :: decoder.chars, pending := none }
  else { decoder with offset := decoder.offset + 1, pending := some char }

def step (decoder : Decoder) (byte : UInt8) : Except Fault Decoder :=
  match decoder.pending with
  | none =>
    match lead? decoder.offset byte with
    | none => .error ⟨.invalidStart, decoder.offset, 1⟩
    | some char => .ok (decoder.advance char)
  | some char =>
    if char.low ≤ byte.toNat ∧ byte.toNat ≤ char.high then
      .ok (decoder.advance ⟨char.start, char.bits * 64 + byte.toNat % 64, char.more - 1, 0x80, 0xBF⟩)
    else .error ⟨.invalidContinuation, char.start, decoder.offset - char.start⟩

/-- The text, once there are no more bytes. -/
def finish (decoder : Decoder) : Except Fault Text :=
  match decoder.pending with
  | none => .ok decoder.chars.reverse
  | some char => .error ⟨.unexpectedEnd, char.start, decoder.offset - char.start⟩

end Decoder

def decode (bytes : List UInt8) : Except Fault Text := do
  let decoder ← bytes.foldlM Decoder.step ⟨0, [], none⟩
  decoder.finish

end Regen.Utf8
