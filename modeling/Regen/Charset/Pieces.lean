import Regen.Charset

/-!
# Reading in pieces

A file is taken in piece by piece, and only as far as it is needed. The bytes of a piece are decoded together, so
a fault is placed by its offset in the piece; a character that began in the piece before counts as a part of this
one. Line ends of every kind become line feeds.
-/

namespace Regen

/-- Line ends of every kind as line feeds. -/
def Text.plainLines : Text → Text
  | [] => []
  | '\r' :: '\n' :: rest => '\n' :: plainLines rest
  | c :: rest => (if c == '\r' then '\n' else c) :: plainLines rest

namespace Utf8

/-- A point in the intake of a file. -/
structure Intake where
  /-- The bytes that are still to be taken. -/
  bytes : List UInt8
  /-- The bytes of a character that the end of the last piece broke off. -/
  held : List UInt8
  /-- Whether a carriage return at the end of the last piece is held back, since a line feed may follow. -/
  holdsReturn : Bool
  /-- The text that is decoded and not handed out. -/
  ready : Text
  /-- How many bytes and characters the last piece had. -/
  last : Nat × Nat
  ended : Bool

namespace Intake

/-- The least number of bytes of a piece, unless the file ends in it. -/
def pieceSize : Nat := 8192

/-- The number of characters that are handed out together. -/
def portion : Nat := 4096

def start (bytes : List UInt8) : Intake := ⟨bytes, [], false, [], (0, 0), false⟩

/-- Whether bytes are the first two of three that would stand for a surrogate. -/
def isBrokenSurrogate : List UInt8 → Bool
  | [first, second] => first == 0xED && 0xA0 ≤ second && second ≤ 0xBF
  | _ => false

/-- The text of a piece, and the bytes of a character broken off at its end. In the last piece there must be
none. Whether broken off bytes can stand for a character is left to the next piece. -/
def decodePiece (bytes : List UInt8) (final : Bool) : Except Fault (Text × List UInt8) := do
  match bytes.foldlM Decoder.step ⟨0, [], none⟩ with
  | .ok decoder =>
    match decoder.pending with
    | some char =>
      if final then (decoder.finish).map (·, []) else return (decoder.chars.reverse, bytes.drop char.start)
    | none => return (decoder.chars.reverse, [])
  | .error fault =>
    let rest := bytes.drop fault.start
    if final || !isBrokenSurrogate rest then throw fault
    return (← decode (bytes.take fault.start), rest)

/-- How many bytes to take for a number of characters, given what the last piece held. -/
def sizeFor (intake : Intake) (wanted : Nat) : Nat :=
  let (bytes, chars) := intake.last
  max pieceSize (if chars = 0 then wanted else max wanted (bytes * wanted / chars))

/-- Takes in a piece for a number of characters. -/
def takePiece (intake : Intake) (wanted : Nat) : Except Codec.DecodeFault Intake := do
  let piece := intake.bytes.take (intake.sizeFor wanted)
  let final := piece.isEmpty
  let data := intake.held ++ piece
  let (text, held) ← (decodePiece data final).mapError fun fault =>
    ⟨Charset.utf8.name, (data.drop fault.start).take fault.length, fault.start, fault.reason.message⟩
  let releases := intake.holdsReturn && (final || !text.isEmpty)
  let text := if releases then '\r' :: text else text
  let holds := !final && text.getLast? == some '\r'
  let text := Text.plainLines (if holds then text.dropLast else text)
  return {
    bytes := intake.bytes.drop piece.length
    held
    holdsReturn := holds || (intake.holdsReturn && !releases)
    ready := intake.ready ++ text
    last := (piece.length, text.length)
    ended := final && text.isEmpty }

/-- Hands out a number of characters, or as many as there are. -/
def read (count : Nat) : (fuel : Nat) → Intake → Except Codec.DecodeFault (Text × Intake)
  | 0, intake => .ok (intake.ready, { intake with ready := [] })
  | fuel + 1, intake => do
    if count ≤ intake.ready.length || intake.ended then
      return (intake.ready.take count, { intake with ready := intake.ready.drop count })
    else read count fuel (← intake.takePiece (count - intake.ready.length))

/-- The portions that can be handed out one after the other, and the fault after them. -/
def portions : (fuel : Nat) → Intake → List Text × Option Codec.DecodeFault
  | 0, _ => ([], none)
  | fuel + 1, intake =>
    match read portion (intake.bytes.length + 3) intake with
    | .error fault => ([], some fault)
    | .ok ([], _) => ([], none)
    | .ok (text, intake) =>
      let (more, fault) := portions fuel intake
      (text :: more, fault)

end Intake

/-- The text of a file in portions, and the fault that is met after them. -/
def portions (bytes : List UInt8) : List Text × Option Codec.DecodeFault :=
  Intake.portions (bytes.length + 1) (.start bytes)

end Utf8

end Regen
