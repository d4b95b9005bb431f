import Regen.Text.Quoted

/-!
# Codecs

How the text of a file is written as bytes. A codec is known by name; some names are those of codes that have nothing
to do with text. Which names there are is up to the machine.
-/

namespace Regen

namespace Codec

/-- Why bytes cannot be decoded: the bytes concerned and the reason, with the name of the codec in messages. -/
structure DecodeFault where
  codec : Text
  bytes : List UInt8
  start : Nat
  reason : Text
deriving DecidableEq, Repr

def DecodeFault.message (fault : DecodeFault) : Text :=
  let codec := "'".toList ++ fault.codec ++ "' codec can't decode ".toList
  let place := match fault.bytes with
    | [byte] =>
      "byte 0x".toList ++ Text.hexadecimal 2 byte.toNat ++ " in position ".toList ++ Text.ofNat fault.start
    | bytes =>
      "bytes in position ".toList ++ Text.ofNat fault.start ++ "-".toList ++
        Text.ofNat (fault.start + bytes.length - 1)
  codec ++ place ++ ": ".toList ++ fault.reason

/-- How decoding fails. -/
inductive Failure where
  | undecodable (fault : DecodeFault)
  /-- The codec gives up without saying which bytes it is about. -/
  | other (message : Text)
deriving DecidableEq, Repr

end Codec

/-- A way to write text as bytes. A text that cannot be encoded is refused with a message. -/
structure Codec where
  decode : List UInt8 → Except Codec.Failure Text
  encode : Text → Except Text (List UInt8)

/-- What the name of an encoding stands for. -/
inductive Encoding where
  | codec (codec : Codec)
  /-- A code for bytes or text which does not tell how text is written as bytes. -/
  | otherCode
  | unknown

/-- The encodings by name. -/
abbrev Codecs := Text → Encoding

end Regen
