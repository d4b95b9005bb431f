import Regen.Charset.Utf8
import Regen.Codec

/-!
# Character sets

The codecs that every machine has. A character set goes by several names, in which case and punctuation do not matter.
-/

namespace Regen

/-- A set of characters with a way to write them as bytes. -/
inductive Charset where
  | utf8
  /-- One byte for each of the first 256 characters. -/
  | latin1
  /-- One byte for each of the first 128 characters. -/
  | ascii
deriving DecidableEq, Repr

namespace Charset

def all : List Charset := [utf8, latin1, ascii]

def name : Charset → Text
  | utf8 => "utf-8".toList
  | latin1 => "latin-1".toList
  | ascii => "ascii".toList

/-- The words of a name in small letters, joined by underscores. Only the letters and digits of ASCII and dots
belong to words. -/
def canonicalName (name : Text) : Text :=
  let words := (name.map fun c => if c.isAlphanum || c == '.' then c.toLower else ' ').splitOn ' '
  ['_'].intercalate (words.filter (!·.isEmpty))

/-- The main name of a character set in its canonical form. -/
def mainName : Charset → Text
  | utf8 => "utf_8".toList
  | latin1 => "latin_1".toList
  | ascii => "ascii".toList

/-- The further names of a character set in canonical form. -/
def aliases : Charset → List Text
  | utf8 => ["cp65001", "u8", "utf", "utf8", "utf8_ucs2", "utf8_ucs4"].map String.toList
  | latin1 =>
    ["8859", "cp819", "csisolatin1", "ibm819", "iso8859", "iso8859_1", "iso_8859_1", "iso_8859_1_1987", "iso_ir_100",
      "l1", "latin", "latin1"].map String.toList
  | ascii =>
    ["646", "ansi_x3.4_1968", "ansi_x3.4_1986", "ansi_x3_4_1968", "cp367", "csascii", "ibm367", "iso646_us",
      "iso_646.irv_1991", "iso_ir_6", "us", "us_ascii"].map String.toList

/-- The name for the character set of the machine, which is UTF-8. -/
def machineName : Text := "locale".toList

/-- Whether a name is one of those in canonical form that are given. In a further name a dot may stand for an
underscore. -/
def isNamed (name : Text) (mainNames aliases : List Text) : Bool :=
  let canonical := canonicalName name
  let undotted := canonical.map fun c => if c == '.' then '_' else c
  mainNames.contains canonical || aliases.contains canonical || aliases.contains undotted

def ofName? (name : Text) : Option Charset :=
  if name = machineName then some utf8
  else all.find? fun charset => isNamed name [charset.mainName] charset.aliases

/-- Whether a name is that of a code for bytes or text which does not tell how text is written as bytes. -/
def namesOtherCode (name : Text) : Bool :=
  isNamed name
    (["base64_codec", "bz2_codec", "hex_codec", "quopri_codec", "rot_13", "uu_codec", "zlib_codec"].map String.toList)
    (["base64", "base_64", "bz2", "hex", "quopri", "quoted_printable", "quotedprintable", "rot13", "uu", "zip",
      "zlib"].map String.toList)

/-- The text that bytes stand for. -/
def decode (charset : Charset) (bytes : List UInt8) : Except Codec.DecodeFault Text :=
  match charset with
  | utf8 =>
    (Utf8.decode bytes).mapError fun fault =>
      ⟨utf8.name, (bytes.drop fault.start).take fault.length, fault.start, fault.reason.message⟩
  | latin1 => .ok (bytes.map fun byte => Char.ofNat byte.toNat)
  | ascii =>
    match bytes.findIdx? fun byte => byte.toNat ≥ 0x80 with
    | none => .ok (bytes.map fun byte => Char.ofNat byte.toNat)
    | some start => .error ⟨ascii.name, (bytes.drop start).take 1, start, "ordinal not in range(128)".toList⟩

/-- The bytes that stand for a text, if all its characters belong to the character set. -/
def encode? (charset : Charset) (text : Text) : Option (List UInt8) :=
  match charset with
  | utf8 => some (Utf8.encode text)
  | latin1 => if text.all (·.toNat < 0x100) then some (text.map fun c => c.toNat.toUInt8) else none
  | ascii => if text.all (·.toNat < 0x80) then some (text.map fun c => c.toNat.toUInt8) else none

def codec (charset : Charset) : Codec where
  decode bytes := (charset.decode bytes).mapError .undecodable
  encode text :=
    match charset.encode? text with
    | some bytes => .ok bytes
    | none => .error ("'".toList ++ charset.name ++ "' codec can't encode the text".toList)

end Charset

/-- The names of the character sets, on a machine that knows no other codecs. -/
def Codecs.standard : Codecs := fun name =>
  if Charset.namesOtherCode name then .otherCode
  else
    match Charset.ofName? name with
    | some charset => .codec charset.codec
    | none => .unknown

end Regen
