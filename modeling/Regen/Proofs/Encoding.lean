import Mathlib.Algebra.Group.Nat.Defs
import Mathlib.Tactic.Common
import Regen.Charset

/-! # Texts and their bytes

A character set writes exactly the texts of its own characters, and reads back what it writes. In UTF-8 the first byte
of a character tells how many bytes go on with it and where the next of them lies, and each of these adds six bits.
-/

namespace Regen

namespace Utf8

/-- A character in the middle of which the pass is stands for the first bits of a code point, and the byte that goes on
with it lies between the bounds. -/
structure Partial.Heads (char : Partial) (code : Nat) : Prop where
  bits : char.bits = code / 64 ^ char.more
  next : char.more ≠ 0 →
    char.low ≤ code / 64 ^ (char.more - 1) % 64 + 0x80 ∧ code / 64 ^ (char.more - 1) % 64 + 0x80 ≤ char.high

/-- The bytes after the first one, for the code point and their number. -/
def tail (code : Nat) : Nat → List UInt8
  | 0 => []
  | more + 1 => UInt8.ofNat (code / 64 ^ more % 64 + 0x80) :: tail code more

theorem tail_one (code : Nat) : tail code 1 = [UInt8.ofNat (code % 64 + 0x80)] := by
  rw [tail, tail, Nat.pow_zero, Nat.div_one]

theorem lead?_two (start : Nat) {code : Nat} (least : 0x7F < code) (most : code ≤ 0x7FF) :
    lead? start (UInt8.ofNat (code / 64 % 32 + 192)) = some ⟨start, code / 64, 1, 0x80, 0xBF⟩ := by
  have byte := UInt8.toNat_ofNat_of_lt' (show code / 64 % 32 + 192 < 256 by omega)
  simp only [lead?, byte]
  rw [if_neg (by omega), if_neg (by omega), if_pos (by omega), show code / 64 % 32 + 192 - 0xC0 = code / 64 by omega]

/-- The first byte of a code point below 0x10000 bounds the second one, so that there is only one way to write it. -/
theorem lead?_three (start : Nat) {code : Nat} (least : 0x7FF < code) (most : code ≤ 0xFFFF)
    (valid : code < 0xD800 ∨ 0xDFFF < code) :
    ∃ low high, lead? start (UInt8.ofNat (code / 4096 % 16 + 224)) = some ⟨start, code / 4096, 2, low, high⟩ ∧
      low ≤ code / 64 % 64 + 0x80 ∧ code / 64 % 64 + 0x80 ≤ high := by
  have byte := UInt8.toNat_ofNat_of_lt' (show code / 4096 % 16 + 224 < 256 by omega)
  simp only [lead?, byte]
  rw [if_neg (by omega), if_neg (by omega), if_neg (by omega)]
  by_cases first : code / 4096 = 0
  · rw [if_pos (by omega), first]
    exact ⟨_, _, rfl, by omega, by omega⟩
  rw [if_neg (by omega)]
  by_cases surrogates : code / 4096 = 0xD
  · rw [if_pos (by omega), surrogates]
    exact ⟨_, _, rfl, by omega, by omega⟩
  rw [if_neg (by omega), if_pos (by omega), show code / 4096 % 16 + 224 - 0xE0 = code / 4096 by omega]
  exact ⟨_, _, rfl, by omega, by omega⟩

theorem lead?_four (start : Nat) {code : Nat} (least : 0xFFFF < code) (most : code < 0x110000) :
    ∃ low high, lead? start (UInt8.ofNat (code / 262144 % 8 + 240)) = some ⟨start, code / 262144, 3, low, high⟩ ∧
      low ≤ code / 4096 % 64 + 0x80 ∧ code / 4096 % 64 + 0x80 ≤ high := by
  have byte := UInt8.toNat_ofNat_of_lt' (show code / 262144 % 8 + 240 < 256 by omega)
  simp only [lead?, byte]
  rw [if_neg (by omega), if_neg (by omega), if_neg (by omega), if_neg (by omega), if_neg (by omega),
    if_neg (by omega)]
  by_cases first : code / 262144 = 0
  · rw [if_pos (by omega), first]
    exact ⟨_, _, rfl, by omega, by omega⟩
  rw [if_neg (by omega)]
  by_cases last : code / 262144 = 4
  · rw [if_neg (by omega), if_pos (by omega), last]
    exact ⟨_, _, rfl, by omega, by omega⟩
  rw [if_pos (by omega), show code / 262144 % 8 + 240 - 0xF0 = code / 262144 by omega]
  exact ⟨_, _, rfl, by omega, by omega⟩

/-- A character is written as a first byte and the bytes that go on with it. -/
theorem encodeChar_eq (c : Char) (start : Nat) :
    ∃ byte char, encodeChar c = byte :: tail c.toNat char.more ∧ lead? start byte = some char ∧
      char.Heads c.toNat := by
  have valid : c.toNat.isValidChar := c.valid
  rw [Nat.isValidChar] at valid
  have code : c.val.toNat = c.toNat := rfl
  rw [encodeChar, String.utf8EncodeChar, code]
  generalize c.toNat = code at valid
  split_ifs with one two three
  · refine ⟨_, ⟨start, code, 0, 0x80, 0xBF⟩, rfl, ?_, ⟨by simp, by simp⟩⟩
    simp only [lead?, UInt8.toNat_ofNat_of_lt' (show code < 256 by omega)]
    rw [if_pos (by omega)]
  · refine ⟨_, _, congrArg _ (tail_one code).symm, lead?_two start (by omega) two, ⟨rfl, fun _ => ?_⟩⟩
    dsimp only
    omega
  · obtain ⟨low, high, lead, bounds⟩ := lead?_three start (by omega) three (by omega)
    exact ⟨_, _, congrArg _ (by simp [tail]), lead, ⟨rfl, fun _ => bounds⟩⟩
  · obtain ⟨low, high, lead, bounds⟩ := lead?_four start (Nat.lt_of_not_le three) (by omega)
    exact ⟨_, _, congrArg _ (by simp [tail]), lead, ⟨rfl, fun _ => bounds⟩⟩

namespace Decoder

/-- The bytes that go on with a character complete it. -/
theorem foldlM_tail {code : Nat} {char : Partial} (heads : char.Heads code) (offset : Nat) (chars : Text) :
    (tail code char.more).foldlM step (advance ⟨offset, chars, none⟩ char) =
      .ok ⟨offset + 1 + char.more, Char.ofNat code :: chars, none⟩ := by
  obtain ⟨start, bits, more, low, high⟩ := char
  dsimp only at heads ⊢
  induction more generalizing bits low high offset with
  | zero =>
    have whole : bits = code := by simpa using heads.bits
    rw [advance, if_pos rfl, whole]
    rfl
  | succ more ih =>
    obtain ⟨isBits, next⟩ := heads
    replace next := next (Nat.succ_ne_zero more)
    dsimp only at isBits next
    rw [Nat.add_sub_cancel] at next
    have byte := UInt8.toNat_ofNat_of_lt' (show code / 64 ^ more % 64 + 0x80 < 256 by omega)
    have joined : bits * 64 + (code / 64 ^ more % 64 + 0x80) % 64 = code / 64 ^ more := by
      rw [isBits, Nat.pow_succ, ← Nat.div_div_eq_div_mul]
      omega
    have stepped : step (advance ⟨offset, chars, none⟩ ⟨start, bits, more + 1, low, high⟩)
        (UInt8.ofNat (code / 64 ^ more % 64 + 0x80)) =
          .ok (advance ⟨offset + 1, chars, none⟩ ⟨start, code / 64 ^ more, more, 0x80, 0xBF⟩) := by
      rw [advance, if_neg (Nat.succ_ne_zero more)]
      simp only [step, byte, if_pos next, joined]
      rfl
    have rest := ih (offset + 1) (code / 64 ^ more) 0x80 0xBF ⟨rfl, fun _ => by dsimp only; omega⟩
    rw [tail, List.foldlM_cons, stepped]
    refine rest.trans ?_
    rw [Nat.add_assoc (offset + 1), Nat.add_comm 1]

/-- The bytes of a character give the character. -/
theorem foldlM_encodeChar (c : Char) (offset : Nat) (chars : Text) :
    ∃ next, (encodeChar c).foldlM step ⟨offset, chars, none⟩ = .ok ⟨next, c :: chars, none⟩ := by
  obtain ⟨byte, char, written, lead, heads⟩ := encodeChar_eq c offset
  refine ⟨offset + 1 + char.more, ?_⟩
  have first : step ⟨offset, chars, none⟩ byte = .ok (advance ⟨offset, chars, none⟩ char) := by
    simp only [step, lead]
  rw [written, List.foldlM_cons, first]
  refine (foldlM_tail heads offset chars).trans ?_
  rw [Char.ofNat_toNat]

theorem foldlM_encode (text : Text) (offset : Nat) (chars : Text) :
    ∃ next, (encode text).foldlM step ⟨offset, chars, none⟩ = .ok ⟨next, text.reverse ++ chars, none⟩ := by
  induction text generalizing offset chars with
  | nil => exact ⟨offset, rfl⟩
  | cons c rest ih =>
    obtain ⟨middle, first⟩ := foldlM_encodeChar c offset chars
    obtain ⟨next, later⟩ := ih middle (c :: chars)
    refine ⟨next, ?_⟩
    rw [encode, List.flatMap_cons, List.foldlM_append, first, List.reverse_cons, List.append_assoc]
    exact later

end Decoder

/-- What is written in UTF-8 reads as it was. -/
theorem decode_encode (text : Text) : decode (encode text) = .ok text := by
  obtain ⟨next, pass⟩ := Decoder.foldlM_encode text 0 []
  rw [decode, pass, List.append_nil]
  exact congrArg Except.ok (List.reverse_reverse text)

end Utf8

namespace Charset

variable {charset : Charset} {text : Text} {bytes : List UInt8}

/-- Whether a character belongs to a character set. -/
def has : Charset → Char → Bool
  | utf8, _ => true
  | latin1, c => c.toNat < 0x100
  | ascii, c => c.toNat < 0x80

theorem has_of_ascii (charset : Charset) {c : Char} (isAscii : c.toNat < 0x80) : charset.has c = true := by
  cases charset with
  | utf8 => rfl
  | latin1 => exact decide_eq_true (by omega)
  | ascii => exact decide_eq_true isAscii

/-- A character set writes the texts of its own characters. -/
theorem encode?_isSome_iff : (charset.encode? text).isSome = true ↔ ∀ c ∈ text, charset.has c = true := by
  cases charset with
  | utf8 => simp [encode?, has]
  | latin1 | ascii =>
    rw [encode?, ← List.all_eq_true]
    split
    · next all => simpa [has] using all
    · next all => simpa [has] using all

theorem toNat_ofNat_byte (byte : UInt8) : (Char.ofNat byte.toNat).toNat = byte.toNat := by
  have small := byte.toNat_lt
  have valid : byte.toNat.isValidChar := by
    rw [Nat.isValidChar]
    omega
  rw [Char.ofNat, dif_pos valid]
  rfl

/-- What is read in a character set consists of its characters. -/
theorem has_of_decode (read : charset.decode bytes = .ok text) : ∀ c ∈ text, charset.has c = true := by
  intro c member
  cases charset with
  | utf8 => rfl
  | latin1 =>
    cases read
    obtain ⟨byte, _, rfl⟩ := List.mem_map.mp member
    rw [has, toNat_ofNat_byte]
    exact decide_eq_true byte.toNat_lt
  | ascii =>
    rw [decode] at read
    split at read
    · next small =>
      cases read
      obtain ⟨byte, inBytes, rfl⟩ := List.mem_map.mp member
      have isSmall := List.findIdx?_eq_none_iff.mp small byte inBytes
      rw [has, toNat_ofNat_byte]
      simpa using isSmall
    · cases read

/-- Texts of characters with one byte each read as they were written. -/
theorem map_ofNat_map_toUInt8 (small : ∀ c ∈ text, c.toNat < 0x100) :
    ((text.map fun c => c.toNat.toUInt8).map fun byte => Char.ofNat byte.toNat) = text := by
  rw [List.map_map]
  conv_rhs => rw [← List.map_id text]
  refine List.map_congr_left fun c member => ?_
  have byte : c.toNat.toUInt8.toNat = c.toNat := UInt8.toNat_ofNat_of_lt' (small c member)
  rw [Function.comp_apply, byte, Char.ofNat_toNat]
  rfl

/-- What is written in a character set reads as it was. -/
theorem decode_of_encode? (written : charset.encode? text = some bytes) : charset.decode bytes = .ok text := by
  have own : ∀ c ∈ text, charset.has c = true := encode?_isSome_iff.mp (by rw [written]; rfl)
  cases charset with
  | utf8 =>
    cases written
    rw [decode, Utf8.decode_encode]
    rfl
  | latin1 =>
    have small : ∀ c ∈ text, c.toNat < 0x100 := fun c member => of_decide_eq_true (own c member)
    have all : (text.all (·.toNat < 0x100)) = true := by simpa using small
    rw [encode?, if_pos all] at written
    cases written
    rw [decode, map_ofNat_map_toUInt8 small]
  | ascii =>
    have small : ∀ c ∈ text, c.toNat < 0x80 := fun c member => of_decide_eq_true (own c member)
    have all : (text.all (·.toNat < 0x80)) = true := by simpa using small
    rw [encode?, if_pos all] at written
    cases written
    have low : ((text.map fun c => c.toNat.toUInt8).findIdx? fun byte => byte.toNat ≥ 0x80) = none := by
      rw [List.findIdx?_eq_none_iff]
      intro byte member
      obtain ⟨c, inText, rfl⟩ := List.mem_map.mp member
      have isLow := small c inText
      have same : c.toNat.toUInt8.toNat = c.toNat := UInt8.toNat_ofNat_of_lt' (Nat.lt_trans isLow (by decide))
      rw [same]
      exact decide_eq_false (by omega)
    rw [decode, low]
    dsimp only
    rw [map_ofNat_map_toUInt8 fun c member => Nat.lt_trans (small c member) (by decide)]

end Charset

end Regen
