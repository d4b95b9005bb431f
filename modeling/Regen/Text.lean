/-!
# Text

Documents, names and generated output are lists of characters: an offset counts characters, and every
operation on text is an operation on lists.
-/

namespace Regen

/-- A piece of text, one character after another. -/
abbrev Text := List Char

namespace Text

def occursIn (needle : Text) : Text → Bool
  | [] => needle.isEmpty
  | c :: rest => needle.isPrefixOf (c :: rest) || occursIn needle rest

/-- The text before and after the first occurrence of `needle`. -/
def splitAtFirst? (needle : Text) : Text → Option (Text × Text)
  | [] => if needle.isEmpty then some ([], []) else none
  | c :: rest =>
    match needle.isPrefixOf? (c :: rest) with
    | some after => some ([], after)
    | none => (splitAtFirst? needle rest).map fun (before, after) => (c :: before, after)

/-- The text without the longest run of characters in `drop` at its end. -/
def dropEndWhile (drop : Char → Bool) (text : Text) : Text :=
  (text.reverse.dropWhile drop).reverse

/-- An integer in decimal, with a minus sign in front of a negative one. -/
def ofInt : Int → Text
  | .ofNat n => Nat.toDigits 10 n
  | .negSucc n => '-' :: Nat.toDigits 10 (n + 1)

/-- A natural number in decimal. -/
def ofNat (n : Nat) : Text := Nat.toDigits 10 n

def utf8Size (text : Text) : Nat := text.foldr (fun c size => c.utf8Size + size) 0

/-- Whether a text comes before another one, by the code points of their characters. -/
def precedes (first second : Text) : Bool := first.lex second fun c d => c.toNat.blt d.toNat

/-- The text filled up with spaces at its end to at least `width` characters. -/
def padEnd (width : Nat) (text : Text) : Text :=
  text ++ List.replicate (width - text.length) ' '

end Text

end Regen
