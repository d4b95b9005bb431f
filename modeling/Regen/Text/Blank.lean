import Regen.Text
import Regen.Text.CharSet

/-!
# Blank characters

The characters that separate tokens and that trimming removes: the white space of Unicode together with
the four information separators.
-/

namespace Regen.Text

def blanks : CharSet :=
  [(0x09, 0x0D), (0x1C, 0x20), (0x85, 0x85), (0xA0, 0xA0), (0x1680, 0x1680), (0x2000, 0x200A),
    (0x2028, 0x2029), (0x202F, 0x202F), (0x205F, 0x205F), (0x3000, 0x3000)]

/-- Whether a character separates tokens. -/
def isBlank (c : Char) : Bool := blanks.contains c

def trimStart (text : Text) : Text := text.dropWhile isBlank

def trimEnd (text : Text) : Text := text.dropEndWhile isBlank

/-- The text without the blanks around it. -/
def trim (text : Text) : Text := text.trimStart.trimEnd

end Regen.Text
