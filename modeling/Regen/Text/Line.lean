import Regen.Text

/-!
# Physical lines

A text falls into lines, each with the terminator that ends it. Only the last line can lack one. A carriage
return with a line feed after it is one terminator.
-/

namespace Regen

/-- A line of a text and the characters that end it. -/
structure Line where
  body : Text
  terminator : Text
deriving DecidableEq, Repr

namespace Line

def text (line : Line) : Text := line.body ++ line.terminator

end Line

namespace Text

def isLineBreak (c : Char) : Bool :=
  c == '\n' || c == '\r' || c == '\x0b' || c == '\x0c' || c == '\x1c' || c == '\x1d' || c == '\x1e' ||
    c == '\u0085' || c == '\u2028' || c == '\u2029'

def lines : Text → List Line
  | [] => []
  | '\r' :: '\n' :: rest => ⟨[], ['\r', '\n']⟩ :: lines rest
  | c :: rest =>
    if isLineBreak c then ⟨[], [c]⟩ :: lines rest
    else
      match lines rest with
      | [] => [⟨[c], []⟩]
      | line :: more => ⟨c :: line.body, line.terminator⟩ :: more

/-- The lines of a text without their terminators. -/
def lineBodies (text : Text) : List Text := text.lines.map Line.body

end Text

end Regen
