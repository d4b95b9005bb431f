import Regen.Text

/-!
# Templates

A template is a line of text with slots, `%s`. A line of a collection goes into the first slot.
-/

namespace Regen.Template

/-- Where a template takes a line. -/
def slot : Text := "%s".toList

def hasOneSlot (template : Text) : Bool :=
  match Text.splitAtFirst? slot template with
  | none => false
  | some (_, after) => !slot.occursIn after

/-- Puts a line into the first slot of a template. -/
def fill (template line : Text) : Text :=
  match Text.splitAtFirst? slot template with
  | some (before, after) => before ++ line ++ after
  | none => template

/-- Puts each line into a template, indents the results and joins them by line ends. -/
def fillEach (template indent newline : Text) (lines : List Text) : Text :=
  newline.intercalate (lines.map fun line => indent ++ fill template line)

end Regen.Template
