import Regen.Text

/-!
# String literals

How headers and bodies write a text: between double quotes, with a backslash before each quote and backslash.
-/

namespace Regen.Text

/-- A character as it stands in a string literal. -/
def literalChar (c : Char) : Text := if c == '"' || c == '\\' then ['\\', c] else [c]

/-- The literal that denotes a text. -/
def literal (text : Text) : Text := '"' :: text.flatMap literalChar ++ ['"']

end Regen.Text
