import Regen.Text.Literal
import Regen.Value

/-!
# Literals

How headers and bodies write a value: a text as a string literal, an integer in decimal. Truth values have no
literal and are written as names.
-/

namespace Regen.Value

def literal : Value → Text
  | text chars => chars.literal
  | value => value.written

end Regen.Value
