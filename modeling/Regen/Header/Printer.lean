import Regen.Header
import Regen.Value.Literal

/-!
# Printing headers

Headers as an open marker writes them after the name of the kind. Strings are always written as literals, so
that no argument is taken for a name.
-/

namespace Regen.Header

def print : Header → Text
  | defun name parameters => name ++ " (".toList ++ [' '].intercalate parameters ++ [')']
  | funcall name arguments => [' '].intercalate (name :: arguments.map Value.literal)
  | block name | lines name => name
  | formatLines name template => name ++ ' ' :: template.literal
  | message text => text.literal

end Regen.Header
