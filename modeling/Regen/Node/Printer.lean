import Regen.Node
import Regen.Value.Literal

/-!
# Printing bodies

Forms as a body writes them, each between parentheses with single spaces between its parts. Nodes
that are out of place print as nothing.
-/

namespace Regen.Node

def printExpression : Node → Text
  | literal value _ => value.literal
  | reference name _ => name
  | _ => []

/-- Parts between parentheses. -/
def printList (parts : List Text) : Text := '(' :: [' '].intercalate parts ++ [')']

mutual

def print : Node → Text
  | insert arguments _ => printList ("insert".toList :: arguments.map printExpression)
  | newline _ => printList ["newline-and-indent".toList]
  | loop counter count body _ =>
    printList ("dotimes".toList :: printList [counter, count.printExpression] :: printForms body)
  | call function arguments _ => printList ("funcall".toList :: function :: arguments.map printExpression)
  | literal .. | reference .. => []

def printForms : List Node → List Text
  | [] => []
  | node :: rest => node.print :: printForms rest

end

/-- A body as it is written, one form on each line. -/
def printBody (forms : List Node) : Text := ['\n'].intercalate (printForms forms)

end Regen.Node
