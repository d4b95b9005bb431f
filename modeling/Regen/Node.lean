import Regen.Value

/-!
# Nodes of a function body

A body is a sequence of forms: insert, line break, loop and call. The arguments of a form are expressions:
literals and references to variables. Both are nodes of one tree, so a tree may hold a node where it does not
belong; `isForm` and `isExpression` say where it does.
-/

namespace Regen

/-- A form or an expression, with the line it stands on if it comes from a text. -/
inductive Node where
  /-- A value as it is. -/
  | literal (value : Value) (line : Option Int)
  /-- The value of a parameter or loop variable. -/
  | reference (name : Text) (line : Option Int)
  /-- Writes the values of its arguments. -/
  | insert (arguments : List Node) (line : Option Int)
  /-- Ends the line and indents the next one. -/
  | newline (line : Option Int)
  /-- Runs its body for the counts below a bound, in ascending order. -/
  | loop (counter : Text) (count : Node) (body : List Node) (line : Option Int)
  /-- Runs the body of a function. -/
  | call (function : Text) (arguments : List Node) (line : Option Int)
deriving Repr

namespace Node

def line : Node → Option Int
  | literal _ line | reference _ line | insert _ line | newline line | loop _ _ _ line | call _ _ line => line

/-- Whether a node has a value. -/
def isExpression : Node → Bool
  | literal .. | reference .. => true
  | _ => false

mutual

/-- Whether a node can stand in a body: forms all the way down, with expressions for arguments. -/
def isForm : Node → Bool
  | insert arguments _ => arguments.all isExpression
  | newline _ => true
  | loop _ count body _ => count.isExpression && allForms body
  | call _ arguments _ => arguments.all isExpression
  | literal .. | reference .. => false

def allForms : List Node → Bool
  | [] => true
  | node :: rest => node.isForm && allForms rest

end

/-- A line number as messages show it. -/
def shownLine : Option Int → Text
  | none => "None".toList
  | some n => Text.ofInt n

/-- A sequence as messages show it: between parentheses, with a comma after a single member. -/
def shownTuple : List Text → Text
  | [] => "()".toList
  | [only] => "(".toList ++ only ++ ",)".toList
  | members => "(".toList ++ ", ".toList.intercalate members ++ ")".toList

mutual

/-- A node with all its parts as messages show it. -/
def shown : Node → Text
  | literal value line =>
    "Literal(value=".toList ++ value.shown ++ ", line=".toList ++ shownLine line ++ ")".toList
  | reference name line =>
    "VarRef(name=".toList ++ name.quoted ++ ", line=".toList ++ shownLine line ++ ")".toList
  | insert arguments line =>
    "Insert(args=".toList ++ shownTuple (shownAll arguments) ++ ", line=".toList ++ shownLine line ++ ")".toList
  | newline line => "NewlineAndIndent(line=".toList ++ shownLine line ++ ")".toList
  | loop counter count body line =>
    "Dotimes(var=".toList ++ counter.quoted ++ ", count=".toList ++ count.shown ++ ", body=".toList ++
      shownTuple (shownAll body) ++ ", line=".toList ++ shownLine line ++ ")".toList
  | call function arguments line =>
    "Funcall(name=".toList ++ function.quoted ++ ", args=".toList ++ shownTuple (shownAll arguments) ++
      ", line=".toList ++ shownLine line ++ ")".toList

def shownAll : List Node → List Text
  | [] => []
  | node :: rest => node.shown :: shownAll rest

end

end Node

end Regen
