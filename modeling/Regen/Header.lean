import Regen.Datum
import Regen.Template

/-!
# Headers

What follows the kind on the line of an open marker: `NAME (PARAM*)` for a function, `NAME ARG*` for a call,
`NAME` for a collection of lines, `NAME "TEMPLATE"` for formatting one, and `"TEXT"` for a message.
-/

namespace Regen

/-- The arguments of a directive, by kind. -/
inductive Header where
  | defun (name : Text) (parameters : List Text)
  | funcall (name : Text) (arguments : List Value)
  | block (name : Text)
  | lines (name : Text)
  | formatLines (name : Text) (template : Text)
  | message (text : Text)
deriving DecidableEq, Repr

namespace Header

def kind : Header → Kind
  | defun .. => .defun
  | funcall .. => .funcall
  | block _ => .block
  | lines _ => .lines
  | formatLines .. => .formatLines
  | message _ => .message

/-- The name that a header defines or uses. -/
def name? : Header → Option Text
  | defun name _ | funcall name _ | block name | lines name | formatLines name _ => some name
  | message _ => none

/-- The value that an argument of a call stands for. -/
def argument? : Datum → Option Value
  | .atom atom _ => some atom.value
  | .list .. => none

/-- The header of a directive of the kind given, or what is wrong with it. -/
def ofData (kind : Kind) (data : List Datum) : Except HeaderFault Header :=
  match kind with
  | .defun =>
    match data with
    | [.atom (.symbol name) _, .list parameters _] =>
      match parameters.mapM Datum.symbol? with
      | none => .error .parameterNotName
      | some names => if names.Nodup then .ok (defun name names) else .error .duplicateParameter
    | _ => .error .definitionShape
  | .funcall =>
    match data with
    | .atom (.symbol name) _ :: arguments =>
      match arguments.mapM argument? with
      | none => .error .argumentNotLiteral
      | some values => .ok (funcall name values)
    | _ => .error .callShape
  | .block =>
    match data with
    | [.atom (.symbol name) _] => .ok (block name)
    | _ => .error .nameShape
  | .lines =>
    match data with
    | [.atom (.symbol name) _] => .ok (lines name)
    | _ => .error .nameShape
  | .formatLines =>
    match data with
    | [.atom (.symbol name) _, .atom (.string template) _] =>
      if Template.hasOneSlot template then .ok (formatLines name template) else .error .templateSlots
    | _ => .error .formatShape
  | .message =>
    match data with
    | [.atom (.string text) _] => .ok (message text)
    | _ => .error .messageShape

/-- Reads the header of a directive on `line`. -/
def read (kind : Kind) (text : Text) (line : Int) : Except Failure Header := do
  let data ← Datum.read text line
  match ofData kind data with
  | .ok header => return header
  | .error reason => throw (.onLine (.malformedHeader kind reason) (some line))

/-- Reads the header of a directive whose kind is given by its name. A header that cannot be read at all is
reported before an unknown kind. -/
def readNamed (name text : Text) (line : Int) : Except Failure Header :=
  match Kind.ofName? name with
  | some kind => read kind text line
  | none => do
    let _ ← Datum.read text line
    throw (.onLine (.unknownKind name) (some line))

end Header

end Regen
