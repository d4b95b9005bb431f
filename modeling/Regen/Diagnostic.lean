import Regen.Kind
import Regen.Located

/-!
# Diagnostics

What expanding a document reports without failing: warnings about names that are defined again, and the texts
of message directives.
-/

namespace Regen

/-- A report and how serious it is. -/
structure Note where
  message : Text
  severity : Text
deriving DecidableEq, Repr

/-- A report with its place. -/
abbrev Diagnostic := Located Note

namespace Diagnostic

/-- A diagnostic on one line. -/
def render (diagnostic : Diagnostic) : Text :=
  let file := diagnostic.shownFile.getD "<text>".toList
  let place := match diagnostic.line with
    | some line => file ++ ":".toList ++ Text.ofInt line
    | none => file
  place ++ ": ".toList ++ diagnostic.content.severity ++ ": ".toList ++ diagnostic.content.message

/-- The text of a message directive. -/
def message (text : Text) (line : Nat) (file : Option Text) : Diagnostic :=
  ⟨⟨text, "message".toList⟩, some line, file⟩

/-- A name that was already defined on the line `previous`. -/
def redefinition (what name : Text) (previous : Option Int) (line : Nat) (file : Option Text) : Diagnostic :=
  let previous := match previous with
    | some previous => Text.ofInt previous
    | none => "None".toList
  ⟨⟨what ++ " '".toList ++ name ++ "' redefined; replaces the definition on line ".toList ++ previous,
    "warning".toList⟩, some line, file⟩

end Diagnostic

end Regen
