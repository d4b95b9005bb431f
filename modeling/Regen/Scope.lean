import Regen.Table
import Regen.Value

/-!
# Scopes

The variables that a form can see. A call starts with a frame that holds its parameters, and every round of a
loop adds a frame for its counter. An inner frame hides the outer ones.
-/

namespace Regen

abbrev Frame := Table Value

/-- Frames, innermost first. -/
abbrev Scope := List Frame

namespace Scope

/-- The value of a variable in the innermost frame that has it. -/
def find? (scope : Scope) (name : Text) : Option Value := scope.findSome? fun frame => Table.find? frame name

/-- The scope of a call: only its parameters. -/
def ofArguments (parameters : List Text) (arguments : List Value) : Scope :=
  [(parameters.zip arguments).foldl (fun frame (name, value) => Table.insert name value frame) []]

/-- The scope of a round of a loop. -/
def bind (scope : Scope) (name : Text) (value : Value) : Scope := [(name, value)] :: scope

end Scope

end Regen
