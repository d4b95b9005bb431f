import Regen.Node
import Regen.Table

/-!
# Programs

What the directives of a document define: functions, and collections of lines. The two have names of their
own, so a function and a collection may share one.
-/

namespace Regen

/-- A function with the line that defines it. -/
structure Function where
  parameters : List Text
  body : List Node
  line : Option Int
deriving Repr

def Function.arity (function : Function) : Nat := function.parameters.length

/-- Stored lines with the line that defines them. A block is stored as a single line that holds all of it. -/
structure Collection where
  lines : List Text
  line : Option Int
deriving DecidableEq, Repr

/-- All functions and collections of a document. -/
structure Program where
  functions : Table Function
  collections : Table Collection
deriving Repr

namespace Program

def empty : Program := ⟨[], []⟩

def addFunction (program : Program) (name : Text) (function : Function) : Program :=
  { program with functions := program.functions.insert name function }

def addCollection (program : Program) (name : Text) (collection : Collection) : Program :=
  { program with collections := program.collections.insert name collection }

end Program

end Regen
