import Regen.Text

/-!
# Paths

A path names a file by the directories that lead to it. Repeated and trailing slashes and parts that stay where
they are have no meaning; a step up is kept as it is written.
-/

namespace Regen

/-- A path, from its root or from the working directory. -/
structure Path where
  /-- The slashes in front: none, one, or exactly two. -/
  root : Text
  parts : List Text
deriving DecidableEq, Repr

namespace Path

/-- The step up to the directory above. -/
def up : Text := "..".toList

def ofText (text : Text) : Path where
  root :=
    let slashes := text.takeWhile (· == '/')
    if slashes.length ≤ 2 then slashes else ['/']
  parts := (text.splitOn '/').filter fun part => part ≠ [] && part ≠ ['.']

/-- A path as it is shown. The path that leads nowhere is a dot. -/
def render (path : Path) : Text :=
  if path.parts.isEmpty then if path.root.isEmpty then ['.'] else path.root
  else path.root ++ ['/'].intercalate path.parts

/-- The most bytes that the name of a file may take. -/
def maxNameSize : Nat := 255

/-- The most bytes that a path may take. -/
def maxSize : Nat := 4095

def isTooLong (path : Path) : Bool := path.render.utf8Size > maxSize

/-- Goes on from a path. -/
def append (path : Path) (parts : List Text) : Path := { path with parts := path.parts ++ parts }

def isAbsolute (path : Path) : Bool := !path.root.isEmpty

end Path

end Regen
