import Regen.Text

/-!
# Kinds of directives

Three kinds define something for later use, three have a region that is regenerated.
-/

namespace Regen

inductive Kind where
  | defun
  | funcall
  | block
  | lines
  | formatLines
  | message
deriving DecidableEq, Repr

namespace Kind

/-- The kinds in the order in which they are listed. -/
def all : List Kind := [defun, funcall, block, lines, formatLines, message]

def name : Kind → Text
  | defun => "defun".toList
  | funcall => "funcall".toList
  | block => "block".toList
  | lines => "lines".toList
  | formatLines => "format-lines".toList
  | message => "message".toList

def ofName? (name : Text) : Option Kind := all.find? fun kind => kind.name == name

/-- Whether directives of this kind have a region that is regenerated. -/
def producesOutput : Kind → Bool
  | funcall | formatLines | message => true
  | defun | block | lines => false

end Kind

end Regen
