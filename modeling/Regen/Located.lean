import Regen.Text

/-!
# Places

What goes wrong, and what is worth a note, stands on a line of a file. Line and file are filled in by whoever
knows them, and a place once known stays.
-/

namespace Regen

/-- Something with the line and the file it belongs to, as far as they are known. -/
structure Located (α : Type) where
  content : α
  line : Option Int
  file : Option Text
deriving DecidableEq, Repr

namespace Located

/-- Fills in the line and the file where they are still unknown. -/
def locate {α : Type} (line : Option Int) (file : Option Text) (item : Located α) : Located α :=
  { item with line := item.line.or line, file := item.file.or file }

/-- The file name to show: an empty one counts as unknown. -/
def shownFile {α : Type} (item : Located α) : Option Text :=
  item.file.filter (!·.isEmpty)

end Located

end Regen
