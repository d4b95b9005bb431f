import Regen.Evaluation
import Regen.Text.Wide
import Regen.Token

/-!
# Settings

Which files are looked at, how they are written, and how far evaluation may go.
-/

namespace Regen

structure Settings where
  /-- The endings of the files to look at in directories. -/
  extensions : List WideText
  /-- The names of directories to leave out. -/
  exclude : List WideText
  maxIterations : Int
  maxCallDepth : Int
  /-- The name of the character set of all files. -/
  encoding : WideText
deriving DecidableEq, Repr

namespace Settings

/-- The settings that hold unless others are given. -/
def default : Settings where
  extensions :=
    [".c", ".h", ".cc", ".cpp", ".cxx", ".hh", ".hpp", ".cs", ".java", ".js", ".ts", ".go", ".rs", ".swift", ".py",
      ".rb", ".sh", ".el", ".lua"].map fun ending => .ofText ending.toList
  exclude :=
    [".git", ".hg", ".svn", "node_modules", "__pycache__", ".venv", "build", "dist"].map fun name => .ofText name.toList
  maxIterations := 100000
  maxCallDepth := 64
  encoding := .ofText "utf-8".toList

def limits (settings : Settings) : Limits where
  iterations := settings.maxIterations
  callDepth := settings.maxCallDepth

/-- Whether the limits have few enough digits to be shown. -/
def isShowable (settings : Settings) : Bool := settings.limits.isWritable

end Settings

end Regen
