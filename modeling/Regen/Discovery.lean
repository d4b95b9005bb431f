import Regen.Settings
import Regen.Text.Lowercase
import Regen.Workspace

/-!
# Discovery

The files that a list of paths stands for. A file stands for itself; a directory for the files below it with an
ending that is looked for, outside of the directories to leave out, in the order of their paths part by part. A
file that comes up again, under whatever path, is left out.
-/

namespace Regen

/-- A file that was found: the path that leads to it and its place. -/
structure FoundFile where
  path : Path
  location : Location
deriving DecidableEq, Repr

namespace Discovery

/-- The ending of a file name: the last dot and what follows, unless nothing stands before it or follows it. -/
def suffix (name : Text) : Text :=
  let after := (name.reverse.takeWhile (· != '.')).reverse
  if after.isEmpty || name.length < after.length + 2 then [] else '.' :: after

/-- Whether a way from a directory passes through a directory to leave out. -/
def isLeftOut (settings : Settings) (way : List Text) : Bool :=
  way.dropLast.any fun directory => settings.exclude.contains (.ofText directory)

/-- Whether the name at the end of a way has an ending that is looked for. -/
def isWanted (settings : Settings) (way : List Text) : Bool :=
  match way.getLast? with
  | none => false
  | some name => (settings.extensions.map WideText.lowercase).contains (.ofText (suffix name).lowercase)

/-- The ways to all that is below a directory, in the order of their parts. -/
def waysBelow (workspace : Workspace) (location : Location) : List (List Text) :=
  (workspace.tree.below location).mergeSort fun a b => !(b.lex a Text.precedes)

/-- The ways that are looked at below a directory: every directory is opened, then all but what is left out is asked for
its kind. -/
def waysLookedAt (workspace : Workspace) (settings : Settings) (location : Location) : List (List Text) :=
  let ways := waysBelow workspace location
  ways.filter (fun way => workspace.tree.entry? (location ++ way) == some .directory) ++
    ways.filter fun way => !isLeftOut settings way

/-- The files that a directory stands for, or the first path below it that is too long to be looked at. -/
def inDirectory (workspace : Workspace) (settings : Settings) (path : Path) (location : Location) :
    Except (Path × AccessFault) (List FoundFile) :=
  match (waysLookedAt workspace settings location).find? fun way => (path.append way).isTooLong with
  | some way => .error (path.append way, .nameTooLong)
  | none =>
    .ok ((waysBelow workspace location).filterMap fun way =>
      match workspace.tree.entry? (location ++ way) with
      | some (.file _) =>
        if !isLeftOut settings way && isWanted settings way then some ⟨path.append way, location ++ way⟩ else none
      | _ => none)

/-- The files that one path stands for, or which path leads nowhere and why it does. -/
def atPath (workspace : Workspace) (settings : Settings) (path : Path) :
    Except (Path × AccessFault) (List FoundFile) := do
  match ← (workspace.find path).mapError fun fault => (path, fault) with
  | (location, .file _) => return [⟨path, location⟩]
  | (location, .directory) => inDirectory workspace settings path location

/-- Leaves out each file whose place came up before. -/
def firstSpellings (found : List FoundFile) : List FoundFile :=
  (found.foldl (fun kept file =>
    if kept.any fun earlier => earlier.location == file.location then kept else file :: kept) []).reverse

/-- The files that paths stand for, or the first path that leads nowhere and why it does. -/
def discover (workspace : Workspace) (settings : Settings) (paths : List Path) :
    Except (Path × AccessFault) (List FoundFile) := do
  let found ← paths.mapM (atPath workspace settings)
  return firstSpellings found.flatten

end Discovery

end Regen
