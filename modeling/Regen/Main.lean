import Regen.CommandLine

/-!
# The program

Reads the files that the arguments lead to into a tree, runs the command line on it, prints what it prints and
writes the files that it changed.
-/

namespace Regen.Disk

/-- The name of a place for the operating system. -/
def nameOf (location : Location) : String := String.ofList (Surroundings.absolute location).render

def succeeds (attempt : IO Unit) : IO Bool := do
  try
    attempt
    return true
  catch _ => return false

/-- The file with a name for the operating system. -/
def loadFile (name : String) : IO File := do
  let readable ← succeeds (discard (IO.FS.readBinFile name))
  let writable ← succeeds (IO.FS.withFile name .readWrite fun _ => pure ())
  let bytes ← if readable then IO.FS.readBinFile name else pure .empty
  return { bytes := bytes.toList, readable, writable }

/-- Adds what stands at a place to a tree, with everything below it if `deep`. Every name is taken for that of another
file. -/
partial def load (deep : Bool) (tree : FileTree) (location : Location) : IO FileTree := do
  let path := (← IO.FS.realPath "/") / nameOf location
  if ← path.isDir then
    let tree := tree.makeDirectory location
    if deep then
      (← path.readDir).foldlM (fun tree entry => load true tree (location ++ [entry.fileName.toList])) tree
    else return tree
  else if ← path.pathExists then
    return tree.putFile location (← loadFile (nameOf location))
  else return tree

/-- Adds what a path leads to to a tree, with the directories on the way. -/
def loadPath (directory : Location) (tree : FileTree) (path : Path) : IO FileTree := do
  let start := if path.isAbsolute then [] else directory
  let (tree, location) ← path.parts.foldlM (fun (tree, here) part => do
    let next := if part = Path.up then here.dropLast else here ++ [part]
    return (← load false tree next, next)) (tree, start)
  load true tree location

/-- Writes the files in which two trees differ. -/
def store (before after : FileTree) : IO Unit :=
  for (location, bytes) in after.contents do
    if (before.fileAt? location).map File.bytes != some bytes then
      IO.FS.writeBinFile (nameOf location) (ByteArray.mk bytes.toArray)

/-- The place that an absolute name denotes. -/
def locationOf (name : String) : Location := (Path.ofText name.toList).parts

/-- The home directories in a list of accounts, one on a line. -/
def homesOf (accounts : String) : List (Text × Location) :=
  (accounts.splitOn "\n").filterMap fun account =>
    match account.splitOn ":" with
    | name :: _ :: _ :: _ :: _ :: home :: _ => some (name.toList, locationOf home)
    | _ => none

/-- The home directories of all who have an account on the machine. -/
def homes : IO (List (Text × Location)) := do
  try return homesOf (← IO.FS.readFile "/etc/passwd")
  catch _ => return []

/-- The paths of all files that arguments ask for. -/
def neededPaths (surroundings : Surroundings) (arguments : List Text) : List Path :=
  match CommandLine.Invocation.read arguments with
  | .error _ => []
  | .ok invocation =>
    let config := match invocation.config with
      | some config => config.toList.map Path.ofText
      | none => surroundings.defaultPath.toOption.toList
    config ++ invocation.paths.map Path.ofText

end Regen.Disk

open Regen in
def main (arguments : List String) : IO UInt32 := do
  let arguments := arguments.map String.toList
  let directory := Disk.locationOf (← IO.FS.realPath ".").toString
  let home := Disk.locationOf ((← IO.getEnv "HOME").getD "/")
  let configured := (← IO.getEnv "AUTOC_CONFIG").map String.toList
  let tree := FileTree.empty.makeDirectory directory
  let start : Surroundings := { workspace := ⟨tree, directory⟩, home, homes := ← Disk.homes, configured }
  let tree ← (Disk.neededPaths start arguments).foldlM (Disk.loadPath directory) tree
  let ((output, ending), after) := CommandLine.run { start with workspace := ⟨tree, directory⟩ } arguments
  Disk.store tree after.tree
  IO.print (String.ofList output.standard)
  IO.eprint (String.ofList output.error)
  match ending with
  | .done status | .exit status => return status.toUInt32
  | .failed failure =>
    IO.eprintln (String.ofList failure.message)
    return 1
  | .misconfigured fault =>
    IO.eprintln (String.ofList fault.message)
    return 1
