import Regen.Path
import Regen.Table

/-!
# File trees

Names by their place below the root, and files by number. A path leads to a place one part at a time, and only a
directory can be passed through. A file may have several names, and it may be closed to reading or to writing; a
directory can always be listed and passed through. No name stands for another path, so that a place has one path from
the root, and a file that is open to writing takes whatever is written.
-/

namespace Regen

abbrev Bytes := List UInt8

/-- A place: the names from the root down. -/
abbrev Location := List Text

/-- The number of a file, by which all its names know it. -/
abbrev FileId := Nat

/-- A file, with the rights of the one who runs the program. -/
structure File where
  bytes : Bytes
  readable : Bool := true
  writable : Bool := true
deriving DecidableEq, Repr

/-- What stands at a place. -/
inductive Entry where
  /-- A name of a file. -/
  | file (id : FileId)
  | directory
deriving DecidableEq, Repr

/-- Names by place, and files by number. The root is always a directory. -/
structure FileTree where
  entries : Table Entry Location
  files : Table File FileId
deriving DecidableEq, Repr

/-- Why a path leads to no file that can be opened. -/
inductive AccessFault where
  | missing
  | notDirectory
  | isDirectory
  /-- The file is closed to what is to be done with it. -/
  | denied
  /-- The path or a name in it takes too many bytes. -/
  | nameTooLong
  /-- The path holds a NUL, which no name does. -/
  | embeddedNull
deriving DecidableEq, Repr

namespace FileTree

def empty : FileTree := ⟨[], []⟩

def entry? (tree : FileTree) (location : Location) : Option Entry :=
  if location.isEmpty then some .directory else tree.entries.find? location

/-- The file with a number. A number that was not given out is that of an empty file. -/
def file (tree : FileTree) (id : FileId) : File := (tree.files.find? id).getD { bytes := [] }

def fileAt? (tree : FileTree) (location : Location) : Option File :=
  match tree.entry? location with
  | some (.file id) => some (tree.file id)
  | _ => none

def put (tree : FileTree) (location : Location) (entry : Entry) : FileTree :=
  { tree with entries := tree.entries.insert location entry }

/-- Sets the file with a number, under all its names. -/
def setFile (tree : FileTree) (id : FileId) (file : File) : FileTree :=
  { tree with files := tree.files.insert id file }

def rewrite (tree : FileTree) (id : FileId) (bytes : Bytes) : FileTree :=
  tree.setFile id { tree.file id with bytes }

/-- Sets the file at a place. Where none stands, it is a new file with this name only. -/
def putFile (tree : FileTree) (location : Location) (file : File) : FileTree :=
  match tree.entry? location with
  | some (.file id) => tree.setFile id file
  | _ => (tree.put location (.file tree.files.length)).setFile tree.files.length file

/-- Makes a directory and those above it, where they are missing. -/
def makeDirectory (tree : FileTree) (location : Location) : FileTree :=
  (List.range location.length).foldl (fun tree depth =>
    let place := location.take (depth + 1)
    if (tree.entry? place).isSome then tree else tree.put place .directory) tree

/-- Takes a name away. -/
def remove (tree : FileTree) (location : Location) : FileTree :=
  { tree with entries := tree.entries.filter fun (place, _) => place ≠ location }

/-- The places of files with their content. -/
def contents (tree : FileTree) : List (Location × Bytes) :=
  tree.entries.filterMap fun (place, entry) =>
    match entry with
    | .file id => some (place, (tree.file id).bytes)
    | .directory => none

/-- The way from a place to each entry below it. -/
def below (tree : FileTree) (location : Location) : List (List Text) :=
  tree.entries.filterMap fun (place, _) =>
    match location.isPrefixOf? place with
    | some (name :: rest) => some (name :: rest)
    | _ => none

/-- Follows the parts of a path from a directory on. -/
def follow (tree : FileTree) (here : Location) : List Text → Except AccessFault (Location × Entry)
  | [] => .ok (here, .directory)
  | part :: rest =>
    if part = Path.up then tree.follow here.dropLast rest
    else if part.utf8Size > Path.maxNameSize then .error .nameTooLong
    else
      match tree.entry? (here ++ [part]) with
      | none => .error .missing
      | some .directory => tree.follow (here ++ [part]) rest
      | some (.file id) => if rest.isEmpty then .ok (here ++ [part], .file id) else .error .notDirectory

end FileTree

end Regen
