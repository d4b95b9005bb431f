import Regen.FileTree

/-!
# Workspaces

Paths that do not start at the root start at a working directory.
-/

namespace Regen

/-- A file tree with the directory from which paths start. -/
structure Workspace where
  tree : FileTree
  directory : Location

namespace Workspace

/-- Where a path leads and what stands there. -/
def find (workspace : Workspace) (path : Path) : Except AccessFault (Location × Entry) :=
  if path.render.contains '\x00' then .error .embeddedNull
  else if path.isTooLong then .error .nameTooLong
  else workspace.tree.follow (if path.isAbsolute then [] else workspace.directory) path.parts

/-- Opens the file at a path for reading and takes its content. -/
def read (workspace : Workspace) (path : Path) : Except AccessFault (FileId × Bytes) := do
  match ← workspace.find path with
  | (_, .file id) =>
    let file := workspace.tree.file id
    if file.readable then return (id, file.bytes) else throw .denied
  | (_, .directory) => throw .isDirectory

/-- Opens a file for writing and replaces its content. -/
def write (workspace : Workspace) (id : FileId) (bytes : Bytes) : Except AccessFault Workspace :=
  if (workspace.tree.file id).writable then .ok { workspace with tree := workspace.tree.rewrite id bytes }
  else .error .denied

end Workspace

end Regen
