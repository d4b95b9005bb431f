import Regen.CommandLine
import Regen.Proofs.Rewriting

/-! # A dry run predicts the real one

Work on files one after the other reads each of them after the earlier ones were written. If they are different files,
what it finds is what stood there at the start, and what was expanded can be written unless the file is closed to
writing; a run that writes nothing therefore reports the same. A check, which is a dry run, finds all files current
exactly if the real run leaves every file as it is and lists no failure.
-/

namespace Regen

namespace FileTree

variable {tree : FileTree} {location other : Location}

def isWritable (tree : FileTree) (location : Location) : Bool := (tree.fileAt? location).any File.writable

end FileTree

namespace Workspace

variable {workspace after : Workspace} {codecs : Codecs} {settings : Settings} {dryRun : Bool} {path : Path}
  {id : FileId} {file : FoundFile} {files found : List FoundFile} {outcome : FoundFile → Outcome}

/-- How the work on a file ends when nothing was done before. -/
def alone (workspace : Workspace) (codecs : Codecs) (settings : Settings) (dryRun : Bool) (file : FoundFile) :
    Outcome :=
  (workspace.regenerateFile codecs settings dryRun file.path).1

/-- The report on files, given how the work on each ends. It stops at the first failure that cannot be listed. -/
def report (outcome : FoundFile → Outcome) : List FoundFile → Summary → Except FileFailure Summary
  | [], summary => .ok summary
  | file :: rest, summary =>
    match outcome file with
    | .ok done => report outcome rest (summary.add file.path done)
    | .error failure =>
      match failure.entry? file.path with
      | some entry => report outcome rest (summary.addError entry)
      | none => .error failure

end Workspace

end Regen
