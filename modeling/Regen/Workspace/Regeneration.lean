import Regen.Charset
import Regen.Discovery
import Regen.Expansion

/-!
# Regeneration of files

A file is read, expanded and written back if its text changed. A file that cannot be expanded is never written,
and the others are still worked on.
-/

namespace Regen

/-- Why the work on files stops. -/
inductive FileFailure where
  /-- The path leads to no file that can be opened. -/
  | access (path : Path) (fault : AccessFault)
  | undecodable (fault : Codec.DecodeFault)
  /-- The codec gives up on the bytes of the file. -/
  | codec (message : Text)
  | unencodable (message : Text)
  | unknownCharset (name : Text)
  /-- The name is that of a code which is no character set. -/
  | otherCode (name : Text)
  /-- The name of the character set holds a NUL. -/
  | nullInCharset
  /-- The name of the character set holds surrogates in a row, after a number of characters. -/
  | surrogatesInCharset (start : Nat) (codes : List Nat)
  /-- The text of the file cannot be expanded. -/
  | document (failure : Failure)
  /-- A path to look at that does not exist. -/
  | noSuchPath (path : Path)
deriving Repr

namespace FileFailure

def message : FileFailure → Text
  | access path .missing => "[Errno 2] No such file or directory: ".toList ++ path.render.quoted
  | access path .notDirectory => "[Errno 20] Not a directory: ".toList ++ path.render.quoted
  | access path .isDirectory => "[Errno 21] Is a directory: ".toList ++ path.render.quoted
  | access path .denied => "[Errno 13] Permission denied: ".toList ++ path.render.quoted
  | access path .nameTooLong => "[Errno 36] File name too long: ".toList ++ path.render.quoted
  | access _ .embeddedNull => "embedded null byte".toList
  | undecodable fault => fault.message
  | codec message | unencodable message => message
  | unknownCharset name => "unknown encoding: ".toList ++ name
  | otherCode name =>
    "'".toList ++ name.take 400 ++
      "' is not a text encoding; use codecs.open() to handle arbitrary codecs".toList
  | nullInCharset => "embedded null character".toList
  | surrogatesInCharset start codes =>
    let place := match codes with
      | [code] =>
        "character '\\u".toList ++ Text.hexadecimal 4 code ++ "' in position ".toList ++ Text.ofNat start
      | codes =>
        "characters in position ".toList ++ Text.ofNat start ++ "-".toList ++ Text.ofNat (start + codes.length - 1)
    "'utf-8' codec can't encode ".toList ++ place ++ ": surrogates not allowed".toList
  | document failure => failure.message
  | noSuchPath path => "No such file or directory: ".toList ++ path.render

/-- The failure of a path to look at that leads nowhere. One that is too long is not even looked for. -/
def ofPath : Path × AccessFault → FileFailure
  | (path, .nameTooLong) => access path .nameTooLong
  | (path, _) => noSuchPath path

end FileFailure

/-- What became of a file. -/
inductive Action where
  | updated
  | unchanged
  /-- The file has no directives. -/
  | skipped
deriving DecidableEq, Repr

def Action.name : Action → Text
  | updated => "updated".toList
  | unchanged => "unchanged".toList
  | skipped => "skipped".toList

/-- What became of a file, with the diagnostics of its text. -/
structure FileReport where
  action : Action
  diagnostics : List Diagnostic
deriving DecidableEq, Repr

/-- A file that could not be expanded, as reports list it. -/
structure FileError where
  path : Text
  line : Option Int
  kind : Text
  message : Text
deriving DecidableEq, Repr

/-- The entry of a failure in a report. The failures without one end the work on all files. -/
def FileFailure.entry? (path : Path) : FileFailure → Option FileError
  | failure@(access _ .missing) => some ⟨path.render, none, "FileNotFoundError".toList, failure.message⟩
  | failure@(access _ .notDirectory) => some ⟨path.render, none, "NotADirectoryError".toList, failure.message⟩
  | failure@(access _ .isDirectory) => some ⟨path.render, none, "IsADirectoryError".toList, failure.message⟩
  | failure@(access _ .denied) => some ⟨path.render, none, "PermissionError".toList, failure.message⟩
  | failure@(access _ .nameTooLong) => some ⟨path.render, none, "OSError".toList, failure.message⟩
  | failure@(undecodable _) => some ⟨path.render, none, "UnicodeDecodeError".toList, failure.message⟩
  | failure@(document (.fault fault)) =>
    some ⟨path.render, fault.line, fault.content.category.name, failure.message⟩
  | _ => none

namespace Workspace

/-- The text of the file at a path, with the number of the file and the codec that read it. -/
def readText (workspace : Workspace) (codecs : Codecs) (encoding : WideText) (path : Path) :
    Except FileFailure (FileId × Codec × Text) := do
  if let some (start, codes) := encoding.surrogates? then throw (.surrogatesInCharset start codes)
  let encoding := encoding.display
  if encoding.contains '\x00' then throw .nullInCharset
  let (id, bytes) ← (workspace.read path).mapError (.access path)
  match codecs encoding with
  | .otherCode => throw (.otherCode encoding)
  | .unknown => throw (.unknownCharset encoding)
  | .codec codec =>
    match codec.decode bytes with
    | .ok text => return (id, codec, text)
    | .error (.undecodable fault) => throw (.undecodable fault)
    | .error (.other message) => throw (.codec message)

/-- Writes a text to a file. The file is opened first, which takes its content away, and the text is encoded then. -/
def writeText (workspace : Workspace) (codec : Codec) (path : Path) (id : FileId) (text : Text) :
    Except FileFailure Unit × Workspace :=
  match codec.encode text with
  | .ok bytes =>
    match workspace.write id bytes with
    | .ok after => (.ok (), after)
    | .error fault => (.error (.access path fault), workspace)
  | .error message =>
    match workspace.write id [] with
    | .ok after => (.error (.unencodable message), after)
    | .error fault => (.error (.access path fault), workspace)

/-- Regenerates the file at a path. A dry run writes nothing. -/
def regenerateFile (workspace : Workspace) (codecs : Codecs) (settings : Settings) (dryRun : Bool) (path : Path) :
    Except FileFailure FileReport × Workspace :=
  match workspace.readText codecs settings.encoding path with
  | .error failure => (.error failure, workspace)
  | .ok (id, codec, text) =>
    match expand (some path.render) settings.limits text with
    | .error failure => (.error (.document failure), workspace)
    | .ok result =>
      if result.directives.isEmpty then (.ok ⟨.skipped, result.diagnostics⟩, workspace)
      else if result.text = text then (.ok ⟨.unchanged, result.diagnostics⟩, workspace)
      else if dryRun then (.ok ⟨.updated, result.diagnostics⟩, workspace)
      else
        let (written, after) := workspace.writeText codec path id result.text
        (written.map fun _ => ⟨.updated, result.diagnostics⟩, after)

/-- What became of all files. -/
structure Summary where
  updated : List Text
  unchanged : List Text
  skipped : List Text
  diagnostics : List Diagnostic
  errors : List FileError
deriving DecidableEq, Repr

namespace Summary

def empty : Summary := ⟨[], [], [], [], []⟩

def add (summary : Summary) (path : Path) (report : FileReport) : Summary :=
  let summary := { summary with diagnostics := summary.diagnostics ++ report.diagnostics }
  match report.action with
  | .updated => { summary with updated := summary.updated ++ [path.render] }
  | .unchanged => { summary with unchanged := summary.unchanged ++ [path.render] }
  | .skipped => { summary with skipped := summary.skipped ++ [path.render] }

/-- Adds a file that could not be expanded. -/
def addError (summary : Summary) (error : FileError) : Summary :=
  { summary with errors := summary.errors ++ [error] }

end Summary

def regenerateEach (codecs : Codecs) (settings : Settings) (dryRun : Bool) :
    List Path → Summary → Workspace → Except FileFailure Summary × Workspace
  | [], summary, workspace => (.ok summary, workspace)
  | path :: rest, summary, workspace =>
    match workspace.regenerateFile codecs settings dryRun path with
    | (.ok report, after) => regenerateEach codecs settings dryRun rest (summary.add path report) after
    | (.error failure, after) =>
      match failure.entry? path with
      | some entry => regenerateEach codecs settings dryRun rest (summary.addError entry) after
      | none => (.error failure, after)

/-- Regenerates all files that paths stand for. -/
def regenerate (workspace : Workspace) (codecs : Codecs) (settings : Settings) (dryRun : Bool) (paths : List Path) :
    Except FileFailure Summary × Workspace :=
  match Discovery.discover workspace settings paths with
  | .error nowhere => (.error (.ofPath nowhere), workspace)
  | .ok found => regenerateEach codecs settings dryRun (found.map FoundFile.path) .empty workspace

end Workspace

end Regen
