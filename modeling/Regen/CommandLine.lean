import Regen.CommandLine.Invocation
import Regen.Settings.Load

/-!
# The command line

`expand` regenerates the files that paths stand for, `check` tells which of them are out of date, and `scan`
lists their directives. All output and the changes to files are values; what could not be dealt with comes out
as the failure it was.
-/

namespace Regen.CommandLine

structure Output where
  standard : Text
  error : Text
deriving DecidableEq, Repr

inductive Ending where
  /-- With a status after its work. -/
  | done (status : Nat)
  /-- With a status before any work. -/
  | exit (status : Nat)
  /-- With a failure of files or documents that no report covers. -/
  | failed (failure : FileFailure)
  /-- With a fault of the settings that no report covers. -/
  | misconfigured (fault : SettingsFault)

/-- Lines of text, each with its line feed. -/
def unlines (lines : List Text) : Text := lines.flatMap (· ++ ['\n'])

/-- A file that could not be expanded, on one line. -/
def errorLine (error : FileError) : Text :=
  let place := match error.line with
    | some line => error.path ++ ":".toList ++ Text.ofInt line
    | none => error.path
  "    - ".toList ++ place ++ ": ".toList ++ error.kind ++ ": ".toList ++ error.message

/-- A label with a number. -/
def countLine (label : String) (count : Nat) : Text := label.toList ++ Text.ofNat count

def expandLines (summary : Workspace.Summary) (dryRun : Bool) : List Text :=
  ["Expansion Results".toList, List.replicate 40 '─', countLine "  Updated:   " summary.updated.length,
    countLine "  Unchanged: " summary.unchanged.length, countLine "  Skipped:   " summary.skipped.length] ++
  (if summary.errors.isEmpty then []
    else countLine "  Errors:    " summary.errors.length :: summary.errors.map errorLine) ++
  (if dryRun then [[], "[DRY RUN] No files were modified.".toList] else [])

/-- Whether `check` finds all files up to date. -/
def isCurrent (summary : Workspace.Summary) : Bool := summary.updated.isEmpty && summary.errors.isEmpty

def checkLines (summary : Workspace.Summary) : List Text :=
  summary.updated.map ("  would update: ".toList ++ ·) ++
  (if summary.errors.isEmpty then []
    else ("  ".toList ++ Text.ofNat summary.errors.length ++ " file(s) failed:".toList) ::
      summary.errors.map errorLine) ++
  (if isCurrent summary then ["All generated regions are up to date.".toList]
    else [[], Text.ofNat summary.updated.length ++ " file(s) out of date.".toList])

/-- Expands files and prints what became of them. -/
def runExpand (workspace : Workspace) (codecs : Codecs) (settings : Settings) (dryRun : Bool) (paths : List Path) :
    Except FileFailure (Output × Nat) × Workspace :=
  match workspace.regenerate codecs settings dryRun paths with
  | (.error failure, after) => (.error failure, after)
  | (.ok summary, after) =>
    (.ok (⟨unlines (expandLines summary dryRun), unlines (summary.diagnostics.map Diagnostic.render)⟩,
      if summary.errors.isEmpty then 0 else 1), after)

/-- Tells which files are out of date. -/
def runCheck (workspace : Workspace) (codecs : Codecs) (settings : Settings) (paths : List Path) :
    Except FileFailure (Output × Nat) × Workspace :=
  match workspace.regenerate codecs settings true paths with
  | (.error failure, after) => (.error failure, after)
  | (.ok summary, after) => (.ok (⟨unlines (checkLines summary), []⟩, if isCurrent summary then 0 else 1), after)

/-- A directive of the file at a path, on one line. -/
def directiveLine (path : Path) (directive : Directive) : Text :=
  "  ".toList ++ path.render ++ ":".toList ++ (Text.ofNat directive.line).padEnd 5 ++ " ".toList ++
    directive.kind.name.padEnd 13 ++ " ".toList ++ directive.headerText

/-- What listing the directives of files has given so far. -/
structure Listing where
  lines : List Text
  total : Nat
  faulty : Bool

namespace Listing

/-- Adds a file that cannot be listed. -/
def addFault (listing : Listing) (what : Text) : Listing :=
  { listing with lines := listing.lines ++ ["  ✗ ".toList ++ what], faulty := true }

def addDirectives (listing : Listing) (path : Path) (directives : List Directive) : Listing :=
  { listing with
    lines := listing.lines ++ directives.map (directiveLine path), total := listing.total + directives.length }

end Listing

/-- The failure of a document without faults of its own, with what was listed before it. -/
abbrev Interrupted := FileFailure × Listing

def listFile (workspace : Workspace) (codecs : Codecs) (settings : Settings) (listing : Listing) (path : Path) :
    Except Interrupted Listing :=
  match workspace.readText codecs settings.encoding path with
  | .error failure =>
    match failure with
    | .access _ .embeddedNull => .error (failure, listing)
    | .access .. | .undecodable _ => .ok (listing.addFault (path.render ++ ": ".toList ++ failure.message))
    | _ => .error (failure, listing)
  | .ok (_, _, text) =>
    match (Directive.scan text).mapError (Failure.locate none (some path.render)) with
    | .ok directives => .ok (listing.addDirectives path directives)
    | .error (.fault fault) =>
      .ok (listing.addFault (Located.render ⟨fault.content.complaint, fault.line, fault.file⟩))
    | .error failure => .error (.document failure, listing)

/-- Lists the directives of the files that paths stand for. -/
def runScan (workspace : Workspace) (codecs : Codecs) (settings : Settings) (paths : List Path) :
    Output × Except FileFailure Nat :=
  match Discovery.discover workspace settings paths with
  | .error nowhere => (⟨[], []⟩, .error (.ofPath nowhere))
  | .ok found =>
    match (found.map FoundFile.path).foldlM (listFile workspace codecs settings) ⟨[], 0, false⟩ with
    | .error (failure, listing) => (⟨unlines listing.lines, []⟩, .error failure)
    | .ok listing =>
      let lines := listing.lines ++ [[], "  ".toList ++ Text.ofNat listing.total ++ " directive(s) found".toList]
      (⟨unlines lines, []⟩, .ok (if listing.faulty then 1 else 0))

/-- Whether a misfit among the settings is reported, and not left to end the program: a value is outside its
range or is no numeral. -/
def isReportedMisfit : Yaml.Misfit → Bool
  | .numeral _ | .outsideCalendar _ | .farZone _ | .noCharacter => true
  | _ => false

/-- Whether a fault of the settings is reported, and not left to end the program. -/
def isReported : SettingsFault → Bool
  | .keyNotText _ | .keysUnordered .. | .datesUnordered | .zonesUnordered | .unknownHome | .noPath => false
  | .misfit reason => isReportedMisfit reason
  | _ => true

/-- Ends the program after a failure. A path that does not exist is reported. -/
def endFailed (output : Output) (failure : FileFailure) : Output × Ending :=
  let missing := match failure with
    | .noSuchPath _ | .access _ .missing => true
    | _ => false
  if missing then
    (⟨output.standard, output.error ++ "Error: ".toList ++ failure.message ++ ['\n']⟩, .done 2)
  else (output, .failed failure)

def runCommand (workspace : Workspace) (codecs : Codecs) (settings : Settings) (command : Command) (dryRun : Bool)
    (paths : List Path) : (Output × Ending) × Workspace :=
  let finish (result : Except FileFailure (Output × Nat) × Workspace) :=
    match result with
    | (.ok (output, status), after) => ((output, Ending.done status), after)
    | (.error failure, after) => (endFailed ⟨[], []⟩ failure, after)
  match command with
  | .expand => finish (runExpand workspace codecs settings dryRun paths)
  | .check => finish (runCheck workspace codecs settings paths)
  | .scan =>
    match runScan workspace codecs settings paths with
    | (output, .ok status) => ((output, .done status), workspace)
    | (output, .error failure) => (endFailed output failure, workspace)

/-- The settings of a run, for the flag that names their file. -/
def readSettings (surroundings : Surroundings) : Option (Option Text) → Except SettingsFault Settings
  | none => surroundings.settings none
  | some none => .error .noPath
  | some (some name) => surroundings.settings (some (.ofText name))

def run (surroundings : Surroundings) (arguments : List Text) : (Output × Ending) × Workspace :=
  match Invocation.read arguments with
  | .error (.answer text) => ((⟨text, []⟩, .exit 0), surroundings.workspace)
  | .error (.refusal usage name refusal) =>
    ((⟨[], usage ++ name ++ ": error: ".toList ++ refusal.message ++ ['\n']⟩, .exit 2), surroundings.workspace)
  | .ok invocation =>
    match invocation.command with
    | none => ((⟨programHelp, []⟩, .done 0), surroundings.workspace)
    | some command =>
      match readSettings surroundings invocation.config with
      | .error fault =>
        if isReported fault then
          ((⟨[], "Error loading config: ".toList ++ fault.message ++ ['\n']⟩, .done 2), surroundings.workspace)
        else ((⟨[], []⟩, .misconfigured fault), surroundings.workspace)
      | .ok settings =>
        runCommand surroundings.workspace surroundings.codecs settings command invocation.dryRun
          (invocation.paths.map Path.ofText)

end Regen.CommandLine
