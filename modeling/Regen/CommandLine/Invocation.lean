import Regen.CommandLine.Arguments

/-!
# Invocations

What the arguments of the program ask for: one of its commands with paths, or a text to print before it ends.
-/

namespace Regen.CommandLine

inductive Command where
  | expand
  | check
  | scan
deriving DecidableEq, Repr

namespace Command

/-- The commands in the order in which they are listed. -/
def all : List Command := [expand, check, scan]

def name : Command → Text
  | expand => "expand".toList
  | check => "check".toList
  | scan => "scan".toList

def ofName? (name : Text) : Option Command := all.find? fun command => command.name == name

end Command

def helpFlag : Flag := ⟨["-h".toList, "--help".toList], false⟩

/-- Names the file with the settings. -/
def configFlag : Flag := ⟨["--config".toList], true⟩

def versionFlag : Flag := ⟨["--version".toList], false⟩

/-- Asks to leave all files as they are. -/
def dryRunFlag : Flag := ⟨["--dry-run".toList], false⟩

/-- What the program takes before a command. -/
def programGrammar : Grammar := ⟨[helpFlag, configFlag, versionFlag], .command⟩

def Command.grammar : Command → Grammar
  | .expand => ⟨[helpFlag, dryRunFlag], .paths⟩
  | .check | .scan => ⟨[helpFlag], .paths⟩

def versionText : Text := "autoc 0.1.0\n".toList

/-- How the program is used, in one line. -/
def programUsage : Text :=
  "usage: autoc [-h] [--config CONFIG] [--version] \x7bexpand,check,scan\x7d ...\n".toList

def programHelp : Text :=
  programUsage ++ ("\nRegenerate code from autoc directives embedded in comments\n" ++
    "\npositional arguments:\n" ++
    "  \x7bexpand,check,scan\x7d\n" ++
    "    expand             Rewrite output regions in place\n" ++
    "    check              Exit non-zero if any output region is out of date\n" ++
    "    scan               List directives found in files\n" ++
    "\noptions:\n" ++
    "  -h, --help           show this help message and exit\n" ++
    "  --config CONFIG      Path to autoc.yaml (default: $AUTOC_CONFIG or\n" ++
    "                       ./autoc.yaml)\n" ++
    "  --version            show program's version number and exit\n").toList

namespace Command

/-- How a command is used, in one line. -/
def usage (command : Command) : Text :=
  let flags := if command = expand then "[-h] [--dry-run]" else "[-h]"
  "usage: autoc ".toList ++ command.name ++ [' '] ++ flags.toList ++ " paths [paths ...]\n".toList

def help (command : Command) : Text :=
  let dryRun := if command = expand then "  --dry-run   Report changes without writing\n" else ""
  command.usage ++ ("\npositional arguments:\n" ++
    "  paths       Files or directories\n" ++
    "\noptions:\n" ++
    "  -h, --help  show this help message and exit\n" ++ dryRun).toList

end Command

/-- What the program is asked to do. -/
structure Invocation where
  /-- The flag for the file with the settings, if it is given, with its value. -/
  config : Option (Option Text)
  command : Option Command
  dryRun : Bool
  paths : List Text
deriving DecidableEq, Repr

/-- A text to print before the program ends. -/
inductive Goodbye where
  /-- Something that was asked for. -/
  | answer (text : Text)
  /-- A usage line and what is wrong, with the name of the part of the program that finds it wrong. -/
  | refusal (usage name : Text) (refusal : Refusal)
deriving DecidableEq, Repr

/-- Follows the findings of a command in order. -/
def Command.interpret (command : Command) : List Finding → Invocation → Except Goodbye Invocation
  | [], invocation => .ok invocation
  | finding :: rest, invocation =>
    match finding with
    | .flag flag _ =>
      if flag = helpFlag then .error (.answer command.help)
      else command.interpret rest { invocation with dryRun := true }
    | .operands paths => command.interpret rest { invocation with paths := paths.erase "--".toList }

/-- Reads the arguments of a command. What is left over is for the program to refuse. -/
def Command.read (command : Command) (arguments : List Text) (invocation : Invocation) :
    Except Goodbye (Invocation × List Text) := do
  let reading := command.grammar.read arguments
  let invocation ← command.interpret reading.findings { invocation with command := some command }
  match reading.ending with
  | .ok leftover => return (invocation, leftover)
  | .error refusal => throw (.refusal command.usage ("autoc ".toList ++ command.name) refusal)

/-- The refusal of the program itself. -/
def refuse (refusal : Refusal) : Goodbye := .refusal programUsage "autoc".toList refusal

/-- Follows the findings of the program in order. What a command leaves over comes along. -/
def interpret : List Finding → Invocation × List Text → Except Goodbye (Invocation × List Text)
  | [], result => .ok result
  | finding :: rest, (invocation, leftover) =>
    match finding with
    | .flag flag value =>
      if flag = helpFlag then .error (.answer programHelp)
      else if flag = versionFlag then .error (.answer versionText)
      else interpret rest ({ invocation with config := some value }, leftover)
    | .operands [] => interpret rest (invocation, leftover)
    | .operands (name :: arguments) =>
      match Command.ofName? name with
      | none => .error (refuse (.unknownCommand name (Command.all.map Command.name)))
      | some command => do
        let (invocation, more) ← command.read arguments invocation
        interpret rest (invocation, leftover ++ more)

/-- What the arguments of the program ask for. -/
def Invocation.read (arguments : List Text) : Except Goodbye Invocation := do
  let reading := programGrammar.read arguments
  let (invocation, more) ← interpret reading.findings (⟨none, none, false, []⟩, [])
  match reading.ending with
  | .error refusal => throw (refuse refusal)
  | .ok leftover =>
    if (leftover ++ more).isEmpty then return invocation
    else throw (refuse (.unrecognized (leftover ++ more)))

end Regen.CommandLine
