import Regen.Diagnostic
import Regen.Directive
import Regen.Evaluation
import Regen.Node.Body
import Regen.Replacement

/-!
# Expansion

A document is expanded in two passes. The first gathers every definition, so that a use may stand before its
definition and the last definition of a name serves every use. The second generates the region of every
output directive; the regions then replace what stood between the markers. The first failure ends the work,
and no text comes out.
-/

namespace Regen

namespace Directive

/-- A line without the start of the comment it stands in. -/
def uncomment (leader line : Text) : Text := (leader.isPrefixOf? line.trimStart).getD line

/-- The body of a function definition outside of its comment, line by line. -/
def source (directive : Directive) : Text :=
  if directive.leader.isEmpty then directive.body
  else ['\n'].intercalate (directive.body.lineBodies.map (uncomment directive.leader))

/-- The lines of the body without the indentation of the directive. -/
def storedLines (directive : Directive) : List Text :=
  directive.body.lineBodies.map fun line => (directive.indent.isPrefixOf? line).getD line

end Directive

namespace Expansion

/-- The definitions found so far, with the warnings about them. -/
structure Gathered where
  program : Program
  warnings : List Diagnostic

namespace Gathered

/-- Adds a function, with a warning if its name is taken. -/
def addFunction (gathered : Gathered) (file : Option Text) (line : Nat) (name : Text)
    (function : Function) : Gathered where
  program := gathered.program.addFunction name function
  warnings := gathered.warnings ++
    ((gathered.program.functions.find? name).map fun previous =>
      Diagnostic.redefinition "function".toList name previous.line line file).toList

/-- Adds a collection, with a warning if its name is taken. -/
def addCollection (gathered : Gathered) (file : Option Text) (line : Nat) (name : Text)
    (collection : Collection) : Gathered where
  program := gathered.program.addCollection name collection
  warnings := gathered.warnings ++
    ((gathered.program.collections.find? name).map fun previous =>
      Diagnostic.redefinition "line collection".toList name previous.line line file).toList

/-- Adds what a directive defines. -/
def add (file : Option Text) (gathered : Gathered) (directive : Directive) : Except Failure Gathered :=
  match directive.header with
  | .defun name parameters => do
    let body ← Node.readBody directive.source directive.bodyLine
    return gathered.addFunction file directive.line name ⟨parameters, body, some directive.line⟩
  | .lines name =>
    .ok (gathered.addCollection file directive.line name ⟨directive.storedLines, some directive.line⟩)
  | .block name =>
    .ok (gathered.addCollection file directive.line name
      ⟨[directive.newline.intercalate directive.storedLines], some directive.line⟩)
  | _ => .ok gathered

end Gathered

/-- Gives a failure the place of a directive where it has none. -/
def atDirective {α : Type} (file : Option Text) (directive : Directive) (result : Except Failure α) :
    Except Failure α :=
  result.mapError (Failure.locate (some directive.line) file)

/-- Everything that directives define. -/
def gather (file : Option Text) (directives : List Directive) : Except Failure Gathered :=
  directives.foldlM (fun gathered directive => atDirective file directive (gathered.add file directive))
    ⟨.empty, []⟩

def generate (program : Program) (limits : Limits) (directive : Directive) : Except Failure Text :=
  match directive.header with
  | .funcall name arguments =>
    let machine := Machine.start (.start directive.indent directive.newline)
    match program.call limits name arguments (some directive.line) machine with
    | (.ok (), after) => .ok (after.buffer.value.asRegion directive.newline)
    | (.error failure, _) => .error failure
  | .formatLines name template =>
    match program.collections.find? name with
    | none => .error (.onLine (.undefinedCollection name) (some directive.line))
    | some collection =>
      if collection.lines.isEmpty then .ok []
      else .ok (Template.fillEach template directive.indent directive.newline collection.lines ++
        directive.newline)
  | _ => .ok []

/-- The region of a directive. Generated text must not hold a marker, which the next expansion would take for
a directive. -/
def region (program : Program) (limits : Limits) (directive : Directive) : Except Failure Text := do
  let text ← generate program limits directive
  if openToken.occursIn text || closeToken.occursIn text then
    throw (.onLine .markerInOutput (some directive.line))
  return text

/-- The new text for each region that is regenerated. -/
def replacements (file : Option Text) (program : Program) (limits : Limits)
    (directives : List Directive) : Except Failure (List Replacement) :=
  (directives.filter fun directive => directive.kind.producesOutput).mapM fun directive => do
    let text ← atDirective file directive (region program limits directive)
    return ⟨directive.bodySpan.start, directive.bodySpan.stop, text⟩

/-- The messages of a document in order. -/
def messages (file : Option Text) (directives : List Directive) : List Diagnostic :=
  directives.filterMap fun directive =>
    match directive.header with
    | .message text => some (Diagnostic.message text directive.line file)
    | _ => none

end Expansion

/-- A document with its regions regenerated. -/
structure Expansion where
  text : Text
  directives : List Directive
  diagnostics : List Diagnostic

def expand (file : Option Text) (limits : Limits) (text : Text) : Except Failure Expansion := do
  let directives ← (Directive.scan text).mapError (Failure.locate none file)
  let gathered ← Expansion.gather file directives
  let replacements ← Expansion.replacements file gathered.program limits directives
  let expanded ← Replacement.splice text replacements
  return ⟨expanded, directives, gathered.warnings ++ Expansion.messages file directives⟩

end Regen
