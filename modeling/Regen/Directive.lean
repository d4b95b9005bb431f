import Regen.Header
import Regen.Text.Line
import Regen.Text.Word

/-!
# Directives

A directive starts on a line with an open marker, `autoc:` and the name of its kind, and ends on the next line
with a close marker, `autoc#`; the lines between them are its body. What else stands on a marker line is up to
the host language. Directives do not nest.
-/

namespace Regen

/-- A stretch of a text, from the offset `start` up to the offset `stop`. -/
structure Span where
  start : Nat
  stop : Nat
deriving DecidableEq, Repr

/-- What makes a line the first one of a directive, before the name of a kind. -/
def openToken : Text := "autoc:".toList

/-- What makes a line the last one of a directive. -/
def closeToken : Text := "autoc#".toList

inductive Marker where
  /-- An open marker: the text before it, the name of the kind and the text after that. -/
  | opens (before name after : Text)
  | closes
  /-- No marker. -/
  | plain
deriving DecidableEq, Repr

namespace Marker

/-- Whether a character may stand in the name of a kind after its first letter. -/
def isNameChar (c : Char) : Bool := Text.isWordChar c || c == '-'

/-- The name of a kind at the start of a text, and the rest. -/
def name? : Text → Option (Text × Text)
  | [] => none
  | c :: rest =>
    if c.isAlpha then some (c :: rest.takeWhile isNameChar, rest.dropWhile isNameChar) else none

/-- The first open marker of a line: the text before it, the name of the kind and the text after that. -/
def opening? : Text → Option (Text × Text × Text)
  | [] => none
  | c :: rest =>
    match (openToken.isPrefixOf? (c :: rest)).bind name? with
    | some (name, after) => some ([], name, after)
    | none => (opening? rest).map fun (before, name, after) => (c :: before, name, after)

/-- The marker on a line. An open marker goes before a close marker on the same line. -/
def ofLine (content : Text) : Marker :=
  match opening? content with
  | some (before, name, after) => opens before name after
  | none => if closeToken.occursIn content then closes else plain

end Marker

namespace Line

/-- Whether a line ends in a carriage return, a line feed or both. -/
def endsPlainly (line : Line) : Bool := line.terminator.all fun c => c == '\n' || c == '\r'

/-- The part of a line in which markers are looked for: all of it but carriage returns and line feeds at its
end. -/
def content (line : Line) : Text := if line.endsPlainly then line.body else line.text

/-- The line end that generated text takes over from a line: its own if it ends plainly. -/
def newline (line : Line) : Text :=
  if line.endsPlainly && !line.terminator.isEmpty then line.terminator else ['\n']

/-- The spaces and tabs at the start of a line. -/
def indent (line : Line) : Text := line.content.takeWhile fun c => c == ' ' || c == '\t'

end Line

/-- A region of a text between two markers. -/
structure Directive where
  header : Header
  /-- The header as it is written. -/
  headerText : Text
  line : Nat
  closeLine : Nat
  openSpan : Span
  closeSpan : Span
  /-- The text between the marker lines. -/
  body : Text
  /-- The spaces and tabs in front of the open marker's line. -/
  indent : Text
  /-- What stands before the open marker, such as the start of a comment. -/
  leader : Text
  newline : Text
deriving DecidableEq, Repr

namespace Directive

def kind (directive : Directive) : Kind := directive.header.kind

/-- The stretch between the marker lines. -/
def bodySpan (directive : Directive) : Span := ⟨directive.openSpan.stop, directive.closeSpan.start⟩

/-- The stretch that is regenerated, if the kind has one. -/
def outputSpan? (directive : Directive) : Option Span :=
  if directive.kind.producesOutput then some directive.bodySpan else none

def bodyLine (directive : Directive) : Nat := directive.line + 1

/-- What may close a comment at the end of a header. -/
def commentClosers : List Text := ["*/".toList, "-->".toList, "*)".toList]

/-- A header without the end of the comment it stands in. -/
def dropCloser (header : Text) : Text :=
  match commentClosers.findSome? fun closer => closer.isSuffixOf? header with
  | some rest => Text.trimEnd rest
  | none => header

/-- A directive whose close marker is still to come, with the lines of its body so far. -/
structure Opened where
  header : Header
  headerText : Text
  line : Nat
  span : Span
  indent : Text
  leader : Text
  newline : Text
  /-- The lines after the open marker, newest first. -/
  body : List Line

/-- Opens a directive on a line with an open marker. -/
def opened (number start : Nat) (line : Line) (before name after : Text) : Except Failure Opened := do
  let some kind := Kind.ofName? name | throw (.onLine (.unknownKind name) (some number))
  let headerText := dropCloser after.trim
  let header ← Header.read kind headerText number
  return {
    header, headerText
    line := number
    span := ⟨start, start + line.text.length⟩
    indent := line.indent
    leader := before.trim
    newline := line.newline
    body := [] }

/-- Closes a directive on a line with a close marker. -/
def Opened.close (pending : Opened) (number start : Nat) (line : Line) : Directive where
  header := pending.header
  headerText := pending.headerText
  line := pending.line
  closeLine := number
  openSpan := pending.span
  closeSpan := ⟨start, start + line.text.length⟩
  body := pending.body.reverse.flatMap Line.text
  indent := pending.indent
  leader := pending.leader
  newline := pending.newline

/-- The directives on lines of which the first has the number and the offset given. -/
def ofLines (number start : Nat) : Option Opened → List Line → Except Failure (List Directive)
  | none, [] => .ok []
  | some pending, [] => .error (.onLine (.neverClosed pending.header.kind) (some pending.line))
  | state, line :: rest =>
    let next := start + line.text.length
    match Marker.ofLine line.content, state with
    | .opens _ _ _, some pending => .error (.onLine (.nestedDirective pending.line) (some number))
    | .opens before name after, none => do
      let pending ← opened number start line before name after
      ofLines (number + 1) next (some pending) rest
    | .closes, none => .error (.onLine .strayClose (some number))
    | .closes, some pending => do
      let more ← ofLines (number + 1) next none rest
      return pending.close number start line :: more
    | .plain, none => ofLines (number + 1) next none rest
    | .plain, some pending =>
      ofLines (number + 1) next (some { pending with body := line :: pending.body }) rest

/-- The directives of a text in order. -/
def scan (text : Text) : Except Failure (List Directive) := ofLines 1 0 none text.lines

end Directive

end Regen
