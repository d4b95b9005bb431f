import Regen.Text

/-!
# Cursors

A point in a YAML stream: the text ahead and where it stands. Indentation is told by columns, which start at
zero on every line. Carriage returns have been taken out of the stream. The text may be only a part of the stream,
so a cursor remembers whether characters beyond it have been asked for.
-/

namespace Regen.Yaml

def isBreak (c : Char) : Bool := c == '\n' || c == '\u0085' || c == '\u2028' || c == '\u2029'

/-- Whether a character separates tokens on a line or ends it. -/
def isGap (c : Char) : Bool := c == ' ' || c == '\t' || isBreak c

/-- A point in a stream. -/
structure Cursor where
  rest : Text
  index : Nat
  line : Nat
  column : Nat
  /-- Whether a character beyond the end of the text has been asked for. -/
  short : Bool
deriving DecidableEq, Repr

namespace Cursor

def start (text : Text) : Cursor := ⟨text, 0, 0, 0, false⟩

/-- Passes one character. A byte order mark takes no column. -/
def next (cursor : Cursor) : Cursor :=
  match cursor.rest with
  | [] => cursor
  | c :: rest =>
    let cursor := { cursor with rest, index := cursor.index + 1 }
    if isBreak c then { cursor with line := cursor.line + 1, column := 0 }
    else if c == '\uFEFF' then cursor
    else { cursor with column := cursor.column + 1 }

def skip (cursor : Cursor) : Nat → Cursor
  | 0 => cursor
  | n + 1 => cursor.next.skip n

/-- The character at a distance, if the stream goes so far. -/
def peek (cursor : Cursor) (distance : Nat) : Option Char := cursor.rest[distance]?

def atEnd (cursor : Cursor) : Bool := cursor.rest.isEmpty

def isAt (cursor : Cursor) (c : Char) : Bool := cursor.peek 0 == some c

def atBreak (cursor : Cursor) : Bool := (cursor.peek 0).any isBreak

/-- Whether a gap or the end of the stream stands at a distance. -/
def gapAt (cursor : Cursor) (distance : Nat) : Bool := (cursor.peek distance).all isGap

/-- Whether three characters with a gap after them stand ahead. -/
def hasMarker (cursor : Cursor) (marker : String) : Bool :=
  marker.toList.isPrefixOf cursor.rest && cursor.gapAt 3

/-- Whether a document starts or ends here, given that a line does. -/
def atSeparator (cursor : Cursor) : Bool := cursor.hasMarker "---" || cursor.hasMarker "..."

/-- Asks for a number of characters, of which there is at least one. -/
def ask (cursor : Cursor) (count : Nat) : Cursor :=
  { cursor with short := cursor.short || (cursor.peek (count - 1)).isNone }

/-- Asks for the characters that tell whether a document starts or ends here. -/
def askSeparator (cursor : Cursor) : Cursor :=
  let cursor := cursor.ask 3
  let first := cursor.rest.take 3
  if first = "---".toList ∨ first = "...".toList then cursor.ask 4 else cursor

/-- Passes the characters ahead that satisfy a condition, and gives them. -/
def takeWhile (cursor : Cursor) (keep : Char → Bool) : Text × Cursor :=
  let taken := cursor.rest.takeWhile keep
  (taken, cursor.skip taken.length)

/-- Passes the end of a line, and gives the character that stands for it in a scalar. -/
def takeBreak (cursor : Cursor) : Text × Cursor :=
  match cursor.rest with
  | c :: _ =>
    if c == '\u2028' || c == '\u2029' then ([c], cursor.next)
    else if isBreak c then (['\n'], cursor.next)
    else ([], cursor)
  | [] => ([], cursor)

end Cursor

end Regen.Yaml
