import Regen.Yaml.Cursor
import Regen.Yaml.Fault

/-!
# Scalars

The texts that stand for themselves in a stream: plain ones, ones between quotes and blocks of lines. A line end
inside a plain or quoted scalar stands for a space, and each further one for a line feed.
-/

namespace Regen.Yaml

/-- Characters with a meaning of their own in flow collections. -/
def isFlowIndicator (c : Char) : Bool := c == ',' || c == '[' || c == ']' || c == '\x7b' || c == '\x7d'

/-- The fault of a stream in which something else has to stand at a point. -/
def Cursor.refusal (cursor : Cursor) : Fault :=
  if cursor.short || cursor.atEnd then .unfinished else .malformed

/-- Passes the rest of a line on which nothing but a comment may follow. -/
def Cursor.restOfLine (cursor : Cursor) : Except Fault Cursor :=
  let (_, cursor) := cursor.takeWhile (· == ' ')
  let (_, cursor) := if cursor.isAt '#' then cursor.takeWhile (!isBreak ·) else ([], cursor)
  if cursor.atEnd || cursor.atBreak then .ok cursor.takeBreak.2 else .error .malformed

namespace Plain

/-- The characters of a plain scalar up to a gap or to a character that ends the scalar. -/
def chunk (flow : Bool) : Text → Text
  | [] => []
  | c :: rest =>
    let endsKey := c == ':' && rest.head?.all fun d => isGap d || (flow && isFlowIndicator d)
    if isGap c || endsKey || (flow && (isFlowIndicator c || c == '?')) then [] else c :: chunk flow rest

/-- What stands between two chunks: the text it denotes, or nothing where a document starts or ends. -/
structure Gap where
  text : Option Text
  broken : Bool
  cursor : Cursor

/-- The line feeds that empty lines denote, or nothing where a document starts or ends. -/
def emptyLines : (fuel : Nat) → Cursor → Option Text × Cursor
  | 0, cursor => (some [], cursor)
  | fuel + 1, cursor =>
    if cursor.isAt ' ' then emptyLines fuel cursor.next
    else if cursor.atBreak then
      let (feed, cursor) := cursor.takeBreak
      let cursor := cursor.askSeparator
      if cursor.atSeparator then (none, cursor)
      else
        let (more, cursor) := emptyLines fuel cursor
        (more.map (feed ++ ·), cursor)
    else (some [], cursor)

/-- Reads what follows a chunk. -/
def gap (fuel : Nat) (cursor : Cursor) : Gap :=
  let (spaces, cursor) := cursor.takeWhile (· == ' ')
  if cursor.atBreak then
    let (feed, cursor) := cursor.takeBreak
    let cursor := cursor.askSeparator
    if cursor.atSeparator then ⟨none, true, cursor⟩
    else
      let (more, cursor) := emptyLines fuel cursor
      let folded (more : Text) := if feed != ['\n'] then feed ++ more else if more.isEmpty then [' '] else more
      ⟨more.map folded, true, cursor⟩
  else ⟨some spaces, false, cursor⟩

/-- A plain scalar: its text, whether a line ended after it, and the point after it. -/
structure Result where
  text : Text
  broken : Bool
  cursor : Cursor

/-- Reads a plain scalar that must be indented to a column, after the parts `done`, newest first, and a gap. -/
def readFrom (flow : Bool) (indent : Int) :
    (fuel : Nat) → (done : List Text) → (before : Text) → (broken : Bool) → Cursor → Result
  | 0, done, _, broken, cursor => ⟨done.reverse.flatten, broken, cursor⟩
  | fuel + 1, done, before, broken, cursor =>
    let found := if cursor.isAt '#' then [] else chunk flow cursor.rest
    let cursor := cursor.skip found.length
    let cursor := if cursor.isAt ':' then cursor.ask 2 else cursor
    if found.isEmpty then ⟨done.reverse.flatten, broken, cursor⟩
    else
      let done := found :: before :: done
      let after := gap (fuel + 1) cursor
      match after.text with
      | none => ⟨done.reverse.flatten, after.broken, after.cursor⟩
      | some text =>
        if text.isEmpty || after.cursor.isAt '#' || (!flow && after.cursor.column < indent) then
          ⟨done.reverse.flatten, after.broken, after.cursor⟩
        else readFrom flow indent fuel done text after.broken after.cursor

/-- Reads a plain scalar that must be indented to a column. -/
def read (fuel : Nat) (flow : Bool) (indent : Int) (cursor : Cursor) : Result :=
  readFrom flow indent fuel [] [] false cursor

end Plain

namespace Quoted

/-- What a backslash and a character stand for. -/
def escapes : List (Char × Char) :=
  [('0', '\x00'), ('a', '\x07'), ('b', '\x08'), ('t', '\x09'), ('\t', '\x09'), ('n', '\x0A'), ('v', '\x0B'),
    ('f', '\x0C'), ('r', '\x0D'), ('e', '\x1B'), (' ', ' '), ('"', '"'), ('\\', '\\'), ('/', '/'), ('N', '\u0085'),
    ('_', '\u00A0'), ('L', '\u2028'), ('P', '\u2029')]

/-- How many hexadecimal digits follow a backslash and a character. -/
def codeLength? (c : Char) : Option Nat :=
  if c == 'x' then some 2 else if c == 'u' then some 4 else if c == 'U' then some 8 else none

def ofCode (code : Nat) : Except Fault CodePoint :=
  if code ≥ 0x80000000 then .error (.misfit .oversizedCode)
  else if code ≥ 0x110000 then .error (.misfit .noCharacter)
  else .ok (.ofNat code)

/-- The code point that a number of hexadecimal digits ahead stand for. -/
def coded (cursor : Cursor) (length : Nat) : Except Fault CodePoint :=
  let digits := cursor.rest.take length
  if !digits.all (Numeral.isDigit 16) then .error cursor.refusal
  else if digits.length < length then .error .unfinished
  else ofCode (Numeral.ofDigits 16 digits)

/-- The line feeds that empty lines in quotes denote. -/
def emptyLines : (fuel : Nat) → Cursor → Except Fault (Text × Cursor)
  | 0, cursor => .ok ([], cursor)
  | fuel + 1, cursor =>
    let cursor := cursor.askSeparator
    if cursor.atSeparator then .error cursor.refusal
    else
      let (_, cursor) := cursor.takeWhile fun c => c == ' ' || c == '\t'
      if cursor.atBreak then do
        let (feed, cursor) := cursor.takeBreak
        let (more, cursor) ← emptyLines fuel cursor
        return (feed ++ more, cursor)
      else .ok ([], cursor)

/-- Reads spaces and line ends in quotes, and gives the text they denote. -/
def gap (fuel : Nat) (cursor : Cursor) : Except Fault (Text × Cursor) :=
  let (spaces, cursor) := cursor.takeWhile fun c => c == ' ' || c == '\t'
  if cursor.atEnd then .error .unfinished
  else if cursor.atBreak then do
    let (feed, cursor) := cursor.takeBreak
    let (more, cursor) ← emptyLines fuel cursor
    if feed != ['\n'] then return (feed ++ more, cursor)
    else return (if more.isEmpty then [' '] else more, cursor)
  else .ok (spaces, cursor)

/-- Reads what follows a backslash between double quotes, and gives the text it denotes. -/
def escape (fuel : Nat) (cursor : Cursor) : Except Fault (WideText × Cursor) :=
  match cursor.rest with
  | [] => .error .unfinished
  | c :: _ =>
    match escapes.lookup c, codeLength? c with
    | some meant, _ => .ok ([.char meant], cursor.next)
    | none, some length => do
      let point ← coded cursor.next length
      return ([point], cursor.skip (length + 1))
    | none, none =>
      if isBreak c then do
        let (text, cursor) ← emptyLines fuel cursor.takeBreak.2
        return (.ofText text, cursor)
      else .error cursor.refusal

/-- Reads on to the closing quote, after the code points `done`, newest first. -/
def readFrom (double : Bool) : (fuel : Nat) → (done : WideText) → Cursor → Except Fault (WideText × Cursor)
  | 0, _, _ => .error .unfinished
  | fuel + 1, done, cursor =>
    match cursor.rest with
    | [] => .error .unfinished
    | c :: rest =>
      if c == (if double then '"' else '\'') then
        if !double && rest.head? == some '\'' then readFrom double fuel (.char '\'' :: done) (cursor.skip 2)
        else .ok (done.reverse, cursor.next)
      else if isGap c then do
        let (text, cursor) ← gap (fuel + 1) cursor
        readFrom double fuel (WideText.ofText text.reverse ++ done) cursor
      else if double && c == '\\' then do
        let (text, cursor) ← escape (fuel + 1) cursor.next
        readFrom double fuel (text.reverse ++ done) cursor
      else readFrom double fuel (.char c :: done) cursor.next

/-- Reads a scalar after its opening quote. -/
def read (fuel : Nat) (double : Bool) (cursor : Cursor) : Except Fault (WideText × Cursor) :=
  readFrom double fuel [] cursor

end Quoted

namespace Block

/-- What becomes of the line ends after a block. -/
inductive Chomping where
  | strip
  | clip
  | keep
deriving DecidableEq, Repr

/-- The chomping that a character asks for. -/
def chomping? (c : Char) : Option Chomping :=
  if c == '+' then some .keep else if c == '-' then some .strip else none

/-- The indentation that a digit asks for. -/
def increment? (c : Char) : Option Nat :=
  if '0' ≤ c ∧ c ≤ '9' then some (c.toNat - '0'.toNat) else none

/-- Reads the characters after the one that starts a block: chomping and indentation, in any order. -/
def indicators (cursor : Cursor) : Except Fault (Chomping × Option Nat × Cursor) :=
  let first := cursor.peek 0
  let second := cursor.peek 1
  let (chomping, increment, cursor) :=
    match first.bind chomping?, first.bind increment? with
    | some chomping, _ =>
      match second.bind increment? with
      | some n => (chomping, some n, cursor.skip 2)
      | none => (chomping, none, cursor.next)
    | none, some n =>
      match second.bind chomping? with
      | some chomping => (chomping, some n, cursor.skip 2)
      | none => (Chomping.clip, some n, cursor.next)
    | none, none => (Chomping.clip, none, cursor)
  if increment == some 0 || !(cursor.atEnd || cursor.isAt ' ' || cursor.atBreak) then .error .malformed
  else .ok (chomping, increment, cursor)

/-- Passes empty lines at the start of a block: the line feeds they denote and the deepest indentation. -/
def measure : (fuel deepest : Nat) → Cursor → Text × Nat × Cursor
  | 0, deepest, cursor => ([], deepest, cursor)
  | fuel + 1, deepest, cursor =>
    if cursor.isAt ' ' then measure fuel (max deepest cursor.next.column) cursor.next
    else if cursor.atBreak then
      let (feed, cursor) := cursor.takeBreak
      let (feeds, deepest, cursor) := measure fuel deepest cursor
      (feed ++ feeds, deepest, cursor)
    else ([], deepest, cursor)

/-- Passes the indentation of a line and empty lines before it, and gives the line feeds they denote. -/
def emptyLines (indent : Nat) : (fuel : Nat) → Cursor → Text × Cursor
  | 0, cursor => ([], cursor)
  | fuel + 1, cursor =>
    if cursor.column < indent && cursor.isAt ' ' then emptyLines indent fuel cursor.next
    else if cursor.atBreak then
      let (feed, cursor) := cursor.takeBreak
      let (feeds, cursor) := emptyLines indent fuel cursor
      (feed ++ feeds, cursor)
    else ([], cursor)

/-- Reads the lines of a block, after the parts `done`, newest first, and the line feeds of empty lines. -/
def lines (folded : Bool) (indent : Nat) : (fuel : Nat) → (done : List Text) → (feeds lastFeed : Text) → Cursor →
    List Text × Text × Text × Cursor
  | 0, done, feeds, lastFeed, cursor => (done, feeds, lastFeed, cursor)
  | fuel + 1, done, feeds, lastFeed, cursor =>
    if cursor.column = indent ∧ !cursor.atEnd then
      let startsSpaced (cursor : Cursor) := cursor.isAt ' ' || cursor.isAt '\t'
      let spaced := startsSpaced cursor
      let (line, cursor) := cursor.takeWhile (!isBreak ·)
      let done := line :: feeds :: done
      let (feed, cursor) := cursor.takeBreak
      let (feeds, cursor) := emptyLines indent (fuel + 1) cursor
      if cursor.column = indent ∧ !cursor.atEnd then
        let joint :=
          if folded && feed == ['\n'] && !spaced && !startsSpaced cursor then if feeds.isEmpty then [' '] else []
          else feed
        lines folded indent fuel (joint :: done) feeds feed cursor
      else (done, feeds, feed, cursor)
    else (done, feeds, lastFeed, cursor)

/-- Reads a block after the character that starts it, in a collection indented to a column. -/
def read (fuel : Nat) (folded : Bool) (outer : Int) (cursor : Cursor) : Except Fault (Text × Cursor) := do
  let (chomping, increment, cursor) ← indicators cursor
  let cursor ← cursor.restOfLine
  let least := max (outer + 1) 1
  let (feeds, indent, cursor) := match increment with
    | none =>
      let (feeds, deepest, cursor) := measure fuel 0 cursor
      (feeds, max least.toNat deepest, cursor)
    | some n =>
      let indent := least.toNat + n - 1
      let (feeds, cursor) := emptyLines indent fuel cursor
      (feeds, indent, cursor)
  let (parts, feeds, feed, cursor) := lines folded indent fuel [] feeds [] cursor
  let text := parts.reverse.flatten
  return match chomping with
    | .strip => (text, cursor)
    | .clip => (text ++ feed, cursor)
    | .keep => (text ++ feed ++ feeds, cursor)

end Block

end Regen.Yaml
