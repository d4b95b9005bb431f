import Regen.Charset.Utf8
import Regen.Yaml.Scalar
import Regen.Yaml.Source

/-!
# Tokens of a YAML stream

Indentation opens and closes block collections; brackets open and close flow collections. A key is told from
other content only by the colon after it, so every place at which a key may start is remembered until its line
ends, and the tokens from there on are not told before. Where the stream is at fault, the tokens told before
come out with the fault: whoever finds fault with them has found the first one.
-/

namespace Regen.Yaml

inductive Token where
  /-- The directive that tells the version. -/
  | version (major minor : Nat)
  /-- The directive that tells what a handle of tags stands for. -/
  | handle (name start : Text)
  /-- A directive without a meaning here. -/
  | remark
  | documentStart
  | documentEnd
  | blockSequenceStart
  | blockMappingStart
  | blockEnd
  | flowSequenceStart
  | flowSequenceEnd
  | flowMappingStart
  | flowMappingEnd
  | blockEntry
  | flowEntry
  | key
  | value
  | alias (name : Text)
  | anchor (name : Text)
  /-- A tag by its handle, if it has one, and the rest. -/
  | tag (handle : Option Text) (rest : Text)
  /-- A scalar; only a plain one may be more than text. -/
  | scalar (text : WideText) (plain : Bool)
deriving DecidableEq, Repr

/-- A place at which a key may start. -/
structure KeyPlace where
  /-- The number of tokens before it. -/
  position : Nat
  /-- Whether nothing but a key can stand here. -/
  required : Bool
  index : Nat
  line : Nat
  column : Nat
deriving DecidableEq, Repr

/-- A point in the pass over a stream. -/
structure Layout where
  /-- A bound on the steps over the rest of the stream. -/
  bound : Nat
  cursor : Cursor
  /-- The tokens so far, newest first. -/
  tokens : List Token
  /-- The number of the tokens so far. -/
  count : Nat
  /-- The column of the innermost block collection, and of those around it. -/
  indent : Int
  outer : List Int
  /-- Whether a key may start here. -/
  allowKey : Bool
  /-- The place of the last possible key outside all flow collections, and in each of them, innermost first. -/
  places : List (Option KeyPlace)
deriving DecidableEq, Repr

namespace Layout

/-- The start of a stream. A byte order mark there is passed over. -/
def start (text : Text) : Layout :=
  let cursor := Cursor.start text
  ⟨text.length + 1, if cursor.isAt '\uFEFF' then cursor.next else cursor, [], 0, -1, [], true, [none]⟩

def inFlow (layout : Layout) : Bool := layout.places.length > 1

def emit (layout : Layout) (token : Token) : Layout :=
  { layout with tokens := token :: layout.tokens, count := layout.count + 1 }

def skip (layout : Layout) (count : Nat) : Layout := { layout with cursor := layout.cursor.skip count }

/-- Passes blanks, comments and line ends. A key may start on a new line outside of flow collections. -/
def toNextToken : (fuel : Nat) → Layout → Layout
  | 0, layout => layout
  | fuel + 1, layout =>
    let (_, cursor) := layout.cursor.takeWhile (· == ' ')
    let (_, cursor) := if cursor.isAt '#' then cursor.takeWhile (!isBreak ·) else ([], cursor)
    if cursor.atBreak then
      toNextToken fuel
        { layout with cursor := cursor.takeBreak.2, allowKey := layout.allowKey || !layout.inFlow }
    else { layout with cursor }

/-- Forgets the places of keys that have come too far: a key and its colon stand on one line, at most 1024
characters apart. -/
def dropStale (layout : Layout) : Except Fault Layout := do
  let places ← layout.places.mapM fun place =>
    match place with
    | none => .ok none
    | some key =>
      if key.line ≠ layout.cursor.line ∨ layout.cursor.index - key.index > 1024 then
        if key.required then .error .malformed else .ok none
      else .ok (some key)
  return { layout with places }

/-- Forgets the place of the last possible key on this level. -/
def dropPlace (layout : Layout) : Except Fault Layout :=
  match layout.places with
  | some key :: others => if key.required then .error .malformed else .ok { layout with places := none :: others }
  | _ => .ok layout

/-- Remembers that a key may start here. -/
def savePlace (layout : Layout) : Except Fault Layout := do
  if layout.allowKey then
    let layout ← layout.dropPlace
    let cursor := layout.cursor
    let key := {
      position := layout.count
      required := !layout.inFlow && layout.indent == cursor.column
      index := cursor.index
      line := cursor.line
      column := cursor.column }
    return { layout with places := some key :: layout.places.drop 1 }
  else return layout

/-- Closes the block collections that are indented deeper than a column. -/
def closeTo (column : Int) : (outer : List Int) → Layout → Layout
  | [], layout => layout
  | around :: outer, layout =>
    if layout.indent > column then
      closeTo column outer { layout.emit .blockEnd with indent := around, outer }
    else layout

/-- Closes the block collections that end before this column; in flow collections, none. -/
def unwind (layout : Layout) (column : Int) : Layout :=
  if layout.inFlow then layout else closeTo column layout.outer layout

/-- Opens a block collection at a column unless one is open there. -/
def indentTo (layout : Layout) (column : Nat) (token : Token) : Layout :=
  if layout.indent < column then
    { layout.emit token with indent := column, outer := layout.indent :: layout.outer }
  else layout

/-- Ends all block collections, as the start or end of a document does. -/
def endBlocks (layout : Layout) : Except Fault Layout := do
  let layout ← (layout.unwind (-1)).dropPlace
  return { layout with allowKey := false }

/-- Reads `---` or `...`. -/
def documentMarker (layout : Layout) (token : Token) : Except Fault Layout := do
  return ((← layout.endBlocks).emit token).skip 3

/-- Reads a bracket that opens a flow collection. -/
def openFlow (layout : Layout) (token : Token) : Except Fault Layout := do
  let layout ← layout.savePlace
  return { (layout.emit token).skip 1 with places := none :: layout.places, allowKey := true }

/-- Reads a bracket that closes a flow collection. -/
def closeFlow (layout : Layout) (token : Token) : Except Fault Layout := do
  if !layout.inFlow then throw .malformed
  let layout ← layout.dropPlace
  return { (layout.emit token).skip 1 with places := layout.places.drop 1, allowKey := false }

/-- Reads a comma between the members of a flow collection. -/
def flowEntry (layout : Layout) : Except Fault Layout := do
  return (({ ← layout.dropPlace with allowKey := true }).emit .flowEntry).skip 1

/-- Reads the dash of a member of a block sequence. -/
def blockEntry (layout : Layout) : Except Fault Layout := do
  if !layout.inFlow && !layout.allowKey then throw .malformed
  let layout := if layout.inFlow then layout else layout.indentTo layout.cursor.column .blockSequenceStart
  return (({ ← layout.dropPlace with allowKey := true }).emit .blockEntry).skip 1

/-- Reads the question mark before a key. -/
def explicitKey (layout : Layout) : Except Fault Layout := do
  if !layout.inFlow && !layout.allowKey then throw .malformed
  let layout := if layout.inFlow then layout else layout.indentTo layout.cursor.column .blockMappingStart
  return (({ ← layout.dropPlace with allowKey := !layout.inFlow }).emit .key).skip 1

/-- Puts tokens before the one at a position. -/
def insertAt (layout : Layout) (position : Nat) (tokens : List Token) : Layout :=
  let newer := layout.count - position
  { layout with
    tokens := layout.tokens.take newer ++ tokens.reverse ++ layout.tokens.drop newer
    count := layout.count + tokens.length }

/-- Reads the colon before a value, which makes a key of what was read last. -/
def valueIndicator (layout : Layout) : Except Fault Layout := do
  match layout.places with
  | some key :: others =>
    let layout := { layout with places := none :: others, allowKey := false }
    let layout :=
      if !layout.inFlow && layout.indent < (key.column : Int) then
        { layout.insertAt key.position [.blockMappingStart, .key] with
          indent := key.column, outer := layout.indent :: layout.outer }
      else layout.insertAt key.position [.key]
    return (layout.emit .value).skip 1
  | _ =>
    if !layout.inFlow && !layout.allowKey then throw .malformed
    let layout := if layout.inFlow then layout else layout.indentTo layout.cursor.column .blockMappingStart
    return (({ ← layout.dropPlace with allowKey := !layout.inFlow }).emit .value).skip 1

/-- Prepares for content that may be a key and after which none may start. -/
def beginContent (layout : Layout) : Except Fault Layout := do
  return { ← layout.savePlace with allowKey := false }

def isNameChar (c : Char) : Bool := c.isAlphanum || c == '-' || c == '_'

/-- Reads an anchor or alias after its first character. -/
def anchorName (cursor : Cursor) : Except Fault (Text × Cursor) :=
  let (name, cursor) := cursor.takeWhile isNameChar
  let ends := (cursor.peek 0).all fun c => isGap c || "?:,]\x7d%@`".toList.contains c
  if name.isEmpty || !ends then .error cursor.refusal else .ok (name, cursor)

/-- Whether a space or the end of the line or of the stream stands at a point. -/
def atWordEnd (cursor : Cursor) : Bool := (cursor.peek 0).all fun c => c == ' ' || isBreak c

/-- Reads a handle of tags: an exclamation mark alone, or a name between two. -/
def handleName (cursor : Cursor) : Except Fault (Text × Cursor) :=
  if !cursor.isAt '!' then .error cursor.refusal
  else if cursor.peek 1 = some ' ' then .ok (['!'], cursor.next)
  else
    let (name, cursor) := cursor.next.takeWhile isNameChar
    if cursor.isAt '!' then .ok ('!' :: name ++ ['!'], cursor.next) else .error cursor.refusal

/-- Whether a character stands for itself in a tag. -/
def isTagChar (c : Char) : Bool := c.isAlphanum || "-;/?:@&=+$,_.!~*'()[]".toList.contains c

/-- Reads bytes that are written as a percent sign and two hexadecimal digits each. -/
def escapedBytes : (fuel : Nat) → Cursor → Except Fault (List UInt8 × Cursor)
  | 0, cursor => .ok ([], cursor)
  | fuel + 1, cursor =>
    if cursor.isAt '%' then do
      let digits := (cursor.rest.drop 1).take 2
      if !digits.all (Numeral.isDigit 16) then throw cursor.refusal
      if digits.length < 2 then throw .unfinished
      let (bytes, cursor) ← escapedBytes fuel (cursor.skip 3)
      return ((Numeral.ofDigits 16 digits).toUInt8 :: bytes, cursor)
    else .ok ([], cursor)

/-- Reads the parts of the name of a tag: characters that stand for themselves, and others as bytes. -/
def tagParts : (fuel : Nat) → Cursor → Except Fault (List Text × Cursor)
  | 0, cursor => .ok ([], cursor)
  | fuel + 1, cursor => do
    let (plain, cursor) := cursor.takeWhile isTagChar
    if cursor.isAt '%' then
      let (bytes, cursor) ← escapedBytes (fuel + 1) cursor
      let text ← (Utf8.decode bytes).mapError fun _ => cursor.refusal
      let (parts, cursor) ← tagParts fuel cursor
      return (plain :: text :: parts, cursor)
    else return ([plain], cursor)

/-- Reads the name of a tag, which is not empty. -/
def tagText (fuel : Nat) (cursor : Cursor) : Except Fault (Text × Cursor) := do
  let (parts, cursor) ← tagParts fuel cursor
  if parts.flatten.isEmpty then throw cursor.refusal
  return (parts.flatten, cursor)

/-- Reads a tag. A handle is told by a further exclamation mark in the same word. -/
def tag (fuel : Nat) (cursor : Cursor) : Except Fault (Token × Cursor) := do
  let (token, cursor) ←
    if cursor.peek 1 = some '<' then do
      let (name, cursor) ← tagText fuel (cursor.skip 2)
      if !cursor.isAt '>' then throw cursor.refusal
      pure (Token.tag none name, cursor.next)
    else if cursor.gapAt 1 then pure (Token.tag none ['!'], cursor.next)
    else do
      let word := (cursor.rest.drop 1).takeWhile fun c => c != ' ' && !isBreak c
      let cursor := if word.contains '!' then cursor else cursor.ask (word.length + 2)
      let (handle, cursor) ←
        if word.contains '!' then handleName cursor else pure (['!'], cursor.next)
      let (rest, cursor) ← tagText fuel cursor
      pure (Token.tag (some handle) rest, cursor)
  if !atWordEnd cursor then throw cursor.refusal
  return (token, cursor)

def versionNumber (cursor : Cursor) : Except Fault (Nat × Cursor) := do
  let (digits, cursor) := cursor.takeWhile (Numeral.isDigit 10)
  if digits.isEmpty then throw cursor.refusal
  if digits.length > Value.maxDigits then throw (.misfit (.numeral (.oversized digits.length)))
  return (Numeral.ofDigits 10 digits, cursor)

/-- Reads a version: two numbers with a point between them. -/
def version (cursor : Cursor) : Except Fault (Token × Cursor) := do
  let (major, cursor) ← versionNumber cursor
  if !cursor.isAt '.' then throw cursor.refusal
  let (minor, cursor) ← versionNumber cursor.next
  if !atWordEnd cursor then throw cursor.refusal
  return (.version major minor, cursor)

/-- Reads a handle of tags and what it stands for. -/
def handleMeaning (fuel : Nat) (cursor : Cursor) : Except Fault (Token × Cursor) := do
  let (name, cursor) ← handleName cursor
  if !cursor.isAt ' ' then throw cursor.refusal
  let (start, cursor) ← tagText fuel (cursor.takeWhile (· == ' ')).2
  if !atWordEnd cursor then throw cursor.refusal
  return (.handle name start, cursor)

def directive (layout : Layout) : Except Fault Layout := do
  let layout ← layout.endBlocks
  let (name, cursor) := layout.cursor.next.takeWhile isNameChar
  if name.isEmpty then throw cursor.refusal
  if !atWordEnd cursor then throw cursor.refusal
  let (_, content) := cursor.takeWhile (· == ' ')
  let (token, cursor) ←
    if name = "YAML".toList then version content
    else if name = "TAG".toList then handleMeaning layout.bound content
    else pure (Token.remark, (cursor.takeWhile (!isBreak ·)).2)
  let cursor ← cursor.restOfLine
  return { layout.emit token with cursor }

/-- Whether a character has a meaning of its own at the start of a token. -/
def isIndicator (c : Char) : Bool := isGap c || "-?:,[]\x7b\x7d#&*!|>'\"%@`".toList.contains c

/-- Whether a plain scalar can start here. -/
def startsPlain (layout : Layout) (c : Char) : Bool :=
  !isIndicator c ||
    (!layout.cursor.gapAt 1 && (c == '-' || (!layout.inFlow && (c == '?' || c == ':'))))

/-- Whether an indicator opens or stands for something by itself, in a flow collection or outside of them. -/
def standsAlone (flow : Bool) (c : Char) : Bool :=
  "[]\x7b\x7d,*&!'\"".toList.contains c || (!flow && (c == '|' || c == '>')) || (flow && (c == '?' || c == ':'))

/-- Asks for the characters that tell what token starts with the character given. -/
def ask (layout : Layout) (c : Char) : Layout :=
  let cursor := layout.cursor
  let marker := cursor.column == 0 && (c == '-' || c == '.')
  let cursor := if marker then cursor.askSeparator else cursor
  let directive := c == '%' && cursor.column == 0
  let cursor := if isIndicator c && !directive && !standsAlone layout.inFlow c then cursor.ask 2 else cursor
  { layout with cursor }

/-- Reads one token that starts with the character given. -/
def token (layout : Layout) (c : Char) : Except Fault Layout :=
  let cursor := layout.cursor
  let indicator := layout.inFlow || cursor.gapAt 1
  if c == '%' && cursor.column == 0 then layout.directive
  else if cursor.column == 0 && cursor.hasMarker "---" then layout.documentMarker .documentStart
  else if cursor.column == 0 && cursor.hasMarker "..." then layout.documentMarker .documentEnd
  else if c == '[' then layout.openFlow .flowSequenceStart
  else if c == '\x7b' then layout.openFlow .flowMappingStart
  else if c == ']' then layout.closeFlow .flowSequenceEnd
  else if c == '\x7d' then layout.closeFlow .flowMappingEnd
  else if c == ',' then layout.flowEntry
  else if c == '-' && cursor.gapAt 1 then layout.blockEntry
  else if c == '?' && indicator then layout.explicitKey
  else if c == ':' && indicator then layout.valueIndicator
  else if c == '*' then do
    let layout ← layout.beginContent
    let (name, cursor) ← anchorName cursor.next
    return { layout.emit (.alias name) with cursor }
  else if c == '&' then do
    let layout ← layout.beginContent
    let (name, cursor) ← anchorName cursor.next
    return { layout.emit (.anchor name) with cursor }
  else if c == '!' then do
    let layout ← layout.beginContent
    let (token, cursor) ← tag layout.bound cursor
    return { layout.emit token with cursor }
  else if (c == '|' || c == '>') && !layout.inFlow then do
    let layout ← layout.dropPlace
    let (text, cursor) ← Block.read layout.bound (c == '>') layout.indent cursor.next
    return { layout.emit (.scalar (.ofText text) false) with cursor, allowKey := true }
  else if c == '\'' || c == '"' then do
    let layout ← layout.beginContent
    let (text, cursor) ← Quoted.read layout.bound (c == '"') cursor.next
    return { layout.emit (.scalar text false) with cursor }
  else if layout.startsPlain c then do
    let layout ← layout.beginContent
    let plain := Plain.read layout.bound layout.inFlow (layout.indent + 1) cursor
    return { layout.emit (.scalar (.ofText plain.text) true) with cursor := plain.cursor, allowKey := plain.broken }
  else .error .malformed

/-- The tokens that no key can come before any more, in order. -/
def told (layout : Layout) : List Token :=
  let places := match layout.dropStale with
    | .ok layout => layout.places
    | .error _ => layout.places
  match ((places.filterMap id).map KeyPlace.position).min? with
  | none => layout.tokens.reverse
  | some first => layout.tokens.reverse.take first

/-- Passes on to the next token, or to the end of the stream. At the end of a source that gives no more its
fault is met. -/
def approach (fault : Option Fault) (layout : Layout) : Except Fault Layout := do
  let layout ← layout.dropStale
  let layout := toNextToken layout.bound layout
  match fault, layout.cursor.atEnd with
  | some fault, true => throw fault
  | _, _ =>
    let layout ← layout.dropStale
    return layout.unwind layout.cursor.column

/-- Reads one token from a source with the fault given, which is met as soon as more is asked for than it gives. -/
def tokenFrom (fault : Option Fault) (layout : Layout) (c : Char) : Except Fault Layout :=
  let layout := layout.ask c
  match fault with
  | none => (layout.token c).mapError fun fault => if fault = .unfinished then .malformed else fault
  | some fault =>
    if layout.cursor.short then .error fault
    else
      match layout.token c with
      | .ok next => if next.cursor.short || next.cursor.atEnd then .error fault else .ok next
      | .error .unfinished => .error fault
      | .error other => .error other

end Layout

/-- The tokens of a stream up to its end or to a fault. -/
structure Tokens where
  tokens : List Token
  fault : Option Fault
deriving DecidableEq, Repr

namespace Layout

/-- Reads tokens to the end of the stream. -/
def run (fault : Option Fault) : (fuel : Nat) → Layout → Tokens
  | 0, layout => ⟨layout.told, some .malformed⟩
  | fuel + 1, layout =>
    match layout.approach fault with
    | .error fault => ⟨layout.told, some fault⟩
    | .ok ahead =>
      match ahead.cursor.peek 0 with
      | none =>
        match ahead.endBlocks with
        | .error fault => ⟨layout.told, some fault⟩
        | .ok done => ⟨done.tokens.reverse, none⟩
      | some c =>
        match ahead.tokenFrom fault c with
        | .error fault => ⟨layout.told, some fault⟩
        | .ok next => run fault fuel next

end Layout

/-- The tokens of a stream. Every token takes at least one character. -/
def Tokens.scan (source : Source) : Tokens :=
  Layout.run source.fault (source.text.length + 1) (.start source.text)

end Regen.Yaml
