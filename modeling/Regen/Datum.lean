import Regen.Token

/-!
# Data

Tokens nest into data: atoms and lists of data. `Datum.flatten` writes a datum back as tokens.
-/

namespace Regen

/-- A datum without parts. -/
inductive Atom where
  | integer (n : Int)
  | string (chars : Text)
  | symbol (name : Text)
deriving DecidableEq, Repr

namespace Atom

/-- The value of an atom, where a name stands for itself. -/
def value : Atom → Value
  | integer n => .int n
  | string chars => .text chars
  | symbol name => .text name

/-- The lexeme that denotes an atom. -/
def lexeme : Atom → Lexeme
  | integer n => .integer n
  | string chars => .string chars
  | symbol name => .symbol name

end Atom

/-- An atom or a list, with the line on which it starts. -/
inductive Datum where
  | atom (atom : Atom) (line : Int)
  | list (items : List Datum) (line : Int)
deriving Repr

namespace Datum

/-- The name that a datum consists of, if it is one. -/
def symbol? : Datum → Option Text
  | atom (.symbol name) _ => some name
  | _ => none

mutual

/-- The tokens of a datum; a list closes on the line on which it opens. -/
def flatten : Datum → List Token
  | atom a line => [⟨a.lexeme, line⟩]
  | list items line => ⟨.opening, line⟩ :: flattenAll items ++ [⟨.closing, line⟩]

def flattenAll : List Datum → List Token
  | [] => []
  | datum :: rest => datum.flatten ++ flattenAll rest

end

end Datum

/-- A list that is still open: its line and its items so far, newest first. -/
structure OpenList where
  line : Int
  items : List Datum
deriving Repr

/-- A point in the pass over the tokens: the data outside all open lists, newest first, and the open lists,
innermost first. -/
structure Nesting where
  data : List Datum
  pending : List OpenList
deriving Repr

namespace Nesting

/-- Adds a finished datum to the innermost open list. -/
def add (nesting : Nesting) (datum : Datum) : Nesting :=
  match nesting.pending with
  | [] => { nesting with data := datum :: nesting.data }
  | inner :: outer => { nesting with pending := { inner with items := datum :: inner.items } :: outer }

def step (nesting : Nesting) (token : Token) : Except Failure Nesting :=
  match token.lexeme with
  | .opening => .ok { nesting with pending := ⟨token.line, []⟩ :: nesting.pending }
  | .closing =>
    match nesting.pending with
    | [] => .error (.onLine .unexpectedClose (some token.line))
    | inner :: outer => .ok ({ nesting with pending := outer }.add (.list inner.items.reverse inner.line))
  | .string chars => .ok (nesting.add (.atom (.string chars) token.line))
  | .integer n => .ok (nesting.add (.atom (.integer n) token.line))
  | .symbol name => .ok (nesting.add (.atom (.symbol name) token.line))

/-- The data in order, once there are no more tokens. -/
def finish (nesting : Nesting) : Except Failure (List Datum) :=
  match nesting.pending with
  | [] => .ok nesting.data.reverse
  | inner :: _ => .error (.onLine .unclosedList (some inner.line))

end Nesting

namespace Datum

/-- The data that a sequence of tokens denotes. -/
def ofTokens (tokens : List Token) : Except Failure (List Datum) := do
  let nesting ← tokens.foldlM Nesting.step ⟨[], []⟩
  nesting.finish

/-- The data of a text whose first character stands on `line`. -/
def read (text : Text) (line : Int) : Except Failure (List Datum) := do
  ofTokens (← Token.scan text line)

end Datum

end Regen
