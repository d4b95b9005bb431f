import Regen.Fault
import Regen.Text.Blank
import Regen.Text.Digit

/-!
# Tokens

Headers and bodies are written with parentheses, strings, integers and names. Blanks and comments separate
tokens; a comment runs from a semicolon to the end of its line. Tokens come out of one pass over the
characters, in which a `Lexer` remembers what it is in the middle of. Only line feeds count as line ends.
-/

namespace Regen

/-- What a token is. -/
inductive Lexeme where
  | opening
  | closing
  | string (chars : Text)
  | integer (n : Int)
  | symbol (name : Text)
deriving DecidableEq, Repr

namespace Lexeme

/-- A run of characters between delimiters is an integer if it reads as one, and otherwise a name. -/
def ofWord (word : Text) : Except Failure Lexeme :=
  match Text.integer? word with
  | none => .ok (symbol word)
  | some n =>
    let digits := (word.filter (· != '-')).length
    if digits > Value.maxDigits then .error (.oversizedInteger (some digits)) else .ok (integer n)

end Lexeme

/-- A lexeme with the line on which it starts. -/
structure Token where
  lexeme : Lexeme
  line : Int
deriving DecidableEq, Repr

/-- What the characters read last belong to. Characters of an unfinished token are kept newest first. -/
inductive Lexer.Mode where
  | between
  | comment
  | word (chars : Text)
  | string (start : Int) (chars : Text)
  /-- Right after a backslash in a string. -/
  | escape (start : Int) (chars : Text)
deriving DecidableEq, Repr

/-- A point in the pass over the characters: the line reached and the tokens finished, newest first. -/
structure Lexer where
  mode : Lexer.Mode
  line : Int
  tokens : List Token
deriving DecidableEq, Repr

namespace Lexer

/-- Whether a character ends a name or integer. -/
def isDelimiter (c : Char) : Bool :=
  Text.isBlank c || c == '(' || c == ')' || c == '"' || c == ';'

/-- The line after a character that may end it. -/
def lineAfter (line : Int) (c : Char) : Int := if c == '\n' then line + 1 else line

def emit (lexer : Lexer) (lexeme : Lexeme) (line : Int) : Lexer :=
  { lexer with mode := .between, tokens := ⟨lexeme, line⟩ :: lexer.tokens }

/-- Reads a character that starts something new. -/
def begin (lexer : Lexer) (c : Char) : Lexer :=
  if Text.isBlank c then { lexer with mode := .between, line := lineAfter lexer.line c }
  else if c == ';' then { lexer with mode := .comment }
  else if c == '(' then lexer.emit .opening lexer.line
  else if c == ')' then lexer.emit .closing lexer.line
  else if c == '"' then { lexer with mode := .string lexer.line [] }
  else { lexer with mode := .word [c] }

/-- The characters that a backslash and the character after it stand for, newest first. -/
def unescape (c : Char) : Text :=
  if c == 'n' then ['\n']
  else if c == 't' then ['\t']
  else if c == '"' || c == '\\' then [c]
  else [c, '\\']

def step (lexer : Lexer) (c : Char) : Except Failure Lexer :=
  match lexer.mode with
  | .between => .ok (lexer.begin c)
  | .comment => .ok (if c == '\n' then lexer.begin c else lexer)
  | .word chars =>
    if isDelimiter c then do
      let lexeme ← Lexeme.ofWord chars.reverse
      return (lexer.emit lexeme lexer.line).begin c
    else .ok { lexer with mode := .word (c :: chars) }
  | .string start chars =>
    if c == '"' then .ok (lexer.emit (.string chars.reverse) start)
    else if c == '\\' then .ok { lexer with mode := .escape start chars }
    else .ok { lexer with mode := .string start (c :: chars), line := lineAfter lexer.line c }
  | .escape start chars =>
    .ok { lexer with mode := .string start (unescape c ++ chars), line := lineAfter lexer.line c }

/-- The tokens in order, once there are no more characters. -/
def finish (lexer : Lexer) : Except Failure (List Token) :=
  match lexer.mode with
  | .between | .comment => .ok lexer.tokens.reverse
  | .word chars => do
    let lexeme ← Lexeme.ofWord chars.reverse
    return (lexer.emit lexeme lexer.line).tokens.reverse
  | .string start _ | .escape start _ => .error (.onLine .unterminatedString (some start))

end Lexer

/-- The tokens of a text whose first character stands on `line`. -/
def Token.scan (text : Text) (line : Int) : Except Failure (List Token) := do
  let lexer ← text.foldlM Lexer.step ⟨.between, line, []⟩
  lexer.finish

end Regen
