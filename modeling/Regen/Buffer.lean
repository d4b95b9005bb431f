import Regen.Text

/-!
# Output buffers

A running function inserts text and starts new lines. Every line starts with the indentation of the place of
the call; indentation that no insertion follows is left out at the end.
-/

namespace Regen

/-- A step of writing. -/
inductive Event where
  | insert (text : Text)
  | newline
deriving DecidableEq, Repr

/-- What has been written so far. -/
structure Buffer where
  indent : Text
  newline : Text
  /-- The steps of writing, newest first. -/
  events : List Event
deriving DecidableEq, Repr

namespace Buffer

def start (indent newline : Text) : Buffer := ⟨indent, newline, []⟩

def push (buffer : Buffer) (event : Event) : Buffer := { buffer with events := event :: buffer.events }

/-- The text that a step adds. -/
def written (buffer : Buffer) : Event → Text
  | .insert text => text
  | .newline => buffer.newline ++ buffer.indent

/-- All that was written, every line with its indentation. -/
def layout (buffer : Buffer) : Text :=
  buffer.indent ++ buffer.events.reverse.flatMap buffer.written

/-- Whether nothing was inserted since the last line started. -/
def atLineStart (buffer : Buffer) : Bool :=
  match buffer.events with
  | .insert _ :: _ => false
  | _ => true

def value (buffer : Buffer) : Text :=
  if buffer.atLineStart then buffer.layout.take (buffer.layout.length - buffer.indent.length)
  else buffer.layout

end Buffer

/-- The text of a region, so that the marker after it keeps its own line: no text stays so, and any other ends
in a line feed or gets a line end of its own. -/
def Text.asRegion (generated newline : Text) : Text :=
  if generated.isEmpty || generated.getLast? == some '\n' then generated else generated ++ newline

end Regen
