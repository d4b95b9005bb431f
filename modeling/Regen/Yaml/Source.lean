import Regen.Yaml.Fault

/-!
# Sources

A stream comes from a source in portions. The first two are read at the start and each further one when the
stream is looked at beyond those before it; a portion has to consist of characters that a stream may hold.
-/

namespace Regen.Yaml

/-- A stream as far as it can be read. -/
structure Source where
  text : Text
  /-- What is met after the text, unless the stream ends there. -/
  fault : Option Fault
deriving DecidableEq, Repr

namespace Source

/-- Whether a character may stand in a stream. -/
def isAllowed (c : Char) : Bool :=
  let n := c.toNat
  n == 0x09 || n == 0x0A || n == 0x0D || (0x20 ≤ n && n ≤ 0x7E) || n == 0x85 || (0xA0 ≤ n && n ≤ 0xD7FF) ||
    (0xE000 ≤ n && n ≤ 0xFFFD) || 0x10000 ≤ n

/-- The source that gives parts one after the other, and after them the fault if there is one. -/
def ofParts (fault : Option Fault) : List Text → Source
  | [] => ⟨[], fault⟩
  | part :: rest =>
    if part.all isAllowed then
      let source := ofParts fault rest
      { source with text := part ++ source.text }
    else ⟨[], some .malformed⟩

/-- The source that gives portions; a broken one cannot be read after them. -/
def ofPortions (portions : List Text) (broken : Bool) : Source :=
  match portions with
  | first :: second :: rest => ofParts (if broken then some .unreadable else none) ((first ++ second) :: rest)
  | portions => if broken then ⟨[], some .unreadable⟩ else ofParts none portions

end Source

end Regen.Yaml
