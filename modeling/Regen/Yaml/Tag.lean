import Regen.Yaml.Calendar
import Regen.Yaml.Number

/-!
# Tags

The kind of value that a node has. A tag can be written out; otherwise a collection has the tag of its kind, quoted
text is text, and a plain scalar has the tag of what it looks like. A line feed at its end does not change what a
scalar looks like.
-/

namespace Regen.Yaml

/-- The kind of a node's value. -/
inductive Tag where
  | null
  | bool
  | int
  | float
  | binary
  | timestamp
  /-- An ordered mapping, as a list of entries. -/
  | omap
  | pairs
  | set
  | str
  | seq
  | map
  /-- The key of a mapping that takes in the entries of others. -/
  | merge
  /-- The key of the value that a mapping has as a scalar. -/
  | value
  /-- A kind without values here. -/
  | unknown
deriving DecidableEq, Repr

namespace Tag

/-- How the names of the tags of the standard start. -/
def standard : Text := "tag:yaml.org,2002:".toList

/-- The tags of the standard by their names. -/
def named : List (Text × Tag) :=
  [("null", null), ("bool", bool), ("int", int), ("float", float), ("binary", binary), ("timestamp", timestamp),
    ("omap", omap), ("pairs", pairs), ("set", set), ("str", str), ("seq", seq), ("map", map), ("merge", merge),
    ("value", value)].map fun (name, tag) => (standard ++ name.toList, tag)

def ofName (name : Text) : Tag := (named.lookup name).getD unknown

def trueWords : List Text :=
  ["yes", "Yes", "YES", "true", "True", "TRUE", "on", "On", "ON"].map String.toList

def falseWords : List Text :=
  ["no", "No", "NO", "false", "False", "FALSE", "off", "Off", "OFF"].map String.toList

/-- The spellings of null that are not empty. -/
def nullWords : List Text := ["~", "null", "Null", "NULL"].map String.toList

/-- The texts that look like the start of what is no scalar. -/
def indicators : List Text := ["!", "&", "*"].map String.toList

/-- The tag of what a text looks like. -/
def ofLooks (text : Text) : Tag :=
  if trueWords.contains text || falseWords.contains text then bool
  else if Number.looksFloat text then float
  else if Number.looksInteger (Number.unsigned text) then int
  else if text = "<<".toList then merge
  else if nullWords.contains text then null
  else if Calendar.looksTime text then timestamp
  else if text = "=".toList then value
  else if indicators.contains text then unknown
  else str

/-- A text without the line feed at its end. -/
def unterminated (text : Text) : Text := if text.getLast? = some '\n' then text.dropLast else text

/-- The tag of a scalar without one. Nothing at all looks like null. -/
def ofScalar (text : WideText) : Tag :=
  match text.toText? with
  | none => str
  | some [] => null
  | some plain => ofLooks (unterminated plain)

end Tag

end Regen.Yaml
