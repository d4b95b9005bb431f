import Regen.Charset.Base64
import Regen.Yaml.Node

/-!
# Values of YAML documents

A scalar node has the value that its tag asks for. Keys of mappings are scalars; of equal keys the last one counts,
and a merge key takes in the entries of other mappings, which count less than those written out. The nodes of a
document are looked at level by level: scalars when the collection around them is looked at, and collections after
all others of that level, so a fault on an outer level is met before one further in.
-/

namespace Regen.Yaml

/-- A value without parts. -/
inductive Scalar where
  | null
  | bool (b : Bool)
  | int (n : Int)
  | float (x : Binary64)
  | binary (bytes : List UInt8)
  | date (day : Calendar)
  /-- A point in time. -/
  | moment (time : Calendar)
  | text (points : WideText)
deriving DecidableEq, Repr

/-- The value of a document. -/
inductive Value where
  | scalar (value : Scalar)
  | list (items : List Value)
  | set (members : List Scalar)
  | mapping (entries : List (Scalar × Value))
  /-- A value that stands too far inside others to be shown. -/
  | distant
deriving Repr

namespace Scalar

/-- The number that a value stands for. A truth value counts as one or zero. -/
def number? : Scalar → Option Binary64
  | bool b => some (.finite (if b then 1 else 0))
  | int n => some (.finite n)
  | float x => some x
  | _ => none

/-- Whether two values are the same key. Numbers are told apart by what they are worth. -/
def isSameKey (a b : Scalar) : Bool :=
  match a.number?, b.number? with
  | some x, some y => x == y
  | _, _ => a == b

/-- The truth values by their words in small letters. -/
def truthWords : List (WideText × Bool) :=
  [("yes", true), ("no", false), ("true", true), ("false", false), ("on", true), ("off", false)].map
    fun (word, truth) => (.ofText word.toList, truth)

/-- The truth value that a word denotes. Case does not matter. -/
def truth (text : WideText) : Except Fault Bool :=
  match truthWords.lookup text.lowercase with
  | some truth => .ok truth
  | none => .error (.misfit (.noTruth text.lowercase))

/-- The bytes that a text of ASCII stands for. -/
def bytes (text : WideText) : Except Fault (List UInt8) :=
  match text.toText? with
  | some plain =>
    if plain.all (·.toNat < 0x80) then
      match Base64.decode? plain with
      | some bytes => .ok bytes
      | none => .error .malformed
    else .error .malformed
  | none => .error .malformed

/-- The date or point in time that a text denotes. A line feed may end it. -/
def time (text : WideText) : Except Fault Scalar :=
  match text.toText?.bind fun plain => Calendar.ofText? (Tag.unterminated plain) with
  | none => .error (.misfit .noTime)
  | some calendar =>
    match calendar.misfit? with
    | some reason => .error (.misfit reason)
    | none => .ok (if calendar.time.isSome then moment calendar else date calendar)

/-- The value of a tag that a text denotes. -/
def ofText (tag : Tag) (points : WideText) : Except Fault Scalar :=
  match tag with
  | .null => .ok null
  | .bool => bool <$> truth points
  | .int => int <$> Number.integer points
  | .float => float <$> Number.float points
  | .binary => binary <$> bytes points
  | .timestamp => time points
  | .str => .ok (text points)
  | _ => .error .malformed

end Scalar

/-- The value of a node, of whose parts some are told by their nodes. -/
inductive Shape where
  | scalar (value : Scalar)
  | list (items : List NodeId)
  | pairs (items : List (NodeId × NodeId))
  | set (members : List Scalar)
  | mapping (entries : List (Scalar × NodeId))
deriving DecidableEq, Repr

/-- A point in the pass over the nodes of a document. -/
structure Construction where
  nodes : Nodes
  /-- The values of the nodes that have been met. -/
  shapes : Array (Option Shape)
  /-- The collections whose parts are still to be looked at, newest first. -/
  pending : List NodeId

/-- Work that finds the values of nodes. -/
abbrev Construct := StateT Construction (Except Fault)

namespace Construct

def tagOf (id : NodeId) : Construct Tag := return ((← get).nodes[id]?.map Node.tag).getD .unknown

def contentOf (id : NodeId) : Construct Content :=
  return ((← get).nodes[id]?.map Node.content).getD (.sequence [])

def change (id : NodeId) (f : Node → Node) : Construct Unit :=
  modify fun construction => { construction with nodes := construction.nodes.modify id f }

def setShape (id : NodeId) (shape : Shape) : Construct Unit :=
  modify fun construction => { construction with shapes := construction.shapes.setIfInBounds id (some shape) }

/-- The text of a node: that of a scalar, or that of the value that a mapping has as a scalar. A mapping may be
that value of its own, which leads nowhere. -/
def textOf : (fuel : Nat) → NodeId → Construct WideText
  | 0, _ => throw (.misfit .endless)
  | fuel + 1, id => do
    match ← contentOf id with
    | .scalar text => return text
    | .sequence _ => throw .malformed
    | .mapping entries =>
      match ← entries.findM? fun (key, _) => return (← tagOf key) == .value with
      | some (_, value) => textOf fuel value
      | none => throw .malformed

/-- The scalar that a node with a tag is. A point in time has to stand there itself. -/
def scalarOf (tag : Tag) (id : NodeId) : Construct Scalar := do
  let text ← textOf ((← get).nodes.size + 1) id
  match tag, ← contentOf id with
  | .timestamp, .mapping _ => throw (.misfit .mappedTime)
  | _, _ => Scalar.ofText tag text

/-- The value of a collection before its parts are looked at. -/
def emptyShape? : Tag → Option Shape
  | .seq => some (.list [])
  | .omap | .pairs => some (.pairs [])
  | .set => some (.set [])
  | .map => some (.mapping [])
  | _ => none

/-- Meets a node: a scalar has its value at once, and the parts of a collection are looked at later. -/
def meet (id : NodeId) : Construct Shape := do
  match ((← get).shapes[id]?).join with
  | some shape => return shape
  | none =>
    let tag ← tagOf id
    match emptyShape? tag with
    | some shape =>
      setShape id shape
      modify fun construction => { construction with pending := id :: construction.pending }
      return shape
    | none =>
      let shape := Shape.scalar (← scalarOf tag id)
      setShape id shape
      return shape

/-- Meets a node that is a key, which has to be a scalar. -/
def meetKey (id : NodeId) : Construct Scalar := do
  match ← meet id with
  | .scalar value => return value
  | _ => throw .malformed

/-- The entries of a node that has to be a mapping. -/
def entriesOf (id : NodeId) : Construct (List (NodeId × NodeId)) := do
  match ← contentOf id with
  | .mapping entries => return entries
  | _ => throw .malformed

/-- The items of a node that has to be a sequence. -/
def itemsOf (id : NodeId) : Construct (List NodeId) := do
  match ← contentOf id with
  | .sequence items => return items
  | _ => throw .malformed

def setEntries (id : NodeId) (entries : List (NodeId × NodeId)) : Construct Unit :=
  change id fun node => { node with content := .mapping entries }

/-- The place of the first merge key among entries. -/
def mergePlace? (entries : List (NodeId × NodeId)) : Construct (Option Nat) := do
  let tags ← entries.mapM fun (key, _) => tagOf key
  return tags.findIdx? (· == .merge)

/-- Puts the entries that a mapping merges before its own, after those in `merged`, and takes plain equals signs as
text. Every merge key is taken out before the mapping that it names is looked at, which may be the same one. -/
def flatten : (fuel : Nat) → NodeId → (merged : List (NodeId × NodeId)) → Construct Unit
  | 0, _, _ => throw .malformed
  | fuel + 1, id, merged => do
    let entries ← entriesOf id
    match ← mergePlace? entries with
    | none =>
      for (key, _) in entries do
        if (← tagOf key) == .value then change key fun node => { node with tag := .str }
      setEntries id (merged ++ entries)
    | some place =>
      setEntries id (entries.eraseIdx place)
      let source := (entries[place]?.map Prod.snd).getD id
      match ← contentOf source with
      | .mapping _ =>
        flatten fuel source []
        flatten fuel id (merged ++ (← entriesOf source))
      | .sequence items =>
        let parts ← items.mapM fun item => do
          let _ ← entriesOf item
          flatten fuel item []
          entriesOf item
        flatten fuel id (merged ++ parts.reverse.flatten)
      | .scalar _ => throw .malformed

/-- Sets the entry of a key, which keeps its place. -/
def insert (key : Scalar) (value : NodeId) : List (Scalar × NodeId) → List (Scalar × NodeId)
  | [] => [(key, value)]
  | (other, old) :: rest =>
    if other.isSameKey key then (other, value) :: rest else (other, old) :: insert key value rest

/-- Meets the keys and values of a mapping. -/
def meetEntries (id : NodeId) : Construct (List (Scalar × NodeId)) := do
  let _ ← entriesOf id
  let mergeCount := (← get).nodes.foldl (fun count node => if node.tag = .merge then count + 1 else count) 0
  flatten (mergeCount + 1) id []
  let met ← (← entriesOf id).mapM fun (key, value) => do
    let scalar ← meetKey key
    let _ ← meet value
    return (scalar, value)
  return met.foldl (fun entries (key, value) => insert key value entries) []

/-- Meets the parts of a sequence of mappings with one entry each. -/
def meetPairs (id : NodeId) : Construct (List (NodeId × NodeId)) := do
  (← itemsOf id).mapM fun item => do
    match ← entriesOf item with
    | [(key, value)] =>
      let _ ← meet key
      let _ ← meet value
      return (key, value)
    | _ => throw .malformed

/-- Meets the parts of a collection. -/
def meetParts (id : NodeId) : Construct Unit := do
  match ← tagOf id with
  | .seq =>
    let items ← itemsOf id
    for item in items do
      let _ ← meet item
    setShape id (.list items)
  | .omap | .pairs => setShape id (.pairs (← meetPairs id))
  | .set => setShape id (.set ((← meetEntries id).map Prod.fst))
  | _ => setShape id (.mapping (← meetEntries id))

/-- Meets everything inside the pending collections, level by level; `fuel` bounds the number of levels. -/
def meetAll : (fuel : Nat) → Construct Unit
  | 0 => throw .malformed
  | fuel + 1 => do
    match (← get).pending.reverse with
    | [] => return ()
    | level =>
      modify fun construction => { construction with pending := [] }
      for id in level do
        meetParts id
      meetAll fuel

end Construct

/-- The value of a node as far as a number of levels go. -/
def Value.ofShapes (shapes : Array (Option Shape)) : (levels : Nat) → NodeId → Value
  | 0, _ => distant
  | levels + 1, id =>
    match (shapes[id]?).join with
    | none => distant
    | some (.scalar value) => scalar value
    | some (.list items) => list (items.map (ofShapes shapes levels))
    | some (.pairs items) =>
      list (items.map fun (key, value) => list [ofShapes shapes levels key, ofShapes shapes levels value])
    | some (.set members) => set members
    | some (.mapping entries) => mapping (entries.map fun (key, value) => (key, ofShapes shapes levels value))

/-- How many levels of a value are shown: a mapping of lists of scalars. -/
def Value.shownLevels : Nat := 3

def Document.value (document : Document) : Except Fault Value := do
  let start := ⟨document.nodes, Array.replicate document.nodes.size none, []⟩
  let work := do
    let _ ← Construct.meet document.root
    Construct.meetAll (document.nodes.size + 1)
  let (_, construction) ← work.run start
  return .ofShapes construction.shapes Value.shownLevels document.root

/-- The value of a stream; one without a document has none. -/
def load (source : Source) : Except Fault (Option Value) := do
  match ← Document.ofTokens (Tokens.scan source) with
  | none => return none
  | some document => return some (← document.value)

end Regen.Yaml
