import Regen.Table
import Regen.Yaml.Tag
import Regen.Yaml.Token

/-!
# Nodes of a YAML document

Tokens nest into scalars, sequences and mappings. Members of a collection that are not there are empty scalars.
An alias is the node with its anchor, which may be a collection around it, so nodes refer to each other by number.
-/

namespace Regen.Yaml

abbrev NodeId := Nat

/-- What a node consists of. -/
inductive Content where
  | scalar (text : WideText)
  | sequence (items : List NodeId)
  | mapping (entries : List (NodeId × NodeId))
deriving DecidableEq, Repr

structure Node where
  tag : Tag
  content : Content
deriving DecidableEq, Repr

abbrev Nodes := Array Node

namespace Node

/-- A point in the pass over the tokens. -/
structure Assembly where
  tokens : List Token
  /-- What is met after the tokens, unless the stream ends there. -/
  fault : Option Fault
  /-- What handles of tags stand for. -/
  handles : Table Text
  anchors : Table NodeId
  nodes : Nodes
  /-- The number of nodes around this point. -/
  depth : Nat

/-- Work that takes tokens away and adds nodes. -/
abbrev Assemble := StateT Assembly (Except Fault)

def next? : Assemble (Option Token) := do
  let assembly ← get
  match assembly.tokens, assembly.fault with
  | token :: _, _ => return some token
  | [], some fault => throw fault
  | [], none => return none

def nextIsIn (tokens : List Token) : Assemble Bool := return (← next?).any tokens.contains

def pass : Assemble Unit := modify fun assembly => { assembly with tokens := assembly.tokens.drop 1 }

def passIf (token : Token) : Assemble Bool := do
  if ← nextIsIn [token] then
    pass
    return true
  else return false

/-- Passes the next token, which has to be the one given. -/
def expect (token : Token) : Assemble Unit := do
  if !(← passIf token) then throw .malformed

def add (node : Node) : Assemble NodeId := do
  let id := (← get).nodes.size
  modify fun assembly => { assembly with nodes := assembly.nodes.push node }
  return id

/-- Adds the node of a member that is not there. -/
def addEmpty : Assemble NodeId := add ⟨.null, .scalar []⟩

/-- Sets what a node consists of. -/
def fill (id : NodeId) (content : Content) : Assemble Unit :=
  modify fun assembly =>
    { assembly with nodes := assembly.nodes.modify id fun node => { node with content } }

/-- Lets an anchor stand for a node. -/
def mark (anchor : Option Text) (id : NodeId) : Assemble Unit :=
  match anchor with
  | some name => modify fun assembly => { assembly with anchors := assembly.anchors.insert name id }
  | none => return ()

/-- The largest number of nodes around a node. -/
def maxDepth : Nat := 480

/-- Does work inside a node. -/
def inside {α : Type} (work : Assemble α) : Assemble α := do
  if (← get).depth ≥ maxDepth then throw (.misfit .endless)
  modify fun assembly => { assembly with depth := assembly.depth + 1 }
  let result ← work
  modify fun assembly => { assembly with depth := assembly.depth - 1 }
  return result

/-- What handles of tags stand for unless they are given another meaning. -/
def standardHandles : Table Text := [("!".toList, "!".toList), ("!!".toList, Tag.standard)]

def tagName (handle : Option Text) (rest : Text) : Assemble Text := do
  match handle with
  | none => return rest
  | some handle =>
    match (← get).handles.find? handle with
    | some start => return start ++ rest
    | none => throw .malformed

/-- Reads the anchor and the tag before a node, in any order. -/
def properties : Assemble (Option Text × Option Text) := do
  match ← next? with
  | some (.anchor name) =>
    pass
    match ← next? with
    | some (.tag handle rest) =>
      pass
      return (some name, some (← tagName handle rest))
    | _ => return (some name, none)
  | some (.tag handle rest) =>
    pass
    match ← next? with
    | some (.anchor name) =>
      pass
      return (some name, some (← tagName handle rest))
    | _ => return (none, some (← tagName handle rest))
  | _ => return (none, none)

/-- The tag that a written one asks for, given what holds without one. An exclamation mark leaves it open. -/
def tagOr (standard : Tag) : Option Text → Tag
  | none => standard
  | some name => if name = ['!'] then standard else .ofName name

/-- The tag of a scalar. Quoted text is text unless a tag is written. -/
def scalarTag (written : Option Text) (text : WideText) (plain : Bool) : Tag :=
  if written.isNone && !plain then .str else tagOr (.ofScalar text) written

/-- Where a node stands, which decides what it can be. -/
inductive Position where
  /-- In a flow collection: no block collections. -/
  | flow
  /-- A member of a block collection. -/
  | block
  /-- A key or value of a block mapping: also a sequence at the column of the mapping. -/
  | entry
deriving DecidableEq, Repr

/-- Adds a sequence, whose anchor its items may already use. -/
def addSequence (anchor tag : Option Text) (items : Assemble (List NodeId)) : Assemble NodeId := do
  let id ← add ⟨tagOr .seq tag, .sequence []⟩
  mark anchor id
  fill id (.sequence (← inside items))
  return id

/-- Adds a mapping, whose anchor its entries may already use. -/
def addMapping (anchor tag : Option Text) (entries : Assemble (List (NodeId × NodeId))) : Assemble NodeId := do
  let id ← add ⟨tagOr .map tag, .mapping []⟩
  mark anchor id
  fill id (.mapping (← inside entries))
  return id

mutual

/-- Reads a node. -/
def member : (fuel : Nat) → Position → Assemble NodeId
  | 0, _ => throw .malformed
  | fuel + 1, position => do
    if let some (.alias name) ← next? then
      pass
      match (← get).anchors.find? name with
      | none => throw .malformed
      | some id => return id
    else
      let (anchor, tag) ← properties
      let _ ← next?
      if let some name := anchor then
        if ((← get).anchors.find? name).isSome then throw .malformed
      untagged fuel position anchor tag

/-- Reads a node after its anchor and tag. -/
def untagged : (fuel : Nat) → Position → (anchor tag : Option Text) → Assemble NodeId
  | 0, _, _, _ => throw .malformed
  | fuel + 1, position, anchor, tag => do
    match ← next? with
    | some (.scalar text plain) =>
      pass
      let id ← add ⟨scalarTag tag text plain, .scalar text⟩
      mark anchor id
      return id
    | some .flowSequenceStart =>
      pass
      addSequence anchor tag (flowItems fuel true)
    | some .flowMappingStart =>
      pass
      addMapping anchor tag (flowEntries fuel true)
    | some .blockSequenceStart =>
      if position = .flow then throw .malformed
      pass
      addSequence anchor tag do
        let items ← blockItems fuel [.blockEntry, .blockEnd]
        expect .blockEnd
        return items
    | some .blockMappingStart =>
      if position = .flow then throw .malformed
      pass
      addMapping anchor tag do
        let entries ← blockEntries fuel
        expect .blockEnd
        return entries
    | token =>
      if token = some .blockEntry ∧ position = .entry then
        addSequence anchor tag (blockItems fuel [.blockEntry, .key, .value, .blockEnd])
      else if anchor.isSome || tag.isSome then
        let id ← add ⟨scalarTag tag [] true, .scalar []⟩
        mark anchor id
        return id
      else throw .malformed

/-- Reads a node unless the next token is one of those given, which leave it empty. -/
def memberUnless : (fuel : Nat) → List Token → Position → Assemble NodeId
  | 0, _, _ => throw .malformed
  | fuel + 1, tokens, position => do
    if ← nextIsIn tokens then addEmpty else member fuel position

/-- Reads the members of a block sequence; a dash with one of the tokens given after it has an empty one. -/
def blockItems : (fuel : Nat) → List Token → Assemble (List NodeId)
  | 0, _ => throw .malformed
  | fuel + 1, enders => do
    if ← passIf .blockEntry then
      let item ← memberUnless fuel enders .block
      return item :: (← blockItems fuel enders)
    else return []

def blockEntries : (fuel : Nat) → Assemble (List (NodeId × NodeId))
  | 0 => throw .malformed
  | fuel + 1 => do
    if ← passIf .key then
      let key ← memberUnless fuel [.key, .value, .blockEnd] .entry
      let value ←
        if ← passIf .value then memberUnless fuel [.key, .value, .blockEnd] .entry else addEmpty
      return (key, value) :: (← blockEntries fuel)
    else return []

/-- Reads the members of a flow sequence and its end. A key with a value is a mapping of its own. -/
def flowItems : (fuel : Nat) → (first : Bool) → Assemble (List NodeId)
  | 0, _ => throw .malformed
  | fuel + 1, first => do
    if ← passIf .flowSequenceEnd then return []
    if !first then expect .flowEntry
    if ← passIf .flowSequenceEnd then return []
    let item ←
      if ← passIf .key then
        addMapping none none do
          let key ← memberUnless fuel [.value, .flowEntry, .flowSequenceEnd] .flow
          let value ←
            if ← passIf .value then memberUnless fuel [.flowEntry, .flowSequenceEnd] .flow else addEmpty
          return [(key, value)]
      else member fuel .flow
    return item :: (← flowItems fuel false)

/-- Reads the entries of a flow mapping and its end. -/
def flowEntries : (fuel : Nat) → (first : Bool) → Assemble (List (NodeId × NodeId))
  | 0, _ => throw .malformed
  | fuel + 1, first => do
    if ← passIf .flowMappingEnd then return []
    if !first then expect .flowEntry
    if ← passIf .flowMappingEnd then return []
    if ← passIf .key then
      let key ← memberUnless fuel [.value, .flowEntry, .flowMappingEnd] .flow
      let value ←
        if ← passIf .value then memberUnless fuel [.flowEntry, .flowMappingEnd] .flow else addEmpty
      return (key, value) :: (← flowEntries fuel false)
    else
      let key ← member fuel .flow
      let value ← addEmpty
      return (key, value) :: (← flowEntries fuel false)

end

def passEnds : (fuel : Nat) → Assemble Unit
  | 0 => throw .malformed
  | fuel + 1 => do
    if ← passIf .documentEnd then passEnds fuel

def isDirective : Token → Bool
  | .version .. | .handle .. | .remark => true
  | _ => false

def isBetweenDocuments (token : Token) : Bool :=
  isDirective token || token == .documentStart || token == .documentEnd

/-- Reads directives, and gives what handles of tags stand for by them. A version is told at most once and has to
be of the first generation, and a handle is given one meaning. -/
def directives : (fuel : Nat) → (versioned : Bool) → Table Text → Assemble (Table Text)
  | 0, _, _ => throw .malformed
  | fuel + 1, versioned, handles => do
    match ← next? with
    | some (.version major _) =>
      pass
      if versioned || major ≠ 1 then throw .malformed
      directives fuel true handles
    | some (.handle name start) =>
      pass
      if (handles.find? name).isSome then throw .malformed
      directives fuel versioned (handles.insert name start)
    | some .remark =>
      pass
      directives fuel versioned handles
    | _ => return handles

/-- Reads what stands before a document that starts with its marker, and the marker. -/
def documentStart (fuel : Nat) : Assemble Unit := do
  let handles ← directives fuel false []
  modify fun assembly => { assembly with handles := handles ++ standardHandles }
  expect .documentStart

/-- Reads the document at the start of a stream. -/
def document (fuel : Nat) : Assemble (Option NodeId) := do
  match ← next? with
  | none => return none
  | some token =>
    if isDirective token || token == .documentStart then
      documentStart fuel
      if (← next?).all isBetweenDocuments then return some (← addEmpty)
    return some (← member fuel .block)

/-- Reads the end of a stream after its document. No other document may follow. -/
def streamEnd (fuel : Nat) : Assemble Unit := do
  passEnds fuel
  if (← next?).isSome then
    documentStart fuel
    throw .malformed

end Node

/-- The nodes of a document and the one around all others. -/
structure Document where
  nodes : Nodes
  root : NodeId

/-- The document of a stream, which holds at most one. Each level of reading passes a token or goes from the start
of a node to its content, so three levels for each token are enough. -/
def Document.ofTokens (tokens : Tokens) : Except Fault (Option Document) := do
  let fuel := 3 * tokens.tokens.length + 3
  let start := ⟨tokens.tokens, tokens.fault, Node.standardHandles, [], #[], 0⟩
  let (root, assembly) ← (Node.document fuel).run start
  let _ ← (Node.streamEnd fuel).run assembly
  return root.map fun root => ⟨assembly.nodes, root⟩

end Regen.Yaml
