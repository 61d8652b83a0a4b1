import DocEnum.Yaml.Node
import DocEnum.Yaml.Token

/-!
# The grammar of YAML

How tokens make nodes. A text holds one document or none; an entry, key or value that is not written
is an empty plain scalar.

**State.** The tokens that are left, the nodes made so far, and what anchors and tag handles stand
for. A token is looked at only when it decides what comes next, so a text that is malformed in two
places fails at the first, and a token that could not be read fails when it is needed.
-/

namespace DocEnum.Yaml

namespace Grammar

/-- The tokens that are left, and what is known. -/
structure State where
  tokens : List Token
  /-- Why there are no more tokens, if that is not the end. -/
  trouble : Option Fault
  nodes : Array Node
  anchors : List (Text × Ref)
  /-- What tag handles stand for. -/
  handles : List (Text × Text)
  /-- The number of nodes around the present one. -/
  depth : Nat

abbrev Reading := StateT State (Except Fault)

/-! ## Tokens and nodes -/

def peek : Reading Token := do
  let s ← get
  match s.tokens, s.trouble with
  | token :: _, _ => return token
  | [], none => return .streamEnd
  | [], some fault => throw fault

def next : Reading Unit :=
  modify fun s => { s with tokens := s.tokens.tail }

def add (node : Node) : Reading Ref :=
  modifyGet fun s => (s.nodes.size, { s with nodes := s.nodes.push node })

/-- Adds a scalar that is not written. -/
def addEmpty : Reading Ref :=
  add ⟨.null, .scalar []⟩

/-- Gives a node its content. -/
def fill (ref : Ref) (content : Content) : Reading Unit :=
  modify fun s => { s with nodes := s.nodes.modify ref fun node => { node with content } }

/-- Lets an anchor name a node. -/
def bind (anchor : Option Text) (ref : Ref) : Reading Unit :=
  match anchor with
  | none => pure ()
  | some name => modify fun s => { s with anchors := (name, ref) :: s.anchors }

def named (name : Text) : Reading Ref := do
  match (← get).anchors.lookup name with
  | none => throw .malformed
  | some ref => return ref

def expectFresh (anchor : Option Text) : Reading Unit := do
  let s ← get
  if anchor.any fun name => (s.anchors.lookup name).isSome then throw .malformed

/-- The most nodes around a node. -/
def maxDepth : Nat := 485

/-- Reads what is inside a node. -/
def nested {α : Type} (inside : Reading α) : Reading α := do
  let depth := (← get).depth
  if maxDepth ≤ depth then throw .tooDeep
  modify fun s => { s with depth := depth + 1 }
  let a ← inside
  modify fun s => { s with depth }
  return a

/-- A node that its anchor names also inside itself. -/
def collection (anchor : Option Text) (tag : Tag) (inside : Reading Content) : Reading Ref := do
  let ref ← add ⟨tag, .sequence []⟩
  bind anchor ref
  fill ref (← nested inside)
  return ref

def scalar (anchor tag : Option Text) (plain : Bool) (text : Text) : Reading Ref := do
  let ref ← add ⟨scalarTag tag plain text, .scalar text⟩
  bind anchor ref
  return ref

/-! ## Properties -/

/-- The handles that need no directive. -/
def defaultHandles : List (Text × Text) :=
  [("!", "!"), ("!!", "tag:yaml.org,2002:")]

/-- The full tag that a written tag stands for. -/
def fullTag (tag : TagText) : Reading Text := do
  match tag.handle with
  | none => return tag.rest
  | some handle =>
    match (← get).handles.lookup handle with
    | none => throw .malformed
    | some meaning => return meaning ++ tag.rest

def anchor? : Reading (Option Text) := do
  match ← peek with
  | .anchor name => do
    next
    return some name
  | _ => return none

def tag? : Reading (Option TagText) := do
  match ← peek with
  | .tag tag => do
    next
    return some tag
  | _ => return none

/-- The anchor and the tag before a node, in either order. -/
def properties : Reading (Option Text × Option Text) := do
  let first ← anchor?
  let tag ← tag?
  let anchor ← if first.isNone && tag.isSome then anchor? else pure first
  match tag with
  | none => return (anchor, none)
  | some tag => return (anchor, some (← fullTag tag))

/-! ## Nodes -/

/-- Where a node stands. -/
inductive Place where
  | flow
  | block
  /-- A value of a block mapping, where a sequence need not be indented. -/
  | blockValue
deriving DecidableEq

mutual

def node (place : Place) : (fuel : Nat) → Reading Ref
  | 0 => throw .malformed
  | fuel + 1 => do
    match ← peek with
    | .alias name => do
      next
      named name
    | _ => do
      let (anchor, tag) ← properties
      let token ← peek
      expectFresh anchor
      let sequence (items : Reading (List Ref)) : Reading Ref :=
        collection anchor (collectionTag tag .sequence) (Content.sequence <$> items)
      let mapping (pairs : Reading (List RefPair)) : Reading Ref :=
        collection anchor (collectionTag tag .mapping) (Content.mapping <$> pairs)
      match token, place with
      | .scalar plain text, _ => do
        next
        scalar anchor tag plain text
      | .flowSequenceStart, _ => do
        next
        sequence (flowItems true fuel)
      | .flowMappingStart, _ => do
        next
        mapping (flowPairs true fuel)
      | .blockSequenceStart, .block | .blockSequenceStart, .blockValue => do
        next
        sequence (blockItems fuel)
      | .blockMappingStart, .block | .blockMappingStart, .blockValue => do
        next
        mapping (blockPairs fuel)
      | .blockEntry, .blockValue => sequence (openItems fuel)
      | _, _ =>
        if anchor.isNone && tag.isNone then throw .malformed else scalar anchor tag true []

/-- The items of an indented block sequence. -/
def blockItems : (fuel : Nat) → Reading (List Ref)
  | 0 => throw .malformed
  | fuel + 1 => do
    match ← peek with
    | .blockEntry => do
      next
      let item ← match ← peek with
        | .blockEntry | .blockEnd => addEmpty
        | _ => node .block fuel
      return item :: (← blockItems fuel)
    | .blockEnd => do
      next
      return []
    | _ => throw .malformed

/-- The items of a sequence that is a value and is not indented. -/
def openItems : (fuel : Nat) → Reading (List Ref)
  | 0 => throw .malformed
  | fuel + 1 => do
    match ← peek with
    | .blockEntry => do
      next
      let item ← match ← peek with
        | .blockEntry | .key | .value | .blockEnd => addEmpty
        | _ => node .block fuel
      return item :: (← openItems fuel)
    | _ => return []

/-- A key or a value of a block mapping, after its indicator. -/
def blockPart : (fuel : Nat) → Reading Ref
  | 0 => throw .malformed
  | fuel + 1 => do
    match ← peek with
    | .key | .value | .blockEnd => addEmpty
    | _ => node .blockValue fuel

def blockPairs : (fuel : Nat) → Reading (List RefPair)
  | 0 => throw .malformed
  | fuel + 1 => do
    match ← peek with
    | .key => do
      next
      let key ← blockPart fuel
      let value ← match ← peek with
        | .value => do
          next
          blockPart fuel
        | _ => addEmpty
      return (key, value) :: (← blockPairs fuel)
    | .blockEnd => do
      next
      return []
    | _ => throw .malformed

/-- A key or a value inside brackets, which may be left out before some tokens. -/
def flowPart (inMapping : Bool) : (fuel : Nat) → Reading Ref
  | 0 => throw .malformed
  | fuel + 1 => do
    match ← peek, inMapping with
    | .flowEntry, _ | .flowSequenceEnd, false | .flowMappingEnd, true => addEmpty
    | _, _ => node .flow fuel

/-- A key and its value inside brackets, after the indicator of the key. -/
def flowPair (inMapping : Bool) : (fuel : Nat) → Reading RefPair
  | 0 => throw .malformed
  | fuel + 1 => do
    let key ← match ← peek with
      | .value => addEmpty
      | _ => flowPart inMapping fuel
    let value ← match ← peek with
      | .value => do
        next
        flowPart inMapping fuel
      | _ => addEmpty
    return (key, value)

/-- The items of a sequence in brackets; a key makes an item a mapping of one pair. -/
def flowItems (isFirst : Bool) : (fuel : Nat) → Reading (List Ref)
  | 0 => throw .malformed
  | fuel + 1 => do
    match ← peek, isFirst with
    | .flowSequenceEnd, _ | _, true => pure ()
    | .flowEntry, false => next
    | _, false => throw .malformed
    match ← peek with
    | .flowSequenceEnd => do
      next
      return []
    | .key => do
      next
      let item ← collection none .mapping do
        return .mapping [← flowPair false fuel]
      return item :: (← flowItems false fuel)
    | _ => do
      let item ← node .flow fuel
      return item :: (← flowItems false fuel)

/-- The pairs of a mapping in brackets; without the mark of a key there is no value. -/
def flowPairs (isFirst : Bool) : (fuel : Nat) → Reading (List RefPair)
  | 0 => throw .malformed
  | fuel + 1 => do
    match ← peek, isFirst with
    | .flowMappingEnd, _ | _, true => pure ()
    | .flowEntry, false => next
    | _, false => throw .malformed
    match ← peek with
    | .flowMappingEnd => do
      next
      return []
    | .key => do
      next
      let pair ← flowPair true fuel
      return pair :: (← flowPairs false fuel)
    | _ => do
      let key ← node .flow fuel
      let value ← addEmpty
      return (key, value) :: (← flowPairs false fuel)

end

/-! ## Documents -/

def rootNode : Reading Ref := do
  node .block (4 * (← get).tokens.length + 4)

/-- Passes lines that end a document. -/
def dropDocumentEnds : (fuel : Nat) → Reading Unit
  | 0 => pure ()
  | fuel + 1 => do
    match ← peek with
    | .documentEnd => do
      next
      dropDocumentEnds fuel
    | _ => pure ()

/-- Reads the directives before a document. -/
def directives : (fuel : Nat) → (hasVersion : Bool) → Reading Unit
  | 0, _ => pure ()
  | fuel + 1, hasVersion => do
    match ← peek with
    | .version major => do
      next
      if hasVersion || major != 1 then throw .malformed
      directives fuel true
    | .handle handle meaning => do
      next
      if ((← get).handles.lookup handle).isSome then throw .malformed
      modify fun s => { s with handles := (handle, meaning) :: s.handles }
      directives fuel hasVersion
    | .unknownDirective => do
      next
      directives fuel hasVersion
    | _ => pure ()

/-- Reads the start of a document that must have a start line, and tells whether there is one. -/
def startDocument : Reading Bool := do
  let fuel := (← get).tokens.length + 1
  dropDocumentEnds fuel
  match ← peek with
  | .streamEnd => return false
  | _ => do
    modify fun s => { s with handles := [] }
    directives fuel false
    match ← peek with
    | .documentStart => do
      next
      modify fun s => { s with handles := s.handles ++ defaultHandles }
      return true
    | _ => throw .malformed

/-- The node of a document that began with a start line; it may have no content. -/
def documentContent : Reading Ref := do
  match ← peek with
  | .version _ | .handle _ _ | .unknownDirective | .documentStart | .documentEnd | .streamEnd =>
    addEmpty
  | _ => rootNode

/-- The node of the first document; only a document with a start line may have directives. -/
def document : Reading (Option Ref) := do
  let root ← match ← peek with
    | .version _ | .handle _ _ | .unknownDirective | .documentStart | .streamEnd => do
      if ← startDocument then some <$> documentContent else pure none
    | _ => some <$> rootNode
  if root.isSome then
    match ← peek with
    | .documentEnd => next
    | _ => pure ()
  return root

/-- The node of the only document, if there is one. -/
def onlyDocument : Reading (Option Ref) := do
  let root ← document
  if ← startDocument then throw .malformed
  return root

end Grammar

def Graph.ofTokens (tokens : Tokens) : Except Fault Graph := do
  let start : Grammar.State := ⟨tokens.certain, tokens.trouble, #[], [], Grammar.defaultHandles, 0⟩
  let (root, s) ← Grammar.onlyDocument.run start
  return ⟨s.nodes, root⟩

end DocEnum.Yaml
