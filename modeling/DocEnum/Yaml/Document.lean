import DocEnum.Value.SetOrder
import DocEnum.Value.Shown
import DocEnum.Yaml.Binary
import DocEnum.Yaml.Node

/-!
# YAML documents

A document is a graph of values, one for each node that the root leads to. Lists, mappings and sets
name what they hold by its place, since they may hold themselves; `view` unfolds a value into a
tree and stops where a value is met again inside itself.

**Order.** A scalar gets its value as soon as it is met. Lists, mappings and sets are filled in the
order in which they were met, starting from the root, so of two faults the one nearer to the root
counts.

**Mappings.** Of pairs with the same key the first key and the last value count. A key must be a
value that can be compared as a whole, so no list, no mapping and no set. The pairs of a merged
mapping come before the mapping's own.
-/

namespace DocEnum.Yaml

/-! ## Scalars -/

/-- The text of a node that is used as a scalar: a mapping is used by its default value. -/
def textOf (nodes : Array Node) : (fuel : Nat) → Ref → Except Fault Text
  | 0, _ => .error .tooDeep
  | fuel + 1, ref =>
    match nodes[ref]? with
    | some ⟨_, .scalar text⟩ => .ok text
    | some ⟨_, .mapping pairs⟩ =>
      match pairs.find? fun (key, _) => nodes[key]?.any fun node => node.tag == .value with
      | some (_, value) => textOf nodes fuel value
      | none => .error .malformed
    | _ => .error .malformed

/-- The value of a text that is said to be something. -/
def scalarValue (tag : Tag) (t : Text) : Except Fault Value :=
  match tag with
  | .null => .ok .null
  | .bool => ((Plain.bool? t).map Value.bool).elim (.error .notTruth) .ok
  | .int => Plain.intOf t
  | .float => Plain.floatOf t
  | .binary => ((base64? t).map Value.bytes).elim (.error .malformed) .ok
  | .timestamp =>
    (Plain.timestamp? t).elim (.error .notTime) fun time =>
      (Plain.timestampOf time).mapError .value
  | .text => .ok (.text t)
  | _ => .error .malformed

/-! ## Items of a document -/

inductive Item where
  /-- A value without parts; a shared one is the same wherever it is written. -/
  | scalar (value : Value) (isShared : Bool)
  | list (items : List Ref)
  | pairs (pairs : List RefPair)
  | set (keys : List Ref)
  | mapping (pairs : List RefPair)

/-- Whether two values are the same key of a mapping. What is no number is a key of its own, except
that the word for it always means the same. -/
def Item.sameKey : Item → Item → Bool
  | scalar v s, scalar w t => v.sameKey w || (s && t)
  | _, _ => false

/-! ## Building -/

/-- The nodes of a graph with the items made of them so far. -/
structure Building where
  nodes : Array Node
  /-- The item of each node that has been met. -/
  items : Array (Option Item)
  /-- The nodes with parts, in the order in which they were met. -/
  queue : Array Ref

abbrev Build := StateT Building (Except Fault)

namespace Build

def nodeAt (ref : Ref) : Build Node := do
  match (← get).nodes[ref]? with
  | some node => return node
  | none => throw .malformed

/-- The pairs of a node that must be a mapping. -/
def pairsAt (ref : Ref) : Build (List RefPair) := do
  match (← nodeAt ref).content with
  | .mapping pairs => return pairs
  | _ => throw .malformed

/-- The items of a node that must be a sequence. -/
def itemsAt (ref : Ref) : Build (List Ref) := do
  match (← nodeAt ref).content with
  | .sequence items => return items
  | _ => throw .malformed

def changeNode (ref : Ref) (f : Node → Node) : Build Unit :=
  modify fun s => { s with nodes := s.nodes.modify ref f }

def setItem (ref : Ref) (item : Item) : Build Unit :=
  modify fun s => { s with items := s.items.setIfInBounds ref (some item) }

def itemAt (ref : Ref) : Build (Option Item) :=
  return (← get).items[ref]?.join

/-! ### Meeting a node -/

/-- The value of a node that is said to be a scalar. -/
def scalarItem (ref : Ref) (tag : Tag) : Build Item := do
  let nodes := (← get).nodes
  let text ← textOf nodes (nodes.size + 1) ref
  match tag, (← nodeAt ref).content with
  | .timestamp, .mapping _ => throw .timeOfMapping
  | _, _ => return .scalar (← scalarValue tag text) (tag == .float && Plain.isNoNumber text)

/-- Remembers a node that is filled later. -/
def enqueue (ref : Ref) (item : Item) : Build Unit := do
  setItem ref item
  modify fun s => { s with queue := s.queue.push ref }

/-- Makes the item of a node, without its parts, unless that was done before. -/
def meet (ref : Ref) : Build Unit := do
  if (← itemAt ref).isNone then
    match (← nodeAt ref).tag with
    | .sequence => enqueue ref (.list [])
    | .orderedMapping | .pairs => enqueue ref (.pairs [])
    | .set => enqueue ref (.set [])
    | .mapping => enqueue ref (.mapping [])
    | tag => do setItem ref (← scalarItem ref tag)

/-! ### Merging -/

/-- Marks a key that stands for the default value as a text. -/
def relabel (node : Node) : Node :=
  if node.tag == .value then { node with tag := .text } else node

/-- Replaces each merge key of a mapping after the first `passed` pairs by the pairs of what is
merged, in front of all others; `merged` are those found so far. -/
def flattenFrom : (fuel : Nat) → (ref : Ref) → (passed : Nat) → (merged : List RefPair) → Build Unit
  | 0, _, _, _ => throw .tooDeep
  | fuel + 1, ref, passed, merged => do
    let pairs ← pairsAt ref
    match pairs[passed]? with
    | none => changeNode ref fun node => { node with content := .mapping (merged ++ pairs) }
    | some (key, value) =>
      if (← nodeAt key).tag == .merge then
        changeNode ref fun node => { node with content := .mapping (pairs.eraseIdx passed) }
        let sources := match (← nodeAt value).content with
          | .sequence items => items
          | _ => [value]
        -- What is merged is flattened first, and stays so wherever else it is used.
        let parts ← sources.mapM fun source => do
          let _ ← pairsAt source
          flattenFrom fuel source 0 []
          pairsAt source
        flattenFrom fuel ref passed (merged ++ parts.reverse.flatten)
      else do
        changeNode key relabel
        flattenFrom fuel ref (passed + 1) merged

/-- The pairs of a mapping with merged mappings in front. -/
def flattened (ref : Ref) : Build (List RefPair) := do
  let _ ← pairsAt ref
  let count := (← get).nodes.foldl (fun n node =>
    match node.content with
    | .mapping pairs => n + pairs.length + 1
    | _ => n) 1
  flattenFrom (count * count) ref 0 []
  pairsAt ref

/-! ### Filling -/

/-- Pairs with a value for a key, which keeps its place if it is known. -/
def insert (items : Array (Option Item)) (key value : Ref) : List RefPair → List RefPair
  | [] => [(key, value)]
  | (k, v) :: rest =>
    let isSame := k == key ||
      ((items[k]?.join).any fun a => (items[key]?.join).any fun b => a.sameKey b)
    if isSame then (k, value) :: rest else (k, v) :: insert items key value rest

/-- The members of a mapping, after those already known. -/
def members : (known : List RefPair) → List RefPair → Build (List RefPair)
  | known, [] => return known
  | known, (key, value) :: rest => do
    meet key
    match ← itemAt key with
    | some (.scalar _ _) => do
      meet value
      members (insert (← get).items key value known) rest
    | _ => throw .malformed

/-- The only pair of a mapping, with both parts met. -/
def onlyPair (ref : Ref) : Build RefPair := do
  match ← pairsAt ref with
  | [(key, value)] => do
    meet key
    meet value
    return (key, value)
  | _ => throw .malformed

/-- Fills a node with its parts. -/
def fill (ref : Ref) : Build Unit := do
  match ← itemAt ref with
  | some (.list _) => do
    let items ← itemsAt ref
    items.forM meet
    setItem ref (.list items)
  | some (.pairs _) => do setItem ref (.pairs (← (← itemsAt ref).mapM onlyPair))
  | some (.set _) => do setItem ref (.set ((← members [] (← flattened ref)).map Prod.fst))
  | some (.mapping _) => do setItem ref (.mapping (← members [] (← flattened ref)))
  | _ => pure ()

/-- Fills the nodes of the queue from a place on; filling may lengthen the queue. -/
def fillFrom : (fuel : Nat) → (place : Nat) → Build Unit
  | 0, _ => pure ()
  | fuel + 1, place => do
    match (← get).queue[place]? with
    | none => pure ()
    | some ref => do
      fill ref
      fillFrom fuel (place + 1)

end Build

/-! ## Documents -/

/-- A graph of values. -/
structure Document where
  items : Array (Option Item)
  root : Ref

namespace Document

/-- The document without a value. -/
def empty : Document := ⟨#[some (.scalar .null false)], 0⟩

def ofGraph (graph : Graph) : Except Fault Document :=
  match graph.root with
  | none => .ok empty
  | some root =>
    let build : Build Unit := do
      Build.meet root
      Build.fillFrom (graph.nodes.size + 1) 0
    match build.run ⟨graph.nodes, graph.nodes.map fun _ => none, #[]⟩ with
    | .error fault => .error fault
    | .ok ((), s) => .ok ⟨s.items, root⟩

def item? (d : Document) (ref : Ref) : Option Item :=
  d.items[ref]?.join

/-- The tree of a value inside the given ones. -/
def viewFrom (d : Document) : (fuel : Nat) → (around : List Ref) → Ref → Value
  | 0, _, _ => .null
  | fuel + 1, around, ref =>
    let view := d.viewFrom fuel (ref :: around)
    let isInside := around.contains ref
    match d.item? ref with
    | none => .null
    | some (.scalar value _) => value
    | some (.list items) => if isInside then .sameList else .list (items.map view)
    | some (.pairs pairs) =>
      if isInside then .sameList
      else .list (pairs.map fun (key, value) => .tuple [view key, view value])
    | some (.set keys) => .set (Value.setOrder (keys.map view))
    | some (.mapping pairs) =>
      if isInside then .sameMapping
      else .mapping (pairs.map fun (key, value) => (view key, view value))

/-- The tree of a value by itself. -/
def view (d : Document) (ref : Ref) : Value :=
  d.viewFrom (d.items.size + 1) [] ref

def members? (d : Document) (ref : Ref) : Option (List RefPair) :=
  match d.item? ref with
  | some (.mapping pairs) => some pairs
  | _ => none

def member? (d : Document) (pairs : List RefPair) (name : Text) : Option Ref :=
  (pairs.find? fun (key, _) =>
    match d.item? key with
    | some (.scalar (.text t) _) => t == name
    | _ => false).map Prod.snd

end Document

end DocEnum.Yaml
