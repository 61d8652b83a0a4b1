import DocEnum.Yaml.Plain

/-!
# YAML nodes

A node is a scalar, a sequence or a mapping, with a tag that says what it stands for. The nodes of a
text form a graph: an alias names the node of its anchor, which it may itself be inside of, so
nodes are told apart by their place in an array and name each other by it.
-/

namespace DocEnum.Yaml

/-- The place of a node in its graph. -/
abbrev Ref := Nat

abbrev RefPair := Ref × Ref

/-- What a node consists of. -/
inductive Content where
  | scalar (text : Text)
  | sequence (items : List Ref)
  | mapping (pairs : List RefPair)

structure Node where
  tag : Tag
  content : Content

structure Graph where
  nodes : Array Node
  root : Option Ref

/-- A tag that is a single mark says nothing. -/
def bareTag : Text := ['!']

/-- What a scalar stands for: what its tag says, or what it is by its form if it is plain or if its
tag says nothing, and else a text. -/
def scalarTag (tag : Option Text) (plain : Bool) (text : Text) : Tag :=
  match tag with
  | some name => if name = bareTag then Plain.tag text else Tag.ofName name
  | none => if plain then Plain.tag text else .text

/-- What a sequence or a mapping stands for: what its tag says, or the usual. -/
def collectionTag (tag : Option Text) (usual : Tag) : Tag :=
  match tag with
  | some name => if name = bareTag then usual else Tag.ofName name
  | none => usual

end DocEnum.Yaml
