/-
Module: RubyBindings.BindingTree.Basic
Purpose: Binding trees. The nodes of a tree are numbered in the order of their making, the root
  first, and no node is ever taken away; a node left behind by a failed build stays without being
  anyone's child.
Main exports: BindingTree, BindingTree.start, BindingTree.descendants, BindingTree.preorder,
  BindingTree.rank, BindingTree.requireStage
-/
import RubyBindings.Attempt
import RubyBindings.BindingTree.GenerationError
import RubyBindings.Hierarchy.Inheritance
import RubyBindings.Registration.Contribution

namespace RubyBindings

/-- A node with nothing generated for it yet. -/
def BindingNode.fresh (entity : EntityId) (kind : NodeKind) (parent : Option NodeId) :
    BindingNode :=
  { entity, kind, parent }

/-- The nodes generated from one hierarchy. -/
structure BindingTree (hierarchy : Hierarchy) where
  nodes : List BindingNode
deriving DecidableEq, Repr

namespace BindingTree

variable {hierarchy : Hierarchy}

/-- A tree of the root node alone, which is not built yet. -/
def start (hierarchy : Hierarchy) : BindingTree hierarchy where
  nodes := [.fresh Hierarchy.root .extension none]

/-- The root node. -/
def root : NodeId := 0

/-- The number of nodes, the root included. -/
def size (tree : BindingTree hierarchy) : Nat :=
  tree.nodes.length

/-- The node with the given id; an id that is no node's reads as an unbuilt extension. -/
def node (tree : BindingTree hierarchy) (id : NodeId) : BindingNode :=
  tree.nodes.getD id (.fresh Hierarchy.root .extension none)

/-- The children of a node. -/
def children (tree : BindingTree hierarchy) (id : NodeId) : List NodeId :=
  (tree.node id).children

/-- Change one node. -/
def update (tree : BindingTree hierarchy) (id : NodeId) (change : BindingNode → BindingNode) :
    BindingTree hierarchy where
  nodes := tree.nodes.modify id change

/-- Put a node at the end. Its id is the old number of nodes. -/
def append (tree : BindingTree hierarchy) (node : BindingNode) : BindingTree hierarchy where
  nodes := tree.nodes ++ [node]

/-- The name of the unit that a tree generates, which is the library's. -/
def unitName (_tree : BindingTree hierarchy) : String :=
  hierarchy.name Hierarchy.root

/-- The name of a node: its entity's qualified name, or the plain one if there is none. -/
def name (tree : BindingTree hierarchy) (id : NodeId) : String :=
  let entity := (tree.node id).entity
  match hierarchy.qualifiedName entity with
  | "" => hierarchy.name entity
  | qualified => qualified

/-- Take the first node from a list of waiting nodes and put its children in its place, at most
`steps` times. -/
def walk (tree : BindingTree hierarchy) : Nat → List NodeId → List NodeId
  | 0, _ => []
  | _, [] => []
  | steps + 1, current :: waiting => current :: tree.walk steps (tree.children current ++ waiting)

/-- The nodes of a subtree, parents before children, found by walking with a list of waiting nodes.
No node stands in a tree twice, so there are no more steps than nodes. -/
def descendants (tree : BindingTree hierarchy) (id : NodeId) : List NodeId :=
  tree.walk tree.size [id]

/-- The nodes of a subtree, looking at most `depth` levels down: a node, then the nodes below each
of its children. -/
def preorderWithin (tree : BindingTree hierarchy) : Nat → NodeId → List NodeId
  | 0, _ => []
  | depth + 1, id => id :: (tree.children id).flatMap (tree.preorderWithin depth)

/-- The nodes of a subtree in recursive order. A branch is no longer than the tree. -/
def preorder (tree : BindingTree hierarchy) (id : NodeId) : List NodeId :=
  tree.preorderWithin tree.size id

/-- The rank that orders siblings: the inheritance depth of a class, and zero for all else. -/
def rank (tree : BindingTree hierarchy) (id : NodeId) : Except GenerationError Nat :=
  let node := tree.node id
  if node.kind = .classType then
    match hierarchy.inheritanceDepth? node.entity with
    | some depth => .ok depth
    | none => .error (.cyclicHierarchy (hierarchy.qualifiedName node.entity))
  else .ok 0

/-- Refuse an operation on a node that is at none of the allowed stages. -/
def requireStage (tree : BindingTree hierarchy) (operation : TreeOperation)
    (allowed : List NodeStage) (expected : NodeStage) (id : NodeId) :
    Except GenerationError Unit :=
  let found := (tree.node id).stage
  if found ∈ allowed then .ok ()
  else .error (.outOfOrder operation (tree.name id) found expected)

/-- The text of a node itself, once it is built. -/
def emit (tree : BindingTree hierarchy) (id : NodeId) : Except GenerationError String := do
  tree.requireStage .emit [.built, .sorted, .processed] .built id
  return (tree.node id).kind.text hierarchy (tree.node id).entity

end BindingTree

end RubyBindings
