/-
Module: RubyBindings.BindingTree.Snapshot
Purpose: A subtree as a value of its own, to be kept or written down.
Main exports: NodeSnapshot, BindingTree.snapshot
-/
import RubyBindings.BindingTree.Basic

namespace RubyBindings

/-- A node and the nodes below it. -/
structure NodeSnapshot where
  id : NodeId
  kind : NodeKind
  name : String
  stage : NodeStage
  handle : Option Handle
  fragments : Fragments
  children : List NodeSnapshot

namespace BindingTree

variable {hierarchy : Hierarchy}

/-- A subtree as a value, at most `depth` levels down. -/
def snapshotWithin (tree : BindingTree hierarchy) : Nat → NodeId → NodeSnapshot
  | 0, id => ofNode tree id []
  | depth + 1, id => ofNode tree id ((tree.children id).map (tree.snapshotWithin depth))
where
  /-- A node as a value, with what stands below it. -/
  ofNode (tree : BindingTree hierarchy) (id : NodeId) (children : List NodeSnapshot) :
      NodeSnapshot :=
    let node := tree.node id
    { id
      kind := node.kind
      name := tree.name id
      stage := node.stage
      handle := node.handle
      fragments := node.fragments
      children }

/-- The subtree of a node as a value. -/
def snapshot (tree : BindingTree hierarchy) (id : NodeId) : NodeSnapshot :=
  tree.snapshotWithin tree.size id

end BindingTree

end RubyBindings
