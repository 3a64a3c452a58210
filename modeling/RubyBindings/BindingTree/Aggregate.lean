/-
Module: RubyBindings.BindingTree.Aggregate
Purpose: Moving fragments up: every node hands its fragments to its parent after its children have
  handed theirs to it, so that in the end the root holds all of them, each node's own before those
  of the nodes below it.
Main exports: BindingTree.process
-/
import RubyBindings.BindingTree.Basic

namespace RubyBindings.BindingTree

variable {hierarchy : Hierarchy}

/-- Mark a node as processed, and move its fragments to the end of its parent's. The root keeps
its own. -/
def handOver (tree : BindingTree hierarchy) (id : NodeId) : BindingTree hierarchy :=
  let tree := tree.update id fun node => { node with stage := .processed }
  match (tree.node id).parent with
  | none => tree
  | some parent =>
    let fragments := (tree.node id).fragments
    let tree := tree.update id fun node => { node with fragments := .empty }
    tree.update parent fun node => { node with fragments := node.fragments.append fragments }

/-- Move the fragments of a subtree up, at most `depth` levels down. -/
def aggregateWithin : Nat → NodeId → BindingTree hierarchy → BindingTree hierarchy
  | 0, _, tree => tree
  | depth + 1, id, tree =>
    let tree := (tree.children id).foldl (fun tree child => aggregateWithin depth child tree) tree
    tree.handOver id

/-- Move the fragments of a subtree up. A branch of nodes is no longer than the tree. -/
def aggregate (tree : BindingTree hierarchy) (id : NodeId) : BindingTree hierarchy :=
  aggregateWithin tree.size id tree

/-- Refuse an operation on a subtree unless every node of it is sorted. -/
def requireSorted (tree : BindingTree hierarchy) (id : NodeId) : Except GenerationError Unit :=
  (tree.descendants id).forM (tree.requireStage .process [.sorted] .sorted)

/-- Move the fragments of a subtree up, if every node of it is sorted; otherwise nothing
changes. -/
def process (id : NodeId) : Attempt (BindingTree hierarchy) GenerationError Unit := do
  Attempt.ofExcept ((← get).requireSorted id)
  modify fun tree => tree.aggregate id

end RubyBindings.BindingTree
