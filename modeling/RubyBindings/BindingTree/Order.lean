/-
Module: RubyBindings.BindingTree.Order
Purpose: Sorting a tree: the subtrees of the children first, then the children themselves by
  ascending rank, so that a class stands behind its superclasses among its siblings. Siblings of
  one rank keep their order.
Main exports: BindingTree.sort, stableSort
-/
import RubyBindings.BindingTree.Basic

namespace RubyBindings

/-- Put an item with a rank into a list that is ordered by rank, behind the items that have no
larger one. -/
def insertRanked {α : Type} (item : Nat × α) : List (Nat × α) → List (Nat × α)
  | [] => [item]
  | first :: rest =>
    if item.1 < first.1 then item :: first :: rest else first :: insertRanked item rest

/-- Order items by ascending rank; items of one rank keep their order. -/
def stableSort {α : Type} (items : List (Nat × α)) : List (Nat × α) :=
  items.foldl (fun sorted item => insertRanked item sorted) []

namespace BindingTree

variable {hierarchy : Hierarchy}

/-- A list of nodes with their ranks. -/
def ranked (tree : BindingTree hierarchy) (ids : List NodeId) :
    Except GenerationError (List (Nat × NodeId)) :=
  ids.mapM fun id => do return (← tree.rank id, id)

/-- A list of nodes in ascending order of their ranks. -/
def orderedByRank (tree : BindingTree hierarchy) (ids : List NodeId) :
    Except GenerationError (List NodeId) := do
  return (stableSort (← tree.ranked ids)).map Prod.snd

/-- Sort a subtree, at most `depth` levels down. -/
def sortWithin : Nat → NodeId → Attempt (BindingTree hierarchy) GenerationError Unit
  | 0, _ => return
  | depth + 1, id => do
    let tree ← get
    Attempt.ofExcept (tree.requireStage .sort [.built, .sorted] .built id)
    (tree.children id).forM (sortWithin depth)
    let children ← Attempt.ofExcept ((← get).orderedByRank (tree.children id))
    modify fun tree => tree.update id fun node => { node with children, stage := .sorted }

/-- Sort the subtree of a node. A branch of nodes is no longer than the tree. -/
def sort (id : NodeId) : Attempt (BindingTree hierarchy) GenerationError Unit := do
  sortWithin (← get).size id

end BindingTree

end RubyBindings
