/-
Module: RubyBindings.BindingTree.Build
Purpose: Building a tree: a node generates its own fragments, then every eligible child of its
  entity becomes a node, is built in the same way, and only then counts among the children.
  Entities that are not eligible leave nothing behind.
Main exports: Workspace, BindingTree.build
-/
import RubyBindings.BindingTree.Basic

namespace RubyBindings

/-- What building works on: the tree, and what its nodes share. -/
structure Workspace (hierarchy : Hierarchy) where
  tree : BindingTree hierarchy
  session : Session
deriving DecidableEq, Repr

namespace Workspace

variable {hierarchy : Hierarchy}

/-- Generate the fragments and the variable of a node. -/
def contribute (id : NodeId) (workspace : Workspace hierarchy) : Workspace hierarchy :=
  let node := workspace.tree.node id
  let (fragments, session) := node.kind.contribute hierarchy node.entity workspace.session
  { tree := workspace.tree.update id fun node =>
      { node with fragments, handle := node.kind.handle? hierarchy node.entity }
    session }

/-- Put a new node for an entity below a node. It is no child yet. -/
def addNode (entity : EntityId) (kind : NodeKind) (parent : NodeId)
    (workspace : Workspace hierarchy) : Workspace hierarchy :=
  { workspace with tree := workspace.tree.append (.fresh entity kind (some parent)) }

/-- Make a node the last child of another one. -/
def attach (child parent : NodeId) (workspace : Workspace hierarchy) : Workspace hierarchy :=
  { workspace with
    tree := workspace.tree.update parent fun node =>
      { node with children := node.children ++ [child] } }

/-- Mark a node as built. -/
def finish (id : NodeId) (workspace : Workspace hierarchy) : Workspace hierarchy :=
  { workspace with tree := workspace.tree.update id fun node => { node with stage := .built } }

end Workspace

namespace BindingTree

variable {hierarchy : Hierarchy}

/-- Build the nodes for a list of entities below a node, with `build` for each new node. Building
stops at the first entity that cannot be wrapped there or cannot be built. -/
def buildChildren (build : NodeId → Attempt (Workspace hierarchy) GenerationError Unit)
    (parent : NodeId) (kind : NodeKind) :
    List EntityId → Attempt (Workspace hierarchy) GenerationError Unit
  | [] => return
  | entity :: entities => do
    if hierarchy.isEligible entity then
      match kind.child? (hierarchy.kind entity) with
      | none =>
        throw (.unsupportedEntity (hierarchy.kind entity) (hierarchy.qualifiedName entity) kind)
      | some childKind =>
        let child := (← get).tree.size
        modify (Workspace.addNode entity childKind parent)
        build child
        modify (Workspace.attach child parent)
    buildChildren build parent kind entities

/-- Build a subtree, at most `depth` levels down. -/
def buildWithin : Nat → NodeId → Attempt (Workspace hierarchy) GenerationError Unit
  | 0, _ => return
  | depth + 1, id => do
    let tree := (← get).tree
    Attempt.ofExcept (tree.requireStage .build [.created] .created id)
    modify (Workspace.contribute id)
    let node := tree.node id
    buildChildren (buildWithin depth) id node.kind (hierarchy.children node.entity)
    modify (Workspace.finish id)

/-- Build the subtree of a node. Child ids are larger than their parent's, so no branch of entities
is longer than the hierarchy. -/
def build (id : NodeId) : Attempt (Workspace hierarchy) GenerationError Unit :=
  buildWithin (hierarchy.size + 1) id

end BindingTree

end RubyBindings
