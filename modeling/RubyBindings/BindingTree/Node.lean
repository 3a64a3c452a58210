/-
Module: RubyBindings.BindingTree.Node
Purpose: Nodes of a binding tree. A node stands for one wrapped entity, and goes through four
  stages, forwards only.
Main exports: NodeId, NodeKind, NodeKind.child?, NodeStage, Handle, BindingNode
-/
import RubyBindings.Declaration
import RubyBindings.Fragments

namespace RubyBindings

/-- The place of a node in its tree. -/
abbrev NodeId := Nat

/-- The text of a node id. -/
def NodeId.display (id : NodeId) : String :=
  "n" ++ Nat.repr id

/-- What is generated for a node. -/
inductive NodeKind where
  /-- The root: one Ruby extension for the whole library. -/
  | extension
  | moduleScope
  | classType
  | constructor
  /-- A member function, static or not. -/
  | method
  /-- A free function. -/
  | function
  | enumType
deriving DecidableEq, Repr

namespace NodeKind

/-- The word for a node kind. -/
def name : NodeKind → String
  | .extension => "extension"
  | .moduleScope => "module"
  | .classType => "class"
  | .constructor => "constructor"
  | .method => "method"
  | .function => "function"
  | .enumType => "enum"

/-- The kind of node that a declaration becomes inside a node of this kind, if it can be wrapped
there. Scopes take namespaces, functions and types; classes take constructors, methods and
types. -/
def child? : NodeKind → DeclarationKind → Option NodeKind
  | .extension, .namespaceScope | .moduleScope, .namespaceScope => some .moduleScope
  | .extension, .function | .moduleScope, .function => some .function
  | .classType, .constructor => some .constructor
  | .classType, .method => some .method
  | .extension, .classType | .moduleScope, .classType | .classType, .classType => some .classType
  | .extension, .enumType | .moduleScope, .enumType | .classType, .enumType => some .enumType
  | _, _ => none

end NodeKind

/-- How far a node has come. -/
inductive NodeStage where
  | created
  | built
  | sorted
  /-- The fragments have been handed to the parent. -/
  | processed
deriving DecidableEq, Repr

/-- The word for a stage. -/
def NodeStage.name : NodeStage → String
  | .created => "created"
  | .built => "built"
  | .sorted => "sorted"
  | .processed => "processed"

/-- The generated variable that a scope or type is registered into, and its C++ type. -/
structure Handle where
  name : String
  type : String
deriving DecidableEq, Repr

/-- One node: its entity, its place in the tree, and what has been generated for it. -/
structure BindingNode where
  entity : EntityId
  kind : NodeKind
  /-- The node it belongs to; the root has none. -/
  parent : Option NodeId
  /-- The nodes inside it, in the order of their making until they are sorted. -/
  children : List NodeId := []
  fragments : Fragments := .empty
  handle : Option Handle := none
  stage : NodeStage := .created
deriving DecidableEq, Repr

end RubyBindings
