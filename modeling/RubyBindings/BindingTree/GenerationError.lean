/-
Module: RubyBindings.BindingTree.GenerationError
Purpose: The errors that end the generation of a unit. Nothing is written after one.
Main exports: TreeOperation, GenerationError, GenerationError.message, GenerationError.code,
  GenerationError.help?
-/
import RubyBindings.BindingTree.Node
import RubyBindings.Naming.Identifier

namespace RubyBindings

open Naming (IdentifierFault)

/-- The operations on a binding tree that have to come in order. -/
inductive TreeOperation where
  | build
  | sort
  | emit
  | process
deriving DecidableEq, Repr

/-- The word for an operation. -/
def TreeOperation.name : TreeOperation → String
  | .build => "build"
  | .sort => "sort"
  | .emit => "emit"
  | .process => "process"

/-- What can end the generation of a unit. -/
inductive GenerationError where
  /-- The superclasses above an entity never end. -/
  | cyclicHierarchy (entity : String)
  /-- A node is not at the stage that an operation needs. -/
  | outOfOrder (operation : TreeOperation) (node : String) (found expected : NodeStage)
  /-- An entity stands where its kind cannot be wrapped. -/
  | unsupportedEntity (kind : DeclarationKind) (name : String) (parent : NodeKind)
  | invalidUnitName (name : String) (fault : IdentifierFault)
deriving DecidableEq, Repr

namespace GenerationError

/-- What the user is told. -/
def message : GenerationError → String
  | .cyclicHierarchy entity => "cyclic class hierarchy detected at '" ++ entity ++ "'"
  | .outOfOrder operation node found expected =>
    "cannot " ++ operation.name ++ " '" ++ node ++ "': node is " ++ found.name ++ ", expected " ++
      expected.name
  | .unsupportedEntity kind name parent =>
    kind.name ++ " '" ++ name ++ "' cannot be wrapped inside " ++ parent.name ++ " node"
  | .invalidUnitName name fault => "cannot generate unit '" ++ name ++ "': " ++ fault.message

/-- The code of an error, for users who look it up. -/
def code : GenerationError → String
  | .cyclicHierarchy _ => "ricegen::cyclic_hierarchy"
  | .outOfOrder _ _ _ _ => "ricegen::out_of_order"
  | .unsupportedEntity _ _ _ => "ricegen::unsupported_entity"
  | .invalidUnitName _ _ => "ricegen::invalid_unit_name"

/-- Advice on how to mend an error. -/
def help? : GenerationError → Option String
  | .cyclicHierarchy _ => some "a class cannot be its own direct or indirect superclass"
  | .outOfOrder _ _ _ _ => some "a tree must be built, then sorted, then emitted exactly once"
  | .unsupportedEntity _ _ _ => none
  | .invalidUnitName _ _ =>
    some ("the library name becomes the `Init_` function and the file name, " ++
      "so it must be a C identifier")

end GenerationError

end RubyBindings
