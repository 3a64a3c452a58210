/-
Module: RubyBindings.Hierarchy
Purpose: Declarations nested in one another. A hierarchy is what code generation reads: entities
  numbered from zero, the root first, each with its declaration, its parent and its children. It
  promises nothing about how these links fit together; `Descends` is the promise that generation
  needs, and a library keeps it.
Main exports: Entity, Hierarchy, Hierarchy.isEligible, Hierarchy.isWrapped, Hierarchy.Descends
-/
import RubyBindings.Declaration

namespace RubyBindings

/-- A declaration in its place. -/
structure Entity where
  declaration : Declaration
  /-- The enclosing entity; the root has none. -/
  parent : Option EntityId
  /-- The directly nested entities, in the order of their declaration. -/
  children : List EntityId
  /-- The fully qualified C++ name, such as `geo::Circle`; empty for the root. -/
  qualifiedName : String
deriving DecidableEq, Repr

/-- What an id that is no entity's reads as: a namespace without a name, parent or children. -/
def Entity.absent : Entity where
  declaration := { kind := .namespaceScope, name := "" }
  parent := none
  children := []
  qualifiedName := ""

/-- A declaration hierarchy: the entities by id, and the headers that every generated unit
includes. -/
structure Hierarchy where
  entities : List Entity
  headers : List String
deriving DecidableEq, Repr

namespace Hierarchy

/-- The top-level entity, the global namespace of the wrapped library. -/
def root : EntityId := 0

/-- The number of entities, the root included. -/
def size (hierarchy : Hierarchy) : Nat :=
  hierarchy.entities.length

/-- The entity with the given id. -/
def entity (hierarchy : Hierarchy) (id : EntityId) : Entity :=
  hierarchy.entities.getD id Entity.absent

/-- The declaration with the given id. -/
def declaration (hierarchy : Hierarchy) (id : EntityId) : Declaration :=
  (hierarchy.entity id).declaration

/-- The enclosing entity. -/
def parent (hierarchy : Hierarchy) (id : EntityId) : Option EntityId :=
  (hierarchy.entity id).parent

/-- The directly nested entities. -/
def children (hierarchy : Hierarchy) (id : EntityId) : List EntityId :=
  (hierarchy.entity id).children

/-- The fully qualified C++ name; empty for the root. -/
def qualifiedName (hierarchy : Hierarchy) (id : EntityId) : String :=
  (hierarchy.entity id).qualifiedName

/-- The unqualified name; for the root, the name of the library. -/
def name (hierarchy : Hierarchy) (id : EntityId) : String :=
  (hierarchy.declaration id).name

/-- What an entity declares. -/
def kind (hierarchy : Hierarchy) (id : EntityId) : DeclarationKind :=
  (hierarchy.declaration id).kind

/-- The direct superclass. -/
def superclass (hierarchy : Hierarchy) (id : EntityId) : Option EntityId :=
  (hierarchy.declaration id).superclass

/-- Should this entity be wrapped where it is declared, whatever its scope? -/
def isEligible (hierarchy : Hierarchy) (id : EntityId) : Bool :=
  (hierarchy.declaration id).isEligible

/-- Is an entity eligible together with the scopes around it, looking at most `steps` entities up?
The root counts as eligible whatever its flags. -/
def isWrappedWithin (hierarchy : Hierarchy) : Nat → EntityId → Bool
  | 0, _ => true
  | steps + 1, id =>
    match hierarchy.parent id with
    | none => true
    | some enclosing => hierarchy.isEligible id && hierarchy.isWrappedWithin steps enclosing

/-- Does an entity end up in the generated code: is it eligible along with every scope enclosing
it? A chain of parents without repetition is no longer than the hierarchy. -/
def isWrapped (hierarchy : Hierarchy) (id : EntityId) : Bool :=
  hierarchy.isWrappedWithin hierarchy.size id

/-- Every child has a larger id than the entity it is nested in, and is an entity. -/
def Descends (hierarchy : Hierarchy) : Prop :=
  ∀ id < hierarchy.size, ∀ child ∈ hierarchy.children id, id < child ∧ child < hierarchy.size

instance (hierarchy : Hierarchy) : Decidable hierarchy.Descends :=
  inferInstanceAs (Decidable (∀ id < hierarchy.size, ∀ child ∈ hierarchy.children id,
    id < child ∧ child < hierarchy.size))

end Hierarchy

end RubyBindings
