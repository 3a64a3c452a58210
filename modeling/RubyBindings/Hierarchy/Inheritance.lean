/-
Module: RubyBindings.Hierarchy.Inheritance
Purpose: The superclass chain of an entity. Its length is the entity's inheritance depth, and a
  chain that comes back to an entity it has passed has none.
Main exports: Hierarchy.inheritanceDepth?
-/
import RubyBindings.Hierarchy

namespace RubyBindings.Hierarchy

/-- The number of superclass links from `current` on, if the chain ends without meeting an entity
in `seen`. At most `links` links are followed. -/
def chainLength? (hierarchy : Hierarchy) : Nat → List EntityId → EntityId → Option Nat
  | 0, _, _ => none
  | links + 1, seen, current =>
    match hierarchy.superclass current with
    | none => some 0
    | some superclass =>
      if superclass ∈ seen then none
      else (hierarchy.chainLength? links (superclass :: seen) superclass).map (· + 1)

/-- The number of superclasses above an entity, or `none` if its chain of superclasses never ends.
A chain without repetition is no longer than the hierarchy. -/
def inheritanceDepth? (hierarchy : Hierarchy) (id : EntityId) : Option Nat :=
  hierarchy.chainLength? (hierarchy.size + 1) [id] id

end RubyBindings.Hierarchy
