/-
Module: RubyBindings.Registration.Overload
Purpose: Overloads, the eligible declarations of a scope that share kind and name, and the Ruby
  names that keep them apart.
Main exports: Overload, Hierarchy.overload, Hierarchy.callableName
-/
import RubyBindings.Hierarchy
import RubyBindings.Naming.CaseStyle

namespace RubyBindings

open Naming (snakeCase)

/-- The place of a declaration among its overloads, and their number. -/
structure Overload where
  position : Nat
  count : Nat
deriving DecidableEq, Repr

namespace Hierarchy

/-- Do two entities declare overloads of each other? -/
def sharesSignature (hierarchy : Hierarchy) (id other : EntityId) : Bool :=
  hierarchy.kind other == hierarchy.kind id && hierarchy.name other == hierarchy.name id

/-- The eligible children of a scope that are overloads of an entity. -/
def overloads (hierarchy : Hierarchy) (scope id : EntityId) : List EntityId :=
  (hierarchy.children scope).filter fun sibling =>
    hierarchy.isEligible sibling && hierarchy.sharesSignature id sibling

/-- The place of an entity among its overloads. An entity that is none of them counts as the first,
and as the only one if there are none. -/
def overload (hierarchy : Hierarchy) (id : EntityId) : Overload :=
  match hierarchy.parent id with
  | none => { position := 0, count := 1 }
  | some scope =>
    let overloads := hierarchy.overloads scope id
    { position := (overloads.idxOf? id).getD 0, count := max overloads.length 1 }

/-- Is a declaration a method or a function? -/
def isCallable (hierarchy : Hierarchy) (id : EntityId) : Bool :=
  hierarchy.kind id == .method || hierarchy.kind id == .function

/-- The snake case names of the eligible methods and functions of a scope that are no overloads of
an entity. -/
def takenNames (hierarchy : Hierarchy) (scope id : EntityId) : List String :=
  ((hierarchy.children scope).filter fun sibling =>
    hierarchy.isEligible sibling && hierarchy.isCallable sibling &&
      !hierarchy.sharesSignature id sibling).map fun sibling => snakeCase (hierarchy.name sibling)

end Hierarchy

/-- A name with a number behind it. -/
def suffixed (base : String) (suffix : Nat) : String :=
  base ++ "_" ++ Nat.repr suffix

/-- The first number after `suffix` whose name is not taken, when at most `taken` more names
are. -/
def nextSuffix (taken : List String) (base : String) : Nat → Nat → Nat
  | 0, suffix => suffix + 1
  | attempts + 1, suffix =>
    if suffixed base (suffix + 1) ∈ taken then nextSuffix taken base attempts (suffix + 1)
    else suffix + 1

/-- The `position`-th number whose name is not taken, counted from one. Every name is taken by at
most one number, so the search for each is no longer than the list. -/
def freeSuffix (taken : List String) (base : String) : Nat → Nat
  | 0 => 0
  | position + 1 => nextSuffix taken base taken.length (freeSuffix taken base position)

/-- The Ruby name of a method or function. The first overload has the snake case name, each later
one the next number that no sibling is named with. -/
def Hierarchy.callableName (hierarchy : Hierarchy) (id : EntityId) : String :=
  let base := snakeCase (hierarchy.name id)
  match hierarchy.parent id, (hierarchy.overload id).position with
  | some scope, position + 1 =>
    suffixed base (freeSuffix (hierarchy.takenNames scope id) base (position + 1))
  | _, _ => base

end RubyBindings
