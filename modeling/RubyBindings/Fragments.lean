/-
Module: RubyBindings.Fragments
Purpose: Pieces of generated C++ in three ordered sequences, which stay apart until a unit is laid
  out.
Main exports: Fragments, Fragments.append, Fragments.toList
-/

namespace RubyBindings

/-- Include lines, declarations in front of the initialiser, and registrations inside it. -/
structure Fragments where
  includes : List String := []
  declarations : List String := []
  registrations : List String := []
deriving DecidableEq, Repr

namespace Fragments

/-- No fragments. -/
def empty : Fragments := {}

/-- Is there no fragment? -/
def isEmpty (fragments : Fragments) : Bool :=
  fragments.includes.isEmpty && fragments.declarations.isEmpty && fragments.registrations.isEmpty

/-- The number of fragments. -/
def size (fragments : Fragments) : Nat :=
  fragments.includes.length + fragments.declarations.length + fragments.registrations.length

/-- Put the fragments of `later` behind those of `earlier`, sequence by sequence. -/
def append (earlier later : Fragments) : Fragments where
  includes := earlier.includes ++ later.includes
  declarations := earlier.declarations ++ later.declarations
  registrations := earlier.registrations ++ later.registrations

/-- Every fragment, one sequence after the other. -/
def toList (fragments : Fragments) : List String :=
  fragments.includes ++ fragments.declarations ++ fragments.registrations

end Fragments

end RubyBindings
