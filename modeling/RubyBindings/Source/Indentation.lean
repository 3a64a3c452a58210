/-
Module: RubyBindings.Source.Indentation
Purpose: What one level of indentation is written with.
Main exports: Indentation, Indentation.leading
-/

namespace RubyBindings.Source

/-- One level of indentation: a number of spaces, or a tab. -/
inductive Indentation where
  | spaces (width : Nat)
  | tab
deriving DecidableEq, Repr

namespace Indentation

/-- Four spaces, the indentation of generated C++. -/
def cpp : Indentation := .spaces 4

/-- Two spaces. -/
def compact : Indentation := .spaces 2

/-- The characters in front of a line at the given depth. -/
def leading : Indentation → Nat → List Char
  | .spaces width, depth => List.replicate (width * depth) ' '
  | .tab, depth => List.replicate depth '\t'

instance : Inhabited Indentation := ⟨cpp⟩

end Indentation

end RubyBindings.Source
