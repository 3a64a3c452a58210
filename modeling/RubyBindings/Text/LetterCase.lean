/-
Module: RubyBindings.Text.LetterCase
Purpose: Letter case of single characters after the Unicode standard: the derived properties
  Uppercase and Lowercase, and the full, context-free mappings, which may give several characters.
  ASCII is decided by comparison and never reaches the tables.
Main exports: isUppercase, isLowercase, uppercase, lowercase
-/
import RubyBindings.Text.LetterCaseTable

namespace RubyBindings.Text

/-- The number of ASCII code points. -/
def asciiLimit : Nat := 0x80

/-- The Unicode derived property Uppercase. -/
def isUppercase (character : Char) : Bool :=
  if character.toNat < asciiLimit then character.isUpper
  else uppercaseRanges.any (·.contains character.toNat)

/-- The Unicode derived property Lowercase. -/
def isLowercase (character : Char) : Bool :=
  if character.toNat < asciiLimit then character.isLower
  else lowercaseRanges.any (·.contains character.toNat)

/-- Look a code point up in the expansions first, then in the shifts; a code point in neither table
maps to itself. -/
def mapCode (expansions : List (Nat × List Nat)) (shifts : List CodeShift) (code : Nat) :
    List Nat :=
  match expansions.lookup code with
  | some codes => codes
  | none =>
    match shifts.find? (·.range.contains code) with
    | some shift => [shift.apply code]
    | none => [code]

/-- The full uppercase mapping of one character. -/
def uppercase (character : Char) : List Char :=
  if character.toNat < asciiLimit then [character.toUpper]
  else (mapCode uppercaseExpansions uppercaseShifts character.toNat).map Char.ofNat

/-- The full lowercase mapping of one character. -/
def lowercase (character : Char) : List Char :=
  if character.toNat < asciiLimit then [character.toLower]
  else (mapCode lowercaseExpansions lowercaseShifts character.toNat).map Char.ofNat

end RubyBindings.Text
