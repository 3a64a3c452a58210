/-
Module: RubyBindings.Text.Search
Purpose: The first place of one text inside another, counted in bytes of UTF-8.
Main exports: byteLength, firstOccurrence
-/

namespace RubyBindings.Text

/-- The number of UTF-8 bytes of a character list. -/
def byteLength (characters : List Char) : Nat :=
  characters.foldr (fun character total => character.utf8Size + total) 0

/-- The characters before the first place where `pattern` begins in `characters`. -/
def before? (pattern : List Char) : List Char → Option (List Char)
  | [] => if pattern.isEmpty then some [] else none
  | character :: rest =>
    if pattern.isPrefixOf (character :: rest) then some []
    else (before? pattern rest).map (character :: ·)

/-- The byte offset of the first occurrence of `pattern` in `text`. -/
def firstOccurrence (pattern text : String) : Option Nat :=
  (before? pattern.toList text.toList).map byteLength

end RubyBindings.Text
