/-
Module: RubyBindings.Text.Lines
Purpose: The lines of a text. A line ends at a newline, and a carriage return directly before that
  newline belongs to the line end. A text that ends in a newline has no further empty line, and a
  carriage return with no newline after it is an ordinary character.
Main exports: lineList, lines
-/

namespace RubyBindings.Text

/-- The lines of a character list. -/
def lineList : List Char → List (List Char)
  | [] => []
  | '\n' :: rest => [] :: lineList rest
  | '\r' :: '\n' :: rest => [] :: lineList rest
  | character :: rest =>
    match lineList rest with
    | [] => [[character]]
    | line :: more => (character :: line) :: more

/-- The lines of a text, without their line ends. -/
def lines (text : String) : List String :=
  (lineList text.toList).map String.ofList

end RubyBindings.Text
