/-
Module: RubyBindings.Toml.Quoted
Purpose: Quoted texts of TOML. Basic texts stand in double quotes and have escapes, literal texts
  stand in single quotes and have none; either may be written over several lines between tripled
  quotes. Every reader starts after the opening quotes and gives the text with what follows the
  closing ones.
Main exports: readBasic, readLiteral, readBasicLines, readLiteralLines
-/
import RubyBindings.Toml.Number

namespace RubyBindings.Toml

/-- A character that may stand in a text or a comment as it is: no control character but the
tab. -/
def isPlain (character : Char) : Bool :=
  character == '\t' || (decide (' ' ≤ character) && character != '\x7f')

/-- The character with a code point, if it is a Unicode scalar value. -/
def scalar? (code : Nat) : Option Char :=
  if h : code.isValidChar then some (Char.ofNatAux code h) else none

/-- The character that hexadecimal digits write. -/
def hexScalar? (digits : List Char) : Option Char :=
  if digits.all isHexDigit then scalar? (digitRunValue 16 digits) else none

/-- The character of an escape, and what follows the escape. It starts after the backslash. -/
def readEscape : List Char → Option (Char × List Char)
  | 'b' :: rest => some ('\x08', rest)
  | 't' :: rest => some ('\t', rest)
  | 'n' :: rest => some ('\n', rest)
  | 'f' :: rest => some ('\x0c', rest)
  | 'r' :: rest => some ('\r', rest)
  | 'e' :: rest => some ('\x1b', rest)
  | '"' :: rest => some ('"', rest)
  | '\\' :: rest => some ('\\', rest)
  | 'x' :: rest =>
    if rest.length < 2 then none else (hexScalar? (rest.take 2)).map fun c => (c, rest.drop 2)
  | 'u' :: rest =>
    if rest.length < 4 then none else (hexScalar? (rest.take 4)).map fun c => (c, rest.drop 4)
  | 'U' :: rest =>
    if rest.length < 8 then none else (hexScalar? (rest.take 8)).map fun c => (c, rest.drop 8)
  | _ => none

/-- Put a character in front of what a reader gives. -/
def prepend (character : Char) (read : Option (List Char × List Char)) :
    Option (List Char × List Char) :=
  read.map fun (text, rest) => (character :: text, rest)

/-- Read a basic text on one line, of at most `budget` characters. -/
def readBasicWithin : Nat → List Char → Option (List Char × List Char)
  | 0, _ => none
  | _, [] => none
  | _ + 1, '"' :: rest => some ([], rest)
  | budget + 1, '\\' :: rest =>
    (readEscape rest).bind fun (character, rest) => prepend character (readBasicWithin budget rest)
  | budget + 1, character :: rest =>
    if isPlain character then prepend character (readBasicWithin budget rest) else none

/-- Read a basic text on one line. -/
def readBasic (input : List Char) : Option (List Char × List Char) :=
  readBasicWithin (input.length + 1) input

/-- Read a literal text on one line. -/
def readLiteral : List Char → Option (List Char × List Char)
  | [] => none
  | '\'' :: rest => some ([], rest)
  | character :: rest =>
    if isPlain character then prepend character (readLiteral rest) else none

/-- Drop one line end at the beginning. -/
def withoutFirstNewline : List Char → List Char
  | '\n' :: rest => rest
  | '\r' :: '\n' :: rest => rest
  | input => input

/-- Drop spaces, tabs and line ends at the beginning; the flag says whether a line end was among
them. -/
def dropBlankLines (ended : Bool) : List Char → Bool × List Char
  | ' ' :: rest => dropBlankLines ended rest
  | '\t' :: rest => dropBlankLines ended rest
  | '\n' :: rest => dropBlankLines true rest
  | '\r' :: '\n' :: rest => dropBlankLines true rest
  | input => (ended, input)

/-- Read three quotes as the end of a text, when up to two more quotes before them still belong to
the text. -/
def readClosing (quote : Char) (input : List Char) : Option (List Char × List Char) :=
  let quotes := (input.takeWhile (· == quote)).length
  if quotes < 3 then none
  else
    let kept := min (quotes - 3) 2
    some (List.replicate kept quote, input.drop (kept + 3))

/-- Read a basic text over several lines, of at most `budget` characters. A backslash at the end of
a line drops the line end and all blank space after it. -/
def readBasicLinesWithin : Nat → List Char → Option (List Char × List Char)
  | 0, _ => none
  | _, [] => none
  | budget + 1, '"' :: rest =>
    match readClosing '"' ('"' :: rest) with
    | some closed => some closed
    | none => prepend '"' (readBasicLinesWithin budget rest)
  | budget + 1, '\\' :: rest =>
    match dropBlankLines false rest with
    | (true, rest) => readBasicLinesWithin budget rest
    | (false, _) =>
      (readEscape rest).bind fun (character, rest) =>
        prepend character (readBasicLinesWithin budget rest)
  | budget + 1, '\n' :: rest => prepend '\n' (readBasicLinesWithin budget rest)
  | budget + 1, '\r' :: '\n' :: rest =>
    prepend '\r' (prepend '\n' (readBasicLinesWithin budget rest))
  | budget + 1, character :: rest =>
    if isPlain character then prepend character (readBasicLinesWithin budget rest) else none

/-- Read a basic text over several lines. A line end directly after the opening quotes is no part
of it. -/
def readBasicLines (input : List Char) : Option (List Char × List Char) :=
  readBasicLinesWithin (input.length + 1) (withoutFirstNewline input)

/-- Read a literal text over several lines, from its first character on. -/
def readLiteralLinesFrom : List Char → Option (List Char × List Char)
  | [] => none
  | '\'' :: rest =>
    match readClosing '\'' ('\'' :: rest) with
    | some closed => some closed
    | none => prepend '\'' (readLiteralLinesFrom rest)
  | '\n' :: rest => prepend '\n' (readLiteralLinesFrom rest)
  | '\r' :: '\n' :: rest => prepend '\r' (prepend '\n' (readLiteralLinesFrom rest))
  | character :: rest =>
    if isPlain character then prepend character (readLiteralLinesFrom rest) else none

/-- Read a literal text over several lines. A line end directly after the opening quotes is no part
of it. -/
def readLiteralLines (input : List Char) : Option (List Char × List Char) :=
  readLiteralLinesFrom (withoutFirstNewline input)

end RubyBindings.Toml
