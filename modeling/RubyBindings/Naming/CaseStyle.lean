/-
Module: RubyBindings.Naming.CaseStyle
Purpose: The case styles of Ruby names: `PascalCase` for modules, `snake_case` for methods and
  functions, and constants for types and enumerators.
Main exports: pascalCase, snakeCase, constantName
-/
import RubyBindings.Text.LetterCase
import RubyBindings.Naming.VariableName

namespace RubyBindings.Naming

open RubyBindings.Text (isUppercase isLowercase uppercase lowercase)

/-- Put a text's first character in upper case and keep the others. -/
def capitalizeList : List Char → List Char
  | [] => []
  | first :: rest => uppercase first ++ rest

/-- Pascal case of a character list: drop the underscores, and put the first character of every
part between them in upper case. `starting` says that the next character begins a part. -/
def pascalCaseFrom (starting : Bool) : List Char → List Char
  | [] => []
  | character :: rest =>
    if character = '_' then pascalCaseFrom true rest
    else (if starting then uppercase character else [character]) ++ pascalCaseFrom false rest

/-- Pascal case of a name: `hello_world` gives `HelloWorld`. -/
def pascalCase (name : String) : String :=
  String.ofList (pascalCaseFrom true name.toList)

/-- Does a new word begin at `current`? It does at a capital after a small letter or an ASCII
digit, and at the last capital of a run of capitals that a small letter follows. -/
def wordBegins (previous current : Char) (next : Option Char) : Bool :=
  isUppercase current &&
    (isLowercase previous || previous.isDigit ||
      (isUppercase previous && next.any isLowercase))

/-- The snake case spelling of one character: small letters, and an underscore for a hyphen. -/
def snakeLetters (character : Char) : List Char :=
  (lowercase character).map fun letter => if letter = '-' then '_' else letter

/-- Snake case of the characters after `previous`. -/
def snakeCaseAfter (previous : Char) : List Char → List Char
  | [] => []
  | current :: rest =>
    (if wordBegins previous current rest.head? then ['_'] else []) ++
      snakeLetters current ++ snakeCaseAfter current rest

/-- Snake case of a character list. The first character never begins a word after another one. -/
def snakeCaseList : List Char → List Char
  | [] => []
  | first :: rest => snakeLetters first ++ snakeCaseAfter first rest

/-- Snake case of a name: `getArea` gives `get_area`, and `toHTML` gives `to_html`. -/
def snakeCase (name : String) : String :=
  String.ofList (snakeCaseList name.toList)

/-- Drop the underscores on both sides of a character list. -/
def trimUnderscores (characters : List Char) : List Char :=
  ((characters.dropWhile (· == '_')).reverse.dropWhile (· == '_')).reverse

/-- Ruby constant for a C++ type or enumerator: its variable name without the underscores around
it, and with a capital. -/
def constantName (name : String) : String :=
  String.ofList (capitalizeList (trimUnderscores (variableNameList name.toList)))

end RubyBindings.Naming
