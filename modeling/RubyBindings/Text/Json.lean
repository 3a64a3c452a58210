/-
Module: RubyBindings.Text.Json
Purpose: JSON values, and their text with two spaces of indentation. Empty lists and records stand
  on one line; only quotes, backslashes and control characters are escaped.
Main exports: JsonValue, JsonValue.pretty
-/

namespace RubyBindings.Text

/-- A JSON value without fractions. -/
inductive JsonValue where
  | null
  | number (value : Nat)
  | text (value : String)
  | list (items : List JsonValue)
  | record (fields : List (String × JsonValue))

namespace JsonValue

/-- The digits of a control character's escape: four hexadecimal digits in small letters. -/
def controlEscape (character : Char) : String :=
  let code := character.toNat
  "\\u00" ++ String.singleton (Nat.digitChar (code / 16)) ++
    String.singleton (Nat.digitChar (code % 16))

/-- A character inside a quoted text. -/
def escape (character : Char) : String :=
  if character = '"' then "\\\""
  else if character = '\\' then "\\\\"
  else if character = '\n' then "\\n"
  else if character = '\t' then "\\t"
  else if character = '\r' then "\\r"
  else if character = '\x08' then "\\b"
  else if character = '\x0c' then "\\f"
  else if character < ' ' then controlEscape character
  else String.singleton character

/-- A text in quotes. -/
def quote (text : String) : String :=
  "\"" ++ String.join (text.toList.map escape) ++ "\""

/-- The indentation at a depth. -/
def leading (depth : Nat) : String :=
  String.ofList (List.replicate (2 * depth) ' ')

/-- Items between brackets, each on a line of its own. -/
def enclose (opening closing : String) (depth : Nat) (items : List String) : String :=
  if items.isEmpty then opening ++ closing
  else
    opening ++ "\n" ++
      String.intercalate ",\n" (items.map fun item => leading (depth + 1) ++ item) ++
      "\n" ++ leading depth ++ closing

mutual

/-- The text of a value whose first line is written at a depth. -/
def prettyAt (depth : Nat) : JsonValue → String
  | null => "null"
  | number value => Nat.repr value
  | text value => quote value
  | list items => enclose "[" "]" depth (prettyItems (depth + 1) items)
  | record fields => enclose "\x7b" "\x7d" depth (prettyFields (depth + 1) fields)

/-- The texts of the items of a list. -/
def prettyItems (depth : Nat) : List JsonValue → List String
  | [] => []
  | item :: items => prettyAt depth item :: prettyItems depth items

/-- The texts of the fields of a record. -/
def prettyFields (depth : Nat) : List (String × JsonValue) → List String
  | [] => []
  | (name, value) :: fields =>
    (quote name ++ ": " ++ prettyAt depth value) :: prettyFields depth fields

end

/-- The text of a value. -/
def pretty (value : JsonValue) : String :=
  prettyAt 0 value

end JsonValue

end RubyBindings.Text
