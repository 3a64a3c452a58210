/-
Module: RubyBindings.Toml.Datum
Purpose: The untyped data that a TOML document holds.
Main exports: Value.toDatum, documentDatum
-/
import RubyBindings.Datum
import RubyBindings.Toml.Document

namespace RubyBindings.Toml

mutual

/-- The data of a value. -/
def Value.toDatum : Value → Datum
  | .text characters => .text (String.ofList characters)
  | .integer literal => if (integer? literal).isSome then .other else .unreadable
  | .float literal => if floatOverflows literal then .unreadable else .other
  | .dateTime _ => .other
  | .boolean value => .boolean value
  | .array items => .list (itemData items)
  | .tables items => .list (itemData items)
  | .table _ entries => .record (entryData entries)

/-- The data of the items of an array. -/
def itemData : List Value → List Datum
  | [] => []
  | item :: items => item.toDatum :: itemData items

/-- The data of the entries of a table. -/
def entryData : List (List Char × Value) → List (String × Datum)
  | [] => []
  | (key, value) :: entries => (String.ofList key, value.toDatum) :: entryData entries

end

/-- The data of a document, if the text is one. -/
def documentDatum (text : String) : Option Datum :=
  (readDocument text).map fun table => .record (entryData table)

end RubyBindings.Toml
