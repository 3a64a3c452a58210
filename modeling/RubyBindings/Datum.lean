/-
Module: RubyBindings.Datum
Purpose: Untyped data, as a description is given in before its fields are looked at.
Main exports: Datum, Datum.isReadable
-/

namespace RubyBindings

/-- A piece of untyped data. -/
inductive Datum where
  | null
  | boolean (value : Bool)
  | text (value : String)
  /-- A number, date or time, which no field of a description takes. -/
  | other
  /-- What is taken for a number and cannot be read as one. -/
  | unreadable
  | list (items : List Datum)
  /-- Named fields; no name occurs twice. -/
  | record (fields : List (String × Datum))
deriving Inhabited

namespace Datum

/-- The text of a datum that is one. -/
def asText? : Datum → Option String
  | .text value => some value
  | _ => none

/-- The text of a datum that is one or is null. -/
def asOptionalText? : Datum → Option (Option String)
  | .null => some none
  | .text value => some (some value)
  | _ => none

/-- The truth value of a datum that is one. -/
def asBoolean? : Datum → Option Bool
  | .boolean value => some value
  | _ => none

/-- The items of a datum that is a list. -/
def asList? : Datum → Option (List Datum)
  | .list items => some items
  | _ => none

/-- The texts of a datum that is a list of texts. -/
def asTexts? (datum : Datum) : Option (List String) := do
  (← datum.asList?).mapM asText?

mutual

/-- Can every number in a datum be read? -/
def isReadable : Datum → Bool
  | .unreadable => false
  | .list items => areItemsReadable items
  | .record fields => areFieldsReadable fields
  | _ => true

/-- Can the items of a list be read? -/
def areItemsReadable : List Datum → Bool
  | [] => true
  | item :: items => item.isReadable && areItemsReadable items

/-- Can the fields of a record be read? -/
def areFieldsReadable : List (String × Datum) → Bool
  | [] => true
  | (_, datum) :: fields => datum.isReadable && areFieldsReadable fields

end

end Datum

end RubyBindings
