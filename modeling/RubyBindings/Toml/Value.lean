/-
Module: RubyBindings.Toml.Value
Purpose: Values of a TOML document. Tables remember how they came to be, because that decides
  whether later lines may still add to them.
Main exports: TableOrigin, Value, Table
-/

namespace RubyBindings.Toml

/-- How a table came to be. -/
inductive TableOrigin where
  /-- A header `[a]` or `[[a]]`. -/
  | header
  /-- A step on the way of a longer header `[a.b]`. -/
  | implied
  /-- A step on the way of a dotted key `a.b = …`. -/
  | dotted
  /-- An inline table. -/
  | inline
deriving DecidableEq, Repr

/-- A value. Numbers and points in time are kept as they are written. -/
inductive Value where
  | text (characters : List Char)
  | integer (literal : List Char)
  | float (literal : List Char)
  | dateTime (literal : List Char)
  | boolean (value : Bool)
  | array (items : List Value)
  /-- The tables of a header `[[a]]`. -/
  | tables (items : List Value)
  | table (origin : TableOrigin) (entries : List (List Char × Value))

/-- The entries of a table, in the order of their definition. -/
abbrev Table := List (List Char × Value)

end RubyBindings.Toml
