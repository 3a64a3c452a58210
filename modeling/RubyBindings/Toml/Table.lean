/-
Module: RubyBindings.Toml.Table
Purpose: Putting values into tables by dotted keys and headers. A key is defined once; a table is
  closed to additions by dotted keys unless dotted keys made it, and closed to a header of its own
  unless longer headers made it.
Main exports: Table.insertDotted, Table.under
-/
import RubyBindings.Toml.Value

namespace RubyBindings.Toml

namespace Table

/-- The value of a key. -/
def find? (table : Table) (key : List Char) : Option Value :=
  table.lookup key

/-- Give a key a value, in the place of its old one if there is one. -/
def put (key : List Char) (value : Value) : Table → Table
  | [] => [(key, value)]
  | entry :: entries =>
    if entry.1 = key then (key, value) :: entries else entry :: put key value entries

/-- Take a key and its value out. -/
def remove (table : Table) (key : List Char) : Table :=
  table.filter (·.1 != key)

/-- Define a key that has no value yet. -/
def define (table : Table) (key : List Char) (value : Value) : Option Table :=
  match table.find? key with
  | some _ => none
  | none => some (table ++ [(key, value)])

/-- Change the last table of an array of tables. -/
def changeLast (change : Table → Option Table) (items : List Value) : Option (List Value) :=
  match items.reverse with
  | .table origin entries :: earlier =>
    (change entries).map fun entries => (Value.table origin entries :: earlier).reverse
  | _ => none

/-- Go down a path of keys and change the table at its end; missing tables on the way are made as
steps of a longer header. The last table stands for an array of tables. -/
def under : List (List Char) → (Table → Option Table) → Table → Option Table
  | [], change, table => change table
  | key :: path, change, table =>
    match table.find? key with
    | none => do
      let entries ← under path change []
      return table ++ [(key, .table .implied entries)]
    | some (.table .inline _) => none
    | some (.table origin entries) => do
      let entries ← under path change entries
      return table.put key (.table origin entries)
    | some (.tables items) => do
      let items ← changeLast (under path change) items
      return table.put key (.tables items)
    | some _ => none

/-- Define a key in a table of the given origin. Dotted keys define only what dotted keys made. -/
def defineIn (origin : TableOrigin) (key : List Char) (value : Value) (table : Table) :
    Option Table :=
  if origin = .dotted then table.define key value else none

/-- Go down the steps of a dotted key below a table of the given origin, and define the last key
there. Missing tables on the way are made as steps of a dotted key; those a header or an inline
table defined are closed. -/
def insertBelow (key : List Char) (value : Value) :
    List (List Char) → TableOrigin → Table → Option Table
  | [], origin, table => defineIn origin key value table
  | step :: path, _, table =>
    match table.find? step with
    | none => do
      let entries ← insertBelow key value path .dotted []
      return table ++ [(step, .table .dotted entries)]
    | some (.table origin entries) =>
      if origin = .implied ∨ origin = .dotted then do
        let entries ← insertBelow key value path origin entries
        return table.put step (.table origin entries)
      else none
    | some (.tables items) => do
      let items ← changeLast (insertBelow key value path .header) items
      return table.put step (.tables items)
    | some _ => none

/-- Define the value of a dotted key: the keys before the last one, and the last one. -/
def insertDotted (path : List (List Char)) (key : List Char) (value : Value) (table : Table) :
    Option Table :=
  match path with
  | [] => table.define key value
  | _ => insertBelow key value path .header table

end Table

end RubyBindings.Toml
