/-
Module: RubyBindings.Library.DescriptionData
Purpose: Library descriptions read from untyped data. A library, an entity and a parameter are
  given as records of named fields, or as lists of the same fields in a fixed order. Libraries and
  entities take no field they do not know, parameters take any that can be read.
Main exports: DataFormat, LibraryDescription.ofDatum?
-/
import RubyBindings.Datum
import RubyBindings.Library.Description

namespace RubyBindings

/-- The format that untyped data was written in. -/
inductive DataFormat where
  | toml
  | json
deriving DecidableEq, Repr

namespace DataFormat

/-- May a list of fields go on after the last field? -/
def allowsSurplus : DataFormat → Bool
  | .toml => true
  | .json => false

/-- Is a datum the empty content of a word that is written as a record's only field? -/
def isEmptyContent : DataFormat → Datum → Bool
  | .toml, .list [] => true
  | .toml, .record [] => true
  | .json, .null => true
  | _, _ => false

end DataFormat

/-- The declaration kind of a datum: its word, or a record with the word as its only field. -/
def DeclarationKind.ofDatum? (format : DataFormat) : Datum → Option DeclarationKind
  | .text word => DeclarationKind.ofName? word
  | .record [(word, content)] =>
    if format.isEmptyContent content then DeclarationKind.ofName? word else none
  | _ => none

/-- The parameter of a datum. -/
def Parameter.ofDatum? (format : DataFormat) : Datum → Option Parameter
  | .record fields => do
    guard (Datum.areFieldsReadable fields)
    let type ← (← fields.lookup "type").asText?
    let name ← (fields.lookup "name").elim (some none) Datum.asOptionalText?
    return { name, type }
  | .list (name :: type :: surplus) => do
    if surplus.isEmpty || format.allowsSurplus then
      return { name := ← name.asOptionalText?, type := ← type.asText? }
    else none
  | _ => none

namespace EntityDescription

/-- The fields of an entity, in the order of a list. -/
def fieldNames : List String :=
  ["kind", "name", "superclass", "returns", "params", "static", "values", "header", "ignored",
    "moved", "public", "children"]

/-- Set a field of an entity that holds no entities. The kind is read before all other fields. -/
def setField (format : DataFormat) (field : String) (datum : Datum)
    (description : EntityDescription) : Option EntityDescription := do
  match field with
  | "kind" => return description
  | "name" => return { description with name := ← datum.asText? }
  | "superclass" => return { description with superclassName := ← datum.asOptionalText? }
  | "returns" => return { description with returns := ← datum.asOptionalText? }
  | "params" =>
    let parameters ← (← datum.asList?).mapM (Parameter.ofDatum? format)
    return { description with parameters }
  | "static" => return { description with isStatic := ← datum.asBoolean? }
  | "values" => return { description with values := ← datum.asTexts? }
  | "header" => return { description with header := ← datum.asOptionalText? }
  | "ignored" => return { description with ignored := ← datum.asBoolean? }
  | "moved" => return { description with moved := ← datum.asBoolean? }
  | "public" => return { description with isPublic := ← datum.asBoolean? }
  | _ => none

mutual

/-- The entity of a datum. -/
def ofDatum? (format : DataFormat) : Datum → Option EntityDescription
  | .record fields => do
    let kind ← (fields.lookup "kind").bind (DeclarationKind.ofDatum? format)
    readFields format fields { kind }
  | .list items => do
    let kind ← items.head?.bind (DeclarationKind.ofDatum? format)
    readItems format fieldNames items { kind }
  | _ => none

/-- Set the fields of a record. -/
def readFields (format : DataFormat) :
    List (String × Datum) → EntityDescription → Option EntityDescription
  | [], description => some description
  | (field, datum) :: fields, description => do
    readFields format fields (← readField format field datum description)

/-- Set the fields that a list gives in order. -/
def readItems (format : DataFormat) :
    List String → List Datum → EntityDescription → Option EntityDescription
  | _, [], description => some description
  | [], _ :: _, description => if format.allowsSurplus then some description else none
  | field :: fields, datum :: items, description => do
    readItems format fields items (← readField format field datum description)

/-- Set one field. -/
def readField (format : DataFormat) (field : String) :
    Datum → EntityDescription → Option EntityDescription
  | .list items, description => do
    if field = "children" then
      return { description with children := ← ofData? format items }
    else setField format field (.list items) description
  | datum, description => setField format field datum description

/-- The entities of a list of data. -/
def ofData? (format : DataFormat) : List Datum → Option (List EntityDescription)
  | [] => some []
  | datum :: data => do
    let description ← ofDatum? format datum
    return description :: (← ofData? format data)

end

end EntityDescription

namespace LibraryDescription

/-- The fields of a library, in the order of a list. -/
def fieldNames : List String :=
  ["name", "headers", "entities"]

/-- Set a field of a library. The name is read before all other fields. -/
def readField (format : DataFormat) (description : LibraryDescription) :
    String × Datum → Option LibraryDescription
  | ("name", _) => some description
  | ("headers", datum) => do return { description with headers := ← datum.asTexts? }
  | ("entities", datum) => do
    let entities ← EntityDescription.ofData? format (← datum.asList?)
    return { description with entities }
  | _ => none

/-- The library of a datum. -/
def ofDatum? (format : DataFormat) (datum : Datum) : Option LibraryDescription := do
  let fields ← fieldsOf datum
  let name ← (← fields.lookup "name").asText?
  fields.foldlM (readField format) { name, headers := [], entities := [] }
where
  /-- The named fields of a datum. -/
  fieldsOf : Datum → Option (List (String × Datum))
    | .record fields => some fields
    | .list items =>
      if items.length ≤ fieldNames.length || format.allowsSurplus then
        some (fieldNames.zip items)
      else none
    | _ => none

end LibraryDescription

end RubyBindings
