/-
Module: RubyBindings.Library.Description
Purpose: Library descriptions: entities nested in one another, with superclasses named by their
  qualified names. A description is checked name by name in the order of its text, and flattened
  into a library in the same order.
Main exports: EntityDescription, EntityDescription.toDeclaration, LibraryDescription,
  LibraryDescription.check, Library.ofDescription
-/
import RubyBindings.Library.Basic
import RubyBindings.Text.Search

namespace RubyBindings

open Naming (IdentifierFault identifierFault? declaredNameFault?)

/-- An entity and the entities nested in it, as they are written. -/
structure EntityDescription where
  kind : DeclarationKind
  /-- Constructors may go without a name. -/
  name : String := ""
  /-- The qualified name of the direct superclass. -/
  superclassName : Option String := none
  returns : Option String := none
  parameters : List Parameter := []
  isStatic : Bool := false
  values : List String := []
  header : Option String := none
  ignored : Bool := false
  moved : Bool := false
  isPublic : Bool := true
  children : List EntityDescription := []

/-- The declaration of an entity, whose superclass is still to be found. -/
def EntityDescription.toDeclaration (description : EntityDescription) : Declaration where
  kind := description.kind
  name := description.name
  superclass := none
  returns := description.returns
  parameters := description.parameters
  isStatic := description.isStatic
  values := description.values
  header := description.header
  ignored := description.ignored
  moved := description.moved
  isPublic := description.isPublic

/-- A library as it is described, before any name in it is resolved. -/
structure LibraryDescription where
  name : String
  headers : List String
  entities : List EntityDescription

/-- A name that is refused, what it names, and why. -/
structure RefusedName where
  role : NameRole
  name : String
  fault : IdentifierFault
deriving DecidableEq, Repr

/-- Refuse a name that C++ does not allow for a declaration. -/
def RefusedName.ofDeclared? (role : NameRole) (name : String) : Option RefusedName :=
  (declaredNameFault? name).map fun fault => { role, name, fault }

/-- The first name of one entity that is refused: its own name, then its enumerators. A constructor
may leave its name to its class. -/
def EntityDescription.ownRefusedName? (description : EntityDescription) : Option RefusedName :=
  let own :=
    if description.kind = .constructor ∧ description.name = "" then none
    else RefusedName.ofDeclared? (.declaration description.kind) description.name
  own.or (description.values.findSome? (RefusedName.ofDeclared? .enumerator))

mutual

/-- The first refused name of an entity and the entities nested in it. -/
def EntityDescription.refusedName? : EntityDescription → Option RefusedName
  | description@{ children, .. } =>
    description.ownRefusedName?.or (EntityDescription.firstRefusedName? children)

/-- The first refused name of a list of entities. -/
def EntityDescription.firstRefusedName? : List EntityDescription → Option RefusedName
  | [] => none
  | description :: descriptions =>
    description.refusedName?.or (EntityDescription.firstRefusedName? descriptions)

end

namespace LibraryDescription

/-- The first refused name of a description. The library's own name only has to be an
identifier. -/
def refusedName? (description : LibraryDescription) : Option RefusedName :=
  let own := (identifierFault? description.name).map fun fault =>
    { role := .library, name := description.name, fault : RefusedName }
  own.or (EntityDescription.firstRefusedName? description.entities)

end LibraryDescription

/-- Where a text shows a name: the first place where it stands in double quotes, quotes included,
or else the first place where it stands at all. -/
def TextSpan.ofName? (text name : String) : Option TextSpan :=
  let quoted := "\"" ++ name ++ "\""
  match Text.firstOccurrence quoted text with
  | some offset => some { offset, length := quoted.utf8ByteSize }
  | none =>
    if name = "" then none
    else (Text.firstOccurrence name text).map fun offset =>
      { offset, length := name.utf8ByteSize }

/-- Refuse a description with a name that is not allowed. `source` names the text that the
description was read from. -/
def LibraryDescription.check (description : LibraryDescription) (text source : String) :
    Except LibraryError Unit :=
  match description.refusedName? with
  | some refused =>
    .error (.invalidIdentifier source (TextSpan.ofName? text refused.name) refused.role
      refused.name refused.fault)
  | none => .ok ()

namespace Library

/-- A superclass name that waits until every entity has been declared. -/
structure PendingLink where
  derived : EntityId
  superclassName : String
deriving DecidableEq, Repr

mutual

/-- Declare an entity and the entities nested in it; the superclass names they leave to be
resolved come in the order of the declarations. -/
def declareDescription (scope : EntityId) :
    EntityDescription → Library → Except LibraryError (Library × List PendingLink)
  | description@{ superclassName, children, .. }, library => do
    let (id, library) ← library.declare scope description.toDeclaration
    let own := (superclassName.map (PendingLink.mk id)).toList
    let (library, nested) ← declareDescriptions id children library
    return (library, own ++ nested)

/-- Declare a list of entities in one scope. -/
def declareDescriptions (scope : EntityId) :
    List EntityDescription → Library → Except LibraryError (Library × List PendingLink)
  | [], library => return (library, [])
  | description :: descriptions, library => do
    let (library, first) ← declareDescription scope description library
    let (library, others) ← declareDescriptions scope descriptions library
    return (library, first ++ others)

end

/-- Resolve one superclass name. -/
def resolveLink (library : Library) (link : PendingLink) : Except LibraryError Library :=
  match library.find? link.superclassName with
  | some superclass => library.linkSuperclass link.derived superclass
  | none =>
    .error (.unknownSuperclass (library.hierarchy.qualifiedName link.derived) link.superclassName)

/-- The library that a description describes. Superclass names are resolved after every entity is
declared, so a class may name one that is declared after it. -/
def ofDescription (description : LibraryDescription) : Except LibraryError Library := do
  let library := description.headers.foldl addHeader (empty description.name)
  let (library, links) ←
    declareDescriptions Hierarchy.root description.entities library
  links.foldlM resolveLink library

end Library

end RubyBindings
