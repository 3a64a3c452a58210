/-
Module: RubyBindings.Library.Basic
Purpose: Libraries, the hierarchies that are made one checked declaration at a time. A declaration
  is added at the end, so an id once given out stays what it is; an operation that is refused gives
  no new library. Beside the entities a library keeps an index of their qualified names.
Main exports: NameIndex, NameIndex.enter, Library, Library.empty, Library.find?, Library.declare,
  Library.linkSuperclass
-/
import RubyBindings.Hierarchy
import RubyBindings.Library.LibraryError

namespace RubyBindings

open Naming (IdentifierFault declaredNameFault?)

/-- Names and what they were entered for, in the order of their entry. -/
structure NameIndex where
  entries : List (String × EntityId)
deriving DecidableEq, Repr

namespace NameIndex

/-- An index without names. -/
def empty : NameIndex where
  entries := []

/-- What a name was entered for. -/
def find? (index : NameIndex) (name : String) : Option EntityId :=
  index.entries.lookup name

/-- Enter a name, unless it has been entered before: the first entry of a name stays. -/
def enter (index : NameIndex) (name : String) (id : EntityId) : NameIndex :=
  match index.find? name with
  | some _ => index
  | none => { entries := index.entries ++ [(name, id)] }

end NameIndex

/-- A declaration hierarchy under construction, and the first entity declared under each qualified
name. -/
structure Library where
  hierarchy : Hierarchy
  index : NameIndex
deriving DecidableEq, Repr

namespace Library

/-- A library that holds only its root namespace, which carries the library's name and is not found
by it. -/
def empty (name : String) : Library where
  hierarchy :=
    { entities :=
        [{ declaration := { kind := .namespaceScope, name }
           parent := none
           children := []
           qualifiedName := "" }]
      headers := [] }
  index := .empty

/-- The name of the library. -/
def name (library : Library) : String :=
  library.hierarchy.name Hierarchy.root

/-- The number of entities, the root included. -/
def size (library : Library) : Nat :=
  library.hierarchy.size

/-- Is there nothing but the root? -/
def isEmpty (library : Library) : Bool :=
  library.size == 1

/-- Add a header that every generated unit includes. -/
def addHeader (library : Library) (header : String) : Library :=
  { library with
    hierarchy := { library.hierarchy with headers := library.hierarchy.headers ++ [header] } }

/-- The entity that the index has under a qualified name. -/
def find? (library : Library) (qualifiedName : String) : Option EntityId :=
  library.index.find? qualifiedName

/-- The name of an entity in messages: its qualified name, or the library's name for the root. -/
def displayName (library : Library) (id : EntityId) : String :=
  match library.hierarchy.parent id with
  | none => library.hierarchy.name id
  | some _ => library.hierarchy.qualifiedName id

/-- The qualified name of a declaration in a scope. The root's members are not qualified. -/
def qualify (library : Library) (scope : EntityId) (name : String) : String :=
  match library.hierarchy.parent scope with
  | none => name
  | some _ => library.hierarchy.qualifiedName scope ++ "::" ++ name

/-- Refuse an id that is no entity's. -/
def requireEntity (library : Library) (id : EntityId) : Except LibraryError Unit :=
  if id < library.size then .ok () else .error (.unknownEntity id)

/-- A declaration with the name it gets in its scope: an unnamed constructor takes the name of its
class, and nothing else may be unnamed. -/
def named (library : Library) (scope : EntityId) (declaration : Declaration) :
    Except LibraryError Declaration :=
  if declaration.name = "" then
    if declaration.kind = .constructor then
      .ok { declaration with name := library.hierarchy.name scope }
    else .error (.unnamed declaration.kind (library.displayName scope))
  else .ok declaration

/-- The names that a declaration introduces, with what they name. -/
def introducedNames (declaration : Declaration) : List (NameRole × String) :=
  (.declaration declaration.kind, declaration.name) ::
    declaration.values.map fun value => (.enumerator, value)

/-- Refuse a declaration that introduces a name C++ does not allow. -/
def requireNames (library : Library) (scope : EntityId) (declaration : Declaration) :
    Except LibraryError Unit :=
  (introducedNames declaration).forM fun (role, name) =>
    match declaredNameFault? name with
    | some fault => .error (.invalidName role name (library.displayName scope) fault)
    | none => .ok ()

/-- Refuse a superclass that is no entity or no class; `derived` is the name of the class that
names it. -/
def requireSuperclass (library : Library) (derived : String) (superclass : EntityId) :
    Except LibraryError Unit := do
  library.requireEntity superclass
  let kind := library.hierarchy.kind superclass
  if kind = .classType then .ok ()
  else .error (.invalidSuperclass derived (library.displayName superclass) kind)

/-- Is a type of this kind a second one of its name? Only the first entity with the name counts,
so a callable that was declared earlier hides the types after it. -/
def isRepeatedType (library : Library) (kind : DeclarationKind) (qualifiedName : String) : Bool :=
  kind.isType &&
    (library.find? qualifiedName).any fun existing => (library.hierarchy.kind existing).isType

/-- Put an entity at the end, and at the end of its scope's children. Its name is entered unless an
earlier entity has it. -/
def append (library : Library) (scope : EntityId) (declaration : Declaration)
    (qualifiedName : String) : Library where
  hierarchy :=
    { library.hierarchy with
      entities :=
        library.hierarchy.entities.modify scope
            (fun entity => { entity with children := entity.children ++ [library.size] }) ++
          [{ declaration, parent := some scope, children := [], qualifiedName }] }
  index := library.index.enter qualifiedName library.size

/-- Add a declaration to a scope. The answer is its id, which is the old number of entities, and
the library with it. -/
def declare (library : Library) (scope : EntityId) (declaration : Declaration) :
    Except LibraryError (EntityId × Library) := do
  library.requireEntity scope
  let declaration ← library.named scope declaration
  library.requireNames scope declaration
  let qualifiedName := library.qualify scope declaration.name
  if let some superclass := declaration.superclass then
    library.requireSuperclass qualifiedName superclass
  if library.isRepeatedType declaration.kind qualifiedName then
    throw (.duplicateName declaration.kind qualifiedName)
  return (library.size, library.append scope declaration qualifiedName)

/-- Make a class the direct superclass of an entity. -/
def linkSuperclass (library : Library) (id superclass : EntityId) :
    Except LibraryError Library := do
  library.requireEntity id
  library.requireSuperclass (library.hierarchy.qualifiedName id) superclass
  let entities := library.hierarchy.entities.modify id fun entity =>
    { entity with declaration := { entity.declaration with superclass := some superclass } }
  return { library with hierarchy := { library.hierarchy with entities } }

end Library

end RubyBindings
