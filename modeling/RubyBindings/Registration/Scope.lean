/-
Module: RubyBindings.Registration.Scope
Purpose: The C++ text that registers the extension itself, modules, classes and enumerations.
Main exports: Hierarchy.extensionText, Hierarchy.moduleText, Hierarchy.classText,
  Hierarchy.enumText, Hierarchy.wrappedBase?
-/
import RubyBindings.Registration.Handle
import RubyBindings.Naming.CaseStyle
import RubyBindings.Source.SourceText

namespace RubyBindings

open Naming (pascalCase constantName)
open Source (SourceText)

/-- A text in double quotes. -/
def quoted (text : String) : String :=
  "\"" ++ text ++ "\""

namespace Hierarchy

/-- The comment at the top of a unit. -/
def extensionText (hierarchy : Hierarchy) : String :=
  "// Ruby extension `" ++ hierarchy.name root ++ "`. Generated by ricegen, do not edit."

/-- The definition of a module, under the module or class around it if there is one. -/
def moduleText (hierarchy : Hierarchy) (id : EntityId) : String :=
  let constant := quoted (pascalCase (hierarchy.name id))
  match hierarchy.handle? id, hierarchy.ownerHandle? id with
  | none, _ => ""
  | some handle, some owner =>
    handle.definition ++ "Rice::define_module_under(" ++ owner.name ++ ", " ++ constant ++ ");"
  | some handle, none => handle.definition ++ "Rice::define_module(" ++ constant ++ ");"

/-- The superclass that a class is registered with: only a wrapped one can be named. -/
def wrappedBase? (hierarchy : Hierarchy) (id : EntityId) : Option EntityId :=
  (hierarchy.superclass id).filter hierarchy.isWrapped

/-- The superclass of a class that cannot be named, because it is not wrapped. -/
def unwrappedBase? (hierarchy : Hierarchy) (id : EntityId) : Option EntityId :=
  (hierarchy.superclass id).filter fun superclass => !hierarchy.isWrapped superclass

/-- The template arguments that a class is defined with: itself, and its wrapped superclass. -/
def classArguments (hierarchy : Hierarchy) (id : EntityId) : String :=
  match hierarchy.wrappedBase? id with
  | some base => hierarchy.qualifiedName id ++ ", " ++ hierarchy.qualifiedName base
  | none => hierarchy.qualifiedName id

/-- The definition of a class, under the module or class around it if there is one. -/
def classText (hierarchy : Hierarchy) (id : EntityId) : String :=
  let constant := quoted (constantName (hierarchy.name id))
  let arguments := hierarchy.classArguments id
  match hierarchy.handle? id, hierarchy.ownerHandle? id with
  | none, _ => ""
  | some handle, some owner =>
    handle.definition ++ "Rice::define_class_under<" ++ arguments ++ ">(" ++ owner.name ++ ", " ++
      constant ++ ");"
  | some handle, none =>
    handle.definition ++ "Rice::define_class<" ++ arguments ++ ">(" ++ constant ++ ");"

/-- The call that defines one enumerator. -/
def enumeratorCall (qualified value : String) : String :=
  ".define_value(" ++ quoted (constantName value) ++ ", " ++ qualified ++ "::" ++ value ++ ")"

/-- The lines that define the enumerators; the last one ends the statement. -/
def enumeratorLines (qualified : String) : List String → List String
  | [] => []
  | [value] => [enumeratorCall qualified value ++ ";"]
  | value :: values => enumeratorCall qualified value :: enumeratorLines qualified values

/-- The definition of an enumeration, with one call for each enumerator on a line of its own. -/
def enumText (hierarchy : Hierarchy) (id : EntityId) : String :=
  match hierarchy.handle? id with
  | none => ""
  | some handle =>
    let qualified := hierarchy.qualifiedName id
    let constant := quoted (constantName (hierarchy.name id))
    let owner := (hierarchy.ownerHandle? id).elim "" fun owner => ", " ++ owner.name
    let head :=
      handle.definition ++ "Rice::define_enum<" ++ qualified ++ ">(" ++ constant ++ owner ++ ")"
    match (hierarchy.declaration id).values with
    | [] => head ++ ";"
    | values =>
      let opened := ((SourceText.empty .cpp).line head).indent
      ((enumeratorLines qualified values).foldl (fun source text => source.line text)
        opened).fragment

end Hierarchy

end RubyBindings
