/-
Module: RubyBindings.Registration.Callable
Purpose: The C++ text that registers constructors, methods and functions. The address of an
  overloaded callable is not enough to choose it, so each overload gets a function pointer type of
  its own, and is registered through a cast to it.
Main exports: Hierarchy.constructorText, Hierarchy.callableText, Hierarchy.aliasName?,
  Hierarchy.aliasText?
-/
import RubyBindings.Registration.Overload
import RubyBindings.Registration.Scope

namespace RubyBindings.Hierarchy

open Naming (variableName)

/-- The definition of a constructor on its class. -/
def constructorText (hierarchy : Hierarchy) (id : EntityId) : String :=
  match hierarchy.parent id, hierarchy.ownerHandle? id with
  | some owningClass, some owner =>
    let parameters := (hierarchy.declaration id).parameterTypes
    let arguments :=
      if parameters = "" then hierarchy.qualifiedName owningClass
      else hierarchy.qualifiedName owningClass ++ ", " ++ parameters
    owner.name ++ ".define_constructor(Rice::Constructor<" ++ arguments ++ ">());"
  | _, _ => ""

/-- The name of the function pointer type of an overloaded callable. -/
def aliasName? (hierarchy : Hierarchy) (id : EntityId) : Option String :=
  let overload := hierarchy.overload id
  if 1 < overload.count then
    some (variableName (hierarchy.qualifiedName id) ++ "_" ++ Nat.repr overload.position ++
      "_type")
  else none

/-- The class whose member a callable is called on, written in front of a member pointer. -/
def memberScope (hierarchy : Hierarchy) (id : EntityId) : String :=
  let declaration := hierarchy.declaration id
  match hierarchy.parent id with
  | some owningClass =>
    if declaration.kind = .method ∧ declaration.isStatic = false then
      hierarchy.qualifiedName owningClass ++ "::"
    else ""
  | none => ""

/-- The definition of the function pointer type of an overloaded callable. -/
def aliasText? (hierarchy : Hierarchy) (id : EntityId) : Option String :=
  (hierarchy.aliasName? id).map fun aliasName =>
    let declaration := hierarchy.declaration id
    "typedef " ++ declaration.returnType ++ " (" ++ hierarchy.memberScope id ++ "*" ++ aliasName ++
      ")(" ++ declaration.parameterTypes ++ ");"

/-- The pointer to a callable, cast to its own type if it is overloaded. -/
def callablePointer (hierarchy : Hierarchy) (id : EntityId) : String :=
  let pointer := "&" ++ hierarchy.qualifiedName id
  match hierarchy.aliasName? id with
  | some aliasName => aliasName ++ "(" ++ pointer ++ ")"
  | none => pointer

/-- The function that defines a callable on the variable of its scope. -/
def definer (declaration : Declaration) : String :=
  match declaration.kind, declaration.isStatic with
  | .method, false => "define_method"
  | .method, true => "define_singleton_function"
  | _, _ => "define_module_function"

/-- The definition of a method or function on its scope, or as a global function. -/
def callableText (hierarchy : Hierarchy) (id : EntityId) : String :=
  let arguments :=
    "(" ++ quoted (hierarchy.callableName id) ++ ", " ++ hierarchy.callablePointer id ++ ");"
  match hierarchy.ownerHandle? id with
  | none => "Rice::define_global_function" ++ arguments
  | some owner => owner.name ++ "." ++ definer (hierarchy.declaration id) ++ arguments

end RubyBindings.Hierarchy
