/-
Module: RubyBindings.Proofs.Registration.Statement
Purpose: Generated code as syntax. What an entity registers is one of five statements; it says which
  variable it defines, which variable it needs for the scope around it, and which function pointer
  type it casts to. The generated texts are the texts of these statements and types.
Main exports: Statement, Statement.text, Statement.defines?, Statement.owner?, Statement.cast?,
  Typedef, Hierarchy.statement?, Hierarchy.typedef?, Hierarchy.text_eq, Hierarchy.declarations_eq
-/
import RubyBindings.Proofs.Hierarchy.Collection

namespace RubyBindings

open Naming (pascalCase constantName)
open Source (SourceText)

/-! ## Syntax -/

/-- A statement that registers one entity. An `owner` is the variable of the scope around it. -/
inductive Statement where
  | defineModule (handle : Handle) (owner : Option String) (constant : String)
  | defineClass (handle : Handle) (owner : Option String) (arguments constant : String)
  | defineEnum (handle : Handle) (owner : Option String) (qualified constant : String)
    (values : List String)
  | defineConstructor (owner arguments : String)
  /-- A method or function, cast to a type of its own if it is overloaded. -/
  | defineCallable (owner : Option String) (definer name target : String) (cast : Option String)
deriving DecidableEq, Repr

namespace Statement

/-- The generated text of a statement. -/
def text : Statement → String
  | defineModule handle (some owner) constant =>
    handle.definition ++ "Rice::define_module_under(" ++ owner ++ ", " ++ constant ++ ");"
  | defineModule handle none constant =>
    handle.definition ++ "Rice::define_module(" ++ constant ++ ");"
  | defineClass handle (some owner) arguments constant =>
    handle.definition ++ "Rice::define_class_under<" ++ arguments ++ ">(" ++ owner ++ ", " ++
      constant ++ ");"
  | defineClass handle none arguments constant =>
    handle.definition ++ "Rice::define_class<" ++ arguments ++ ">(" ++ constant ++ ");"
  | defineEnum handle owner qualified constant values =>
    let head :=
      handle.definition ++ "Rice::define_enum<" ++ qualified ++ ">(" ++ constant ++
        owner.elim "" (fun owner => ", " ++ owner) ++ ")"
    match values with
    | [] => head ++ ";"
    | values =>
      ((Hierarchy.enumeratorLines qualified values).foldl (fun source text => source.line text)
        ((SourceText.empty .cpp).line head).indent).fragment
  | defineConstructor owner arguments =>
    owner ++ ".define_constructor(Rice::Constructor<" ++ arguments ++ ">());"
  | defineCallable owner definer name target cast =>
    let pointer := cast.elim ("&" ++ target) fun cast => cast ++ "(" ++ ("&" ++ target) ++ ")"
    let arguments := "(" ++ name ++ ", " ++ pointer ++ ");"
    owner.elim ("Rice::define_global_function" ++ arguments) fun owner =>
      owner ++ "." ++ definer ++ arguments

/-- The variable that a statement defines. -/
def defines? : Statement → Option String
  | defineModule handle _ _ | defineClass handle _ _ _ | defineEnum handle _ _ _ _ =>
    some handle.name
  | defineConstructor _ _ | defineCallable _ _ _ _ _ => none

end Statement

/-- The definition of a function pointer type. A pointer to a member carries its class in front of
the star, as `scope`. -/
structure Typedef where
  returns : String
  scope : String
  name : String
  parameters : String
deriving DecidableEq, Repr

/-- The generated text of a function pointer type. -/
def Typedef.text (typedef : Typedef) : String :=
  "typedef " ++ typedef.returns ++ " (" ++ typedef.scope ++ "*" ++ typedef.name ++ ")(" ++
    typedef.parameters ++ ");"

/-! ## What is generated for an entity -/

namespace Hierarchy

variable (hierarchy : Hierarchy)

/-- The template arguments that a constructor is defined with: its class, and the types of its
parameters. -/
def constructorArguments (id : EntityId) : String :=
  let owningClass := (hierarchy.parent id).elim "" hierarchy.qualifiedName
  let parameters := (hierarchy.declaration id).parameterTypes
  if parameters = "" then owningClass else owningClass ++ ", " ++ parameters

/-- The statement that registers an entity. The root has none, nor has a constructor outside of any
scope. -/
def statement? (id : EntityId) : Option Statement :=
  let owner := (hierarchy.ownerHandle? id).map Handle.name
  let constant := quoted (constantName (hierarchy.name id))
  match hierarchy.kind id with
  | .namespaceScope => (hierarchy.handle? id).map fun handle =>
    .defineModule handle owner (quoted (pascalCase (hierarchy.name id)))
  | .classType => (hierarchy.handle? id).map fun handle =>
    .defineClass handle owner (hierarchy.classArguments id) constant
  | .enumType => (hierarchy.handle? id).map fun handle =>
    .defineEnum handle owner (hierarchy.qualifiedName id) constant (hierarchy.declaration id).values
  | .constructor => owner.map fun owner =>
    .defineConstructor owner (hierarchy.constructorArguments id)
  | .method | .function =>
    some (.defineCallable owner (definer (hierarchy.declaration id))
      (quoted (hierarchy.callableName id)) (hierarchy.qualifiedName id) (hierarchy.aliasName? id))

/-- The function pointer type that is defined for an entity, if it is overloaded. -/
def typedef? (id : EntityId) : Option Typedef :=
  match hierarchy.kind id with
  | .method | .function => (hierarchy.aliasName? id).map fun name =>
    { returns := (hierarchy.declaration id).returnType
      scope := hierarchy.memberScope id
      name
      parameters := (hierarchy.declaration id).parameterTypes }
  | .namespaceScope | .classType | .enumType | .constructor => none

variable {hierarchy} {id : EntityId}

/-- A variable is defined exactly by the statement of the entity that it stands for. -/
theorem defines?_statement? (id : EntityId) :
    (hierarchy.statement? id).bind Statement.defines? =
      (hierarchy.handle? id).map Handle.name := by
  simp only [statement?, handle?]
  cases hierarchy.parent id <;> cases hierarchy.kind id <;>
    cases (hierarchy.ownerHandle? id).map Handle.name <;> rfl

theorem constructorText_eq (id : EntityId) :
    hierarchy.constructorText id =
      ((hierarchy.ownerHandle? id).map fun owner =>
        Statement.text (.defineConstructor owner.name (hierarchy.constructorArguments id))).getD
          "" := by
  rw [constructorText, constructorArguments, ownerHandle?]
  cases hierarchy.parent id with
  | none => rfl
  | some scope =>
      simp only [Option.bind_some, Option.elim_some]
      cases hierarchy.handle? scope <;> rfl

theorem callableText_eq (id : EntityId) :
    hierarchy.callableText id =
      Statement.text (.defineCallable ((hierarchy.ownerHandle? id).map Handle.name)
        (definer (hierarchy.declaration id)) (quoted (hierarchy.callableName id))
        (hierarchy.qualifiedName id) (hierarchy.aliasName? id)) := by
  simp only [callableText, callablePointer, Statement.text]
  cases hierarchy.ownerHandle? id <;> cases hierarchy.aliasName? id <;> rfl

theorem enumText_eq (id : EntityId) :
    hierarchy.enumText id =
      ((hierarchy.handle? id).map fun handle =>
        Statement.text (.defineEnum handle ((hierarchy.ownerHandle? id).map Handle.name)
          (hierarchy.qualifiedName id) (quoted (constantName (hierarchy.name id)))
          (hierarchy.declaration id).values)).getD "" := by
  simp only [enumText, Statement.text]
  cases hierarchy.handle? id with
  | none => rfl
  | some handle => cases hierarchy.ownerHandle? id <;> cases (hierarchy.declaration id).values <;> rfl

/-- What is generated for an entity is the text of its statement. -/
theorem text_eq (id : EntityId) :
    (hierarchy.kind id).nodeKind.text hierarchy id =
      ((hierarchy.statement? id).map Statement.text).getD "" := by
  rw [statement?]
  cases hierarchy.kind id with
  | namespaceScope =>
      simp only [DeclarationKind.nodeKind, NodeKind.text, moduleText]
      cases hierarchy.handle? id <;> cases hierarchy.ownerHandle? id <;> rfl
  | classType =>
      simp only [DeclarationKind.nodeKind, NodeKind.text, classText]
      cases hierarchy.handle? id <;> cases hierarchy.ownerHandle? id <;> rfl
  | enumType =>
      rw [Option.map_map]
      exact enumText_eq id
  | constructor =>
      rw [Option.map_map, Option.map_map]
      exact constructorText_eq id
  | method | function => exact callableText_eq id

/-- What is put in front of the initialiser for an entity is the type that it casts to. -/
theorem declarations_eq (id : EntityId) :
    (hierarchy.kind id).nodeKind.declarations hierarchy id =
      (hierarchy.typedef? id).toList.map Typedef.text := by
  rw [typedef?]
  cases hierarchy.kind id with
  | namespaceScope | classType | enumType | constructor => rfl
  | method | function =>
      simp only [DeclarationKind.nodeKind, NodeKind.declarations, aliasText?]
      cases hierarchy.aliasName? id <;> rfl

end Hierarchy

end RubyBindings
