/-
Module: RubyBindings.Declaration
Purpose: Declarations of the C++ library that is wrapped: namespaces, classes, constructors,
  methods, functions and enumerations, as far as the generated Ruby bindings need them.
Main exports: EntityId, DeclarationKind, Parameter, Declaration, Declaration.isEligible
-/

namespace RubyBindings

/-- The place of a declaration in its hierarchy. -/
abbrev EntityId := Nat

/-- The text of an entity id in messages. -/
def EntityId.display (id : EntityId) : String :=
  "#" ++ Nat.repr id

/-- What a declaration declares. -/
inductive DeclarationKind where
  | namespaceScope
  | classType
  | constructor
  | method
  | function
  | enumType
deriving DecidableEq, Repr

namespace DeclarationKind

/-- Every kind, in the order of their declaration. -/
def all : List DeclarationKind :=
  [.namespaceScope, .classType, .constructor, .method, .function, .enumType]

/-- The word for a kind. -/
def name : DeclarationKind → String
  | .namespaceScope => "namespace"
  | .classType => "class"
  | .constructor => "constructor"
  | .method => "method"
  | .function => "function"
  | .enumType => "enum"

/-- The kind with the given word. -/
def ofName? (word : String) : Option DeclarationKind :=
  all.find? (·.name == word)

/-- Kinds that name a scope or a type; their qualified names must be unique in a library. -/
def isType : DeclarationKind → Bool
  | .namespaceScope | .classType | .enumType => true
  | .constructor | .method | .function => false

end DeclarationKind

/-- A parameter of a callable: its C++ type as written, and its name if it has one. -/
structure Parameter where
  name : Option String
  type : String
deriving DecidableEq, Repr

/-- One declaration of the wrapped library. -/
structure Declaration where
  kind : DeclarationKind
  /-- The unqualified C++ name. -/
  name : String
  /-- The direct superclass of a class. -/
  superclass : Option EntityId := none
  /-- The return type of a method or function; without one it is `void`. -/
  returns : Option String := none
  parameters : List Parameter := []
  isStatic : Bool := false
  /-- The enumerators of an enumeration. -/
  values : List String := []
  /-- The header that declares it, where that is not a header of the whole library. -/
  header : Option String := none
  /-- Excluded from wrapping by the user. -/
  ignored : Bool := false
  /-- Wrapped somewhere else than in its declaring scope. -/
  moved : Bool := false
  /-- Publicly accessible. -/
  isPublic : Bool := true
deriving DecidableEq, Repr

namespace Declaration

/-- The return type as written in C++. -/
def returnType (declaration : Declaration) : String :=
  declaration.returns.getD "void"

/-- The parameter types, separated by commas, as in a signature or a template argument list. -/
def parameterTypes (declaration : Declaration) : String :=
  String.intercalate ", " (declaration.parameters.map Parameter.type)

/-- Should the declaration be wrapped where it stands, as far as it alone decides? -/
def isEligible (declaration : Declaration) : Bool :=
  !declaration.ignored && !declaration.moved && declaration.isPublic

end Declaration

end RubyBindings
