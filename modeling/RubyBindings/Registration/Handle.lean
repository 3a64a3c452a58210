/-
Module: RubyBindings.Registration.Handle
Purpose: The variables that scopes and types are registered into, and the include lines of headers.
Main exports: Hierarchy.handle?, Hierarchy.ownerHandle?, includeLine, Session.includeOwnHeader
-/
import RubyBindings.Hierarchy
import RubyBindings.Session
import RubyBindings.BindingTree.Node
import RubyBindings.Naming.VariableName

namespace RubyBindings

open Naming (variableName)

/-- The variable that a scope or type is registered into; the root and callables have none. -/
def Hierarchy.handle? (hierarchy : Hierarchy) (id : EntityId) : Option Handle :=
  let qualified := hierarchy.qualifiedName id
  match hierarchy.parent id, hierarchy.kind id with
  | none, _ => none
  | some _, .namespaceScope => some ⟨"rb_m" ++ variableName qualified, "Rice::Module"⟩
  | some _, .classType =>
    some ⟨"rb_c" ++ variableName qualified, "Rice::Data_Type<" ++ qualified ++ ">"⟩
  | some _, .enumType =>
    some ⟨"rb_e" ++ variableName qualified, "Rice::Enum<" ++ qualified ++ ">"⟩
  | some _, _ => none

/-- The variable of the scope around an entity; there is none at the top level. -/
def Hierarchy.ownerHandle? (hierarchy : Hierarchy) (id : EntityId) : Option Handle :=
  (hierarchy.parent id).bind hierarchy.handle?

/-- The beginning of a definition: the type and the name of the variable. -/
def Handle.definition (handle : Handle) : String :=
  handle.type ++ " " ++ handle.name ++ " = "

/-- The line that includes a header. A header given with angle brackets keeps them, any other is
put in quotes. -/
def includeLine (header : String) : String :=
  match header.toList with
  | '<' :: _ => "#include " ++ header
  | _ => "#include \"" ++ header ++ "\""

/-- Claim a header, with its include line if it was free. -/
def Session.includeHeader (session : Session) (header : String) : List String × Session :=
  match session.claimHeader header with
  | (true, session) => ([includeLine header], session)
  | (false, session) => ([], session)

/-- Claim a list of headers in order, with the include lines of those that were free. -/
def Session.includeHeaders (session : Session) : List String → List String × Session
  | [] => ([], session)
  | header :: headers =>
    let (line, session) := session.includeHeader header
    let (lines, session) := session.includeHeaders headers
    (line ++ lines, session)

/-- Claim the header that declares an entity, if it has one of its own. -/
def Session.includeOwnHeader (session : Session) (hierarchy : Hierarchy) (id : EntityId) :
    List String × Session :=
  session.includeHeaders (hierarchy.declaration id).header.toList

end RubyBindings
