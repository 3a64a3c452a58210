/-
Module: RubyBindings.Registration.Contribution
Purpose: What each kind of node adds to the unit: its own text, its fragments, and its variable.
Main exports: NodeKind.text, NodeKind.contribute, NodeKind.handle?
-/
import RubyBindings.Registration.Callable

namespace RubyBindings

/-- The header of the library that the generated code is written against. -/
def bindingHeader : String := "<rice/rice.hpp>"

/-- The warning about a class whose superclass cannot be named. -/
def unwrappedBaseWarning (hierarchy : Hierarchy) (id superclass : EntityId) : Diagnostic where
  severity := .warning
  phase := "build"
  message :=
    "superclass '" ++ hierarchy.qualifiedName superclass ++
      "' is not wrapped, registering without a base class"
  location := some (hierarchy.qualifiedName id)

namespace NodeKind

/-- The text of a node itself. -/
def text (hierarchy : Hierarchy) (id : EntityId) : NodeKind → String
  | .extension => hierarchy.extensionText
  | .moduleScope => hierarchy.moduleText id
  | .classType => hierarchy.classText id
  | .constructor => hierarchy.constructorText id
  | .method | .function => hierarchy.callableText id
  | .enumType => hierarchy.enumText id

/-- The definitions that have to stand in front of the initialiser. -/
def declarations (hierarchy : Hierarchy) (id : EntityId) : NodeKind → List String
  | .method | .function => (hierarchy.aliasText? id).toList
  | _ => []

/-- The findings about a node's entity. -/
def findings (hierarchy : Hierarchy) (id : EntityId) : NodeKind → List Diagnostic
  | .classType => (hierarchy.unwrappedBase? id).toList.map (unwrappedBaseWarning hierarchy id)
  | _ => []

/-- The fragments of a node. The extension includes the headers of the whole library and registers
nothing; every other node includes its own header and registers its text. -/
def contribute (hierarchy : Hierarchy) (id : EntityId) (kind : NodeKind) (session : Session) :
    Fragments × Session :=
  match kind with
  | .extension =>
    let (includes, session) := session.includeHeaders (bindingHeader :: hierarchy.headers)
    ({ includes }, session)
  | _ =>
    let (includes, session) := session.includeOwnHeader hierarchy id
    let session := (kind.findings hierarchy id).foldl Session.addDiagnostic session
    ({ includes
       declarations := kind.declarations hierarchy id
       registrations := [kind.text hierarchy id] }, session)

/-- The variable of a node: only modules, classes and enumerations have one. -/
def handle? (hierarchy : Hierarchy) (id : EntityId) : NodeKind → Option Handle
  | .moduleScope | .classType | .enumType => hierarchy.handle? id
  | _ => none

end NodeKind

end RubyBindings
