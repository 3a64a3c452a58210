/-
Module: RubyBindings.Library.LibraryError
Purpose: Everything that can be wrong with a library or its description, and how it is reported: a
  message, a code where there is one, and advice where there is some.
Main exports: NameRole, TextSpan, LibraryError, LibraryError.message, LibraryError.code?,
  LibraryError.help?
-/
import RubyBindings.Declaration
import RubyBindings.Naming.Identifier

namespace RubyBindings

open Naming (IdentifierFault)

/-- What a name names. -/
inductive NameRole where
  | library
  | declaration (kind : DeclarationKind)
  | enumerator
deriving DecidableEq, Repr

/-- The words for what a name names. -/
def NameRole.text : NameRole → String
  | .library => "library"
  | .declaration kind => kind.name
  | .enumerator => "enum value"

/-- A stretch of a text, counted in bytes of UTF-8. -/
structure TextSpan where
  offset : Nat
  length : Nat
deriving DecidableEq, Repr

/-- What can be wrong with a library or its description. -/
inductive LibraryError where
  /-- The file with the description cannot be read. -/
  | unreadable (path : String)
  /-- The text is no library description; `source` names the text. -/
  | malformed (source : String)
  | unknownSuperclass (derived superclass : String)
  | invalidSuperclass (derived superclass : String) (kind : DeclarationKind)
  /-- A name in a description is refused; `span` is where the text shows it. -/
  | invalidIdentifier (source : String) (span : Option TextSpan) (role : NameRole) (name : String)
      (fault : IdentifierFault)
  | duplicateName (kind : DeclarationKind) (name : String)
  | unknownEntity (id : EntityId)
  /-- Only a constructor may be declared without a name. -/
  | unnamed (kind : DeclarationKind) (scope : String)
  /-- A name is refused when its declaration is added to a scope. -/
  | invalidName (role : NameRole) (name scope : String) (fault : IdentifierFault)
deriving DecidableEq, Repr

namespace LibraryError

/-- What the user is told. -/
def message : LibraryError → String
  | .unreadable path => "failed to read '" ++ path ++ "'"
  | .malformed _ => "failed to parse library description"
  | .unknownSuperclass derived superclass =>
    "unknown superclass '" ++ superclass ++ "' for class '" ++ derived ++ "'"
  | .invalidSuperclass derived superclass kind =>
    "'" ++ superclass ++ "' is a " ++ kind.name ++ ", not a class, so '" ++ derived ++
      "' cannot derive from it"
  | .invalidIdentifier _ _ role name _ => "invalid " ++ role.text ++ " name '" ++ name ++ "'"
  | .duplicateName kind name => kind.name ++ " '" ++ name ++ "' is declared more than once"
  | .unknownEntity id => "no entity " ++ EntityId.display id ++ " in this library"
  | .unnamed kind scope => kind.name ++ " declared in '" ++ scope ++ "' has no name"
  | .invalidName role name scope fault =>
    "invalid " ++ role.text ++ " name '" ++ name ++ "' in '" ++ scope ++ "': " ++ fault.message

/-- The code of an error, for users who look it up. -/
def code? : LibraryError → Option String
  | .unreadable _ => none
  | .malformed _ => some "ricegen::parse_error"
  | .unknownSuperclass _ _ => some "ricegen::unknown_superclass"
  | .invalidSuperclass _ _ _ => some "ricegen::invalid_superclass"
  | .invalidIdentifier _ _ _ _ _ => some "ricegen::invalid_identifier"
  | .duplicateName _ _ => some "ricegen::duplicate_name"
  | .unknownEntity _ => some "ricegen::unknown_entity"
  | .unnamed _ _ | .invalidName _ _ _ _ => some "ricegen::validation_error"

/-- Advice on how to mend an error. -/
def help? : LibraryError → Option String
  | .unknownSuperclass _ _ =>
    some "superclasses are referenced by their fully qualified name, e.g. 'geo::Shape'"
  | .invalidSuperclass _ _ _ => some "only classes can be named as a superclass"
  | .invalidIdentifier _ _ _ _ fault =>
    some (fault.message ++ ". Use only letters, numbers, and underscores, " ++
      "starting with a letter or underscore.")
  | _ => none

end LibraryError

end RubyBindings
