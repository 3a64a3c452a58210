/-
Module: RubyBindings.Library.Loading
Purpose: Libraries loaded from the text of a TOML description. The text is parsed, then every name
  in it is checked, then the description is made into a library.
Main exports: LibraryDescription.ofToml, Library.ofToml
-/
import RubyBindings.Library.DescriptionData
import RubyBindings.Toml.Datum

namespace RubyBindings

/-- The description that a TOML text gives. `source` names the text in errors. -/
def LibraryDescription.ofToml (text source : String) :
    Except LibraryError LibraryDescription :=
  match (Toml.documentDatum text).bind (LibraryDescription.ofDatum? .toml) with
  | none => .error (.malformed source)
  | some description => do
    description.check text source
    return description

/-- The name of a text that no other name was given for. -/
def Library.defaultSource : String := "library.toml"

/-- The library that a TOML text describes. -/
def Library.ofToml (text source : String) : Except LibraryError Library := do
  ofDescription (← LibraryDescription.ofToml text source)

end RubyBindings
