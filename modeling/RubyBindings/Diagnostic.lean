/-
Module: RubyBindings.Diagnostic
Purpose: Findings that generation reports without stopping at once.
Main exports: Severity, Diagnostic, Diagnostic.text
-/

namespace RubyBindings

/-- How serious a finding is. -/
inductive Severity where
  /-- The generated unit must not be written. -/
  | error
  /-- There is output, but probably not what the user wants. -/
  | warning
  | info
deriving DecidableEq, Repr

namespace Severity

/-- The word for a severity in messages. -/
def name : Severity → String
  | .error => "error"
  | .warning => "warning"
  | .info => "info"

/-- The word for a severity in recorded data. -/
def title : Severity → String
  | .error => "Error"
  | .warning => "Warning"
  | .info => "Info"

/-- Does a finding of this severity stop the unit from being written? -/
def isError (severity : Severity) : Bool :=
  severity == .error

/-- Is this the severity of a warning? -/
def isWarning (severity : Severity) : Bool :=
  severity == .warning

end Severity

/-- A finding, the phase that made it, and the qualified name of the entity it is about. -/
structure Diagnostic where
  severity : Severity
  phase : String
  message : String
  location : Option String := none
deriving DecidableEq, Repr

/-- The text of a finding. -/
def Diagnostic.text (diagnostic : Diagnostic) : String :=
  let found :=
    diagnostic.severity.name ++ " [" ++ diagnostic.phase ++ "]: " ++ diagnostic.message
  match diagnostic.location with
  | some location => found ++ " (at " ++ location ++ ")"
  | none => found

end RubyBindings
