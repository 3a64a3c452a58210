/-
Module: RubyBindings.Session
Purpose: What the nodes of one generation run share: the headers that some node includes already,
  and the findings so far.
Main exports: Session, Session.claimHeader, Session.addDiagnostic
-/
import RubyBindings.Diagnostic

namespace RubyBindings

/-- The headers claimed so far and the findings reported so far, both in order. -/
structure Session where
  claimedHeaders : List String := []
  diagnostics : List Diagnostic := []
deriving DecidableEq, Repr

namespace Session

/-- A run in which nothing has happened. -/
def fresh : Session := {}

/-- Claim a header. The answer is whether it was free. -/
def claimHeader (session : Session) (header : String) : Bool × Session :=
  if header ∈ session.claimedHeaders then (false, session)
  else (true, { session with claimedHeaders := session.claimedHeaders ++ [header] })

/-- Report a finding. -/
def addDiagnostic (session : Session) (diagnostic : Diagnostic) : Session :=
  { session with diagnostics := session.diagnostics ++ [diagnostic] }

/-- Report an error that has no place. -/
def addError (session : Session) (phase message : String) : Session :=
  session.addDiagnostic { severity := .error, phase, message }

/-- Report a piece of information that has no place. -/
def addInfo (session : Session) (phase message : String) : Session :=
  session.addDiagnostic { severity := .info, phase, message }

/-- The errors reported so far. -/
def errors (session : Session) : List Diagnostic :=
  session.diagnostics.filter (·.severity.isError)

/-- The warnings reported so far. -/
def warnings (session : Session) : List Diagnostic :=
  session.diagnostics.filter (·.severity.isWarning)

/-- Has an error been reported? -/
def hasErrors (session : Session) : Bool :=
  session.diagnostics.any (·.severity.isError)

end Session

end RubyBindings
