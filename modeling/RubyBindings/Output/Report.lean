/-
Module: RubyBindings.Output.Report
Purpose: Failures as they reach the user: what was being done, from the outermost step to the
  innermost, and the cause at the end.
Main exports: Cause, Report, Report.because, Report.chain, Report.message
-/
import RubyBindings.BindingTree.GenerationError
import RubyBindings.Output.Disk

namespace RubyBindings

/-- The innermost reason of a failure. -/
inductive Cause where
  | generation (error : GenerationError)
  | disk (error : DiskError)
  | other (text : String)
deriving DecidableEq, Repr

/-- The text of a cause. -/
def Cause.message : Cause → String
  | .generation error => error.message
  | .disk error => error.message
  | .other text => text

/-- A failure: the steps that failed because of it, the outermost first, and its cause. -/
structure Report where
  steps : List String
  cause : Cause
deriving DecidableEq, Repr

namespace Report

/-- A failure of which only the cause is known. -/
def ofCause (cause : Cause) : Report where
  steps := []
  cause := cause

/-- A failure with a text for its cause. -/
def ofText (text : String) : Report :=
  ofCause (.other text)

/-- A generation error as a failure. -/
def ofGeneration (error : GenerationError) : Report :=
  ofCause (.generation error)

/-- The failure of a larger step. -/
def because (step : String) (report : Report) : Report :=
  { report with steps := step :: report.steps }

/-- The texts of a failure, from the outermost step to the cause. -/
def chain (report : Report) : List String :=
  report.steps ++ [report.cause.message]

/-- The outermost text. -/
def message (report : Report) : String :=
  report.steps.headD report.cause.message

end Report

end RubyBindings
