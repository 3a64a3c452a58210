/-
Module: RubyBindings.Attempt
Purpose: Operations that change a state and may fail. A failed operation leaves the state as far as
  it has come, because what was done before the failure stays done.
Main exports: Attempt, Attempt.perform, Attempt.within
-/

namespace RubyBindings

/-- An operation on a state `σ` that may fail with an error `ε`. -/
abbrev Attempt (σ ε : Type) := ExceptT ε (StateM σ)

namespace Attempt

variable {σ τ ε : Type} {α : Type}

/-- The operation that a function on states describes. -/
def ofFunction (function : σ → Except ε α × σ) : Attempt σ ε α :=
  ExceptT.mk function

/-- Do an operation from a state: its result, and the state after it. -/
def perform (attempt : Attempt σ ε α) (state : σ) : Except ε α × σ :=
  StateT.run (ExceptT.run attempt) state

/-- Do an operation on a part of a larger state. -/
def within (view : τ → σ) (update : σ → τ → τ) (attempt : Attempt σ ε α) : Attempt τ ε α :=
  ofFunction fun state =>
    let (result, part) := attempt.perform (view state)
    (result, update part state)

/-- The same operation with its error told in another way. -/
def mapError {δ : Type} (tell : ε → δ) (attempt : Attempt σ ε α) : Attempt σ δ α :=
  ofFunction fun state =>
    let (result, state) := attempt.perform state
    (result.mapError tell, state)

/-- A result that does not touch the state. -/
def ofExcept (result : Except ε α) : Attempt σ ε α :=
  ofFunction fun state => (result, state)

end Attempt

end RubyBindings
