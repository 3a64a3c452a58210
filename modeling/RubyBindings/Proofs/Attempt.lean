/-
Module: RubyBindings.Proofs.Attempt
Purpose: What each way of making an attempt does when it is performed: the result, and the state
  that is left behind. Every proof about an attempt goes through these equations.
Main exports: Attempt.perform_bind, Attempt.perform_bind_ok, Attempt.perform_forM_cons,
  bind_eq_ok, forM_eq_ok
-/
import RubyBindings.Attempt

namespace RubyBindings.Attempt

variable {σ τ ε δ : Type} {α β : Type}

/-- Attempts that do the same from every state are the same. -/
theorem ext {first second : Attempt σ ε α}
    (same : ∀ state, first.perform state = second.perform state) : first = second :=
  funext same

@[simp] theorem perform_pure (value : α) (state : σ) :
    (pure value : Attempt σ ε α).perform state = (.ok value, state) := rfl

@[simp] theorem perform_throw (error : ε) (state : σ) :
    (throw error : Attempt σ ε α).perform state = (.error error, state) := rfl

@[simp] theorem perform_get (state : σ) :
    (get : Attempt σ ε σ).perform state = (.ok state, state) := rfl

@[simp] theorem perform_modify (change : σ → σ) (state : σ) :
    (modify change : Attempt σ ε PUnit).perform state = (.ok ⟨⟩, change state) := rfl

@[simp] theorem perform_ofFunction (function : σ → Except ε α × σ) (state : σ) :
    (ofFunction function).perform state = function state := rfl

@[simp] theorem perform_ofExcept (result : Except ε α) (state : σ) :
    (ofExcept result).perform state = (result, state) := rfl

/-- A part of a state is worked on as the whole of it would be, and then put back. -/
@[simp] theorem perform_within (view : τ → σ) (update : σ → τ → τ) (attempt : Attempt σ ε α)
    (state : τ) :
    (attempt.within view update).perform state =
      ((attempt.perform (view state)).1, update (attempt.perform (view state)).2 state) := rfl

@[simp] theorem perform_mapError (tell : ε → δ) (attempt : Attempt σ ε α) (state : σ) :
    (attempt.mapError tell).perform state =
      ((attempt.perform state).1.mapError tell, (attempt.perform state).2) := rfl

/-- Two attempts one after the other: the second is made only if the first succeeds, from the
state that the first leaves behind. -/
theorem perform_bind (attempt : Attempt σ ε α) (next : α → Attempt σ ε β) (state : σ) :
    (attempt >>= next).perform state =
      match attempt.perform state with
      | (.ok value, after) => (next value).perform after
      | (.error error, after) => (.error error, after) := by
  have continued : (attempt >>= next).perform state =
      (ExceptT.bindCont next (attempt.perform state).1).run (attempt.perform state).2 := rfl
  rw [continued]
  rcases attempt.perform state with ⟨_ | _, after⟩ <;> rfl

/-- What succeeds as a whole succeeded step by step. -/
theorem perform_bind_ok {attempt : Attempt σ ε α} {next : α → Attempt σ ε β} {state after : σ}
    {value : β} (performed : (attempt >>= next).perform state = (.ok value, after)) :
    ∃ first middle, attempt.perform state = (.ok first, middle) ∧
      (next first).perform middle = (.ok value, after) := by
  rw [perform_bind] at performed
  rcases made : attempt.perform state with ⟨error | first, middle⟩
  · rw [made] at performed
    cases performed
  · rw [made] at performed
    exact ⟨first, middle, rfl, performed⟩

theorem perform_forM_cons (action : α → Attempt σ ε PUnit) (item : α) (items : List α)
    (state : σ) :
    ((item :: items).forM action).perform state =
      match (action item).perform state with
      | (.ok _, after) => (items.forM action).perform after
      | (.error error, after) => (.error error, after) := by
  change (action item >>= fun _ => items.forM action).perform state = _
  rw [perform_bind]
  rcases (action item).perform state with ⟨_ | _, after⟩ <;> rfl

/-- Where a list is gone through with success, so was its first item. -/
theorem perform_forM_cons_ok {action : α → Attempt σ ε PUnit} {item : α} {items : List α}
    {state after : σ} (performed : ((item :: items).forM action).perform state = (.ok ⟨⟩, after)) :
    ∃ middle, (action item).perform state = (.ok ⟨⟩, middle) ∧
      (items.forM action).perform middle = (.ok ⟨⟩, after) := by
  rw [perform_forM_cons] at performed
  rcases made : (action item).perform state with ⟨error | done, middle⟩
  · rw [made] at performed
    cases performed
  · rw [made] at performed
    exact ⟨middle, rfl, performed⟩

/-- Telling an error in another way makes no success of it. -/
theorem perform_mapError_ok {tell : ε → δ} {attempt : Attempt σ ε α} {state after : σ} {value : α}
    (performed : (attempt.mapError tell).perform state = (.ok value, after)) :
    attempt.perform state = (.ok value, after) := by
  rw [perform_mapError] at performed
  rcases made : attempt.perform state with ⟨error | found, middle⟩
  · rw [made] at performed
    cases performed
  · rw [made] at performed
    cases performed
    rfl

/-- What succeeds on a part of a state has changed that part only. -/
theorem perform_within_ok {view : τ → σ} {update : σ → τ → τ} {attempt : Attempt σ ε α}
    {state after : τ} {value : α}
    (performed : (attempt.within view update).perform state = (.ok value, after)) :
    ∃ part, attempt.perform (view state) = (.ok value, part) ∧ after = update part state := by
  rw [perform_within] at performed
  obtain ⟨same, rfl⟩ := Prod.mk.inj performed
  exact ⟨_, Prod.ext same rfl, rfl⟩

end RubyBindings.Attempt

namespace RubyBindings

/-- What succeeds as a whole succeeded step by step, when no state is at hand. -/
theorem bind_eq_ok {α β ε : Type} {result : Except ε α} {next : α → Except ε β} {value : β} :
    (result >>= next) = .ok value ↔ ∃ first, result = .ok first ∧ next first = .ok value := by
  cases result with
  | error error => exact ⟨nofun, fun ⟨_, impossible, _⟩ => nomatch impossible⟩
  | ok first =>
      constructor
      · exact fun performed => ⟨first, rfl, performed⟩
      · rintro ⟨_, same, performed⟩
        cases same
        exact performed

/-- Checking a list succeeds exactly if every check does. -/
theorem forM_eq_ok {α ε : Type} {check : α → Except ε PUnit} {items : List α} :
    items.forM check = .ok ⟨⟩ ↔ ∀ item ∈ items, check item = .ok ⟨⟩ := by
  induction items with
  | nil => exact ⟨fun _ _ member => absurd member List.not_mem_nil, fun _ => rfl⟩
  | cons item items ih =>
      change (check item >>= fun _ => items.forM check) = .ok ⟨⟩ ↔ _
      rw [List.forall_mem_cons]
      cases first : check item with
      | error error => exact ⟨nofun, fun both => absurd both.1 nofun⟩
      | ok passed => exact ih.trans ⟨fun rest => ⟨rfl, rest⟩, fun both => both.2⟩

end RubyBindings
