/-
Module: RubyBindings.Proofs.Mirroring
Purpose: When one attempt does on a view of the states what another does on the states themselves.
  Attempts that are made in the same way of attempts that mirror each other do so too.
Main exports: Attempt.Mirrors, Attempt.Mirrors.bind, Attempt.Mirrors.forM, Attempt.Mirrors.within
-/
import RubyBindings.Proofs.Attempt

namespace RubyBindings.Attempt

variable {σ τ ε : Type} {α β : Type}

/-- From every state that is `inside`, the image does on the view of the state what the source does
on the state; and the source stays inside. -/
structure Mirrors (view : σ → τ) (inside : σ → Prop) (source : Attempt σ ε α)
    (image : Attempt τ ε α) : Prop where
  stays : ∀ state, inside state → inside (source.perform state).2
  same : ∀ state, inside state →
    image.perform (view state) = ((source.perform state).1, view (source.perform state).2)

namespace Mirrors

variable {view : σ → τ} {inside : σ → Prop} {source : Attempt σ ε α} {image : Attempt τ ε α}

/-- What the source does may be said in another way. -/
theorem congr {other : Attempt σ ε α} (mirrors : Mirrors view inside other image)
    (equal : ∀ state, inside state → source.perform state = other.perform state) :
    Mirrors view inside source image where
  stays := by
    intro state isInside
    rw [equal state isInside]
    exact mirrors.stays state isInside
  same := by
    intro state isInside
    rw [equal state isInside]
    exact mirrors.same state isInside

theorem ofPure (value : α) :
    Mirrors view inside (pure value : Attempt σ ε α) (pure value) :=
  ⟨fun _ isInside => isInside, fun _ _ => rfl⟩

theorem ofThrow (error : ε) :
    Mirrors view inside (throw error : Attempt σ ε α) (throw error) :=
  ⟨fun _ isInside => isInside, fun _ _ => rfl⟩

theorem ofResult {result other : Except ε α} (equal : other = result) :
    Mirrors view inside (ofExcept result) (ofExcept other) := by
  subst equal
  exact ⟨fun _ isInside => isInside, fun _ _ => rfl⟩

theorem ofModify {change : σ → σ} {other : τ → τ}
    (stays : ∀ state, inside state → inside (change state))
    (equal : ∀ state, inside state → other (view state) = view (change state)) :
    Mirrors view inside (modify change : Attempt σ ε PUnit) (modify other) where
  stays := stays
  same := by
    intro state isInside
    rw [perform_modify, perform_modify, equal state isInside]

theorem bind {next : α → Attempt σ ε β} {other : α → Attempt τ ε β}
    (first : Mirrors view inside source image)
    (rest : ∀ value, Mirrors view inside (next value) (other value)) :
    Mirrors view inside (source >>= next) (image >>= other) where
  stays := by
    intro state isInside
    have middle := first.stays state isInside
    rw [perform_bind]
    rcases performed : source.perform state with ⟨error | value, after⟩
    · rwa [performed] at middle
    · rw [performed] at middle
      exact (rest value).stays after middle
  same := by
    intro state isInside
    have middle := first.stays state isInside
    rw [perform_bind, perform_bind, first.same state isInside]
    rcases performed : source.perform state with ⟨error | value, after⟩
    · rfl
    · rw [performed] at middle
      exact (rest value).same after middle

/-- What is read off the state need only be mirrored for what is inside. -/
theorem get_bind {next : σ → Attempt σ ε β} {other : τ → Attempt τ ε β}
    (rest : ∀ state, inside state → Mirrors view inside (next state) (other (view state))) :
    Mirrors view inside (get >>= next) (get >>= other) where
  stays := by
    intro state isInside
    rw [perform_bind, perform_get]
    exact (rest state isInside).stays state isInside
  same := by
    intro state isInside
    rw [perform_bind, perform_bind, perform_get, perform_get]
    exact (rest state isInside).same state isInside

theorem forM {items : List β} {action : β → Attempt σ ε PUnit} {other : β → Attempt τ ε PUnit}
    (each : ∀ item ∈ items, Mirrors view inside (action item) (other item)) :
    Mirrors view inside (items.forM action) (items.forM other) := by
  induction items with
  | nil => exact ofPure PUnit.unit
  | cons item items ih =>
      obtain ⟨first, rest⟩ := List.forall_mem_cons.mp each
      exact first.bind fun _ => ih rest

theorem mapError {δ : Type} (mirrors : Mirrors view inside source image) (tell : ε → δ) :
    Mirrors view inside (source.mapError tell) (image.mapError tell) where
  stays := mirrors.stays
  same := by
    intro state isInside
    rw [perform_mapError, perform_mapError, mirrors.same state isInside]

/-- A part of a state is mirrored as the whole is, if it is seen and put back alike. -/
theorem within {σ' τ' : Type} {whole : σ' → τ'} {wholeInside : σ' → Prop}
    {part : σ' → σ} {update : σ → σ' → σ'} {otherPart : τ' → τ} {otherUpdate : τ → τ' → τ'}
    (mirrors : Mirrors view inside source image)
    (reads : ∀ state, wholeInside state →
      inside (part state) ∧ otherPart (whole state) = view (part state))
    (writes : ∀ changed state, inside changed → wholeInside state →
      wholeInside (update changed state) ∧
        otherUpdate (view changed) (whole state) = whole (update changed state)) :
    Mirrors whole wholeInside (source.within part update) (image.within otherPart otherUpdate) where
  stays := by
    intro state isInside
    rw [perform_within]
    have changed := mirrors.stays _ (reads state isInside).1
    exact (writes _ state changed isInside).1
  same := by
    intro state isInside
    obtain ⟨partInside, seen⟩ := reads state isInside
    have changed := mirrors.stays _ partInside
    rw [perform_within, perform_within, seen, mirrors.same _ partInside,
      (writes _ state changed isInside).2]

end Mirrors

end RubyBindings.Attempt
