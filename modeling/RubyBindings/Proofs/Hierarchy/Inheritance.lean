/-
Module: RubyBindings.Proofs.Hierarchy.Inheritance
Purpose: Lengths of superclass chains. The chain of an entity is one link longer than the chain of
  its superclass, so a class has a larger inheritance depth than every class above it.
Main exports: Hierarchy.chainLength?_mono, Hierarchy.inheritanceDepth?_superclass
-/
import RubyBindings.Hierarchy.Inheritance

namespace RubyBindings.Hierarchy

variable {hierarchy : Hierarchy}

/-- A chain that ends still ends there if fewer entities count as passed and more links may be
followed. -/
theorem chainLength?_mono (links : Nat) : ∀ {other : Nat} {seen fewer : List EntityId}
    {current : EntityId} {length : Nat}, links ≤ other → fewer ⊆ seen →
    hierarchy.chainLength? links seen current = some length →
      hierarchy.chainLength? other fewer current = some length := by
  induction links with
  | zero => exact fun _ _ found => nomatch found
  | succ links ih =>
      intro other seen fewer current length more inside found
      obtain ⟨other, rfl⟩ : ∃ rest, other = rest + 1 := ⟨other - 1, by omega⟩
      rw [chainLength?] at found ⊢
      cases link : hierarchy.superclass current with
      | none =>
          rw [link] at found
          exact found
      | some superclass =>
          rw [link] at found
          dsimp only at found ⊢
          split at found
          · cases found
          · rename_i new
            obtain ⟨rest, above, same⟩ := Option.map_eq_some_iff.mp found
            rw [if_neg fun member => new (inside member), ih (by omega)
              (List.cons_subset_cons superclass inside) above, Option.map_some, same]

/-- The depth of an entity is one more than the depth of its superclass. -/
theorem inheritanceDepth?_superclass {id superclass : EntityId} {depth : Nat}
    (link : hierarchy.superclass id = some superclass)
    (found : hierarchy.inheritanceDepth? id = some depth) :
    ∃ above, hierarchy.inheritanceDepth? superclass = some above ∧ depth = above + 1 := by
  rw [inheritanceDepth?, chainLength?, link] at found
  dsimp only at found
  split at found
  · cases found
  · obtain ⟨above, rest, same⟩ := Option.map_eq_some_iff.mp found
    have chain := chainLength?_mono hierarchy.size (Nat.le_succ _)
      (List.cons_subset_cons superclass (List.nil_subset [id])) rest
    exact ⟨above, chain, same.symm⟩

end RubyBindings.Hierarchy
