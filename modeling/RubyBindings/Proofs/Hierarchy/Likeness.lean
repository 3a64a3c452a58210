/-
Module: RubyBindings.Proofs.Hierarchy.Likeness
Purpose: When one hierarchy looks like a smaller one to generation: it has the same entities and,
  behind them, only such as stand in none of their scopes as an eligible declaration. Then the same
  entities are wrapped, with the same inheritance depths.
Main exports: Hierarchy.LooksLike, Hierarchy.LooksLike.isWrapped_eq,
  Hierarchy.chainLength?_eq_of_le, Hierarchy.LooksLike.inheritanceDepth?_eq
-/
import Mathlib.Data.List.Nodup
import Mathlib.Data.List.Perm.Subperm
import RubyBindings.Hierarchy.Inheritance
import RubyBindings.Proofs.Hierarchy.Nesting

namespace RubyBindings.Hierarchy

/-! ## Chains of superclasses -/

section Chains

variable {hierarchy : Hierarchy}

/-- More links than entities make no difference to a chain: none is passed twice. -/
theorem chainLength?_eq_of_le
    (closed : ∀ id superclass, hierarchy.superclass id = some superclass →
      superclass < hierarchy.size) (links : Nat) :
    ∀ {other : Nat} {seen : List EntityId} {current : EntityId}, links ≤ other →
      hierarchy.size < links + seen.length → seen.Nodup → (∀ id ∈ seen, id < hierarchy.size) →
        hierarchy.chainLength? other seen current = hierarchy.chainLength? links seen current := by
  induction links with
  | zero =>
      -- Only a chain that has passed more entities than there are could run out of links.
      intro other seen current _ many distinct existing
      have inRange : seen ⊆ List.range hierarchy.size :=
        fun id member => List.mem_range.mpr (existing id member)
      have few := (List.subperm_of_subset distinct inRange).length_le
      rw [List.length_range] at few
      omega
  | succ links ih =>
      intro other seen current more many distinct existing
      obtain ⟨other, rfl⟩ : ∃ rest, other = rest + 1 := ⟨other - 1, by omega⟩
      rw [chainLength?, chainLength?]
      cases link : hierarchy.superclass current with
      | none => rfl
      | some superclass =>
          dsimp only
          by_cases passed : superclass ∈ seen
          · rw [if_pos passed, if_pos passed]
          · have oneMore : hierarchy.size < links + (superclass :: seen).length := by
              rw [List.length_cons]
              omega
            rw [if_neg passed, if_neg passed, ih (Nat.le_of_succ_le_succ more) oneMore
              (List.nodup_cons.mpr ⟨passed, distinct⟩)
              (List.forall_mem_cons.mpr ⟨closed current superclass link, existing⟩)]

end Chains

/-! ## Hierarchies that look alike -/

/-- The wide hierarchy has the entities of the narrow one, and those that it has beyond them are not
eligible in the scopes of the narrow one. -/
structure LooksLike (wide narrow : Hierarchy) : Prop where
  nested : narrow.Nested
  wideNested : wide.Nested
  closed : ∀ id superclass, narrow.superclass id = some superclass → superclass < narrow.size
  headers : wide.headers = narrow.headers
  grows : narrow.size ≤ wide.size
  declaration : ∀ id < narrow.size, wide.declaration id = narrow.declaration id
  parent : ∀ id < narrow.size, wide.parent id = narrow.parent id
  qualifiedName : ∀ id < narrow.size, wide.qualifiedName id = narrow.qualifiedName id
  eligible : ∀ id < narrow.size,
    (wide.children id).filter wide.isEligible = (narrow.children id).filter narrow.isEligible

namespace LooksLike

/-- A hierarchy looks like itself. -/
theorem refl {hierarchy : Hierarchy} (nested : hierarchy.Nested)
    (closed : ∀ id superclass, hierarchy.superclass id = some superclass →
      superclass < hierarchy.size) : hierarchy.LooksLike hierarchy :=
  ⟨nested, nested, closed, rfl, Nat.le_refl _, fun _ _ => rfl, fun _ _ => rfl, fun _ _ => rfl,
    fun _ _ => rfl⟩

variable {narrow wide : Hierarchy} (like : wide.LooksLike narrow) {id : EntityId}
  (existing : id < narrow.size)
include like

/-- What stands around an entity is there as well. -/
theorem parent_lt_size {scope : EntityId} (link : narrow.parent id = some scope) :
    scope < narrow.size :=
  Nat.lt_trans (like.nested.parent_lt link) (lt_size_of_parent link)

theorem child_lt_size {child : EntityId} (member : child ∈ narrow.children id) :
    child < narrow.size :=
  lt_size_of_parent ((like.nested.childIff id child).mp member)

include existing

theorem name_eq : wide.name id = narrow.name id := by
  rw [name, name, like.declaration id existing]

theorem kind_eq : wide.kind id = narrow.kind id := by
  rw [kind, kind, like.declaration id existing]

theorem superclass_eq : wide.superclass id = narrow.superclass id := by
  rw [superclass, superclass, like.declaration id existing]

theorem isEligible_eq : wide.isEligible id = narrow.isEligible id := by
  rw [isEligible, isEligible, like.declaration id existing]

/-- The same entities are wrapped. -/
theorem isWrapped_eq : wide.isWrapped id = narrow.isWrapped id := by
  induction id, existing using like.nested.induction_on_parent with
  | top => rw [like.nested.isWrapped_root, like.wideNested.isWrapped_root]
  | step id existing scope link ih =>
      have wideLink := (like.parent id existing).trans link
      rw [like.nested.isWrapped_child link, like.wideNested.isWrapped_child wideLink, ih,
        like.isEligible_eq existing]

/-- Chains of superclasses stay among the entities of the narrow hierarchy. -/
theorem chainLength?_eq (links : Nat) (seen : List EntityId) :
    wide.chainLength? links seen id = narrow.chainLength? links seen id := by
  induction links generalizing seen id with
  | zero => rfl
  | succ links ih =>
      rw [chainLength?, chainLength?, like.superclass_eq existing]
      cases link : narrow.superclass id with
      | none => rfl
      | some superclass =>
          dsimp only
          rw [ih (like.closed id superclass link)]

/-- Every entity has the same inheritance depth. -/
theorem inheritanceDepth?_eq : wide.inheritanceDepth? id = narrow.inheritanceDepth? id := by
  have enough : narrow.size < narrow.size + 1 + [id].length := by
    rw [List.length_singleton]
    omega
  calc wide.inheritanceDepth? id
      = narrow.chainLength? (wide.size + 1) [id] id := like.chainLength?_eq existing _ _
    _ = narrow.inheritanceDepth? id :=
        chainLength?_eq_of_le like.closed _ (Nat.succ_le_succ like.grows) enough
          (List.nodup_singleton id) (by simpa using existing)

end LooksLike

end RubyBindings.Hierarchy
