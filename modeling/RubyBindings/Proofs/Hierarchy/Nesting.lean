/-
Module: RubyBindings.Proofs.Hierarchy.Nesting
Purpose: How the entities of a hierarchy are nested. In a nested hierarchy, parent links and lists
  of children say the same; then an entity is wrapped if it and every scope around it is eligible.
Main exports: Hierarchy.Descends.lt_of_mem_children, Hierarchy.Descends.eq_of_deep,
  Hierarchy.Nested, Hierarchy.Nested.descends, Hierarchy.Nested.isWrapped_child,
  Hierarchy.Nested.induction_on_parent
-/
import RubyBindings.Hierarchy
import RubyBindings.Proofs.Forest

namespace RubyBindings.Hierarchy

variable {hierarchy : Hierarchy}

theorem entity_of_size_le {id : EntityId} (missing : hierarchy.size ≤ id) :
    hierarchy.entity id = .absent := by
  rw [size] at missing
  simp [entity, List.getD_eq_getElem?_getD, missing]

/-- Only an entity has children. -/
theorem lt_size_of_mem_children {id child : EntityId} (member : child ∈ hierarchy.children id) :
    id < hierarchy.size := by
  apply Nat.lt_of_not_le
  intro missing
  rw [children, entity_of_size_le missing] at member
  exact List.not_mem_nil member

/-- Only an entity has a parent. -/
theorem lt_size_of_parent {id parent : EntityId} (link : hierarchy.parent id = some parent) :
    id < hierarchy.size := by
  apply Nat.lt_of_not_le
  intro missing
  rw [Hierarchy.parent, entity_of_size_le missing] at link
  cases link

theorem Descends.lt_of_mem_children (descends : hierarchy.Descends) {id child : Nat}
    (member : child ∈ hierarchy.children id) : id < child ∧ child < hierarchy.size :=
  descends id (lt_size_of_mem_children member) child member

/-- What holds of an entity as soon as it holds of its children holds of every entity. -/
@[elab_as_elim]
theorem Descends.induction_on_children (descends : hierarchy.Descends) {motive : EntityId → Prop}
    (step : ∀ id, (∀ child ∈ hierarchy.children id, motive child) → motive id) (id : EntityId) :
    motive id := by
  -- On the number of larger ids, as children are among them.
  have bounded : ∀ rest id : Nat, hierarchy.size - id ≤ rest → motive id := by
    intro rest
    induction rest with
    | zero =>
        intro id few
        apply step id
        intro child member
        obtain ⟨larger, small⟩ := descends.lt_of_mem_children member
        omega
    | succ rest ih =>
        intro id few
        apply step id
        intro child member
        obtain ⟨larger, small⟩ := descends.lt_of_mem_children member
        exact ih child (by omega)
  exact bounded (hierarchy.size - id) id (Nat.le_refl _)

/-! ## Recursion along children -/

section Recursion

variable {β : Type} (descends : hierarchy.Descends) (within : Nat → EntityId → β)
  (step : ∀ depth other id,
    (∀ child ∈ hierarchy.children id, within depth child = within other child) →
      within (depth + 1) id = within (other + 1) id)
include descends step

/-- A recursion that goes down the children of entities, with a bound on its depth, comes to the same
for all bounds that are deeper than the hierarchy reaches. -/
theorem Descends.eq_of_deep (depth : Nat) : ∀ {other id : Nat}, 0 < depth → 0 < other →
    hierarchy.size < depth + id → hierarchy.size < other + id →
      within depth id = within other id := by
  induction depth with
  | zero => exact fun positive => absurd positive (Nat.lt_irrefl 0)
  | succ depth ih =>
      intro other id _ positive deep otherDeep
      obtain ⟨other, rfl⟩ : ∃ rest, other = rest + 1 := ⟨other - 1, by omega⟩
      apply step
      intro child member
      obtain ⟨larger, small⟩ := descends.lt_of_mem_children member
      exact ih (by omega) (by omega) (by omega) (by omega)

/-- Below an entity, one level less is deep enough. -/
theorem Descends.eq_of_mem_children {id child : EntityId}
    (member : child ∈ hierarchy.children id) :
    within hierarchy.size child = within (hierarchy.size + 1) child := by
  obtain ⟨larger, small⟩ := descends.lt_of_mem_children member
  have positive : 0 < child := Nat.zero_lt_of_lt larger
  exact descends.eq_of_deep within step hierarchy.size (Nat.zero_lt_of_lt small) (Nat.succ_pos _)
    (Nat.lt_add_of_pos_right positive) (by omega)

end Recursion

/-! ## Nested hierarchies -/

/-- The links of a hierarchy fit together: the root is there and has no parent, every other entity
has one that was declared before it, and the children of an entity are exactly those that name it
as their parent, in the order of their declaration. -/
structure Nested (hierarchy : Hierarchy) : Prop where
  hasRoot : root < hierarchy.size
  rootParent : hierarchy.parent root = none
  parentBefore : ∀ id < hierarchy.size, id ≠ root →
    ∃ parent < id, hierarchy.parent id = some parent
  childIff : ∀ parent child,
    child ∈ hierarchy.children parent ↔ hierarchy.parent child = some parent
  childrenAscend : ∀ parent, (hierarchy.children parent).Pairwise (· < ·)

/-- An entity is one of the scopes around another one, or is that one. -/
def Encloses (hierarchy : Hierarchy) : EntityId → EntityId → Prop :=
  Relation.ReflTransGen fun scope id => hierarchy.parent id = some scope

namespace Nested

variable (nested : hierarchy.Nested)
include nested

/-- A parent is declared before what is nested in it. -/
theorem parent_lt {id parent : Nat} (link : hierarchy.parent id = some parent) : parent < id := by
  have notRoot : id ≠ root := by
    rintro rfl
    rw [nested.rootParent] at link
    cases link
  obtain ⟨before, smaller, same⟩ := nested.parentBefore id (lt_size_of_parent link) notRoot
  rw [link] at same
  cases same
  exact smaller

theorem descends : hierarchy.Descends := by
  intro id _ child member
  have link := (nested.childIff id child).mp member
  exact ⟨nested.parent_lt link, lt_size_of_parent link⟩

/-- What holds of the root, and of an entity as soon as it holds of its parent, holds of every
entity. -/
@[elab_as_elim]
theorem induction_on_parent {motive : ∀ id, id < hierarchy.size → Prop}
    (top : motive root nested.hasRoot)
    (step : ∀ id (existing : id < hierarchy.size) parent
      (link : hierarchy.parent id = some parent),
      motive parent (Nat.lt_trans (nested.parent_lt link) existing) → motive id existing)
    (id : EntityId) (existing : id < hierarchy.size) : motive id existing := by
  induction id using Nat.strongRecOn with
  | ind id ih =>
      by_cases isRoot : id = root
      · subst isRoot
        exact top
      · obtain ⟨parent, smaller, link⟩ := nested.parentBefore id existing isRoot
        exact step id existing parent link (ih parent smaller (Nat.lt_trans smaller existing))

/-- Looking further up than the root changes nothing. -/
theorem isWrappedWithin_eq (id : Nat) : ∀ {steps : Nat}, id < steps →
    hierarchy.isWrappedWithin steps id = hierarchy.isWrappedWithin (id + 1) id := by
  induction id using Nat.strongRecOn with
  | ind id ih =>
      intro steps far
      obtain ⟨steps, rfl⟩ : ∃ rest, steps = rest + 1 := ⟨steps - 1, by omega⟩
      rw [isWrappedWithin, isWrappedWithin]
      cases link : hierarchy.parent id with
      | none => rfl
      | some parent =>
          have smaller : parent < id := nested.parent_lt link
          have near : parent < steps := Nat.lt_of_lt_of_le smaller (Nat.le_of_lt_succ far)
          dsimp only
          rw [ih parent smaller near, ih parent smaller smaller]

theorem isWrapped_root : hierarchy.isWrapped root = true := by
  rw [isWrapped, nested.isWrappedWithin_eq root nested.hasRoot, isWrappedWithin, nested.rootParent]

/-- An entity is wrapped if it is eligible and the scope around it is wrapped. -/
theorem isWrapped_child {id parent : Nat} (link : hierarchy.parent id = some parent) :
    hierarchy.isWrapped id = (hierarchy.isEligible id && hierarchy.isWrapped parent) := by
  have smaller := nested.parent_lt link
  have existing := lt_size_of_parent link
  rw [isWrapped, nested.isWrappedWithin_eq id existing, isWrappedWithin, link]
  dsimp only
  rw [isWrapped, nested.isWrappedWithin_eq parent smaller,
    nested.isWrappedWithin_eq parent (Nat.lt_trans smaller existing)]

/-- The scopes around a wrapped entity are wrapped. -/
theorem isWrapped_of_encloses {scope id : EntityId} (encloses : hierarchy.Encloses scope id)
    (wrapped : hierarchy.isWrapped id = true) : hierarchy.isWrapped scope = true := by
  induction encloses with
  | refl => exact wrapped
  | tail _ link ih =>
      rw [nested.isWrapped_child link, Bool.and_eq_true] at wrapped
      exact ih wrapped.2

/-- The root stands above every entity. -/
theorem encloses_root {id : EntityId} (existing : id < hierarchy.size) :
    hierarchy.Encloses root id := by
  induction id, existing using nested.induction_on_parent with
  | top => exact Relation.ReflTransGen.refl
  | step id existing parent link ih => exact Relation.ReflTransGen.tail ih link

/-- The parent links make a forest. -/
theorem forest : Forest fun scope id => hierarchy.parent id = some scope where
  ascends := fun _ _ link => nested.parent_lt link
  unique := fun _ _ _ one two => Option.some.inj (one.symm.trans two)

end Nested

end RubyBindings.Hierarchy
