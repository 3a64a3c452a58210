/-
Module: RubyBindings.Proofs.Hierarchy.Traversal
Purpose: Two walks over the eligible entities of a hierarchy in the order of their declaration: the
  one that a build makes, scopes before what is inside them, and the one in which a sort looks at
  entities, the insides of all entities of a scope before these entities themselves.
Main exports: Hierarchy.eligibleChildren, Hierarchy.declarationOrder, Hierarchy.inspectionOrder,
  Hierarchy.Nested.mem_declarationOrder, Hierarchy.Nested.mem_inspectionOrder
-/
import RubyBindings.Proofs.Hierarchy.RegistrationOrder
import Mathlib.Data.List.Perm.Basic

namespace RubyBindings.Hierarchy

variable (hierarchy : Hierarchy)

/-- The eligible entities of a scope, in the order of their declaration. -/
def eligibleChildren (id : EntityId) : List EntityId :=
  (hierarchy.children id).filter hierarchy.isEligible

/-- A walk at most `depth` levels down. `visit` says what to list for an entity, given what is listed
for its eligible children. -/
def traverseWithin (visit : EntityId → List EntityId → List EntityId) :
    Nat → EntityId → List EntityId
  | 0, _ => []
  | depth + 1, id => visit id ((hierarchy.eligibleChildren id).flatMap (traverseWithin visit depth))

/-- A walk over an entity and the eligible entities inside it. -/
def traverse (visit : EntityId → List EntityId → List EntityId) (id : EntityId) : List EntityId :=
  hierarchy.traverseWithin visit (hierarchy.size + 1) id

/-- An entity, and then what is inside it, in the order of the declarations. -/
def declarationOrder : EntityId → List EntityId :=
  hierarchy.traverse fun id below => id :: below

/-- What is inside the eligible children of an entity, and behind all of that these children. -/
def inspectionOrder : EntityId → List EntityId :=
  hierarchy.traverse fun id below => below ++ hierarchy.eligibleChildren id

variable {hierarchy}

theorem mem_eligibleChildren {id child : EntityId} :
    child ∈ hierarchy.eligibleChildren id ↔
      child ∈ hierarchy.children id ∧ hierarchy.isEligible child = true :=
  List.mem_filter

namespace Descends

variable (descends : hierarchy.Descends)
include descends

theorem traverse_eq (visit : EntityId → List EntityId → List EntityId) (id : EntityId) :
    hierarchy.traverse visit id =
      visit id ((hierarchy.eligibleChildren id).flatMap (hierarchy.traverse visit)) := by
  have step : ∀ depth other id, (∀ child ∈ hierarchy.children id,
      hierarchy.traverseWithin visit depth child = hierarchy.traverseWithin visit other child) →
        hierarchy.traverseWithin visit (depth + 1) id =
          hierarchy.traverseWithin visit (other + 1) id := by
    intro depth other id same
    apply congrArg (visit id)
    apply List.flatMap_congr
    exact fun child member => same child (mem_eligibleChildren.mp member).1
  rw [traverse, traverseWithin]
  congr 1
  apply List.flatMap_congr
  intro child member
  exact descends.eq_of_mem_children _ step (mem_eligibleChildren.mp member).1

theorem declarationOrder_eq (id : EntityId) :
    hierarchy.declarationOrder id =
      id :: (hierarchy.eligibleChildren id).flatMap hierarchy.declarationOrder :=
  descends.traverse_eq _ id

theorem inspectionOrder_eq (id : EntityId) :
    hierarchy.inspectionOrder id =
      (hierarchy.eligibleChildren id).flatMap hierarchy.inspectionOrder ++
        hierarchy.eligibleChildren id :=
  descends.traverse_eq _ id

/-- What is registered is what is declared, in another order. -/
theorem declarationOrder_perm (id : EntityId) :
    (hierarchy.declarationOrder id).Perm (hierarchy.registrationOrder id) := by
  induction id using descends.induction_on_children with
  | step id ih =>
      rw [descends.declarationOrder_eq, descends.registrationOrder_eq]
      refine List.Perm.cons id (List.Perm.flatMap (stablyOrdered_perm _ _).symm ?_)
      exact fun child member => ih child (mem_eligibleChildren.mp member).1

/-- A walk that lists entities behind what is inside them lists all of them but the topmost. -/
theorem cons_inspectionOrder_perm (id : EntityId) :
    (id :: hierarchy.inspectionOrder id).Perm (hierarchy.declarationOrder id) := by
  induction id using descends.induction_on_children with
  | step id ih =>
      rw [descends.declarationOrder_eq, descends.inspectionOrder_eq]
      refine List.Perm.cons id (List.perm_append_comm.trans ?_)
      have spread := List.map_append_flatMap_perm (hierarchy.eligibleChildren id)
        (fun child => child) hierarchy.inspectionOrder
      rw [List.map_id'] at spread
      refine spread.trans (List.Perm.flatMap_left _ ?_)
      exact fun child member => ih child (mem_eligibleChildren.mp member).1

end Descends

namespace Nested

variable (nested : hierarchy.Nested)
include nested

/-- Going through the declarations from the root, one meets each wrapped entity. -/
theorem mem_declarationOrder {id : EntityId} :
    id ∈ hierarchy.declarationOrder root ↔
      id < hierarchy.size ∧ hierarchy.isWrapped id = true := by
  rw [(nested.descends.declarationOrder_perm root).mem_iff, nested.registrationOrder_root,
    List.mem_cons, nested.mem_registered]
  constructor
  · rintro (rfl | ⟨existing, -, wrapped⟩)
    · exact ⟨nested.hasRoot, nested.isWrapped_root⟩
    · exact ⟨existing, wrapped⟩
  · rintro ⟨existing, wrapped⟩
    by_cases top : id = root
    · exact Or.inl top
    · exact Or.inr ⟨existing, top, wrapped⟩

/-- One meets none of them twice. -/
theorem nodup_declarationOrder : (hierarchy.declarationOrder root).Nodup :=
  (nested.descends.declarationOrder_perm root).nodup_iff.mpr (nested.nodup_registrationOrder root)

/-- Behind what is inside them, one meets each wrapped entity but the root. -/
theorem mem_inspectionOrder {id : EntityId} :
    id ∈ hierarchy.inspectionOrder root ↔
      id < hierarchy.size ∧ id ≠ root ∧ hierarchy.isWrapped id = true := by
  have whole := nested.descends.cons_inspectionOrder_perm root
  have rootOnce := (List.nodup_cons.mp (whole.nodup_iff.mpr nested.nodup_declarationOrder)).1
  have listed := whole.mem_iff (a := id)
  rw [List.mem_cons, nested.mem_declarationOrder] at listed
  constructor
  · intro member
    obtain ⟨existing, wrapped⟩ := listed.mp (Or.inr member)
    exact ⟨existing, fun top => rootOnce (top ▸ member), wrapped⟩
  · rintro ⟨existing, notRoot, wrapped⟩
    exact (listed.mpr ⟨existing, wrapped⟩).resolve_left notRoot

end Nested

end RubyBindings.Hierarchy
