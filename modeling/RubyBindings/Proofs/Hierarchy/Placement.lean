/-
Module: RubyBindings.Proofs.Hierarchy.Placement
Purpose: The eligible entities of a hierarchy, each with the scope that it is met in, in the order in
  which a build comes to them. An entity may be met more than once, in several scopes. The first one
  that has no place in its scope is what a build is refused for.
Main exports: Hierarchy.nodeKindOf, Hierarchy.IsMisplaced, Hierarchy.Leads, Hierarchy.nestings,
  Hierarchy.Descends.mem_nestings, Hierarchy.Descends.cons_map_snd_nestings,
  Hierarchy.Descends.firstUnsupported?_eq_findSome?
-/
import RubyBindings.Proofs.Hierarchy.Collection
import RubyBindings.Proofs.Hierarchy.Traversal
import RubyBindings.Proofs.Hierarchy.Unsupported

namespace RubyBindings.Hierarchy

open Relation (ReflTransGen)

variable (hierarchy : Hierarchy)

/-! ## Places -/

/-- What an entity becomes: the root becomes the extension, and the declaration of any other entity
decides on the kind of its node. -/
def nodeKindOf (id : EntityId) : NodeKind :=
  if id = root then .extension else (hierarchy.kind id).nodeKind

/-- An entity cannot be wrapped inside the node that its scope becomes. -/
def IsMisplaced (scope id : EntityId) : Prop :=
  (hierarchy.nodeKindOf scope).child? (hierarchy.kind id) = none

instance (scope id : EntityId) : Decidable (hierarchy.IsMisplaced scope id) :=
  inferInstanceAs (Decidable (_ = none))

/-- The error about an entity that is met in a scope, if it is misplaced there. -/
def placementFault? (nesting : EntityId × EntityId) : Option GenerationError :=
  if hierarchy.IsMisplaced nesting.1 nesting.2 then
    some (.unsupportedEntity (hierarchy.kind nesting.2) (hierarchy.qualifiedName nesting.2)
      (hierarchy.nodeKindOf nesting.1))
  else none

/-- One entity is met from another one by going on to eligible children. -/
def Leads : EntityId → EntityId → Prop :=
  ReflTransGen fun scope id => id ∈ hierarchy.eligibleChildren scope

/-- The eligible entities inside an entity with the scopes that they are met in, at most `depth`
levels down. -/
def nestingsWithin : Nat → EntityId → List (EntityId × EntityId)
  | 0, _ => []
  | depth + 1, id => (hierarchy.eligibleChildren id).flatMap fun child =>
    (id, child) :: nestingsWithin depth child

/-- The eligible entities inside an entity with the scopes that they are met in, scopes before what is
inside them. Child ids are larger than their parent's, so no branch is longer than the hierarchy. -/
def nestings (id : EntityId) : List (EntityId × EntityId) :=
  hierarchy.nestingsWithin (hierarchy.size + 1) id

variable {hierarchy}

theorem placementFault?_of_misplaced {scope id : EntityId}
    (misplaced : hierarchy.IsMisplaced scope id) :
    hierarchy.placementFault? (scope, id) =
      some (.unsupportedEntity (hierarchy.kind id) (hierarchy.qualifiedName id)
        (hierarchy.nodeKindOf scope)) :=
  if_pos misplaced

theorem placementFault?_eq_none {scope id : EntityId} :
    hierarchy.placementFault? (scope, id) = none ↔ ¬hierarchy.IsMisplaced scope id := by
  simp [placementFault?]

/-- The root is in no scope, so a declaration alone decides what becomes of a child. -/
theorem Descends.nodeKindOf_child (descends : hierarchy.Descends) {scope child : EntityId}
    (member : child ∈ hierarchy.children scope) :
    hierarchy.nodeKindOf child = (hierarchy.kind child).nodeKind := by
  have larger := (descends.lt_of_mem_children member).1
  exact if_neg (Nat.ne_of_gt (Nat.lt_of_le_of_lt (Nat.zero_le scope) larger))

namespace Descends

variable (descends : hierarchy.Descends)
include descends

/-! ## The order in which a build meets entities -/

theorem nestings_eq (id : EntityId) :
    hierarchy.nestings id = (hierarchy.eligibleChildren id).flatMap fun child =>
      (id, child) :: hierarchy.nestings child := by
  have step : ∀ depth other id, (∀ child ∈ hierarchy.children id,
      hierarchy.nestingsWithin depth child = hierarchy.nestingsWithin other child) →
        hierarchy.nestingsWithin (depth + 1) id = hierarchy.nestingsWithin (other + 1) id := by
    intro depth other id same
    apply List.flatMap_congr
    exact fun child member => congrArg _ (same child (mem_eligibleChildren.mp member).1)
  apply List.flatMap_congr
  intro child member
  exact congrArg _ (descends.eq_of_mem_children _ step (mem_eligibleChildren.mp member).1)

/-- One meets whatever going on to eligible children leads to, and nothing else. -/
theorem mem_nestings {top scope id : EntityId} :
    (scope, id) ∈ hierarchy.nestings top ↔
      hierarchy.Leads top scope ∧ id ∈ hierarchy.eligibleChildren scope := by
  constructor
  · induction top using descends.induction_on_children with
    | step top ih =>
        intro member
        rw [descends.nestings_eq] at member
        obtain ⟨child, listed, found⟩ := List.mem_flatMap.mp member
        rcases List.mem_cons.mp found with here | below
        · cases here
          exact ⟨.refl, listed⟩
        · obtain ⟨leads, inside⟩ := ih child (mem_eligibleChildren.mp listed).1 below
          exact ⟨.head listed leads, inside⟩
  · rintro ⟨leads, inside⟩
    induction leads using ReflTransGen.head_induction_on with
    | refl =>
        rw [descends.nestings_eq]
        exact List.mem_flatMap.mpr ⟨id, inside, List.mem_cons_self⟩
    | head listed _ ih =>
        rw [descends.nestings_eq]
        exact List.mem_flatMap.mpr ⟨_, listed, List.mem_cons_of_mem _ ih⟩

/-- The entities alone come in the order of their declarations. -/
theorem cons_map_snd_nestings (id : EntityId) :
    id :: (hierarchy.nestings id).map Prod.snd = hierarchy.declarationOrder id := by
  induction id using descends.induction_on_children with
  | step id ih =>
      rw [descends.nestings_eq, descends.declarationOrder_eq, List.map_flatMap]
      congr 1
      apply List.flatMap_congr
      intro child member
      exact ih child (mem_eligibleChildren.mp member).1

/-- What a build is refused for is the first misplaced entity in that order. -/
theorem firstUnsupported?_eq_findSome? (id : EntityId) :
    hierarchy.firstUnsupported? (hierarchy.nodeKindOf id) id =
      (hierarchy.nestings id).findSome? hierarchy.placementFault? := by
  induction id using descends.induction_on_children with
  | step id ih =>
      rw [firstUnsupported?_eq descends, descends.nestings_eq, findSome?_flatMap]
      apply findSome?_congr
      intro child member
      have inside := (mem_eligibleChildren.mp member).1
      rw [List.findSome?_cons, ← ih child inside, unsupportedIn]
      obtain misplaced | ⟨kind, placed⟩ := Option.eq_none_or_eq_some
        ((hierarchy.nodeKindOf id).child? (hierarchy.kind child))
      · rw [placementFault?_of_misplaced misplaced, misplaced]
      · have fits : ¬hierarchy.IsMisplaced id child := by simp [IsMisplaced, placed]
        rw [placementFault?_eq_none.mpr fits, placed, NodeKind.eq_nodeKind_of_child? placed,
          descends.nodeKindOf_child inside]

end Descends

end RubyBindings.Hierarchy
