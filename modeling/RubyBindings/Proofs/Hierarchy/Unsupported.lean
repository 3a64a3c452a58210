/-
Module: RubyBindings.Proofs.Hierarchy.Unsupported
Purpose: The entities that cannot be wrapped where they stand, said by recursion over the hierarchy
  alone. Whether a scope can be wrapped as a whole depends on nothing but the eligible entities
  inside it, and what cannot be wrapped is always reported as the same entity.
Main exports: Hierarchy.firstUnsupportedWithin, Hierarchy.firstUnsupported?,
  Hierarchy.firstUnsupportedWithin_eq, Hierarchy.firstUnsupported?_eq
-/
import RubyBindings.BindingTree.GenerationError
import RubyBindings.Proofs.Hierarchy.Nesting

namespace RubyBindings.Hierarchy

/-- The error for an entity inside a node of the given kind: either it has no place there, or `below`
finds an error inside it. -/
def unsupportedIn (hierarchy : Hierarchy) (below : NodeKind → EntityId → Option GenerationError)
    (kind : NodeKind) (entity : EntityId) : Option GenerationError :=
  match kind.child? (hierarchy.kind entity) with
  | none => some (.unsupportedEntity (hierarchy.kind entity) (hierarchy.qualifiedName entity) kind)
  | some childKind => below childKind entity

/-- The error for the first entity inside `id` that cannot be wrapped where it stands, at most
`depth` levels down, with `kind` for the node that `id` becomes. Entities that are not eligible do
not count, nor does anything inside them. -/
def firstUnsupportedWithin (hierarchy : Hierarchy) :
    Nat → NodeKind → EntityId → Option GenerationError
  | 0, _, _ => none
  | depth + 1, kind, id =>
    ((hierarchy.children id).filter hierarchy.isEligible).findSome?
      (hierarchy.unsupportedIn (firstUnsupportedWithin hierarchy depth) kind)

/-- The error for the first entity inside `id` that cannot be wrapped where it stands. Child ids are
larger than their parent's, so no branch is longer than the hierarchy. -/
def firstUnsupported? (hierarchy : Hierarchy) (kind : NodeKind) (id : EntityId) :
    Option GenerationError :=
  hierarchy.firstUnsupportedWithin (hierarchy.size + 1) kind id

variable {hierarchy : Hierarchy}

theorem findSome?_congr {α β : Type} {first second : α → Option β} {items : List α}
    (same : ∀ item ∈ items, first item = second item) :
    items.findSome? first = items.findSome? second := by
  induction items with
  | nil => rfl
  | cons item items ih =>
      obtain ⟨head, tail⟩ := List.forall_mem_cons.mp same
      rw [List.findSome?_cons, List.findSome?_cons, head, ih tail]

/-- A search through pieces of a list goes piece by piece. -/
theorem findSome?_flatMap {α β γ : Type} (pieces : α → List β) (find? : β → Option γ)
    (items : List α) :
    (items.flatMap pieces).findSome? find? = items.findSome? fun item =>
      (pieces item).findSome? find? := by
  induction items with
  | nil => rfl
  | cons item items ih =>
      rw [List.flatMap_cons, List.findSome?_append, List.findSome?_cons, ih]
      cases (pieces item).findSome? find? <;> rfl

/-- What is found in a scope depends on nothing but what is found inside its children. -/
theorem firstUnsupportedWithin_congr {depth other : Nat} {id : EntityId}
    (same : ∀ child ∈ hierarchy.children id,
      (fun kind => hierarchy.firstUnsupportedWithin depth kind child) =
        fun kind => hierarchy.firstUnsupportedWithin other kind child) :
    (fun kind => hierarchy.firstUnsupportedWithin (depth + 1) kind id) =
      fun kind => hierarchy.firstUnsupportedWithin (other + 1) kind id := by
  funext kind
  rw [firstUnsupportedWithin, firstUnsupportedWithin]
  apply findSome?_congr
  intro entity member
  rw [unsupportedIn, unsupportedIn]
  cases kind.child? (hierarchy.kind entity) with
  | none => rfl
  | some childKind => exact congrFun (same entity (List.mem_filter.mp member).1) childKind

/-- Looking deeper than the hierarchy reaches finds nothing else. -/
theorem firstUnsupportedWithin_eq (descends : hierarchy.Descends) {depth : Nat} {kind : NodeKind}
    {id : Nat} (positive : 0 < depth) (deep : hierarchy.size < depth + id) :
    hierarchy.firstUnsupportedWithin depth kind id = hierarchy.firstUnsupported? kind id :=
  congrFun (descends.eq_of_deep
    (fun depth id kind => hierarchy.firstUnsupportedWithin depth kind id)
      (fun _ _ _ => firstUnsupportedWithin_congr) depth positive (Nat.succ_pos _) deep (by omega))
    kind

/-- The first misplaced entity of a scope is found by going through its eligible children. -/
theorem firstUnsupported?_eq (descends : hierarchy.Descends) (kind : NodeKind) (id : EntityId) :
    hierarchy.firstUnsupported? kind id =
      ((hierarchy.children id).filter hierarchy.isEligible).findSome?
        (hierarchy.unsupportedIn hierarchy.firstUnsupported? kind) := by
  have deeper : (fun kind => hierarchy.firstUnsupportedWithin (hierarchy.size + 1) kind id) =
      fun kind => hierarchy.firstUnsupportedWithin (hierarchy.size + 1 + 1) kind id := by
    apply firstUnsupportedWithin_congr
    intro child member
    exact descends.eq_of_mem_children
      (fun depth id kind => hierarchy.firstUnsupportedWithin depth kind id)
        (fun _ _ _ => firstUnsupportedWithin_congr) member
  exact congrFun deeper kind

end RubyBindings.Hierarchy
