/-
Module: RubyBindings.Proofs.Hierarchy.Collection
Purpose: What a hierarchy comes to as generated code, said by recursion over the hierarchy alone: an
  entity, and then each eligible entity inside it, in the order of superclass chains. No tree is
  built, sorted or emptied for it.
Main exports: DeclarationKind.nodeKind, Hierarchy.sortKey, Hierarchy.orderedChildren,
  Hierarchy.collect, Hierarchy.collect_eq, Hierarchy.ownDeclarations, Hierarchy.ownRegistrations
-/
import RubyBindings.Hierarchy.Inheritance
import RubyBindings.Proofs.Hierarchy.Nesting
import RubyBindings.Proofs.StableSort
import RubyBindings.Registration.Contribution
import Mathlib.Data.List.Basic

namespace RubyBindings

/-! ## Nodes for entities -/

/-- The kind of node that a declaration becomes wherever it can be wrapped. -/
def DeclarationKind.nodeKind : DeclarationKind → NodeKind
  | .namespaceScope => .moduleScope
  | .classType => .classType
  | .constructor => .constructor
  | .method => .method
  | .function => .function
  | .enumType => .enumType

/-- The place of a declaration decides whether it can be wrapped, but not as what. -/
theorem NodeKind.eq_nodeKind_of_child? {kind child : NodeKind} {declared : DeclarationKind}
    (supported : kind.child? declared = some child) : child = declared.nodeKind := by
  cases kind <;> cases declared <;> simp_all [NodeKind.child?, DeclarationKind.nodeKind]

theorem DeclarationKind.nodeKind_eq_classType {declared : DeclarationKind} :
    declared.nodeKind = .classType ↔ declared = .classType := by
  cases declared <;> simp [DeclarationKind.nodeKind]

namespace Hierarchy

variable (hierarchy : Hierarchy)

/-- What the entities of one scope are ordered by: classes by their inheritance depth, all others
as if they had none above them. An endless chain of superclasses has no depth; a tree with such a
class among siblings is never sorted. -/
def sortKey (id : EntityId) : Nat :=
  if hierarchy.kind id = .classType then (hierarchy.inheritanceDepth? id).getD 0 else 0

/-- The eligible entities of a scope in the order of their registration. -/
def orderedChildren (id : EntityId) : List EntityId :=
  stablyOrdered hierarchy.sortKey ((hierarchy.children id).filter hierarchy.isEligible)

/-- What an entity and the wrapped entities inside it hold, at most `depth` levels down. -/
def collectWithin {α : Type} (own : EntityId → List α) : Nat → EntityId → List α
  | 0, _ => []
  | depth + 1, id => own id ++ (hierarchy.orderedChildren id).flatMap (collectWithin own depth)

/-- What an entity and the wrapped entities inside it hold: its own share, and then what each
eligible child comes to. Child ids are larger than their parent's, so no branch is longer than the
hierarchy. -/
def collect {α : Type} (own : EntityId → List α) (id : EntityId) : List α :=
  hierarchy.collectWithin own (hierarchy.size + 1) id

/-- What an entity puts in front of the initialiser. The root puts nothing there. -/
def ownDeclarations (id : EntityId) : List String :=
  if id = root then [] else (hierarchy.kind id).nodeKind.declarations hierarchy id

/-- What an entity registers: its text. The root registers nothing. -/
def ownRegistrations (id : EntityId) : List String :=
  if id = root then [] else [(hierarchy.kind id).nodeKind.text hierarchy id]

/-- The wrapped entities below an entity and itself, in the order of their registration. -/
def registrationOrder (id : EntityId) : List EntityId :=
  hierarchy.collect (fun id => [id]) id

variable {hierarchy}

/-- An overloaded method or function puts the type of its pointer there, and nothing else does. -/
theorem length_ownDeclarations (id : EntityId) :
    (hierarchy.ownDeclarations id).length =
      if id ≠ root ∧ hierarchy.isCallable id = true ∧ 1 < (hierarchy.overload id).count then 1
      else 0 := by
  have pointer : (hierarchy.aliasText? id).toList.length =
      if 1 < (hierarchy.overload id).count then 1 else 0 := by
    simp only [aliasText?, aliasName?]
    split <;> rfl
  rw [ownDeclarations, isCallable]
  by_cases top : id = root
  · simp [top]
  · cases hierarchy.kind id <;> simp [top, DeclarationKind.nodeKind, NodeKind.declarations, pointer]

theorem mem_orderedChildren {id child : EntityId} :
    child ∈ hierarchy.orderedChildren id ↔
      child ∈ hierarchy.children id ∧ hierarchy.isEligible child = true := by
  rw [orderedChildren, mem_stablyOrdered, List.mem_filter]

/-! ## The recursion without its bound -/

section Recursion

variable {α β : Type} (descends : hierarchy.Descends)
include descends

/-- The share of an entity itself comes first, and then what its eligible children come to. -/
theorem collect_eq (own : EntityId → List α) (id : EntityId) :
    hierarchy.collect own id =
      own id ++ (hierarchy.orderedChildren id).flatMap (hierarchy.collect own) := by
  have step : ∀ depth other id, (∀ child ∈ hierarchy.children id,
      hierarchy.collectWithin own depth child = hierarchy.collectWithin own other child) →
        hierarchy.collectWithin own (depth + 1) id =
          hierarchy.collectWithin own (other + 1) id := by
    intro depth other id same
    apply congrArg (own id ++ ·)
    apply List.flatMap_congr
    exact fun child member => same child (mem_orderedChildren.mp member).1
  rw [collect, collectWithin]
  congr 1
  apply List.flatMap_congr
  intro child member
  exact descends.eq_of_mem_children _ step (mem_orderedChildren.mp member).1

end Recursion

/-- Collecting is going through the entities in the order of their registration. -/
theorem collect_eq_flatMap {α : Type} (own : EntityId → List α) (id : EntityId) :
    hierarchy.collect own id = (hierarchy.registrationOrder id).flatMap own := by
  have within : ∀ depth id, hierarchy.collectWithin own depth id =
      (hierarchy.collectWithin (fun id => [id]) depth id).flatMap own := by
    intro depth
    induction depth with
    | zero => exact fun _ => rfl
    | succ depth ih =>
        intro id
        rw [collectWithin, collectWithin, List.flatMap_append, List.flatMap_singleton,
          List.flatMap_assoc]
        congr 2
        funext child
        exact ih child
  exact within (hierarchy.size + 1) id

end Hierarchy

end RubyBindings
