/-
Module: RubyBindings.Proofs.BindingTree.Links
Purpose: The shape of a binding tree. Parent links and lists of children describe one forest, whose
  branches only lead to larger ids; a subtree is what the lists of children reach, and both ways to
  list it, by recursion and with a list of waiting nodes, give the same nodes in the same order.
Main exports: BindingTree.Coherent, BindingTree.Encloses, BindingTree.Coherent.preorder_eq,
  BindingTree.Coherent.mem_preorder, BindingTree.Coherent.nodup_preorder,
  BindingTree.Coherent.descendants_eq_preorder, BindingTree.SameForest
-/
import RubyBindings.BindingTree.Basic
import RubyBindings.Proofs.Forest
import Mathlib.Data.List.Nodup
import Mathlib.Data.List.Perm.Subperm

namespace RubyBindings.BindingTree

variable {hierarchy : Hierarchy} {tree : BindingTree hierarchy}

/-! ## Nodes after a change -/

@[simp] theorem size_update (tree : BindingTree hierarchy) (id : NodeId)
    (change : BindingNode → BindingNode) : (tree.update id change).size = tree.size := by
  simp [size, update]

@[simp] theorem size_append (tree : BindingTree hierarchy) (node : BindingNode) :
    (tree.append node).size = tree.size + 1 := by
  simp [size, append]

theorem node_update_self {id : NodeId} (existing : id < tree.size)
    (change : BindingNode → BindingNode) :
    (tree.update id change).node id = change (tree.node id) := by
  rw [size] at existing
  simp [node, update, List.getD_eq_getElem?_getD, existing]

theorem node_update_of_ne {id other : NodeId} (different : other ≠ id)
    (change : BindingNode → BindingNode) :
    (tree.update id change).node other = tree.node other := by
  simp [node, update, List.getD_eq_getElem?_getD, different.symm]

/-- What a change leaves alone in every node reads as before. -/
theorem read_update {α : Type} (read : BindingNode → α) {change : BindingNode → BindingNode}
    (apart : ∀ node, read (change node) = read node) (id other : NodeId) :
    read ((tree.update id change).node other) = read (tree.node other) := by
  by_cases self : other = id
  · subst self
    by_cases existing : other < tree.size
    · rw [node_update_self existing, apart]
    · rw [size] at existing
      simp [node, update, List.getD_eq_getElem?_getD, existing]
  · rw [node_update_of_ne self]

theorem node_append_of_lt {id : NodeId} (existing : id < tree.size) (node : BindingNode) :
    (tree.append node).node id = tree.node id := by
  rw [size] at existing
  simp [BindingTree.node, append, List.getD_eq_getElem?_getD, List.getElem?_append_left, existing]

@[simp] theorem node_append_size (tree : BindingTree hierarchy) (node : BindingNode) :
    (tree.append node).node tree.size = node := by
  simp [BindingTree.node, append, size, List.getD_eq_getElem?_getD]

theorem node_of_size_le {id : NodeId} (missing : tree.size ≤ id) :
    tree.node id = .fresh Hierarchy.root .extension none := by
  rw [size] at missing
  simp [node, List.getD_eq_getElem?_getD, missing]

theorem children_of_size_le {id : NodeId} (missing : tree.size ≤ id) : tree.children id = [] := by
  rw [children, node_of_size_le missing]
  rfl

/-- Only a node has children. -/
theorem lt_size_of_mem_children {parent child : NodeId} (member : child ∈ tree.children parent) :
    parent < tree.size := by
  by_contra missing
  rw [children_of_size_le (Nat.le_of_not_lt missing)] at member
  exact List.not_mem_nil member

/-! ## Coherence -/

/-- The links of a tree fit together: the root is there and has no parent, every other node has one
that was made before it, whatever a node counts among its children names it as its parent, and
nothing is counted twice. A node that is nobody's child is allowed; a failed build leaves some. -/
structure Coherent (tree : BindingTree hierarchy) : Prop where
  hasRoot : root < tree.size
  rootParent : (tree.node root).parent = none
  parentBefore : ∀ id < tree.size, id ≠ root → ∃ parent < id, (tree.node id).parent = some parent
  childLink : ∀ parent, ∀ child ∈ tree.children parent,
    child < tree.size ∧ (tree.node child).parent = some parent
  childrenNodup : ∀ parent, (tree.children parent).Nodup

/-- A node stands above another one, or is it: the lists of children lead from it to there. -/
def Encloses (tree : BindingTree hierarchy) : NodeId → NodeId → Prop :=
  Relation.ReflTransGen fun parent child => child ∈ tree.children parent

namespace Encloses

@[refl] theorem refl (tree : BindingTree hierarchy) (id : NodeId) : tree.Encloses id id :=
  Relation.ReflTransGen.refl

theorem trans {above id below : NodeId} (first : tree.Encloses above id)
    (second : tree.Encloses id below) : tree.Encloses above below :=
  Relation.ReflTransGen.trans first second

theorem child {parent child : NodeId} (member : child ∈ tree.children parent) :
    tree.Encloses parent child :=
  Relation.ReflTransGen.single member

/-- A node below another one is that node, or stands below one of its children. -/
theorem iff_eq_or_child {id below : NodeId} :
    tree.Encloses id below ↔
      below = id ∨ ∃ child ∈ tree.children id, tree.Encloses child below := by
  constructor
  · intro encloses
    rcases Relation.ReflTransGen.cases_head encloses with rfl | ⟨child, member, rest⟩
    · exact Or.inl rfl
    · exact Or.inr ⟨child, member, rest⟩
  · rintro (rfl | ⟨child, member, rest⟩)
    · exact refl tree below
    · exact (Encloses.child member).trans rest

end Encloses

namespace Coherent

variable (coherent : tree.Coherent)
include coherent

/-- A parent is made before what is below it. -/
theorem parent_lt {id parent : NodeId} (existing : id < tree.size)
    (link : (tree.node id).parent = some parent) : parent < id := by
  have notRoot : id ≠ root := by
    rintro rfl
    rw [coherent.rootParent] at link
    cases link
  obtain ⟨before, smaller, same⟩ := coherent.parentBefore id existing notRoot
  rw [link] at same
  cases same
  exact smaller

theorem lt_of_mem_children {parent child : NodeId} (member : child ∈ tree.children parent) :
    parent < child := by
  obtain ⟨existing, link⟩ := coherent.childLink parent child member
  exact coherent.parent_lt existing link

/-- The root is nobody's child. -/
theorem ne_root_of_mem_children {parent child : NodeId} (member : child ∈ tree.children parent) :
    child ≠ root := by
  rintro rfl
  exact Nat.not_lt_zero parent (coherent.lt_of_mem_children member)

/-- Only the root has no parent. -/
theorem parent_ne_none {id : NodeId} (existing : id < tree.size) (notRoot : id ≠ root) :
    (tree.node id).parent ≠ none := by
  obtain ⟨parent, _, link⟩ := coherent.parentBefore id existing notRoot
  rw [link]
  exact Option.some_ne_none parent

/-- The lists of children make a forest. -/
theorem forest : Forest fun parent child => child ∈ tree.children parent where
  ascends := fun _ _ member => coherent.lt_of_mem_children member
  unique := by
    intro first second child one two
    have link := (coherent.childLink first child one).2
    rw [(coherent.childLink second child two).2] at link
    exact (Option.some.inj link).symm

theorem encloses_le {above below : NodeId} (encloses : tree.Encloses above below) :
    above ≤ below :=
  coherent.forest.le_of_reaches encloses

theorem encloses_lt_size {above below : NodeId} (existing : above < tree.size)
    (encloses : tree.Encloses above below) : below < tree.size := by
  induction encloses with
  | refl => exact existing
  | tail _ member _ => exact (coherent.childLink _ _ member).1

/-- Two children of one node have no node below them in common. -/
theorem eq_of_common_descendant {parent first second below : NodeId}
    (firstMember : first ∈ tree.children parent) (secondMember : second ∈ tree.children parent)
    (one : tree.Encloses first below) (two : tree.Encloses second below) : first = second :=
  coherent.forest.eq_of_common_descendant firstMember secondMember one two

/-- What holds of a node as soon as it holds of its children holds of every node. -/
@[elab_as_elim]
theorem induction_on_children {motive : ∀ id, id < tree.size → Prop}
    (step : ∀ id (existing : id < tree.size),
      (∀ child (member : child ∈ tree.children id),
        motive child (coherent.childLink id child member).1) → motive id existing)
    (id : NodeId) (existing : id < tree.size) : motive id existing := by
  -- On the number of larger ids: a branch only leads to larger ones.
  have bounded : ∀ rest id (existing : id < tree.size), tree.size - id ≤ rest →
      motive id existing := by
    intro rest
    induction rest with
    | zero =>
        intro id existing few
        omega
    | succ rest ih =>
        intro id existing few
        apply step id existing
        intro child member
        have larger : id < child := coherent.lt_of_mem_children member
        exact ih child (coherent.childLink id child member).1 (by omega)
  exact bounded (tree.size - id) id existing (Nat.le_refl _)

/-! ## Subtrees in recursive order -/

/-- Looking deeper than the tree reaches changes nothing. -/
theorem preorderWithin_eq_of_le {id : NodeId} (existing : id < tree.size) :
    ∀ {depth other : Nat}, tree.size ≤ id + depth → tree.size ≤ id + other →
      tree.preorderWithin depth id = tree.preorderWithin other id := by
  induction id, existing using coherent.induction_on_children with
  | step id existing ih =>
      intro depth other deep otherDeep
      obtain ⟨depth, rfl⟩ : ∃ rest, depth = rest + 1 := ⟨depth - 1, by omega⟩
      obtain ⟨other, rfl⟩ : ∃ rest, other = rest + 1 := ⟨other - 1, by omega⟩
      rw [preorderWithin, preorderWithin]
      congr 1
      apply List.flatMap_congr
      intro child member
      have larger : id < child := coherent.lt_of_mem_children member
      exact ih child member (by omega) (by omega)

theorem preorderWithin_eq {id : NodeId} (existing : id < tree.size) {depth : Nat}
    (deep : tree.size ≤ id + depth) : tree.preorderWithin depth id = tree.preorder id :=
  coherent.preorderWithin_eq_of_le existing deep (Nat.le_add_left _ _)

/-- A subtree in recursive order: a node, then the subtrees of its children in their order. -/
theorem preorder_eq {id : NodeId} (existing : id < tree.size) :
    tree.preorder id = id :: (tree.children id).flatMap tree.preorder := by
  have deep : tree.size ≤ id + (tree.size + 1) := by omega
  rw [← coherent.preorderWithin_eq existing deep]
  rfl

/-- The recursive order lists what a node encloses. -/
theorem mem_preorder {id : NodeId} (existing : id < tree.size) {below : NodeId} :
    below ∈ tree.preorder id ↔ tree.Encloses id below := by
  induction id, existing using coherent.induction_on_children with
  | step id existing ih =>
      rw [coherent.preorder_eq existing, Encloses.iff_eq_or_child, List.mem_cons, List.mem_flatMap]
      constructor
      · rintro (same | ⟨child, member, inside⟩)
        · exact Or.inl same
        · exact Or.inr ⟨child, member, (ih child member).mp inside⟩
      · rintro (same | ⟨child, member, encloses⟩)
        · exact Or.inl same
        · exact Or.inr ⟨child, member, (ih child member).mpr encloses⟩

theorem mem_preorder_lt_size {id below : NodeId} (existing : id < tree.size)
    (member : below ∈ tree.preorder id) : below < tree.size :=
  coherent.encloses_lt_size existing ((coherent.mem_preorder existing).mp member)

/-- No node stands in a subtree twice. -/
theorem nodup_preorder {id : NodeId} (existing : id < tree.size) : (tree.preorder id).Nodup := by
  induction id, existing using coherent.induction_on_children with
  | step id existing ih =>
      have inside : ∀ {child below : NodeId}, child ∈ tree.children id →
          below ∈ tree.preorder child → tree.Encloses child below :=
        fun {child below} member listed =>
          (coherent.mem_preorder (coherent.childLink id child member).1).mp listed
      rw [coherent.preorder_eq existing, List.nodup_cons, List.nodup_flatMap]
      refine ⟨?_, ih, ?_⟩
      · intro listed
        obtain ⟨child, member, below⟩ := List.mem_flatMap.mp listed
        have smaller := coherent.lt_of_mem_children member
        exact Nat.not_le_of_lt smaller (coherent.encloses_le (inside member below))
      · apply (coherent.childrenNodup id).imp_of_mem
        intro first second firstMember secondMember different
        apply List.disjoint_left.mpr
        intro below one two
        exact different (coherent.eq_of_common_descendant firstMember secondMember
          (inside firstMember one) (inside secondMember two))

theorem length_preorder_le {id : NodeId} (existing : id < tree.size) :
    (tree.preorder id).length ≤ tree.size := by
  have inRange : tree.preorder id ⊆ List.range tree.size := fun below member =>
    List.mem_range.mpr (coherent.mem_preorder_lt_size existing member)
  have counted := (List.subperm_of_subset (coherent.nodup_preorder existing) inRange).length_le
  simpa using counted

/-! ## The walk with a list of waiting nodes -/

/-- Walking lists the subtrees of the waiting nodes one after the other, as far as it gets. -/
theorem walk_eq_take (steps : Nat) (waiting : List NodeId)
    (existing : ∀ id ∈ waiting, id < tree.size) :
    tree.walk steps waiting = (waiting.flatMap tree.preorder).take steps := by
  induction steps generalizing waiting with
  | zero => simp [walk]
  | succ steps ih =>
      cases waiting with
      | nil => simp [walk]
      | cons current waiting =>
          have later : ∀ id ∈ tree.children current ++ waiting, id < tree.size := by
            intro id member
            rcases List.mem_append.mp member with inside | outside
            · exact (coherent.childLink current id inside).1
            · exact existing id (List.mem_cons_of_mem current outside)
          rw [walk, ih _ later, List.flatMap_cons,
            coherent.preorder_eq (existing current List.mem_cons_self)]
          simp [List.flatMap_append]

/-- Walking with a list of waiting nodes gives a subtree in recursive order. -/
theorem descendants_eq_preorder {id : NodeId} (existing : id < tree.size) :
    tree.descendants id = tree.preorder id := by
  rw [descendants, coherent.walk_eq_take _ _ (by simpa using existing), List.flatMap_singleton]
  exact List.take_of_length_le (coherent.length_preorder_le existing)

end Coherent

/-! ## Changes that keep the links -/

/-- Nothing but the order of children differs between the links of two trees. -/
structure SameForest (before after : BindingTree hierarchy) : Prop where
  size : after.size = before.size
  parent : ∀ id, (after.node id).parent = (before.node id).parent
  children : ∀ id, (after.children id).Perm (before.children id)

namespace SameForest

variable {before middle after : BindingTree hierarchy}

theorem refl (tree : BindingTree hierarchy) : SameForest tree tree :=
  ⟨rfl, fun _ => rfl, fun _ => .refl _⟩

theorem trans (first : SameForest before middle) (second : SameForest middle after) :
    SameForest before after :=
  ⟨second.size.trans first.size, fun id => (second.parent id).trans (first.parent id),
    fun id => (second.children id).trans (first.children id)⟩

theorem coherent (same : SameForest before after) (coherent : before.Coherent) :
    after.Coherent where
  hasRoot := same.size ▸ coherent.hasRoot
  rootParent := (same.parent root).trans coherent.rootParent
  parentBefore := by
    intro id existing notRoot
    rw [same.parent]
    exact coherent.parentBefore id (same.size ▸ existing) notRoot
  childLink := by
    intro parent child member
    rw [same.size, same.parent]
    exact coherent.childLink parent child ((same.children parent).mem_iff.mp member)
  childrenNodup := fun parent =>
    (same.children parent).nodup_iff.mpr (coherent.childrenNodup parent)

/-- Subtrees hold the same nodes. -/
theorem encloses_iff (same : SameForest before after) {above below : NodeId} :
    after.Encloses above below ↔ before.Encloses above below := by
  have related : (fun parent child => child ∈ after.children parent) =
      fun parent child => child ∈ before.children parent := by
    funext parent child
    exact propext (same.children parent).mem_iff
  rw [Encloses, Encloses, related]

end SameForest

/-- The recursive order only depends on the number of nodes and the lists of children. -/
theorem preorder_congr {other : BindingTree hierarchy} (sizes : other.size = tree.size)
    (lists : ∀ id, other.children id = tree.children id) : other.preorder = tree.preorder := by
  have within : ∀ depth, other.preorderWithin depth = tree.preorderWithin depth := by
    intro depth
    induction depth with
    | zero => rfl
    | succ depth ih =>
        funext id
        rw [preorderWithin, preorderWithin, lists, ih]
  funext id
  rw [preorder, preorder, sizes, within]

end RubyBindings.BindingTree
