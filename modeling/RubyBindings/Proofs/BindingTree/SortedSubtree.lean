/-
Module: RubyBindings.Proofs.BindingTree.SortedSubtree
Purpose: What the sort of a subtree comes to. It succeeds exactly if the whole subtree is built and
  not processed, and no superclass chain of a class below its top repeats an entity; then every list
  of children is in stable order, base classes first. Whatever happens, nodes are only reordered.
Main exports: BindingTree.Sortable, BindingTree.result_sort_eq_ok, BindingTree.ChildrenOrdered,
  BindingTree.OnlyReordered, BindingTree.SortOutcome, BindingTree.sort_subtree
-/
import RubyBindings.Proofs.BindingTree.Calls
import RubyBindings.Proofs.BindingTree.SortFault
import RubyBindings.Proofs.Hierarchy.SuperclassChain

namespace RubyBindings.BindingTree

variable {hierarchy : Hierarchy} {tree before after : BindingTree hierarchy} {id : NodeId}

/-! ## Subtrees that can be sorted -/

/-- A class whose superclass chain comes to an entity twice, so that it has no rank. -/
def Unranked (tree : BindingTree hierarchy) (id : NodeId) : Prop :=
  (tree.node id).kind = .classType ∧ hierarchy.ChainRepeats (tree.node id).entity

/-- A subtree that can be sorted: all of it is built and none of it is processed, and the classes
below its top have ranks. The rank of the top itself is not asked for. -/
structure Sortable (tree : BindingTree hierarchy) (id : NodeId) : Prop where
  stages : ∀ below, tree.Encloses id below →
    (tree.node below).stage = .built ∨ (tree.node below).stage = .sorted
  ranks : ∀ below, tree.Encloses id below → below ≠ id → ¬ tree.Unranked below

theorem stageFault?_eq_none :
    tree.stageFault? id = none ↔
      (tree.node id).stage = .built ∨ (tree.node id).stage = .sorted := by
  rw [stageFault?]
  split <;> simp_all

theorem rankFault?_eq_none : tree.rankFault? id = none ↔ ¬ tree.Unranked id := by
  have endless := @Hierarchy.inheritanceDepth?_eq_none_iff hierarchy (tree.node id).entity
  rw [Hierarchy.neverEnds_iff_chainRepeats] at endless
  rw [Unranked, ← endless]
  simp only [rankFault?]
  split <;> simp_all

/-- A subtree can be sorted if its top is built and the subtrees of the children can be, if the
children have ranks. -/
theorem Coherent.sortable_iff (coherent : tree.Coherent) :
    tree.Sortable id ↔
      ((tree.node id).stage = .built ∨ (tree.node id).stage = .sorted) ∧
        (∀ child ∈ tree.children id, tree.Sortable child) ∧
          ∀ child ∈ tree.children id, ¬ tree.Unranked child := by
  constructor
  · intro sortable
    have inside : ∀ child ∈ tree.children id, ∀ below, tree.Encloses child below →
        tree.Encloses id below ∧ below ≠ id := by
      intro child member below encloses
      have larger := Nat.lt_of_lt_of_le (coherent.lt_of_mem_children member)
        (coherent.encloses_le encloses)
      exact ⟨(Encloses.child member).trans encloses, Nat.ne_of_gt larger⟩
    refine ⟨sortable.stages id (.refl tree id), ?_, ?_⟩
    · intro child member
      refine ⟨fun below encloses => ?_, fun below encloses _ => ?_⟩
      · exact sortable.stages below (inside child member below encloses).1
      · obtain ⟨encloses, notTop⟩ := inside child member below encloses
        exact sortable.ranks below encloses notTop
    · intro child member
      obtain ⟨encloses, notTop⟩ := inside child member child (.refl tree child)
      exact sortable.ranks child encloses notTop
  · rintro ⟨own, sortable, ranked⟩
    refine ⟨fun below encloses => ?_, fun below encloses notTop => ?_⟩
    · rcases Encloses.iff_eq_or_child.mp encloses with rfl | ⟨child, member, encloses⟩
      · exact own
      · exact (sortable child member).stages below encloses
    · rcases Encloses.iff_eq_or_child.mp encloses with same | ⟨child, member, encloses⟩
      · exact absurd same notTop
      · by_cases same : below = child
        · exact same ▸ ranked child member
        · exact (sortable child member).ranks below encloses same

/-- A sort meets no error exactly in a subtree that can be sorted. -/
theorem Coherent.sortFaultWithin_eq_none (coherent : tree.Coherent) (depth : Nat) :
    ∀ id < tree.size, tree.size ≤ id + depth →
      (tree.sortFaultWithin depth id = none ↔ tree.Sortable id) := by
  induction depth with
  | zero =>
      intro id existing deep
      omega
  | succ depth ih =>
      intro id existing deep
      rw [sortFaultWithin, Option.or_eq_none_iff, Option.or_eq_none_iff,
        List.findSome?_eq_none_iff, List.findSome?_eq_none_iff, stageFault?_eq_none, and_assoc,
        coherent.sortable_iff]
      simp only [rankFault?_eq_none]
      refine and_congr_right fun _ => and_congr_left fun _ => forall₂_congr ?_
      intro child member
      have larger : id < child := coherent.lt_of_mem_children member
      exact ih child (coherent.childLink id child member).1 (by omega)

theorem result_sort_eq_ok (coherent : tree.Coherent) (existing : id < tree.size) :
    ((sort id).perform tree).1 = .ok () ↔ tree.Sortable id := by
  rw [result_sort_of_coherent coherent existing, refusal_eq_ok, sortFault?]
  exact coherent.sortFaultWithin_eq_none tree.size id existing (Nat.le_add_left _ _)

/-! ## Children in order -/

/-- The children of a node have been put in stable order of their ranks. -/
structure ChildrenOrdered (before after : BindingTree hierarchy) (id : NodeId) : Prop where
  stage : (after.node id).stage = .sorted
  ranked : ∀ child ∈ before.children id, before.rank child = .ok (before.rankOf child)
  children : after.children id = stablyOrdered before.rankOf (before.children id)
  ascending : (after.children id).Pairwise fun first second =>
    before.rankOf first ≤ before.rankOf second
  /-- Siblings of one rank keep their order. -/
  stable : ∀ first second, [first, second].Sublist (before.children id) →
    before.rankOf first = before.rankOf second → [first, second].Sublist (after.children id)
  /-- A class comes behind every sibling that its superclass chain leads to. -/
  basesFirst : ∀ base ∈ before.children id, ∀ derived ∈ before.children id,
    (before.node derived).kind = .classType → ∀ links,
      hierarchy.ancestor? (links + 1) (before.node derived).entity =
          some (before.node base).entity →
        [base, derived].Sublist (after.children id)

/-- The rank of a class that has one is the length of its superclass chain. -/
theorem endsAfter_rankOf (isClass : (tree.node id).kind = .classType)
    (ranked : tree.rank id = .ok (tree.rankOf id)) :
    hierarchy.EndsAfter (tree.rankOf id) (tree.node id).entity := by
  simp only [rank, rankOf, isClass, if_true] at ranked ⊢
  cases found : hierarchy.inheritanceDepth? (tree.node id).entity with
  | none =>
      rw [found] at ranked
      cases ranked
  | some depth => exact Hierarchy.inheritanceDepth?_eq_some_iff.mp found

/-- No rank is larger than the length of a superclass chain. -/
theorem rankOf_le_of_endsAfter {links : Nat}
    (ends : hierarchy.EndsAfter links (tree.node id).entity) : tree.rankOf id ≤ links := by
  simp only [rankOf, Hierarchy.inheritanceDepth?_eq_some_iff.mpr ends]
  split
  · exact Nat.le_refl links
  · exact Nat.zero_le links

/-- A class that has a rank has a larger one than everything that its superclass chain leads to. -/
theorem rankOf_lt_of_ancestor {base derived : NodeId} {links : Nat}
    (isClass : (tree.node derived).kind = .classType)
    (ranked : tree.rank derived = .ok (tree.rankOf derived))
    (found : hierarchy.ancestor? (links + 1) (tree.node derived).entity =
      some (tree.node base).entity) : tree.rankOf base < tree.rankOf derived := by
  obtain ⟨rest, length, ends⟩ := (endsAfter_rankOf isClass ranked).ancestor found
  have small := rankOf_le_of_endsAfter ends
  omega

/-- What is sorted in full is in order everywhere. -/
theorem FullySorted.childrenOrdered (sorted : FullySorted before after [id]) {below : NodeId}
    (encloses : before.Encloses id below) : ChildrenOrdered before after below := by
  have node := sorted.inside id (List.mem_singleton.mpr rfl) below encloses
  have ranked := sorted.ranked id (List.mem_singleton.mpr rfl) below encloses
  have children : after.children below = stablyOrdered before.rankOf (before.children below) :=
    congrArg BindingNode.children node
  have ascending : (after.children below).Pairwise fun first second =>
      before.rankOf first ≤ before.rankOf second := by
    rw [children]
    exact pairwise_stablyOrdered before.rankOf (before.children below)
  refine ⟨congrArg BindingNode.stage node, ranked, children, ascending, ?_, ?_⟩
  · intro first second inOrder same
    rw [children]
    exact pair_sublist_stablyOrdered inOrder same
  · intro base baseMember derived member isClass links found
    have smaller := rankOf_lt_of_ancestor isClass (ranked derived member) found
    rw [children] at ascending ⊢
    exact pair_sublist_of_lt ascending (mem_stablyOrdered.mpr baseMember)
      (mem_stablyOrdered.mpr member) smaller

/-! ## The frame of a sort -/

/-- Nodes of a subtree have at most been marked as sorted and got their children in another order,
and nothing else is different. -/
structure OnlyReordered (before after : BindingTree hierarchy) (id : NodeId) : Prop where
  size : after.size = before.size
  node : ∀ other, after.node other =
    { before.node other with
      children := after.children other
      stage := (after.node other).stage }
  children : ∀ other, (after.children other).Perm (before.children other)
  outside : ∀ other, ¬ before.Encloses id other → after.node other = before.node other

theorem PartlySorted.onlyReordered (sorted : PartlySorted before after [id]) :
    OnlyReordered before after id where
  size := sorted.size
  node := by
    intro other
    rw [BindingTree.children]
    rcases sorted.node other with same | ⟨-, same⟩
    · rw [same]
    · rw [same, BindingTree.sortedNode]
  children := sorted.forest.children
  outside := by
    intro other outside
    apply sorted.node_outside
    intro top member encloses
    exact outside (List.mem_singleton.mp member ▸ encloses)

/-! ## The sort as a whole -/

/-- What a performed sort comes to. -/
structure SortOutcome (before : BindingTree hierarchy) (id : NodeId)
    (performed : Except GenerationError Unit × BindingTree hierarchy) : Prop where
  succeeds : performed.1 = .ok () ↔ before.Sortable id
  ordered : performed.1 = .ok () → ∀ below, before.Encloses id below →
    ChildrenOrdered before performed.2 below
  reordered : OnlyReordered before performed.2 id

/-- Sorting a subtree of any tree that calls lead to. -/
theorem sort_subtree (reachable : tree.Reachable) (existing : id < tree.size) :
    SortOutcome tree id ((sort id).perform tree) := by
  have coherent := reachable.coherent
  have effect := sortEffect_sort coherent existing
  exact
    { succeeds := result_sort_eq_ok coherent existing
      ordered := fun success _ encloses => (effect.fully success).childrenOrdered encloses
      reordered := effect.partly.onlyReordered }

/-- A namespace with a class, the class that it is derived from, and a function. -/
def derivedFirst : Hierarchy where
  entities :=
    [{ declaration := { kind := .namespaceScope, name := "lib" }
       parent := none
       children := [1]
       qualifiedName := "" },
      { declaration := { kind := .namespaceScope, name := "geo" }
        parent := some Hierarchy.root
        children := [2, 3, 4]
        qualifiedName := "geo" },
      { declaration := { kind := .classType, name := "Circle", superclass := some 3 }
        parent := some 1
        children := []
        qualifiedName := "geo::Circle" },
      { declaration := { kind := .classType, name := "Shape" }
        parent := some 1
        children := []
        qualifiedName := "geo::Shape" },
      { declaration := { kind := .function, name := "area" }
        parent := some 1
        children := []
        qualifiedName := "geo::area" }]
  headers := []

/-- The tree of the namespace, built but not sorted. -/
def derivedFirstBuilt : BindingTree derivedFirst :=
  (TreeCall.build root .fresh).after (start derivedFirst)

/-- The sort of the namespace succeeds, puts the base in front of what is derived from it, keeps it
in front of the function, and leaves the root as it is. -/
theorem sort_subtree_derivedFirst :
    derivedFirstBuilt.Reachable ∧ 1 < derivedFirstBuilt.size ∧ derivedFirstBuilt.Sortable 1 ∧
      derivedFirstBuilt.children 1 = [2, 3, 4] ∧
      (((sort 1).perform derivedFirstBuilt).2.children 1) = [3, 4, 2] ∧
      [3, 2].Sublist (((sort 1).perform derivedFirstBuilt).2.children 1) ∧
      [3, 4].Sublist (((sort 1).perform derivedFirstBuilt).2.children 1) ∧
      ((sort 1).perform derivedFirstBuilt).2.node root = derivedFirstBuilt.node root := by
  have reachable : derivedFirstBuilt.Reachable := .call .start (.build root .fresh) (by decide)
  have existing : 1 < derivedFirstBuilt.size := by decide
  have outcome := sort_subtree reachable existing
  have success : ((sort 1).perform derivedFirstBuilt).1 = .ok () := rfl
  have ordered := outcome.ordered success 1 (.refl _ 1)
  have outside : ¬ derivedFirstBuilt.Encloses 1 root := fun encloses =>
    absurd (reachable.coherent.encloses_le encloses) (by decide)
  refine ⟨reachable, existing, outcome.succeeds.mp success, rfl, rfl, ?_, ?_,
    outcome.reordered.outside root outside⟩
  · exact ordered.basesFirst 3 (by decide) 2 (by decide) rfl 0 rfl
  · exact ordered.stable 3 4 (by decide) rfl

end RubyBindings.BindingTree
