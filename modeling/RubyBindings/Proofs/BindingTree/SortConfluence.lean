/-
Module: RubyBindings.Proofs.BindingTree.SortConfluence
Purpose: Sorts of one tree rejoin. Whatever a sort does to a node, it brings it to the one state that
  sorts can bring it to. So if the root can be sorted, sorts of any nodes in any order succeed, and a
  sort of the root makes the same tree of whatever they leave.
Main exports: BindingTree.Sortable.inside, BindingTree.PartlySorted.sortable,
  BindingTree.RootSortable, BindingTree.sorts_rejoin
-/
import RubyBindings.Proofs.BindingTree.RootBuild
import RubyBindings.Proofs.BindingTree.SortedSubtree

namespace RubyBindings.BindingTree

variable {hierarchy : Hierarchy} {built tree before after sorted : BindingTree hierarchy}
  {id top : NodeId} {tops : List NodeId}

/-! ## What can be sorted -/

/-- Trees with the same nodes are the same. -/
theorem eq_of_nodes (size : after.size = before.size)
    (nodes : ∀ id < before.size, after.node id = before.node id) : after = before := by
  obtain ⟨afterNodes⟩ := after
  obtain ⟨beforeNodes⟩ := before
  congr 1
  apply List.ext_getElem size
  intro id afterBound beforeBound
  simpa [node, afterBound, beforeBound] using nodes id beforeBound

/-- Inside a subtree that can be sorted, every subtree can be. -/
theorem Sortable.inside (sortable : tree.Sortable top) (coherent : tree.Coherent)
    (encloses : tree.Encloses top id) : tree.Sortable id where
  stages := fun below inside => sortable.stages below (encloses.trans inside)
  ranks := by
    intro below inside notTop
    apply sortable.ranks below (encloses.trans inside)
    have above : top ≤ id := coherent.encloses_le encloses
    have strict : id < below := Nat.lt_of_le_of_ne (coherent.encloses_le inside) notTop.symm
    exact Nat.ne_of_gt (Nat.lt_of_le_of_lt above strict)

/-- Sorting a part does not keep the rest from being sorted. -/
theorem PartlySorted.sortable (partly : PartlySorted before after tops)
    (sortable : before.Sortable id) : after.Sortable id where
  stages := by
    intro below inside
    rcases partly.node below with same | ⟨-, same⟩
    · rw [same]
      exact sortable.stages below (partly.forest.encloses_iff.mp inside)
    · rw [same]
      exact Or.inr rfl
  ranks := by
    intro below inside notTop
    have unranked := sortable.ranks below (partly.forest.encloses_iff.mp inside) notTop
    rcases partly.node below with same | ⟨-, same⟩ <;> rw [Unranked, same]
    · exact unranked
    · exact unranked

/-! ## Sorts of a tree that can be sorted from the root -/

/-- Everything stands below the root, and a sort of the root would succeed. -/
structure RootSortable (built : BindingTree hierarchy) : Prop where
  coherent : built.Coherent
  reached : ∀ id < built.size, built.Encloses root id
  sortable : built.Sortable root

namespace RootSortable

variable (sorts : built.RootSortable)
include sorts

/-- Where nodes have been sorted and nothing else has happened, one more sort of any node succeeds, and
again nothing else has happened. -/
theorem sort_step (partly : PartlySorted built tree [root]) (existing : id < built.size) :
    ∃ after, (sort id).perform tree = (.ok (), after) ∧ PartlySorted built after [root] := by
  have coherent := partly.forest.coherent sorts.coherent
  have small : id < tree.size := partly.size ▸ existing
  have encloses : tree.Encloses root id :=
    partly.forest.encloses_iff.mpr (sorts.reached id existing)
  have succeeded := (result_sort_eq_ok coherent small).mpr
    ((partly.sortable sorts.sortable).inside coherent encloses)
  have effect := (sortEffect_sort coherent small).partly
  rcases performed : (sort id).perform tree with ⟨result, after⟩
  rw [performed] at succeeded effect
  cases succeeded
  refine ⟨after, rfl, partly.trans (effect.widen ?_)⟩
  intro other member
  exact ⟨root, List.mem_singleton.mpr rfl, List.mem_singleton.mp member ▸ encloses⟩

/-- So do any number of sorts, one after the other. -/
theorem sort_run {ids : List NodeId} (existing : ∀ id ∈ ids, id < built.size) :
    ∀ {tree : BindingTree hierarchy}, PartlySorted built tree [root] →
      ∃ after, (ids.forM sort).perform tree = (.ok (), after) ∧
        PartlySorted built after [root] := by
  induction ids with
  | nil => exact fun {tree} partly => ⟨tree, rfl, partly⟩
  | cons id ids ih =>
      intro tree partly
      obtain ⟨first, later⟩ := List.forall_mem_cons.mp existing
      obtain ⟨middle, performed, partly⟩ := sorts.sort_step partly first
      obtain ⟨after, rest, partly⟩ := ih later partly
      refine ⟨after, ?_, partly⟩
      rw [Attempt.perform_forM_cons, performed]
      exact rest

omit sorts in
/-- A sort of the root brings every node below it to where the sort of the built tree brings it. -/
theorem nodes_of_sort_root (coherent : built.Coherent) (partly : PartlySorted built tree [root])
    (performed : (sort root).perform tree = (.ok (), after)) :
    after.size = built.size ∧
      ∀ id, built.Encloses root id → after.node id = built.sortedNode id := by
  have treeCoherent := partly.forest.coherent coherent
  have effect := sortEffect_sort treeCoherent treeCoherent.hasRoot
  rw [performed] at effect
  have full := effect.fully rfl
  refine ⟨full.size.trans partly.size, fun id encloses => ?_⟩
  rw [full.inside root (List.mem_singleton.mpr rfl) id (partly.forest.encloses_iff.mpr encloses),
    partly.sortedNode]

/-- From wherever sorts have led to, a sort of the root leads to the one tree in which every node is
sorted. -/
theorem sort_root (partly : PartlySorted built tree [root])
    (performed : (sort root).perform built = (.ok (), sorted)) :
    (sort root).perform tree = (.ok (), sorted) := by
  obtain ⟨after, again, -⟩ := sorts.sort_step partly sorts.coherent.hasRoot
  obtain ⟨size, nodes⟩ := nodes_of_sort_root sorts.coherent (.refl built [root]) performed
  obtain ⟨afterSize, afterNodes⟩ := nodes_of_sort_root sorts.coherent partly again
  have same : after = sorted := by
    apply eq_of_nodes (afterSize.trans size.symm)
    intro id existing
    have encloses := sorts.reached id (size ▸ existing)
    exact (afterNodes id encloses).trans (nodes id encloses).symm
  rw [again, same]

end RootSortable

/-- If the root of a tree can be sorted after it has been built, then before that, nodes may be sorted
in any order and as often as one likes: each sort succeeds, and the sort of the root makes the same
tree as it does without them. Sorting the root again changes nothing. -/
theorem sorts_rejoin {workspace built : Workspace hierarchy} {sorted : BindingTree hierarchy}
    (reachable : workspace.tree.Reachable)
    (performed : (build root).perform workspace = (.ok (), built))
    (sorts : (sort root).perform built.tree = (.ok (), sorted)) :
    (∀ ids : List NodeId, (∀ id ∈ ids, id < built.tree.size) →
      ∃ after, (ids.forM sort).perform built.tree = (.ok (), after) ∧
        (sort root).perform after = (.ok (), sorted)) ∧
      (sort root).perform sorted = (.ok (), sorted) := by
  have coherent : built.tree.Coherent :=
    (attached_build reachable.coherent reachable.coherent.hasRoot performed).coherent
  have rootSortable : built.tree.RootSortable :=
    { coherent := coherent
      reached := reachable.encloses_root_of_build performed
      sortable := (result_sort_eq_ok coherent coherent.hasRoot).mp (by rw [sorts]) }
  have rejoins : ∀ ids : List NodeId, (∀ id ∈ ids, id < built.tree.size) →
      ∃ after, (ids.forM sort).perform built.tree = (.ok (), after) ∧
        (sort root).perform after = (.ok (), sorted) := by
    intro ids existing
    obtain ⟨after, ran, partly⟩ := rootSortable.sort_run existing (.refl built.tree [root])
    exact ⟨after, ran, rootSortable.sort_root partly sorts⟩
  refine ⟨rejoins, ?_⟩
  have effect := (sortEffect_sort coherent coherent.hasRoot).partly
  rw [sorts] at effect
  exact rootSortable.sort_root effect sorts

/-- Sorting a class, then its namespace, the class again and the namespace again leaves the root
unsorted; the sort of the root still makes what it would have made at once. -/
theorem sorts_rejoin_derivedFirst :
    ((build root).perform { tree := start derivedFirst, session := .fresh }).1 = .ok () ∧
      ∃ sorted after, (sort root).perform derivedFirstBuilt = (.ok (), sorted) ∧
        ([2, 1, 2, 1].forM sort).perform derivedFirstBuilt = (.ok (), after) ∧
        (after.node root).stage = .built ∧ sorted.children 1 = [3, 4, 2] ∧
        (sort root).perform after = (.ok (), sorted) ∧
        (sort root).perform sorted = (.ok (), sorted) := by
  have succeeded : ((build root).perform { tree := start derivedFirst, session := .fresh }).1 =
      .ok () := rfl
  have performed : (build root).perform { tree := start derivedFirst, session := .fresh } =
      (.ok (), { tree := derivedFirstBuilt, session := _ }) := Prod.ext succeeded rfl
  have sortable : ((sort root).perform derivedFirstBuilt).1 = .ok () := rfl
  have sorts : (sort root).perform derivedFirstBuilt =
      (.ok (), ((sort root).perform derivedFirstBuilt).2) := Prod.ext sortable rfl
  have stage : ((([2, 1, 2, 1].forM sort).perform derivedFirstBuilt).2.node root).stage =
      .built := rfl
  obtain ⟨rejoins, again⟩ := sorts_rejoin .start performed sorts
  obtain ⟨after, ran, rejoined⟩ := rejoins [2, 1, 2, 1] (by decide)
  dsimp only at ran
  rw [ran] at stage
  exact ⟨succeeded, _, after, sorts, ran, stage, rfl, rejoined, again⟩

end RubyBindings.BindingTree
