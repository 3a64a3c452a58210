/-
Module: RubyBindings.Proofs.BindingTree.SortFault
Purpose: How the sort of a tree ends. It stops at the first node that is at the wrong stage and at
  the first class that has no inheritance depth, in an order that the tree has before the sort; what
  has been sorted by then has no say in it. In a built tree, the hierarchy alone decides.
Main exports: BindingTree.sortFault?, BindingTree.result_sort_of_coherent, Hierarchy.depthFault?,
  BindingTree.result_sort
-/
import RubyBindings.Proofs.BindingTree.Contents
import RubyBindings.Proofs.BindingTree.Growth
import RubyBindings.Proofs.Hierarchy.Traversal

namespace RubyBindings

variable {hierarchy : Hierarchy}

/-- The error about an entity that is to be ranked: a class without an inheritance depth. -/
def Hierarchy.depthFault? (hierarchy : Hierarchy) (id : EntityId) : Option GenerationError :=
  if hierarchy.kind id = .classType ∧ hierarchy.inheritanceDepth? id = none then
    some (.cyclicHierarchy (hierarchy.qualifiedName id))
  else none

namespace BindingTree

variable {tree : BindingTree hierarchy}

/-! ## Faults -/

/-- The error about a node that is to be sorted, but was not built or has been processed. -/
def stageFault? (tree : BindingTree hierarchy) (id : NodeId) : Option GenerationError :=
  if (tree.node id).stage ∈ [.built, .sorted] then none
  else some (.outOfOrder .sort (tree.name id) (tree.node id).stage .built)

/-- The error about a node that is to be ranked: a class without an inheritance depth. -/
def rankFault? (tree : BindingTree hierarchy) (id : NodeId) : Option GenerationError :=
  let node := tree.node id
  if node.kind = .classType ∧ hierarchy.inheritanceDepth? node.entity = none then
    some (.cyclicHierarchy (hierarchy.qualifiedName node.entity))
  else none

/-- The first error that a sort meets, at most `depth` levels down: the node is looked at, then the
subtrees of its children, and then the ranks of its children. -/
def sortFaultWithin (tree : BindingTree hierarchy) : Nat → NodeId → Option GenerationError
  | 0, _ => none
  | depth + 1, id =>
    ((tree.stageFault? id).or ((tree.children id).findSome? (tree.sortFaultWithin depth))).or
      ((tree.children id).findSome? tree.rankFault?)

/-- The first error that a sort meets. A branch of nodes is no longer than the tree. -/
def sortFault? (tree : BindingTree hierarchy) (id : NodeId) : Option GenerationError :=
  tree.sortFaultWithin tree.size id

theorem requireStage_eq (tree : BindingTree hierarchy) (id : NodeId) :
    tree.requireStage .sort [.built, .sorted] .built id = refusal (tree.stageFault? id) := by
  simp only [requireStage, stageFault?]
  split <;> rfl

theorem rank_eq (tree : BindingTree hierarchy) (id : NodeId) :
    tree.rank id = (tree.rankFault? id).elim (.ok (tree.rankOf id)) .error := by
  simp only [rank, rankOf, rankFault?]
  by_cases isClass : (tree.node id).kind = .classType
  · cases found : hierarchy.inheritanceDepth? (tree.node id).entity <;> simp [isClass]
  · simp [isClass]

/-! ## Ranks of siblings -/

/-- Ordering some nodes fails exactly with the first error about a rank, and only with one. -/
theorem orderedByRank_result {ids : List NodeId} {fault? : NodeId → Option GenerationError}
    (ranks : ∀ id ∈ ids, tree.rank id = (fault? id).elim (.ok (tree.rankOf id)) .error) :
    (tree.orderedByRank ids).map (fun _ => ()) = refusal (ids.findSome? fault?) := by
  have ranked : (tree.ranked ids).map (fun _ => ()) = refusal (ids.findSome? fault?) := by
    induction ids with
    | nil => rfl
    | cons id ids ih =>
        obtain ⟨first, later⟩ := List.forall_mem_cons.mp ranks
        have rest := ih later
        rw [BindingTree.ranked, List.mapM_cons, first, List.findSome?_cons]
        rw [BindingTree.ranked] at rest
        cases fault? id with
        | some error => rfl
        | none =>
            rw [← rest]
            cases ids.mapM fun id => do return (← tree.rank id, id) <;> rfl
  rw [← ranked, orderedByRank]
  cases tree.ranked ids <;> rfl

/-! ## The result of a sort -/

/-- Sorting some subtrees one after the other fails with the first error among theirs, if each of
them is still as it was in `tree` when its turn comes. -/
theorem result_forM_sort
    {sortOne : NodeId → Attempt (BindingTree hierarchy) GenerationError Unit}
    {fault? : NodeId → Option GenerationError} (coherent : tree.Coherent) {parent : NodeId}
    {ids : List NodeId} (siblings : ids ⊆ tree.children parent) (nodup : ids.Nodup)
    (each : ∀ id ∈ ids, ∀ before : BindingTree hierarchy, SameForest tree before →
      (∀ below, tree.Encloses id below → before.node below = tree.node below) →
        SortEffect before [id] ((sortOne id).perform before) ∧
          ((sortOne id).perform before).1 = refusal (fault? id)) :
    ∀ before : BindingTree hierarchy, SameForest tree before →
      (∀ id ∈ ids, ∀ below, tree.Encloses id below → before.node below = tree.node below) →
        ((ids.forM sortOne).perform before).1 = refusal (ids.findSome? fault?) := by
  induction ids with
  | nil => exact fun _ _ _ => rfl
  | cons id ids ih =>
      intro before same untouched
      obtain ⟨eachFirst, eachLater⟩ := List.forall_mem_cons.mp each
      obtain ⟨ownUntouched, laterUntouched⟩ := List.forall_mem_cons.mp untouched
      obtain ⟨own, others⟩ := List.cons_subset.mp siblings
      obtain ⟨apart, distinct⟩ := List.nodup_cons.mp nodup
      obtain ⟨effect, result⟩ := eachFirst before same ownUntouched
      rw [Attempt.perform_forM_cons, List.findSome?_cons]
      rcases made : (sortOne id).perform before with ⟨error | done, middle⟩
      · rw [made] at result
        rw [refusal_eq_error.mp result.symm]
        rfl
      · rw [made] at result effect
        rw [refusal_eq_ok.mp result.symm]
        refine ih others distinct eachLater middle (same.trans effect.partly.forest) ?_
        intro other member below encloses
        rw [← laterUntouched other member below encloses]
        apply effect.partly.node_outside
        intro top topMember inside
        cases List.mem_singleton.mp topMember
        -- No node stands below two siblings, so what was sorted first is elsewhere.
        have same := coherent.eq_of_common_descendant own (others member)
          (same.encloses_iff.mp inside) encloses
        exact apart (same ▸ member)

/-- The sort of a subtree that is still as it is in `tree` fails with the first error that it meets
there. -/
theorem result_sortWithin (coherent : tree.Coherent) (depth : Nat) :
    ∀ id < tree.size, tree.size ≤ id + depth → ∀ before : BindingTree hierarchy,
      SameForest tree before →
      (∀ below, tree.Encloses id below → before.node below = tree.node below) →
        ((sortWithin depth id).perform before).1 = refusal (tree.sortFaultWithin depth id) := by
  induction depth with
  | zero =>
      intro id existing deep
      omega
  | succ depth ih =>
      intro id existing deep before same untouched
      have beforeCoherent := same.coherent coherent
      have own := untouched id (.refl tree id)
      have stage : before.stageFault? id = tree.stageFault? id := by
        rw [stageFault?, stageFault?, name, name, own]
      have lists : before.children id = tree.children id := by
        rw [children, own]
        rfl
      have below : ∀ child ∈ tree.children id, ∀ other, tree.Encloses child other →
          before.node other = tree.node other :=
        fun child member other encloses => untouched other ((Encloses.child member).trans encloses)
      have effects : ∀ child ∈ tree.children id, ∀ middle : BindingTree hierarchy,
          middle.Coherent → middle.size = tree.size →
            SortEffect middle [child] ((sortWithin depth child).perform middle) := by
        intro child member middle middleCoherent sizes
        have small : child < tree.size := (coherent.childLink id child member).1
        have larger : id < child := coherent.lt_of_mem_children member
        exact sortEffect_sortWithin depth middleCoherent child (sizes ▸ small) (by omega)
      have results : ∀ child ∈ tree.children id, ∀ middle : BindingTree hierarchy,
          SameForest tree middle →
          (∀ other, tree.Encloses child other → middle.node other = tree.node other) →
            SortEffect middle [child] ((sortWithin depth child).perform middle) ∧
              ((sortWithin depth child).perform middle).1 =
                refusal (tree.sortFaultWithin depth child) := by
        intro child member middle forest kept
        have small : child < tree.size := (coherent.childLink id child member).1
        have larger : id < child := coherent.lt_of_mem_children member
        exact ⟨effects child member middle (forest.coherent coherent) forest.size,
          ih child small (by omega) middle forest kept⟩
      have inside := result_forM_sort coherent (List.Subset.refl (tree.children id))
        (coherent.childrenNodup id) results before same below
      have effect := sortEffect_forM effects beforeCoherent same.size
      rw [perform_sortWithin_succ, requireStage_eq, stage, lists, sortFaultWithin]
      cases tree.stageFault? id with
      | some error => rfl
      | none =>
          have passed : refusal none = .ok () := rfl
          rw [passed, Option.none_or]
          dsimp only
          rcases made : ((tree.children id).forM (sortWithin depth)).perform before with
            ⟨error | done, after⟩
          · rw [made] at inside
            rw [refusal_eq_error.mp inside.symm]
            rfl
          · rw [made] at inside effect
            have ranks : ∀ child ∈ tree.children id, after.rank child =
                (tree.rankFault? child).elim (.ok (after.rankOf child)) .error := by
              intro child member
              have kept := below child member child (.refl tree child)
              have sameRank : before.rank child = tree.rank child := by rw [rank, rank, kept]
              have sameRankOf : before.rankOf child = tree.rankOf child := by
                rw [rankOf, rankOf, kept]
              rw [effect.partly.rank, effect.partly.rankOf, sameRank, sameRankOf]
              exact tree.rank_eq child
            have ordered := orderedByRank_result ranks
            rw [refusal_eq_ok.mp inside.symm, Option.none_or, ← ordered]
            dsimp only
            cases after.orderedByRank (tree.children id) <;> rfl

/-- What a sort fails with is decided by the tree before it. -/
theorem result_sort_of_coherent (coherent : tree.Coherent) {id : NodeId}
    (existing : id < tree.size) :
    ((sort id).perform tree).1 = refusal (tree.sortFault? id) :=
  result_sortWithin coherent tree.size id existing (Nat.le_add_left _ _) tree (.refl tree)
    fun _ _ => rfl

/-! ## Complete trees -/

/-- Ranking a node of a complete tree fails with the error about its entity. -/
theorem Complete.rankFault?_eq (complete : tree.Complete) {id : NodeId} (existing : id < tree.size)
    (notRoot : id ≠ root) :
    tree.rankFault? id = hierarchy.depthFault? (tree.node id).entity := by
  simp only [rankFault?, Hierarchy.depthFault?, complete.kind_eq existing notRoot,
    DeclarationKind.nodeKind_eq_classType]

/-- The nodes of a complete tree are looked at in the order that the hierarchy has for their
entities, and all of them are built. -/
theorem Complete.sortFaultWithin_eq (complete : tree.Complete) (descends : hierarchy.Descends)
    (depth : Nat) : ∀ id < tree.size, tree.size ≤ id + depth →
      tree.sortFaultWithin depth id =
        (hierarchy.inspectionOrder (tree.node id).entity).findSome? hierarchy.depthFault? := by
  have coherent := complete.coherent
  induction depth with
  | zero =>
      intro id existing deep
      omega
  | succ depth ih =>
      intro id existing deep
      have faithful := complete.faithful id existing
      have stage : tree.stageFault? id = none := by
        rw [stageFault?, faithful.stage]
        rfl
      have entities : hierarchy.eligibleChildren (tree.node id).entity =
          (tree.children id).map fun child => (tree.node child).entity := faithful.entities.symm
      have below : (tree.children id).findSome? (tree.sortFaultWithin depth) =
          (tree.children id).findSome? fun child =>
            (hierarchy.inspectionOrder (tree.node child).entity).findSome?
              hierarchy.depthFault? := by
        apply Hierarchy.findSome?_congr
        intro child member
        have small : child < tree.size := (coherent.childLink id child member).1
        have larger : id < child := coherent.lt_of_mem_children member
        exact ih child small (by omega)
      have ranks : (tree.children id).findSome? tree.rankFault? =
          (tree.children id).findSome? fun child =>
            hierarchy.depthFault? (tree.node child).entity := by
        apply Hierarchy.findSome?_congr
        intro child member
        have small : child < tree.size := (coherent.childLink id child member).1
        exact complete.rankFault?_eq small (coherent.ne_root_of_mem_children member)
      rw [sortFaultWithin, stage, Option.none_or, below, ranks, descends.inspectionOrder_eq,
        List.findSome?_append, Hierarchy.findSome?_flatMap, entities, List.findSome?_map,
        List.findSome?_map]
      rfl

/-- Sorting a complete tree fails exactly if some class has no inheritance depth, with the error about
the first of these in the order in which the sort looks at them. -/
theorem result_sort (complete : tree.Complete) (descends : hierarchy.Descends) :
    ((sort root).perform tree).1 =
      refusal ((hierarchy.inspectionOrder Hierarchy.root).findSome? hierarchy.depthFault?) := by
  have coherent := complete.coherent
  rw [result_sort_of_coherent coherent coherent.hasRoot, sortFault?,
    complete.sortFaultWithin_eq descends tree.size root coherent.hasRoot (Nat.le_add_left _ _),
    complete.rootEntity]

/-- If the sort of a built tree succeeds, the root can be processed. -/
theorem exists_passes_of_sort (descends : hierarchy.Descends) {session : Session}
    {built : Workspace hierarchy} {sorted : BindingTree hierarchy}
    (builds : (build root).perform { tree := start hierarchy, session } = (.ok (), built))
    (sorts : (sort root).perform built.tree = (.ok (), sorted)) :
    ∃ processed, Passes session built sorted processed := by
  have complete := complete_build descends builds
  have coherent := complete.coherent
  have effect := sortEffect_sort coherent coherent.hasRoot
  rw [sorts] at effect
  have full : FullySorted built.tree sorted [root] := effect.fully rfl
  have sortedCoherent := full.forest.coherent coherent
  have ready : sorted.requireSorted root = .ok () := by
    rw [sortedCoherent.requireSorted_eq_ok sortedCoherent.hasRoot]
    intro below encloses
    have inside := full.inside root (List.mem_singleton.mpr rfl) below
      (full.forest.encloses_iff.mp encloses)
    rw [inside, sortedNode]
  refine ⟨sorted.aggregate root, builds, sorts, ?_⟩
  rw [perform_process, ready]

end BindingTree

end RubyBindings
