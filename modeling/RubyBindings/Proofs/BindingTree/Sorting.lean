/-
Module: RubyBindings.Proofs.BindingTree.Sorting
Purpose: What sorting does to a tree. Whether it succeeds or stops halfway, every node is as it was
  or has its children in stable order of their ranks, and only nodes of the subtree are touched; if
  it succeeds, every node of the subtree is in order.
Main exports: BindingTree.rankOf, BindingTree.sortedNode, BindingTree.PartlySorted,
  BindingTree.FullySorted, BindingTree.sortEffect_sort
-/
import RubyBindings.Proofs.Attempt
import RubyBindings.Proofs.BindingTree.Links
import RubyBindings.Proofs.StableSort

namespace RubyBindings.BindingTree

variable {hierarchy : Hierarchy} {tree : BindingTree hierarchy}

/-! ## Ranks -/

/-- The rank of a node where it has one. -/
def rankOf (tree : BindingTree hierarchy) (id : NodeId) : Nat :=
  let node := tree.node id
  if node.kind = .classType then (hierarchy.inheritanceDepth? node.entity).getD 0 else 0

theorem eq_rankOf_of_rank {id : NodeId} {rank : Nat} (ranked : tree.rank id = .ok rank) :
    rank = tree.rankOf id := by
  simp only [BindingTree.rank] at ranked
  rw [rankOf]
  split at ranked
  · rename_i isClass
    split at ranked
    · rename_i depth found
      cases ranked
      simp [isClass, found]
    · cases ranked
  · rename_i notClass
    cases ranked
    simp [notClass]

/-- Where every node of a list has a rank, the list of ranks shows it. -/
theorem ranked_eq {ids : List NodeId} {items : List (Nat × NodeId)}
    (ranked : tree.ranked ids = .ok items) :
    items = ids.map (fun id => (tree.rankOf id, id)) ∧
      ∀ id ∈ ids, tree.rank id = .ok (tree.rankOf id) := by
  induction ids generalizing items with
  | nil =>
      cases ranked
      exact ⟨rfl, fun _ member => absurd member List.not_mem_nil⟩
  | cons id ids ih =>
      rw [BindingTree.ranked, List.mapM_cons] at ranked
      obtain ⟨item, first, ranked⟩ := bind_eq_ok.mp ranked
      obtain ⟨others, rest, ranked⟩ := bind_eq_ok.mp ranked
      obtain ⟨rank, found, made⟩ := bind_eq_ok.mp first
      obtain ⟨tail, each⟩ := ih rest
      cases ranked
      cases made
      obtain rfl := eq_rankOf_of_rank found
      exact ⟨by rw [List.map_cons, ← tail], List.forall_mem_cons.mpr ⟨found, each⟩⟩

/-- Children that can be ordered have ranks, and are then in stable order of them. -/
theorem orderedByRank_eq {ids ordered : List NodeId}
    (order : tree.orderedByRank ids = .ok ordered) :
    ordered = stablyOrdered tree.rankOf ids ∧
      ∀ id ∈ ids, tree.rank id = .ok (tree.rankOf id) := by
  rw [orderedByRank] at order
  obtain ⟨items, found, order⟩ := bind_eq_ok.mp order
  obtain ⟨same, each⟩ := ranked_eq found
  cases order
  refine ⟨?_, each⟩
  rw [stableSort_eq_stablyOrdered, same, map_stablyOrdered tree.rankOf Prod.snd]
  · rw [List.map_map]
    exact congrArg _ (List.map_id ids)
  · intro item member
    obtain ⟨id, -, rfl⟩ := List.mem_map.mp member
    rfl

/-! ## Sorted nodes -/

/-- A node with its children in order. -/
def sortedNode (tree : BindingTree hierarchy) (id : NodeId) : BindingNode :=
  { tree.node id with
    children := stablyOrdered tree.rankOf (tree.children id)
    stage := .sorted }

/-- Some nodes below those in `tops` have been sorted, and nothing else has happened. -/
structure PartlySorted (before after : BindingTree hierarchy) (tops : List NodeId) : Prop where
  size : after.size = before.size
  node : ∀ id, after.node id = before.node id ∨
    (∃ top ∈ tops, before.Encloses top id) ∧ after.node id = before.sortedNode id

namespace PartlySorted

variable {before middle after : BindingTree hierarchy} {tops : List NodeId}

theorem refl (tree : BindingTree hierarchy) (tops : List NodeId) : PartlySorted tree tree tops :=
  ⟨rfl, fun _ => Or.inl rfl⟩

theorem forest (sorted : PartlySorted before after tops) : SameForest before after where
  size := sorted.size
  parent := by
    intro id
    rcases sorted.node id with same | ⟨-, same⟩
    · rw [same]
    · rw [same, sortedNode]
  children := by
    intro id
    rcases sorted.node id with same | ⟨-, same⟩
    · rw [BindingTree.children, same]
      exact .refl _
    · rw [BindingTree.children, same]
      exact stablyOrdered_perm before.rankOf (before.children id)

theorem rank (sorted : PartlySorted before after tops) : after.rank = before.rank := by
  funext id
  rw [BindingTree.rank, BindingTree.rank]
  rcases sorted.node id with same | ⟨-, same⟩
  · rw [same]
  · rw [same, sortedNode]

theorem rankOf (sorted : PartlySorted before after tops) : after.rankOf = before.rankOf := by
  funext id
  rw [BindingTree.rankOf, BindingTree.rankOf]
  rcases sorted.node id with same | ⟨-, same⟩
  · rw [same]
  · rw [same, sortedNode]

/-- A node that is sorted already is what it would be after sorting. -/
theorem sortedNode (sorted : PartlySorted before after tops) (id : NodeId) :
    after.sortedNode id = before.sortedNode id := by
  rw [BindingTree.sortedNode, BindingTree.sortedNode, sorted.rankOf, BindingTree.children]
  rcases sorted.node id with same | ⟨-, same⟩
  · rw [same]
    rfl
  · rw [same, BindingTree.sortedNode]
    simp only [stablyOrdered_stablyOrdered]

theorem node_outside (sorted : PartlySorted before after tops) {id : NodeId}
    (outside : ∀ top ∈ tops, ¬ before.Encloses top id) : after.node id = before.node id := by
  rcases sorted.node id with same | ⟨⟨top, member, encloses⟩, -⟩
  · exact same
  · exact absurd encloses (outside top member)

/-- What happened below some nodes happened below whatever stands above all of them. -/
theorem widen {more : List NodeId} (sorted : PartlySorted before after tops)
    (covered : ∀ top ∈ tops, ∃ above ∈ more, before.Encloses above top) :
    PartlySorted before after more where
  size := sorted.size
  node := by
    intro id
    rcases sorted.node id with same | ⟨⟨top, member, encloses⟩, same⟩
    · exact Or.inl same
    · obtain ⟨above, listed, around⟩ := covered top member
      exact Or.inr ⟨⟨above, listed, around.trans encloses⟩, same⟩

/-- What happened below some nodes happened below more of them. -/
theorem mono {more : List NodeId} (sorted : PartlySorted before after tops)
    (covered : tops ⊆ more) : PartlySorted before after more :=
  sorted.widen fun top member => ⟨top, covered member, .refl before top⟩

/-- What happened below the children of a node happened below the node. -/
theorem ofChildren {parent : NodeId} (sorted : PartlySorted before after (before.children parent)) :
    PartlySorted before after [parent] :=
  sorted.widen fun _ member => ⟨parent, List.mem_singleton.mpr rfl, .child member⟩

theorem trans (first : PartlySorted before middle tops) (second : PartlySorted middle after tops) :
    PartlySorted before after tops where
  size := second.size.trans first.size
  node := by
    intro id
    rcases second.node id with same | ⟨⟨top, member, encloses⟩, same⟩
    · rw [same]
      exact first.node id
    · rw [same, first.sortedNode]
      exact Or.inr ⟨⟨top, member, first.forest.encloses_iff.mp encloses⟩, rfl⟩

end PartlySorted

/-- Everything below the nodes in `tops` has been sorted, by ranks that all exist, and nothing else
has happened. -/
structure FullySorted (before after : BindingTree hierarchy) (tops : List NodeId) : Prop
    extends PartlySorted before after tops where
  inside : ∀ top ∈ tops, ∀ id, before.Encloses top id → after.node id = before.sortedNode id
  ranked : ∀ top ∈ tops, ∀ id, before.Encloses top id → ∀ child ∈ before.children id,
    before.rank child = .ok (before.rankOf child)

namespace FullySorted

variable {before middle after : BindingTree hierarchy} {top : NodeId} {tops : List NodeId}

theorem nil (tree : BindingTree hierarchy) : FullySorted tree tree [] where
  toPartlySorted := .refl tree []
  inside := fun _ member => absurd member List.not_mem_nil
  ranked := fun _ member => absurd member List.not_mem_nil

/-- What was sorted first stays sorted while the others follow. -/
theorem cons (first : FullySorted before middle [top]) (rest : FullySorted middle after tops) :
    FullySorted before after (top :: tops) where
  toPartlySorted := by
    apply (first.mono _).trans (rest.mono (List.subset_cons_self top tops))
    exact List.cons_subset.mpr ⟨List.mem_cons_self, List.nil_subset _⟩
  inside := by
    intro other member id encloses
    rcases List.mem_cons.mp member with rfl | later
    · have here := first.inside other (List.mem_singleton.mpr rfl) id encloses
      rcases rest.node id with same | ⟨-, same⟩
      · rw [same, here]
      · rw [same, first.sortedNode]
    · rw [rest.inside other later id (first.forest.encloses_iff.mpr encloses), first.sortedNode]
  ranked := by
    intro other member id encloses child childMember
    rcases List.mem_cons.mp member with rfl | later
    · exact first.ranked other (List.mem_singleton.mpr rfl) id encloses child childMember
    · rw [← first.rank, ← first.rankOf]
      exact rest.ranked other later id (first.forest.encloses_iff.mpr encloses) child
        ((first.forest.children id).mem_iff.mpr childMember)

/-- Once the subtrees of the children are sorted, ordering the children sorts the subtree. -/
theorem finish {id : NodeId} {children : List NodeId}
    (sorted : FullySorted before after (before.children id)) (coherent : before.Coherent)
    (existing : id < before.size)
    (ordered : children = stablyOrdered after.rankOf (before.children id))
    (ranked : ∀ child ∈ before.children id, after.rank child = .ok (after.rankOf child)) :
    FullySorted before (after.update id fun node => { node with children, stage := .sorted })
      [id] := by
  have untouched : after.node id = before.node id := by
    apply sorted.node_outside
    intro child member encloses
    exact Nat.not_le_of_lt (coherent.lt_of_mem_children member) (coherent.encloses_le encloses)
  have own : (after.update id fun node => { node with children, stage := .sorted }).node id =
      before.sortedNode id := by
    rw [node_update_self (sorted.size ▸ existing), untouched, ordered, sorted.rankOf, sortedNode]
  refine ⟨⟨?_, ?_⟩, ?_, ?_⟩
  · rw [size_update, sorted.size]
  · intro other
    by_cases self : other = id
    · rw [self, own]
      exact Or.inr ⟨⟨id, List.mem_singleton.mpr rfl, .refl before id⟩, rfl⟩
    · rw [node_update_of_ne self]
      exact sorted.ofChildren.node other
  · intro top member other encloses
    cases List.mem_singleton.mp member
    rcases Encloses.iff_eq_or_child.mp encloses with rfl | ⟨child, childMember, below⟩
    · exact own
    · have larger := Nat.lt_of_lt_of_le (coherent.lt_of_mem_children childMember)
        (coherent.encloses_le below)
      rw [node_update_of_ne (Nat.ne_of_gt larger)]
      exact sorted.inside child childMember other below
  · intro top member other encloses
    cases List.mem_singleton.mp member
    rcases Encloses.iff_eq_or_child.mp encloses with rfl | ⟨child, childMember, below⟩
    · rw [sorted.rank, sorted.rankOf] at ranked
      exact ranked
    · exact sorted.ranked child childMember other below

end FullySorted

/-! ## The run of a sort -/

/-- One level of sorting: the stage is looked at, the children's subtrees are sorted, and then the
children are put in order. -/
theorem perform_sortWithin_succ (depth : Nat) (id : NodeId) (tree : BindingTree hierarchy) :
    (sortWithin (depth + 1) id).perform tree =
      match tree.requireStage .sort [.built, .sorted] .built id with
      | .error error => (.error error, tree)
      | .ok () =>
        match ((tree.children id).forM (sortWithin depth)).perform tree with
        | (.error error, after) => (.error error, after)
        | (.ok (), after) =>
          match after.orderedByRank (tree.children id) with
          | .error error => (.error error, after)
          | .ok children =>
            (.ok (), after.update id fun node => { node with children, stage := .sorted }) := by
  simp only [sortWithin, Attempt.perform_bind, Attempt.perform_get, Attempt.perform_ofExcept,
    Attempt.perform_modify]
  cases tree.requireStage .sort [.built, .sorted] .built id with
  | error error => rfl
  | ok passed =>
      dsimp only
      rcases ((tree.children id).forM (sortWithin depth)).perform tree with ⟨error | done, after⟩
      · rfl
      · dsimp only
        cases after.orderedByRank (tree.children id) with
        | error error => rfl
        | ok children => rfl

/-- What a performed sort has done: some of the work, and all of it if it succeeded. -/
structure SortEffect (before : BindingTree hierarchy) (tops : List NodeId)
    (performed : Except GenerationError Unit × BindingTree hierarchy) : Prop where
  partly : PartlySorted before performed.2 tops
  fully : performed.1 = .ok () → FullySorted before performed.2 tops

/-- Sorting some nodes one after the other, if each of them is sorted as it should be. -/
theorem sortEffect_forM
    {sortOne : NodeId → Attempt (BindingTree hierarchy) GenerationError Unit} {size : Nat}
    {ids : List NodeId}
    (each : ∀ id ∈ ids, ∀ before : BindingTree hierarchy, before.Coherent → before.size = size →
      SortEffect before [id] ((sortOne id).perform before)) :
    ∀ {before : BindingTree hierarchy}, before.Coherent → before.size = size →
      SortEffect before ids ((ids.forM sortOne).perform before) := by
  induction ids with
  | nil => exact fun _ _ => ⟨.refl _ [], fun _ => .nil _⟩
  | cons id ids ih =>
      intro before coherent sizes
      obtain ⟨eachFirst, eachLater⟩ := List.forall_mem_cons.mp each
      have first := eachFirst before coherent sizes
      have keep : [id] ⊆ id :: ids :=
        List.cons_subset.mpr ⟨List.mem_cons_self, List.nil_subset _⟩
      rw [Attempt.perform_forM_cons]
      rcases made : (sortOne id).perform before with ⟨error | done, middle⟩
      · rw [made] at first
        exact ⟨first.partly.mono keep, nofun⟩
      · rw [made] at first
        have full := first.fully rfl
        have later := ih eachLater (full.forest.coherent coherent) (full.size.trans sizes)
        refine ⟨?_, fun success => full.cons (later.fully success)⟩
        exact (full.mono keep).trans (later.partly.mono (List.subset_cons_self id ids))

/-- Sorting as deep as the tree reaches. -/
theorem sortEffect_sortWithin (depth : Nat) :
    ∀ {tree : BindingTree hierarchy}, tree.Coherent → ∀ id < tree.size, tree.size ≤ id + depth →
      SortEffect tree [id] ((sortWithin depth id).perform tree) := by
  induction depth with
  | zero =>
      intro tree coherent id existing deep
      omega
  | succ depth ih =>
      intro tree coherent id existing deep
      rw [perform_sortWithin_succ]
      cases tree.requireStage .sort [.built, .sorted] .built id with
      | error error => exact ⟨.refl tree [id], nofun⟩
      | ok passed =>
          have each : ∀ child ∈ tree.children id, ∀ before : BindingTree hierarchy,
              before.Coherent → before.size = tree.size →
                SortEffect before [child] ((sortWithin depth child).perform before) := by
            intro child member before beforeCoherent sizes
            have larger : id < child := coherent.lt_of_mem_children member
            have small : child < tree.size := (coherent.childLink id child member).1
            exact ih beforeCoherent child (sizes ▸ small) (by omega)
          have below := sortEffect_forM each coherent rfl
          dsimp only
          rcases made : ((tree.children id).forM (sortWithin depth)).perform tree with
            ⟨error | done, after⟩
          · rw [made] at below
            exact ⟨below.partly.ofChildren, nofun⟩
          · rw [made] at below
            dsimp only
            cases ordered : after.orderedByRank (tree.children id) with
            | error error => exact ⟨below.partly.ofChildren, nofun⟩
            | ok children =>
                obtain ⟨same, ranked⟩ := orderedByRank_eq ordered
                have full := (below.fully rfl).finish coherent existing same ranked
                exact ⟨full.toPartlySorted, fun _ => full⟩

theorem sortEffect_sort (coherent : tree.Coherent) {id : NodeId} (existing : id < tree.size) :
    SortEffect tree [id] ((sort id).perform tree) :=
  sortEffect_sortWithin tree.size coherent id existing (Nat.le_add_left _ _)

end RubyBindings.BindingTree
