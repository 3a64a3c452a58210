/-
Module: RubyBindings.Proofs.BindingTree.Lifecycle
Purpose: The life of the nodes of a tree. Calls on a tree may come in any order and may stop
  halfway; nodes only ever move forwards, no node gets behind the node above it, the children of a
  sorted node stay in order, and what has been processed holds nothing any more.
Main exports: NodeStage.progress, BindingTree.RankedBefore, BindingTree.Orderly,
  BindingTree.sortWithin_induction, BindingTree.Reachable.orderly, BindingTree.Advances,
  BindingTree.lifecycle_of_reachable
-/
import RubyBindings.Proofs.BindingTree.Calls
import RubyBindings.Proofs.BindingTree.Growth

namespace RubyBindings

/-- How many stages a node has left behind. -/
def NodeStage.progress : NodeStage → Nat
  | .created => 0
  | .built => 1
  | .sorted => 2
  | .processed => 3

namespace BindingTree

variable {hierarchy : Hierarchy} {tree : BindingTree hierarchy}

/-! ## Trees in order -/

/-- The order of two siblings: by ascending rank, and for equal ranks by their making. -/
def RankedBefore (tree : BindingTree hierarchy) (first second : NodeId) : Prop :=
  ∃ firstRank secondRank, tree.rank first = .ok firstRank ∧ tree.rank second = .ok secondRank ∧
    (firstRank < secondRank ∨ firstRank = secondRank ∧ first < second)

/-- What calls keep in a tree. Beside what one wants to know of the stages, it says which nodes are
nobody's children: those, and only those, whose build was stopped by something that cannot be
wrapped. Such a node can never be built, and so it hands nothing to the node that it names as its
parent. -/
structure Orderly (tree : BindingTree hierarchy) : Prop where
  coherent : tree.Coherent
  rootEntity : (tree.node root).entity = Hierarchy.root
  rootKind : (tree.node root).kind = .extension
  begun : ∀ parent, ∀ child ∈ tree.children parent, (tree.node child).stage ≠ .created
  advanced : ∀ parent, ∀ child ∈ tree.children parent,
    (tree.node parent).stage.progress ≤ (tree.node child).stage.progress
  ascend : ∀ id, (tree.node id).stage = .created ∨ (tree.node id).stage = .built →
    (tree.children id).Pairwise (· < ·)
  ranked : ∀ id, (tree.node id).stage = .sorted ∨ (tree.node id).stage = .processed →
    (tree.children id).Pairwise tree.RankedBefore
  spent : ∀ id, id ≠ root → (tree.node id).stage = .processed →
    (tree.node id).fragments = .empty
  placed : ∀ id < tree.size, id ≠ root → (tree.node id).stage ≠ .created →
    ∃ parent, id ∈ tree.children parent
  supported : ∀ id < tree.size, (tree.node id).stage ≠ .created →
    hierarchy.firstUnsupported? (tree.node id).kind (tree.node id).entity = none
  unfinished : ∀ id < tree.size, id ≠ root → (tree.node id).stage = .created →
    hierarchy.firstUnsupported? (tree.node id).kind (tree.node id).entity ≠ none

theorem orderly_start (hierarchy : Hierarchy) : (start hierarchy).Orderly where
  coherent := coherent_start hierarchy
  rootEntity := rfl
  rootKind := rfl
  begun := fun _ _ member => by
    obtain ⟨small, -⟩ := (coherent_start hierarchy).childLink _ _ member
    exact absurd (Nat.lt_one_iff.mp small) ((coherent_start hierarchy).ne_root_of_mem_children member)
  advanced := fun _ _ member => by
    obtain ⟨small, -⟩ := (coherent_start hierarchy).childLink _ _ member
    exact absurd (Nat.lt_one_iff.mp small) ((coherent_start hierarchy).ne_root_of_mem_children member)
  ascend := by
    intro id _
    cases id <;> exact .nil
  ranked := by
    intro id _
    cases id <;> exact .nil
  spent := by
    intro id _ processed
    cases id <;> cases processed
  placed := fun _ small notRoot => absurd (Nat.lt_one_iff.mp small) notRoot
  supported := by
    intro id _ begun
    cases id <;> exact absurd rfl begun
  unfinished := fun _ small notRoot => absurd (Nat.lt_one_iff.mp small) notRoot

/-- The rank of a node is that of its entity, as what the node stands for. -/
theorem rank_congr {before after : BindingTree hierarchy} {id : NodeId}
    (entity : (after.node id).entity = (before.node id).entity)
    (kind : (after.node id).kind = (before.node id).kind) : after.rank id = before.rank id := by
  rw [rank, rank, entity, kind]

/-- An order of siblings is kept where they go on standing for the same. -/
theorem pairwise_rankedBefore_congr {before after : BindingTree hierarchy} {ids : List NodeId}
    (ranks : ∀ id ∈ ids, after.rank id = before.rank id)
    (ordered : ids.Pairwise before.RankedBefore) : ids.Pairwise after.RankedBefore := by
  apply ordered.imp_of_mem
  intro first second firstMember secondMember early
  rw [RankedBefore, ranks first firstMember, ranks second secondMember]
  exact early

/-- No node has been taken away or exchanged, has fallen back or has lost a child. -/
structure Advances (before after : BindingTree hierarchy) : Prop where
  size : before.size ≤ after.size
  entity : ∀ id < before.size, (after.node id).entity = (before.node id).entity
  kind : ∀ id < before.size, (after.node id).kind = (before.node id).kind
  parent : ∀ id < before.size, (after.node id).parent = (before.node id).parent
  stage : ∀ id < before.size,
    (before.node id).stage.progress ≤ (after.node id).stage.progress
  children : ∀ parent, ∀ child ∈ before.children parent, child ∈ after.children parent

namespace Advances

variable {before middle after : BindingTree hierarchy}

theorem refl (tree : BindingTree hierarchy) : Advances tree tree :=
  ⟨Nat.le_refl _, fun _ _ => rfl, fun _ _ => rfl, fun _ _ => rfl, fun _ _ => Nat.le_refl _,
    fun _ _ member => member⟩

theorem trans (first : Advances before middle) (second : Advances middle after) :
    Advances before after where
  size := Nat.le_trans first.size second.size
  entity := fun id small =>
    (second.entity id (Nat.lt_of_lt_of_le small first.size)).trans (first.entity id small)
  kind := fun id small =>
    (second.kind id (Nat.lt_of_lt_of_le small first.size)).trans (first.kind id small)
  parent := fun id small =>
    (second.parent id (Nat.lt_of_lt_of_le small first.size)).trans (first.parent id small)
  stage := fun id small =>
    Nat.le_trans (first.stage id small) (second.stage id (Nat.lt_of_lt_of_le small first.size))
  children := fun parent child member =>
    second.children parent child (first.children parent child member)

/-- What stands below a node goes on standing there. -/
theorem encloses (advances : Advances before after) {above below : NodeId}
    (encloses : before.Encloses above below) : after.Encloses above below :=
  Relation.ReflTransGen.mono (fun parent child member => advances.children parent child member)
    _ _ encloses

end Advances

/-! ## Building -/

theorem one_le_progress {stage : NodeStage} (begun : stage ≠ .created) : 1 ≤ stage.progress := by
  cases stage with
  | created => exact absurd rfl begun
  | built | sorted | processed => decide

section Build

variable {before after : BindingTree hierarchy} {id : NodeId} {made : List NodeId}

/-- After a build, a node is the one that was built, an old one, or a new one. -/
theorem Grown.cases (grown : Grown before after id made) (other : NodeId) :
    other = id ∨
      (other < before.size ∧ other ≠ id ∧ after.node other = before.node other) ∨
      before.size ≤ other := by
  by_cases self : other = id
  · exact Or.inl self
  · rcases Nat.lt_or_ge other before.size with old | new
    · exact Or.inr (Or.inl ⟨old, self, grown.kept other old self⟩)
    · exact Or.inr (Or.inr new)

/-- What was a child stays one. -/
theorem Grown.keeps_children (grown : Grown before after id made) (parent child : NodeId)
    (member : child ∈ before.children parent) : child ∈ after.children parent := by
  rcases grown.cases parent with rfl | ⟨-, -, same⟩ | new
  · rw [grown.children]
    exact List.mem_append_left _ member
  · rw [BindingTree.children, same]
    exact member
  · exact absurd (lt_size_of_mem_children member) (Nat.not_lt_of_le new)

/-- A node is as it was before the build, or has not got any further than being built. -/
theorem Grown.kept_or_early (grown : Grown before after id made)
    (early : (after.node id).stage.progress ≤ 1) (other : NodeId) :
    (other < before.size ∧ other ≠ id ∧ after.node other = before.node other) ∨
      (after.node other).stage.progress ≤ 1 := by
  rcases grown.cases other with rfl | kept | new
  · exact Or.inr early
  · exact Or.inl kept
  · right
    by_cases small : other < after.size
    · rcases (grown.settled other small new).placed with ⟨stage, -⟩ | ⟨stage, -⟩ <;>
        rw [stage] <;> decide
    · rw [node_of_size_le (Nat.le_of_not_lt small)]
      exact Nat.zero_le 1

/-- A node that is past being built is one that the build has not touched. -/
theorem Grown.kept_of_late (grown : Grown before after id made)
    (early : (after.node id).stage.progress ≤ 1) {other : NodeId}
    (late : (after.node other).stage = .sorted ∨ (after.node other).stage = .processed) :
    other < before.size ∧ other ≠ id ∧ after.node other = before.node other := by
  rcases grown.kept_or_early early other with kept | notYet
  · exact kept
  · rcases late with stage | stage <;> rw [stage] at notYet <;> exact absurd notYet (by decide)

namespace Orderly

/-- An old child is not the node that grows, since that one waits to be built. -/
theorem child_kept (orderly : before.Orderly) (created : (before.node id).stage = .created)
    (grown : Grown before after id made) {parent child : NodeId}
    (member : child ∈ before.children parent) :
    child < before.size ∧ after.node child = before.node child := by
  have small := (orderly.coherent.childLink parent child member).1
  have different : child ≠ id := by
    rintro rfl
    exact orderly.begun parent child member created
  exact ⟨small, grown.kept child small different⟩

/-- No child is left that waits to be built. -/
theorem grown_begun (orderly : before.Orderly) (created : (before.node id).stage = .created)
    (grown : Grown before after id made) {parent child : NodeId}
    (member : child ∈ after.children parent) : (after.node child).stage ≠ .created := by
  rcases grown.cases parent with rfl | ⟨-, -, same⟩ | new
  · rw [grown.children] at member
    rcases List.mem_append.mp member with old | fresh
    · rw [(orderly.child_kept created grown old).2]
      exact orderly.begun parent child old
    · rw [grown.built child fresh]
      exact nofun
  · rw [children, same] at member
    rw [(orderly.child_kept created grown member).2]
    exact orderly.begun parent child member
  · rw [(grown.settled parent (lt_size_of_mem_children member) new).built child member]
    exact nofun

theorem grown_advanced (orderly : before.Orderly) (created : (before.node id).stage = .created)
    (grown : Grown before after id made) (early : (after.node id).stage.progress ≤ 1)
    {parent child : NodeId} (member : child ∈ after.children parent) :
    (after.node parent).stage.progress ≤ (after.node child).stage.progress := by
  rcases grown.kept_or_early early parent with ⟨-, -, same⟩ | notYet
  · rw [children, same] at member
    rw [same, (orderly.child_kept created grown member).2]
    exact orderly.advanced parent child member
  · exact Nat.le_trans notYet (one_le_progress (orderly.grown_begun created grown member))

/-- New children come after the old ones, and were made after them. -/
theorem grown_ascend (orderly : before.Orderly) (created : (before.node id).stage = .created)
    (grown : Grown before after id made) (other : NodeId)
    (stage : (after.node other).stage = .created ∨ (after.node other).stage = .built) :
    (after.children other).Pairwise (· < ·) := by
  rcases grown.cases other with rfl | ⟨-, -, same⟩ | new
  · rw [grown.children, List.pairwise_append]
    refine ⟨orderly.ascend other (Or.inl created), grown.ascend, ?_⟩
    intro old oldMember fresh freshMember
    exact Nat.lt_of_lt_of_le (orderly.child_kept created grown oldMember).1
      (grown.fresh fresh freshMember)
  · rw [same] at stage
    rw [children, same]
    exact orderly.ascend other stage
  · by_cases small : other < after.size
    · exact (grown.settled other small new).ascend
    · rw [children_of_size_le (Nat.le_of_not_lt small)]
      exact .nil

/-- A tree stays in order while a node grows that waits to be built. The node is built in the end
only if everything inside its entity can be wrapped. -/
theorem grown (orderly : before.Orderly) (existing : id < before.size)
    (created : (before.node id).stage = .created) (grown : Grown before after id made)
    (outcome : (after.node id).stage = .created ∨ (after.node id).stage = .built ∧
      hierarchy.firstUnsupported? (before.node id).kind (before.node id).entity = none) :
    after.Orderly := by
  have early : (after.node id).stage.progress ≤ 1 := by
    rcases outcome with stage | ⟨stage, -⟩ <;> rw [stage] <;> decide
  refine
    { coherent := grown.coherent
      rootEntity := (grown.entity_eq orderly.coherent.hasRoot).trans orderly.rootEntity
      rootKind := (grown.kind_eq orderly.coherent.hasRoot).trans orderly.rootKind
      begun := fun parent child member => orderly.grown_begun created grown member
      advanced := fun parent child member => orderly.grown_advanced created grown early member
      ascend := orderly.grown_ascend created grown
      ranked := ?_
      spent := ?_
      placed := ?_
      supported := ?_
      unfinished := ?_ }
  · intro other late
    obtain ⟨-, -, same⟩ := grown.kept_of_late early late
    rw [same] at late
    rw [children, same]
    apply pairwise_rankedBefore_congr _ (orderly.ranked other late)
    intro child member
    have kept := (orderly.child_kept created grown member).2
    exact rank_congr (by rw [kept]) (by rw [kept])
  · intro other notRoot processed
    obtain ⟨-, -, same⟩ := grown.kept_of_late early (Or.inr processed)
    rw [same] at processed ⊢
    exact orderly.spent other notRoot processed
  · intro other small notRoot begun
    rcases grown.cases other with rfl | ⟨old, -, same⟩ | new
    · rcases outcome with now | ⟨-, supported⟩
      · exact absurd now begun
      · exact absurd supported (orderly.unfinished other existing notRoot created)
    · rw [same] at begun
      obtain ⟨parent, member⟩ := orderly.placed other old notRoot begun
      exact ⟨parent, grown.keeps_children parent other member⟩
    · rcases (grown.settled other small new).placed with ⟨-, -, member⟩ | ⟨now, -⟩
      · exact member
      · exact absurd now begun
  · intro other small begun
    rcases grown.cases other with rfl | ⟨old, -, same⟩ | new
    · rcases outcome with now | ⟨-, supported⟩
      · exact absurd now begun
      · rw [grown.kind, grown.entity]
        exact supported
    · rw [same] at begun ⊢
      exact orderly.supported other old begun
    · rcases (grown.settled other small new).placed with ⟨-, supported, -⟩ | ⟨now, -⟩
      · exact supported
      · exact absurd now begun
  · intro other small notRoot now
    rcases grown.cases other with rfl | ⟨old, -, same⟩ | new
    · rw [grown.kind, grown.entity]
      exact orderly.unfinished other existing notRoot created
    · rw [same] at now ⊢
      exact orderly.unfinished other old notRoot now
    · rcases (grown.settled other small new).placed with ⟨stage, -⟩ | ⟨-, unsupported⟩
      · rw [stage] at now
        cases now
      · exact unsupported

end Orderly

/-- A node that waits to be built has nothing to lose. -/
theorem Grown.advances (created : (before.node id).stage = .created)
    (grown : Grown before after id made) : Advances before after where
  size := grown.grows
  entity := fun _ small => grown.entity_eq small
  kind := fun _ small => grown.kind_eq small
  parent := by
    intro other small
    rcases grown.cases other with rfl | ⟨-, -, same⟩ | new
    · exact grown.parent
    · rw [same]
    · exact absurd small (Nat.not_lt_of_le new)
  stage := by
    intro other small
    rcases grown.cases other with rfl | ⟨-, -, same⟩ | new
    · rw [created]
      exact Nat.zero_le _
    · exact Nat.le_of_eq (by rw [same])
    · exact absurd small (Nat.not_lt_of_le new)
  children := grown.keeps_children

/-- A build keeps a tree in order, wherever it stops. -/
theorem Orderly.build (descends : hierarchy.Descends) (workspace : Workspace hierarchy)
    (orderly : workspace.tree.Orderly) (existing : id < workspace.tree.size) :
    ((BindingTree.build id).perform workspace).2.tree.Orderly ∧
      Advances workspace.tree ((BindingTree.build id).perform workspace).2.tree := by
  by_cases created : (workspace.tree.node id).stage = .created
  · obtain ⟨⟨made, grown⟩, success, failure⟩ := ended_build descends orderly.coherent existing
    refine ⟨orderly.grown existing created grown ?_, grown.advances created⟩
    have result := result_build workspace created
    cases found : hierarchy.firstUnsupported? (workspace.tree.node id).kind
        (workspace.tree.node id).entity with
    | none =>
        rw [found] at result
        exact Or.inr ⟨success result, rfl⟩
    | some error =>
        rw [found] at result
        refine Or.inl ((failure ?_).trans created)
        rw [result]
        exact nofun
  · rw [perform_build_of_ne_created workspace created]
    exact ⟨orderly, .refl _⟩

end Build

/-! ## Sorting -/

/-- What each sort of a child keeps is kept when the children are sorted from left to right. -/
theorem sortChildren_induction {motive : BindingTree hierarchy → Prop}
    (coherent : ∀ tree, motive tree → tree.Coherent) {depth size : Nat}
    (each : ∀ {tree : BindingTree hierarchy}, motive tree → ∀ id < tree.size,
      tree.size ≤ id + depth → motive ((sortWithin depth id).perform tree).2)
    {ids : List NodeId} (inside : ∀ child ∈ ids, child < size ∧ size ≤ child + depth)
    {tree : BindingTree hierarchy} (holds : motive tree) (sizes : tree.size = size) :
    motive ((ids.forM (sortWithin depth)).perform tree).2 := by
  induction ids generalizing tree with
  | nil => exact holds
  | cons child ids rest =>
      obtain ⟨⟨small, near⟩, later⟩ := List.forall_mem_cons.mp inside
      rw [← sizes] at small near
      have first := each holds child small near
      have effect := sortEffect_sortWithin depth (coherent tree holds) child small near
      rw [Attempt.perform_forM_cons]
      rcases made : (sortWithin depth child).perform tree with ⟨error | done, middle⟩
      · rw [made] at first
        exact first
      · rw [made] at first effect
        exact rest later first (effect.partly.size.trans sizes)

/-- Whatever holds of a tree and is kept when a node gets its children in order, once each of them is
sorted, holds after every sort, wherever that stops. -/
theorem sortWithin_induction {motive : BindingTree hierarchy → Prop}
    (coherent : ∀ tree, motive tree → tree.Coherent)
    (step : ∀ tree id children, motive tree → id < tree.size →
      (tree.node id).stage ∈ [NodeStage.built, .sorted] →
      (∀ child ∈ tree.children id, (tree.node child).stage = .sorted) →
      tree.orderedByRank (tree.children id) = .ok children →
      motive (tree.update id fun node => { node with children, stage := .sorted }))
    (depth : Nat) :
    ∀ {tree : BindingTree hierarchy}, motive tree → ∀ id < tree.size, tree.size ≤ id + depth →
      motive ((sortWithin depth id).perform tree).2 := by
  induction depth with
  | zero =>
      intro tree holds id existing deep
      omega
  | succ depth ih =>
      intro tree holds id existing deep
      have shape := coherent tree holds
      have inside : ∀ child ∈ tree.children id, id < child ∧ child < tree.size :=
        fun child member => ⟨shape.lt_of_mem_children member, (shape.childLink id child member).1⟩
      have children : motive (((tree.children id).forM (sortWithin depth)).perform tree).2 :=
        sortChildren_induction coherent ih
          (fun child member => ⟨(inside child member).2, by have := inside child member; omega⟩)
          holds rfl
      have effect := sortEffect_forM (fun child member before beforeCoherent sizes =>
        sortEffect_sortWithin depth beforeCoherent child (sizes ▸ (inside child member).2)
          (by have := inside child member; omega)) shape rfl
      rw [perform_sortWithin_succ]
      cases allowed : tree.requireStage .sort [.built, .sorted] .built id with
      | error error => exact holds
      | ok passed =>
          dsimp only
          rcases made : ((tree.children id).forM (sortWithin depth)).perform tree with
            ⟨error | done, after⟩
          · rw [made] at children
            exact children
          · rw [made] at children effect
            have full := effect.fully rfl
            have untouched : after.node id = tree.node id := by
              apply full.node_outside
              intro child member encloses
              exact Nat.not_le_of_lt (inside child member).1 (shape.encloses_le encloses)
            have lists : after.children id = tree.children id := by
              rw [BindingTree.children, untouched]
              rfl
            dsimp only
            cases ordered : after.orderedByRank (tree.children id) with
            | error error => exact children
            | ok ids =>
                apply step after id ids children (full.size ▸ existing)
                · rw [untouched]
                  exact requireStage_eq_ok.mp allowed
                · intro child member
                  rw [lists] at member
                  rw [full.inside child member child (.refl tree child)]
                  rfl
                · rw [lists]
                  exact ordered

section Regrade

variable {before after : BindingTree hierarchy} {id : NodeId}

/-- Nodes are where they were, for the entities they were made for; only their stages, their
fragments and the order of their children have changed, and none has begun its life. -/
structure Regraded (before after : BindingTree hierarchy) : Prop extends SameForest before after where
  entity : ∀ id, (after.node id).entity = (before.node id).entity
  kind : ∀ id, (after.node id).kind = (before.node id).kind
  created : ∀ id, (after.node id).stage = .created ↔ (before.node id).stage = .created

/-- A tree whose nodes stay where they are is in order as soon as stages, children and fragments
agree with each other. -/
theorem Orderly.regraded (orderly : before.Orderly) (same : Regraded before after)
    (advanced : ∀ parent, ∀ child ∈ after.children parent,
      (after.node parent).stage.progress ≤ (after.node child).stage.progress)
    (ascend : ∀ id, (after.node id).stage = .created ∨ (after.node id).stage = .built →
      (after.children id).Pairwise (· < ·))
    (ranked : ∀ id, (after.node id).stage = .sorted ∨ (after.node id).stage = .processed →
      (after.children id).Pairwise before.RankedBefore)
    (spent : ∀ id, id ≠ root → (after.node id).stage = .processed →
      (after.node id).fragments = .empty) : after.Orderly where
  coherent := same.toSameForest.coherent orderly.coherent
  rootEntity := (same.entity root).trans orderly.rootEntity
  rootKind := (same.kind root).trans orderly.rootKind
  begun := fun parent child member => (same.created child).not.mpr
    (orderly.begun parent child ((same.children parent).mem_iff.mp member))
  advanced := advanced
  ascend := ascend
  ranked := fun id stage => pairwise_rankedBefore_congr
    (fun child _ => rank_congr (same.entity child) (same.kind child)) (ranked id stage)
  spent := spent
  placed := by
    intro id small notRoot begun
    obtain ⟨parent, member⟩ :=
      orderly.placed id (same.size ▸ small) notRoot ((same.created id).not.mp begun)
    exact ⟨parent, (same.children parent).mem_iff.mpr member⟩
  supported := by
    intro id small begun
    rw [same.entity, same.kind]
    exact orderly.supported id (same.size ▸ small) ((same.created id).not.mp begun)
  unfinished := by
    intro id small notRoot created
    rw [same.entity, same.kind]
    exact orderly.unfinished id (same.size ▸ small) notRoot ((same.created id).mp created)

theorem Regraded.advances (same : Regraded before after)
    (stage : ∀ id, (before.node id).stage.progress ≤ (after.node id).stage.progress) :
    Advances before after where
  size := Nat.le_of_eq same.size.symm
  entity := fun id _ => same.entity id
  kind := fun id _ => same.kind id
  parent := fun id _ => same.parent id
  stage := fun id _ => stage id
  children := fun parent _ member => (same.children parent).mem_iff.mpr member

/-- Placing siblings by rank puts them in order, whether they stood in the order of their making or
in order already. -/
theorem Orderly.pairwise_stablyOrdered (orderly : tree.Orderly)
    (stage : (tree.node id).stage ∈ [NodeStage.built, .sorted])
    (ranks : ∀ child ∈ tree.children id, tree.rank child = .ok (tree.rankOf child)) :
    (stablyOrdered tree.rankOf (tree.children id)).Pairwise tree.RankedBefore := by
  have early : ∀ {first second}, first ∈ stablyOrdered tree.rankOf (tree.children id) →
      second ∈ stablyOrdered tree.rankOf (tree.children id) →
      (tree.rankOf first < tree.rankOf second ∨
        tree.rankOf first = tree.rankOf second ∧ first < second) →
      tree.RankedBefore first second :=
    fun firstMember secondMember places => ⟨_, _, ranks _ (mem_stablyOrdered.mp firstMember),
      ranks _ (mem_stablyOrdered.mp secondMember), places⟩
  rcases List.mem_cons.mp stage with built | sorted
  · exact (pairwise_stablyOrdered_of_pairwise (orderly.ascend id (Or.inr built))).imp_of_mem early
  · have already := orderly.ranked id (Or.inl (List.mem_singleton.mp sorted))
    apply (pairwise_stablyOrdered_of_pairwise already).imp_of_mem
    intro first second firstMember secondMember places
    rcases places with smaller | ⟨-, before⟩
    · exact early firstMember secondMember (Or.inl smaller)
    · exact before

/-- Sorting one node moves it forwards, and leaves all others what they are. -/
theorem regraded_of_sortedNode (partly : PartlySorted before after [id])
    (self : after.node id = before.sortedNode id)
    (others : ∀ other, other ≠ id → after.node other = before.node other)
    (stage : (before.node id).stage ∈ [NodeStage.built, .sorted]) :
    Regraded before after ∧
      ∀ other, (before.node other).stage.progress ≤ (after.node other).stage.progress := by
  have begun : (before.node id).stage ≠ .created ∧ (before.node id).stage.progress ≤ 2 := by
    rcases List.mem_cons.mp stage with built | sorted
    · simp [built, NodeStage.progress]
    · simp [List.mem_singleton.mp sorted, NodeStage.progress]
  have keeps : ∀ other, (after.node other).entity = (before.node other).entity ∧
      (after.node other).kind = (before.node other).kind ∧
      ((after.node other).stage = .created ↔ (before.node other).stage = .created) ∧
      (before.node other).stage.progress ≤ (after.node other).stage.progress := by
    intro other
    by_cases here : other = id
    · rw [here, self, sortedNode]
      exact ⟨rfl, rfl, iff_of_false (by simp) begun.1, begun.2⟩
    · rw [others other here]
      exact ⟨rfl, rfl, Iff.rfl, Nat.le_refl _⟩
  exact ⟨⟨partly.forest, fun other => (keeps other).1, fun other => (keeps other).2.1,
    fun other => (keeps other).2.2.1⟩, fun other => (keeps other).2.2.2⟩

/-- Sorting one node, below which all is sorted, keeps a tree in order. -/
theorem Orderly.sortNode (orderly : before.Orderly) (existing : id < before.size)
    (stage : (before.node id).stage ∈ [NodeStage.built, .sorted])
    (below : ∀ child ∈ before.children id, (before.node child).stage = .sorted)
    {children : List NodeId} (ordered : before.orderedByRank (before.children id) = .ok children) :
    let after := before.update id fun node => { node with children, stage := .sorted }
    after.Orderly ∧ Advances before after := by
  obtain ⟨rfl, ranks⟩ := orderedByRank_eq ordered
  intro after
  have self : after.node id = before.sortedNode id := node_update_self existing _
  have others : ∀ other, other ≠ id → after.node other = before.node other :=
    fun other different => node_update_of_ne different _
  have partly : PartlySorted before after [id] := by
    refine ⟨size_update .., fun other => ?_⟩
    by_cases here : other = id
    · subst here
      exact Or.inr ⟨⟨other, List.mem_singleton.mpr rfl, .refl before other⟩, self⟩
    · exact Or.inl (others other here)
  obtain ⟨regraded, climbs⟩ := regraded_of_sortedNode partly self others stage
  refine ⟨orderly.regraded regraded ?_ ?_ ?_ ?_, regraded.advances climbs⟩
  · intro parent child member
    have listed := (regraded.children parent).mem_iff.mp member
    refine Nat.le_trans ?_ (climbs child)
    by_cases here : parent = id
    · rw [here, self, below child (here ▸ listed)]
      exact Nat.le_refl _
    · rw [others parent here]
      exact orderly.advanced parent child listed
  · intro other early
    by_cases here : other = id
    · rw [here, self] at early
      rcases early with created | built
      · cases created
      · cases built
    · rw [others other here] at early
      rw [BindingTree.children, others other here]
      exact orderly.ascend other early
  · intro other late
    by_cases here : other = id
    · rw [here, BindingTree.children, self]
      exact orderly.pairwise_stablyOrdered stage ranks
    · rw [others other here] at late
      rw [BindingTree.children, others other here]
      exact orderly.ranked other late
  · intro other notRoot processed
    by_cases here : other = id
    · rw [here, self] at processed
      cases processed
    · rw [others other here] at processed ⊢
      exact orderly.spent other notRoot processed

/-- A sort keeps a tree in order, wherever it stops. -/
theorem Orderly.sort (orderly : tree.Orderly) (existing : id < tree.size) :
    ((BindingTree.sort id).perform tree).2.Orderly ∧
      Advances tree ((BindingTree.sort id).perform tree).2 := by
  apply sortWithin_induction (motive := fun after => after.Orderly ∧ Advances tree after)
    (fun _ holds => holds.1.coherent) _ tree.size ⟨orderly, .refl tree⟩ id existing
    (Nat.le_add_left _ _)
  intro middle other children ⟨middleOrderly, advances⟩ small stage below ordered
  obtain ⟨afterOrderly, further⟩ := middleOrderly.sortNode small stage below ordered
  exact ⟨afterOrderly, advances.trans further⟩

/-! ## Processing -/

/-- The node above a sorted subtree has not been processed, unless it is the root. What a processed
node has handed on thus never comes back to it. -/
theorem Orderly.parent_not_processed (orderly : tree.Orderly) (existing : id < tree.size)
    (sorted : (tree.node id).stage = .sorted) {parent : NodeId}
    (link : (tree.node id).parent = some parent) : (tree.node parent).stage ≠ .processed := by
  intro processed
  have notRoot : id ≠ root := by
    rintro rfl
    rw [orderly.coherent.rootParent] at link
    cases link
  obtain ⟨above, member⟩ := orderly.placed id existing notRoot (by rw [sorted]; exact nofun)
  have same := (orderly.coherent.childLink above id member).2
  rw [link] at same
  cases same
  have behind := orderly.advanced parent id member
  rw [processed, sorted] at behind
  exact absurd behind (by decide)

/-- What is handed up was sorted before, and has been processed after. -/
theorem HandedUp.stage_inside (handed : HandedUp before after id) (coherent : before.Coherent)
    (existing : id < before.size)
    (sorted : ∀ below, before.Encloses id below → (before.node below).stage = .sorted)
    {other : NodeId} (listed : other ∈ before.preorder id) :
    (after.node other).stage = .processed ∧ (before.node other).stage = .sorted := by
  rw [handed.node, aggregatedNode, if_pos listed]
  exact ⟨rfl, sorted other ((coherent.mem_preorder existing).mp listed)⟩

theorem HandedUp.stage_outside (handed : HandedUp before after id) {other : NodeId}
    (elsewhere : other ∉ before.preorder id) :
    (after.node other).stage = (before.node other).stage := by
  rw [handed.node, aggregatedNode, if_neg elsewhere]
  split <;> rfl

/-- Handing up takes each node for what it was. -/
theorem HandedUp.keeps (handed : HandedUp before after id) (other : NodeId) :
    (after.node other).entity = (before.node other).entity ∧
      (after.node other).kind = (before.node other).kind := by
  rw [handed.node, aggregatedNode]
  split
  · exact ⟨rfl, rfl⟩
  · split <;> exact ⟨rfl, rfl⟩

/-- Handing a sorted subtree up keeps a tree in order. -/
theorem Orderly.handedUp (orderly : before.Orderly) (existing : id < before.size)
    (sorted : ∀ below, before.Encloses id below → (before.node below).stage = .sorted)
    (handed : HandedUp before after id) : after.Orderly ∧ Advances before after := by
  have coherent := orderly.coherent
  have inside : ∀ {other}, other ∈ before.preorder id → (after.node other).stage = .processed ∧
      (before.node other).stage = .sorted := handed.stage_inside coherent existing sorted
  have regraded : Regraded before after := by
    refine ⟨handed.forest, fun other => (handed.keeps other).1,
      fun other => (handed.keeps other).2, fun other => ?_⟩
    by_cases listed : other ∈ before.preorder id
    · rw [(inside listed).1, (inside listed).2]
      exact iff_of_false nofun nofun
    · rw [handed.stage_outside listed]
  have climbs : ∀ other, (before.node other).stage.progress ≤ (after.node other).stage.progress := by
    intro other
    by_cases listed : other ∈ before.preorder id
    · rw [(inside listed).1, (inside listed).2]
      decide
    · exact Nat.le_of_eq (by rw [handed.stage_outside listed])
  refine ⟨orderly.regraded regraded ?_ ?_ ?_ ?_, regraded.advances climbs⟩
  · intro parent child member
    rw [handed.children] at member
    by_cases listed : child ∈ before.preorder id
    · rw [(inside listed).1]
      cases (after.node parent).stage <;> decide
    · have above : parent ∉ before.preorder id := fun parentListed => listed
        ((coherent.mem_preorder existing).mpr
          (((coherent.mem_preorder existing).mp parentListed).trans (.child member)))
      rw [handed.stage_outside listed, handed.stage_outside above]
      exact orderly.advanced parent child member
  · intro other early
    by_cases listed : other ∈ before.preorder id
    · rw [(inside listed).1] at early
      rcases early with created | built
      · cases created
      · cases built
    · rw [handed.stage_outside listed] at early
      rw [handed.children]
      exact orderly.ascend other early
  · intro other late
    rw [handed.children]
    by_cases listed : other ∈ before.preorder id
    · exact orderly.ranked other (Or.inl (inside listed).2)
    · rw [handed.stage_outside listed] at late
      exact orderly.ranked other late
  · intro other notRoot processed
    by_cases listed : other ∈ before.preorder id
    · have small := coherent.mem_preorder_lt_size existing listed
      rw [handed.node, aggregatedNode, if_pos listed]
      exact if_neg (coherent.parent_ne_none small notRoot)
    · rw [handed.stage_outside listed] at processed
      have notAbove : (before.node id).parent ≠ some other := fun link =>
        orderly.parent_not_processed existing (sorted id (.refl before id)) link processed
      rw [handed.node, aggregatedNode, if_neg listed, if_neg notAbove]
      exact orderly.spent other notRoot processed

end Regrade

theorem Orderly.process (orderly : tree.Orderly) {id : NodeId} (existing : id < tree.size) :
    ((BindingTree.process id).perform tree).2.Orderly ∧
      Advances tree ((BindingTree.process id).perform tree).2 := by
  rw [perform_process]
  cases allowed : tree.requireSorted id with
  | error error => exact ⟨orderly, .refl tree⟩
  | ok passed =>
      exact orderly.handedUp existing
        ((orderly.coherent.requireSorted_eq_ok existing).mp allowed)
        (handedUp_aggregate orderly.coherent existing)

theorem Orderly.render (orderly : tree.Orderly) (layout : UnitLayout) :
    ((BindingTree.render layout).perform tree).2.Orderly ∧
      Advances tree ((BindingTree.render layout).perform tree).2 := by
  rcases tree_render layout tree with same | processed
  · rw [same]
    exact ⟨orderly, .refl tree⟩
  · rw [processed]
    exact orderly.process orderly.coherent.hasRoot

/-! ## Runs of calls -/

/-- One call keeps a tree in order, and only moves it forwards. -/
theorem Orderly.call (descends : hierarchy.Descends) (orderly : tree.Orderly) (call : TreeCall)
    (named : call.NamesNodeOf tree) : (call.after tree).Orderly ∧ Advances tree (call.after tree) := by
  cases call with
  | build id session => exact Orderly.build descends { tree, session } orderly named
  | sort id => exact orderly.sort named
  | emit id => exact ⟨orderly, .refl tree⟩
  | process id => exact orderly.process named
  | render layout => exact orderly.render layout
  | write σ layout sink world =>
      rw [TreeCall.after, tree_write]
      exact orderly.render layout

/-- Every tree that calls lead to is in order. -/
theorem Reachable.orderly (descends : hierarchy.Descends) (reachable : tree.Reachable) :
    tree.Orderly := by
  induction reachable with
  | start => exact orderly_start hierarchy
  | call _ call named ih => exact (ih.call descends call named).1

/-- What holds of every tree that calls on existing nodes lead to, wherever they stop. -/
structure Lifecycle (tree : BindingTree hierarchy) : Prop where
  /-- No node is counted twice in all the lists of children together. -/
  nodupChildren : ((List.range tree.size).flatMap tree.children).Nodup
  /-- A child names its parent, and was made after it. -/
  childLink : ∀ parent, ∀ child ∈ tree.children parent,
    (tree.node child).parent = some parent ∧ parent < child
  /-- A child is at least as far as its parent. -/
  advanced : ∀ parent, ∀ child ∈ tree.children parent,
    (tree.node parent).stage.progress ≤ (tree.node child).stage.progress
  /-- The children of a sorted node are in order, and stay so. -/
  ranked : ∀ id, (tree.node id).stage = .sorted ∨ (tree.node id).stage = .processed →
    (tree.children id).Pairwise tree.RankedBefore
  /-- A processed node holds nothing, unless it is the root. -/
  spent : ∀ id, id ≠ root → (tree.node id).stage = .processed →
    (tree.node id).fragments = .empty

/-- The lists of children have no node in common, since a child names its only parent. -/
theorem Coherent.nodup_flatMap_children (coherent : tree.Coherent) :
    ((List.range tree.size).flatMap tree.children).Nodup := by
  rw [List.nodup_flatMap]
  refine ⟨fun parent _ => coherent.childrenNodup parent, ?_⟩
  apply List.nodup_range.imp
  intro first second different
  apply List.disjoint_left.mpr
  intro child one two
  exact different (coherent.forest.unique first second child one two)

theorem Orderly.lifecycle (orderly : tree.Orderly) : tree.Lifecycle where
  nodupChildren := orderly.coherent.nodup_flatMap_children
  childLink := fun parent child member =>
    ⟨(orderly.coherent.childLink parent child member).2, orderly.coherent.lt_of_mem_children member⟩
  advanced := orderly.advanced
  ranked := orderly.ranked
  spent := orderly.spent

/-- Whatever calls on existing nodes have been made, and wherever they stopped, the tree is in
order, and the next call neither takes a node away nor sets one back. -/
theorem lifecycle_of_reachable (descends : hierarchy.Descends) (reachable : tree.Reachable) :
    tree.Lifecycle ∧
      ∀ call : TreeCall, call.NamesNodeOf tree → Advances tree (call.after tree) := by
  have orderly := reachable.orderly descends
  exact ⟨orderly.lifecycle, fun call named => (orderly.call descends call named).2⟩

/-- A library with a method outside of any class. The class before it can be wrapped, the namespace
around both cannot. -/
def misplacedMethod : Hierarchy where
  entities :=
    [{ declaration := { kind := .namespaceScope, name := "shapes" }
       parent := none
       children := [1]
       qualifiedName := "" },
      { declaration := { kind := .namespaceScope, name := "geo" }
        parent := some Hierarchy.root
        children := [2, 3]
        qualifiedName := "geo" },
      { declaration := { kind := .classType, name := "Circle" }
        parent := some 1
        children := []
        qualifiedName := "geo::Circle" },
      { declaration := { kind := .method, name := "area" }
        parent := some 1
        children := []
        qualifiedName := "geo::area" }]
  headers := []

/-- The tree after a build that stopped at the method, and after the class has been processed. -/
def stoppedAtMethod : BindingTree misplacedMethod :=
  (TreeCall.process 2).after
    ((TreeCall.sort 2).after ((TreeCall.build root .fresh).after (start misplacedMethod)))

theorem reachable_stoppedAtMethod : stoppedAtMethod.Reachable :=
  .call (.call (.call .start (.build root .fresh) (by decide)) (.sort 2) (by decide)) (.process 2)
    (by decide)

example : stoppedAtMethod.nodes.map BindingNode.stage = [.created, .created, .processed] := by decide

theorem lifecycle_of_stoppedAtMethod :
    misplacedMethod.Descends ∧ stoppedAtMethod.Reachable ∧ stoppedAtMethod.Lifecycle ∧
      Advances stoppedAtMethod ((TreeCall.build 1 .fresh).after stoppedAtMethod) := by
  have descends : misplacedMethod.Descends := by decide
  obtain ⟨lifecycle, advances⟩ := lifecycle_of_reachable descends reachable_stoppedAtMethod
  exact ⟨descends, reachable_stoppedAtMethod, lifecycle, advances (.build 1 .fresh) (by decide)⟩

end BindingTree

end RubyBindings
