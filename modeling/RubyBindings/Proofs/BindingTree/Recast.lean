/-
Module: RubyBindings.Proofs.BindingTree.Recast
Purpose: The trees of two hierarchies that look alike. A tree of the narrow hierarchy may be read as
  one of the wide hierarchy, and building, sorting and rendering make no difference between the two.
Main exports: BindingTree.recast, BindingTree.Grounded, BindingTree.perform_buildWithin_eq_of_deep,
  BindingTree.mirrors_build, BindingTree.mirrors_sort, BindingTree.mirrors_render
-/
import RubyBindings.BindingTree.Order
import RubyBindings.Output.Emission
import RubyBindings.Proofs.BindingTree.Building
import RubyBindings.Proofs.Mirroring
import RubyBindings.Proofs.Registration.Likeness

namespace RubyBindings

/-- The same nodes, as a tree of another hierarchy. -/
def BindingTree.recast {narrow : Hierarchy} (wide : Hierarchy) (tree : BindingTree narrow) :
    BindingTree wide where
  nodes := tree.nodes

/-- The same nodes and findings, as a workspace of another hierarchy. -/
def Workspace.recast {narrow : Hierarchy} (wide : Hierarchy) (workspace : Workspace narrow) :
    Workspace wide where
  tree := workspace.tree.recast wide
  session := workspace.session

namespace BindingTree

/-! ## Nodes of entities -/

section Grounded

variable {hierarchy : Hierarchy} {tree : BindingTree hierarchy}

/-- Every node stands for an entity of the hierarchy. -/
def Grounded (tree : BindingTree hierarchy) : Prop :=
  ∀ id, (tree.node id).entity < hierarchy.size

theorem Grounded.start (hasRoot : Hierarchy.root < hierarchy.size) :
    (BindingTree.start hierarchy).Grounded := by
  intro id
  cases id <;> exact hasRoot

theorem Grounded.update (grounded : tree.Grounded) {id : NodeId}
    {change : BindingNode → BindingNode}
    (sameEntity : ∀ node, (change node).entity = node.entity) :
    (tree.update id change).Grounded := by
  intro other
  by_cases same : other = id
  · subst same
    by_cases existing : other < tree.size
    · rw [node_update_self existing, sameEntity]
      exact grounded other
    · have missing := Nat.le_of_not_lt existing
      rw [node_of_size_le (by rw [size_update]; exact missing), ← node_of_size_le missing]
      exact grounded other
  · rw [node_update_of_ne same]
    exact grounded other

/-- A change of one node matters only for what this node is. -/
theorem update_congr {id : NodeId} {change other : BindingNode → BindingNode}
    (same : change (tree.node id) = other (tree.node id)) :
    tree.update id change = tree.update id other := by
  have sameNodes : tree.nodes.modify id change = tree.nodes.modify id other := by
    apply List.ext_getElem?
    intro place
    rw [List.getElem?_modify, List.getElem?_modify]
    cases found : tree.nodes[place]? with
    | none => rfl
    | some node =>
        by_cases here : id = place
        · subst here
          rw [BindingTree.node, List.getD_eq_getElem?_getD, found, Option.getD_some] at same
          simp [same]
        · simp [here]
  rw [update, update, sameNodes]

theorem Grounded.append (grounded : tree.Grounded) {node : BindingNode}
    (existing : node.entity < hierarchy.size) : (tree.append node).Grounded := by
  intro id
  rcases Nat.lt_trichotomy id tree.size with old | rfl | missing
  · rw [node_append_of_lt old]
    exact grounded id
  · rw [node_append_size]
    exact existing
  · rw [node_of_size_le (by rw [size_append]; exact missing),
      ← node_of_size_le (Nat.le_of_lt missing)]
    exact grounded id

end Grounded

/-! ## Depths of a build -/

section Depth

variable {hierarchy : Hierarchy}

/-- Entities that are not eligible make no difference to a build. -/
theorem buildChildren_filter (build : NodeId → Attempt (Workspace hierarchy) GenerationError Unit)
    (parent : NodeId) (kind : NodeKind) (entities : List EntityId) :
    buildChildren build parent kind (entities.filter hierarchy.isEligible) =
      buildChildren build parent kind entities := by
  induction entities with
  | nil => rfl
  | cons entity entities ih =>
      cases eligible : hierarchy.isEligible entity with
      | false =>
          rw [List.filter_cons_of_neg (by simp [eligible]), ih, buildChildren]
          simp only [eligible, Bool.false_eq_true, if_false]
      | true => rw [List.filter_cons_of_pos eligible, buildChildren, buildChildren, ih]

/-- New nodes are built alike if all nodes of their entities are. -/
theorem perform_buildChildren_congr
    {build other : NodeId → Attempt (Workspace hierarchy) GenerationError Unit} (parent : NodeId)
    (kind : NodeKind) {entities : List EntityId}
    (same : ∀ entity ∈ entities, ∀ (child : NodeId) (workspace : Workspace hierarchy),
      (workspace.tree.node child).entity = entity →
        (build child).perform workspace = (other child).perform workspace)
    (workspace : Workspace hierarchy) :
    (buildChildren build parent kind entities).perform workspace =
      (buildChildren other parent kind entities).perform workspace := by
  induction entities generalizing workspace with
  | nil => rfl
  | cons entity entities ih =>
      obtain ⟨sameFirst, sameRest⟩ := List.forall_mem_cons.mp same
      cases eligible : hierarchy.isEligible entity with
      | false =>
          rw [perform_buildChildren_skip _ _ _ _ _ eligible,
            perform_buildChildren_skip _ _ _ _ _ eligible, ih sameRest]
      | true =>
          cases supported : kind.child? (hierarchy.kind entity) with
          | none =>
              rw [perform_buildChildren_refuse _ _ _ _ _ eligible supported,
                perform_buildChildren_refuse _ _ _ _ _ eligible supported]
          | some childKind =>
              have newEntity : ((workspace.addNode entity childKind parent).tree.node
                  workspace.tree.size).entity = entity := by
                rw [Workspace.addNode, node_append_size]
                rfl
              rw [perform_buildChildren_make _ _ _ _ _ eligible supported,
                perform_buildChildren_make _ _ _ _ _ eligible supported,
                sameFirst _ _ newEntity]
              rcases (other workspace.tree.size).perform
                (workspace.addNode entity childKind parent) with ⟨error | done, after⟩
              · rfl
              · exact ih sameRest _

/-- Children are declared after what they are nested in, so from some depth on a build looks at all
that is nested in an entity. -/
theorem perform_buildWithin_eq_of_deep (descends : hierarchy.Descends) (depth : Nat) :
    ∀ {other entity : Nat} {id : NodeId} {workspace : Workspace hierarchy},
      (workspace.tree.node id).entity = entity → entity < hierarchy.size →
      hierarchy.size ≤ depth + entity → hierarchy.size ≤ other + entity →
        (buildWithin depth id).perform workspace = (buildWithin other id).perform workspace := by
  -- What is nested in an entity has a larger id, so one level less is still deep enough for it.
  induction depth with
  | zero =>
      intro other entity id workspace _ existing deep _
      omega
  | succ depth ih =>
      intro other entity id workspace found existing deep otherDeep
      obtain ⟨other, rfl⟩ : ∃ rest, other = rest + 1 := ⟨other - 1, by omega⟩
      rw [perform_buildWithin_succ, perform_buildWithin_succ]
      cases workspace.tree.requireStage .build [.created] .created id with
      | error error => rfl
      | ok passed =>
          have inside : ∀ child ∈ hierarchy.children entity,
              ∀ (node : NodeId) (later : Workspace hierarchy),
                (later.tree.node node).entity = child →
                  (buildWithin depth node).perform later =
                    (buildWithin other node).perform later := by
            intro child member node later sameEntity
            obtain ⟨larger, small⟩ := descends.lt_of_mem_children member
            exact ih sameEntity small (by omega) (by omega)
          dsimp only
          rw [found, perform_buildChildren_congr id _ inside]

end Depth

/-! ## Building alike -/

section Alike

open Attempt (Mirrors)

variable {narrow wide : Hierarchy} (like : wide.LooksLike narrow)

include like

theorem name_recast {tree : BindingTree narrow} (grounded : tree.Grounded) (id : NodeId) :
    (tree.recast wide).name id = tree.name id := by
  have existing := grounded id
  have sameNode : (tree.recast wide).node id = tree.node id := rfl
  rw [name, name, sameNode, like.qualifiedName _ existing, like.name_eq existing]

theorem requireStage_recast {tree : BindingTree narrow} (grounded : tree.Grounded)
    (operation : TreeOperation) (allowed : List NodeStage) (expected : NodeStage) (id : NodeId) :
    (tree.recast wide).requireStage operation allowed expected id =
      tree.requireStage operation allowed expected id := by
  have sameNode : (tree.recast wide).node id = tree.node id := rfl
  rw [requireStage, requireStage, name_recast like grounded, sameNode]

/-- Nodes have the same ranks. -/
theorem rank_recast {tree : BindingTree narrow} (grounded : tree.Grounded) (id : NodeId) :
    (tree.recast wide).rank id = tree.rank id := by
  have existing := grounded id
  have sameNode : (tree.recast wide).node id = tree.node id := rfl
  rw [rank, rank, sameNode, like.inheritanceDepth?_eq existing, like.qualifiedName _ existing]

theorem emit_recast {tree : BindingTree narrow} (grounded : tree.Grounded) (id : NodeId) :
    (tree.recast wide).emit id = tree.emit id := by
  have sameNode : (tree.recast wide).node id = tree.node id := rfl
  rw [emit, emit, requireStage_recast like grounded, sameNode, like.text_eq (grounded id)]

/-! ## Building -/

theorem contribute_recast {workspace : Workspace narrow} (grounded : workspace.tree.Grounded)
    (id : NodeId) :
    (workspace.recast wide).contribute id = (workspace.contribute id).recast wide := by
  have existing := grounded id
  have sameNode : (workspace.recast wide).tree.node id = workspace.tree.node id := rfl
  have contributes : (workspace.tree.node id).kind.contribute wide (workspace.tree.node id).entity
      (workspace.recast wide).session = _ :=
    like.contribute_eq existing (workspace.tree.node id).kind workspace.session
  rw [Workspace.contribute, Workspace.contribute, sameNode, contributes]
  apply congrArg (Workspace.mk · _)
  apply update_congr
  rw [sameNode, like.nodeHandle?_eq existing]

/-- A new node gets the same children as long as each of them is built alike. -/
theorem mirrors_buildChildren {build : NodeId → Attempt (Workspace narrow) GenerationError Unit}
    {other : NodeId → Attempt (Workspace wide) GenerationError Unit}
    (each : ∀ child, Mirrors (Workspace.recast wide) (·.tree.Grounded) (build child) (other child))
    (parent : NodeId) (kind : NodeKind) {entities : List EntityId}
    (existing : ∀ entity ∈ entities, entity < narrow.size) :
    Mirrors (Workspace.recast wide) (·.tree.Grounded) (buildChildren build parent kind entities)
      (buildChildren other parent kind entities) := by
  induction entities with
  | nil => exact .ofPure _
  | cons entity entities ih =>
      obtain ⟨inside, othersInside⟩ := List.forall_mem_cons.mp existing
      have rest := ih othersInside
      have sameKind := like.kind_eq inside
      rw [buildChildren, buildChildren]
      simp only [like.isEligible_eq inside, sameKind]
      cases narrow.isEligible entity with
      | false => exact rest
      | true =>
          cases kind.child? (narrow.kind entity) with
          | none =>
              simp only [if_true, like.qualifiedName entity inside]
              exact (Mirrors.ofThrow _).bind fun _ => rest
          | some childKind =>
              refine .get_bind fun workspace _ => ?_
              refine .bind (.ofModify (fun _ grounded => grounded.append inside)
                fun _ _ => rfl) fun _ => ?_
              refine .bind (each workspace.tree.size) fun _ => ?_
              exact .bind (.ofModify (fun _ grounded => grounded.update fun _ => rfl)
                fun _ _ => rfl) fun _ => rest

theorem mirrors_buildWithin (depth : Nat) : ∀ id : NodeId,
    Mirrors (Workspace.recast wide) (·.tree.Grounded)
      (buildWithin depth id : Attempt (Workspace narrow) GenerationError Unit)
      (buildWithin depth id) := by
  induction depth with
  | zero => exact fun _ => .ofPure _
  | succ depth ih =>
      intro id
      rw [buildWithin, buildWithin]
      refine .get_bind fun workspace grounded => ?_
      have existing := grounded id
      have children : ∀ entity ∈ (narrow.children (workspace.tree.node id).entity).filter
          narrow.isEligible, entity < narrow.size :=
        fun entity member => like.child_lt_size (List.mem_of_mem_filter member)
      have sameChildren := like.eligible _ existing
      refine .bind (.ofResult (requireStage_recast like grounded ..)) fun _ => ?_
      refine .bind (.ofModify (fun _ inside => inside.update fun _ => rfl)
        fun _ inside => contribute_recast like inside id) fun _ => ?_
      refine .bind ?_ fun _ => .ofModify (fun _ inside => inside.update fun _ => rfl)
        fun _ _ => rfl
      -- The children may differ, but only in entities that a build passes over.
      have inside := mirrors_buildChildren like ih id (workspace.tree.node id).kind children
      rw [buildChildren_filter, ← sameChildren, buildChildren_filter] at inside
      exact inside

/-- Building does the same, although the wide hierarchy lets it look deeper. -/
theorem mirrors_build (id : NodeId) :
    Mirrors (Workspace.recast wide) (·.tree.Grounded)
      (build id : Attempt (Workspace narrow) GenerationError Unit) (build id) := by
  refine (mirrors_buildWithin like (wide.size + 1) id).congr fun workspace grounded => ?_
  have grows := like.grows
  exact perform_buildWithin_eq_of_deep like.nested.descends _ rfl (grounded id)
    (Nat.le_add_right_of_le (Nat.le_succ _)) (Nat.le_add_right_of_le (Nat.le_succ_of_le grows))

/-! ## Sorting -/

/-- The same nodes stand in the same order of their ranks. -/
theorem orderedByRank_recast {tree : BindingTree narrow} (grounded : tree.Grounded)
    (ids : List NodeId) : (tree.recast wide).orderedByRank ids = tree.orderedByRank ids := by
  have sameRank : (tree.recast wide).rank = tree.rank := funext (rank_recast like grounded)
  rw [orderedByRank, orderedByRank, ranked, ranked, sameRank]

theorem mirrors_sortWithin (depth : Nat) : ∀ id : NodeId,
    Mirrors (recast wide) Grounded
      (sortWithin depth id : Attempt (BindingTree narrow) GenerationError Unit)
      (sortWithin depth id) := by
  induction depth with
  | zero => exact fun _ => .ofPure _
  | succ depth ih =>
      intro id
      rw [sortWithin, sortWithin]
      refine .get_bind fun tree grounded => ?_
      refine .bind (.ofResult (requireStage_recast like grounded ..)) fun _ => ?_
      refine .bind (.forM fun child _ => ih child) fun _ => ?_
      refine .get_bind fun later laterGrounded => ?_
      refine .bind (.ofResult (orderedByRank_recast like laterGrounded _)) fun children => ?_
      exact .ofModify (fun _ inside => inside.update fun _ => rfl) fun _ _ => rfl

theorem mirrors_sort (id : NodeId) :
    Mirrors (recast wide) Grounded
      (sort id : Attempt (BindingTree narrow) GenerationError Unit) (sort id) :=
  .get_bind fun tree _ => mirrors_sortWithin like tree.size id

/-! ## Rendering -/

omit like in
theorem walk_recast (tree : BindingTree narrow) (steps : Nat) (waiting : List NodeId) :
    (tree.recast wide).walk steps waiting = tree.walk steps waiting := by
  induction steps generalizing waiting with
  | zero => rfl
  | succ steps ih =>
      cases waiting with
      | nil => rfl
      | cons current waiting => exact congrArg (current :: ·) (ih _)

omit like in
theorem handOver_recast (tree : BindingTree narrow) (id : NodeId) :
    (tree.recast wide).handOver id = (tree.handOver id).recast wide := by
  have sameParent : (((tree.recast wide).update id fun node =>
      { node with stage := .processed }).node id).parent =
        ((tree.update id fun node => { node with stage := .processed }).node id).parent := rfl
  simp only [handOver, sameParent]
  cases ((tree.update id fun node => { node with stage := .processed }).node id).parent <;> rfl

omit like in
theorem Grounded.handOver {tree : BindingTree narrow} (grounded : tree.Grounded) (id : NodeId) :
    (tree.handOver id).Grounded := by
  have staged : (tree.update id fun node => { node with stage := .processed }).Grounded :=
    grounded.update fun _ => rfl
  rw [BindingTree.handOver]
  split
  · exact staged
  · dsimp only
    apply Grounded.update
    · apply Grounded.update staged
      exact fun _ => rfl
    · exact fun _ => rfl

omit like in
/-- Fragments are moved alike, whatever the nodes stand for. -/
theorem aggregateWithin_recast (depth : Nat) : ∀ (id : NodeId) (tree : BindingTree narrow),
    aggregateWithin depth id (tree.recast wide) = (aggregateWithin depth id tree).recast wide := by
  induction depth with
  | zero => exact fun _ _ => rfl
  | succ depth ih =>
      intro id tree
      have moved : ∀ (ids : List NodeId) (tree : BindingTree narrow),
          ids.foldl (fun tree child => aggregateWithin depth child tree) (tree.recast wide) =
            (ids.foldl (fun tree child => aggregateWithin depth child tree) tree).recast wide := by
        intro ids
        induction ids with
        | nil => exact fun _ => rfl
        | cons child ids inner =>
            intro tree
            rw [List.foldl_cons, List.foldl_cons, ih, inner]
      rw [aggregateWithin, aggregateWithin, ← handOver_recast, ← moved]
      rfl

omit like in
theorem Grounded.aggregateWithin (depth : Nat) :
    ∀ (id : NodeId) {tree : BindingTree narrow}, tree.Grounded →
      (BindingTree.aggregateWithin depth id tree).Grounded := by
  induction depth with
  | zero => exact fun _ _ grounded => grounded
  | succ depth ih =>
      intro id tree grounded
      have moved : ∀ (ids : List NodeId) {tree : BindingTree narrow}, tree.Grounded →
          (ids.foldl (fun tree child => BindingTree.aggregateWithin depth child tree)
            tree).Grounded := by
        intro ids
        induction ids with
        | nil => exact fun grounded => grounded
        | cons child ids inner => exact fun grounded => inner (ih child grounded)
      exact (moved _ grounded).handOver id

theorem mirrors_process (id : NodeId) :
    Mirrors (recast wide) Grounded
      (process id : Attempt (BindingTree narrow) GenerationError Unit) (process id) := by
  refine .get_bind fun tree grounded => ?_
  have sameCheck : (tree.recast wide).requireSorted id = tree.requireSorted id := by
    have sameStage : (tree.recast wide).requireStage .process [.sorted] .sorted =
        tree.requireStage .process [.sorted] .sorted :=
      funext fun node => requireStage_recast like grounded _ _ _ node
    have sameNodes : (tree.recast wide).descendants id = tree.descendants id :=
      walk_recast tree _ _
    rw [requireSorted, requireSorted, sameStage, sameNodes]
  refine .bind (.ofResult sameCheck) fun _ => ?_
  exact .ofModify (fun tree inside => Grounded.aggregateWithin tree.size id inside)
    fun tree _ => aggregateWithin_recast tree.size id tree

/-- The unit is rendered alike. -/
theorem mirrors_render (layout : UnitLayout) :
    Mirrors (recast wide) Grounded
      (render layout : Attempt (BindingTree narrow) GenerationError SourceUnit) (render layout) := by
  have sameName : ∀ tree : BindingTree narrow, (tree.recast wide).unitName = tree.unitName :=
    fun tree => like.name_eq like.nested.hasRoot
  refine .get_bind fun tree _ => ?_
  refine .bind (.ofResult ?_) fun _ => ?_
  · rw [requireUnitName, requireUnitName, sameName]
  · refine .bind (mirrors_process like root) fun _ => .get_bind fun tree grounded => ?_
    refine .bind (.ofResult (emit_recast like grounded root)) fun preamble => ?_
    rw [sameName]
    exact .ofPure _

end Alike

end BindingTree

end RubyBindings
