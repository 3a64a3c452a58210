/-
Module: RubyBindings.Proofs.BindingTree.BuildRun
Purpose: The run of a successful build as a relation between workspaces, with one rule for each step
  and no bound on its depth. Nodes are made in the order in which a walk over the tree meets them, so
  the ids of a built tree number it from the root on, parents before children.
Main exports: BuildTask, BuildRun, BindingTree.buildRun_of_build, BindingTree.Extended.preorder_eq,
  BindingTree.numbers_of_buildRun, BindingTree.preorder_root_of_build
-/
import RubyBindings.Proofs.BindingTree.Building

namespace RubyBindings

variable {hierarchy : Hierarchy}

/-! ## Runs of builds -/

/-- What a build has to do at a time: build a node, or make nodes for some entities below one. -/
inductive BuildTask where
  | node (id : NodeId)
  | children (parent : NodeId) (kind : NodeKind) (entities : List EntityId)

/-- What a successful build does, from the workspace that it starts from to the one that it
leaves. -/
inductive BuildRun : BuildTask → Workspace hierarchy → Workspace hierarchy → Prop
  | node {id : NodeId} {before after : Workspace hierarchy}
      (created : (before.tree.node id).stage = .created)
      (children : BuildRun
        (.children id (before.tree.node id).kind (hierarchy.children (before.tree.node id).entity))
        (before.contribute id) after) :
      BuildRun (.node id) before (after.finish id)
  | done (parent : NodeId) (kind : NodeKind) (workspace : Workspace hierarchy) :
      BuildRun (.children parent kind []) workspace workspace
  | skip {parent : NodeId} {kind : NodeKind} {entity : EntityId} {entities : List EntityId}
      {before after : Workspace hierarchy} (ineligible : hierarchy.isEligible entity = false)
      (rest : BuildRun (.children parent kind entities) before after) :
      BuildRun (.children parent kind (entity :: entities)) before after
  | make {parent : NodeId} {kind childKind : NodeKind} {entity : EntityId}
      {entities : List EntityId} {before middle after : Workspace hierarchy}
      (eligible : hierarchy.isEligible entity = true)
      (supported : kind.child? (hierarchy.kind entity) = some childKind)
      (first : BuildRun (.node before.tree.size) (before.addNode entity childKind parent) middle)
      (rest : BuildRun (.children parent kind entities) (middle.attach before.tree.size parent)
        after) :
      BuildRun (.children parent kind (entity :: entities)) before after

namespace BindingTree

/-- Making nodes for some entities is a run, if building each of the new nodes is one. -/
theorem buildRun_of_buildChildren
    {build : NodeId → Attempt (Workspace hierarchy) GenerationError Unit} {parent : NodeId}
    {kind : NodeKind} {entities : List EntityId}
    (each : ∀ {before after : Workspace hierarchy} {id : NodeId},
      (before.tree.node id).entity ∈ entities → (build id).perform before = (.ok (), after) →
        BuildRun (.node id) before after) :
    ∀ {before after : Workspace hierarchy},
      (buildChildren build parent kind entities).perform before = (.ok (), after) →
        BuildRun (.children parent kind entities) before after := by
  induction entities with
  | nil =>
      intro before after performed
      cases performed
      exact .done parent kind before
  | cons entity entities ih =>
      intro before after performed
      have later : ∀ {before after : Workspace hierarchy},
          (buildChildren build parent kind entities).perform before = (.ok (), after) →
            BuildRun (.children parent kind entities) before after :=
        ih fun member => each (List.mem_cons_of_mem entity member)
      have step := childStep build parent kind before entity entities
      generalize (buildChildren build parent kind (entity :: entities)).perform before = ended
        at step performed
      cases step with
      | refuse => cases performed
      | leave => cases performed
      | skip ineligible => exact .skip ineligible (later performed)
      | @make childKind middle eligible supported made =>
          have new : (before.addNode entity childKind parent).tree.node before.tree.size =
              .fresh entity childKind (some parent) := node_append_size ..
          refine .make eligible supported (each ?_ made) (later performed)
          rw [new]
          exact List.mem_cons_self

theorem buildRun_of_buildWithin (descends : hierarchy.Descends) (depth : Nat) :
    ∀ {before after : Workspace hierarchy} {id : NodeId}, 0 < depth →
      hierarchy.size < depth + (before.tree.node id).entity →
      (buildWithin depth id).perform before = (.ok (), after) → BuildRun (.node id) before after := by
  induction depth with
  | zero => exact fun positive => absurd positive (Nat.lt_irrefl 0)
  | succ depth ih =>
      intro before after id _ deep performed
      obtain ⟨created, middle, ran, rfl⟩ := exists_finish_of_buildWithin performed
      refine .node created (buildRun_of_buildChildren ?_ ran)
      intro start finish child member ranBelow
      obtain ⟨larger, small⟩ := descends.lt_of_mem_children member
      exact ih (by omega) (by omega) ranBelow

/-- A successful build is a run. No branch of a hierarchy is too long for it. -/
theorem buildRun_of_build (descends : hierarchy.Descends) {before after : Workspace hierarchy}
    {id : NodeId} (performed : (build id).perform before = (.ok (), after)) :
    BuildRun (.node id) before after :=
  buildRun_of_buildWithin descends (hierarchy.size + 1) (Nat.succ_pos _) (by omega) performed

/-! ## The numbering of a built tree -/

variable {before middle after : BindingTree hierarchy} {id : NodeId}

/-- The subtree of a node made after `id` stays as it is while `id` grows. -/
theorem Extended.preorder_eq (extended : Extended before after id) (coherent : before.Coherent)
    {other : NodeId} (later : id < other) (existing : other < before.size) :
    after.preorder other = before.preorder other := by
  induction other, existing using coherent.induction_on_children with
  | step other existing ih =>
      have lists : after.children other = before.children other := by
        rw [children, children, extended.kept other existing (Nat.ne_of_gt later)]
      rw [coherent.preorder_eq existing,
        extended.coherent.preorder_eq (Nat.lt_of_lt_of_le existing extended.grows), lists]
      congr 1
      apply List.flatMap_congr
      intro child member
      exact ih child member (Nat.lt_trans later (coherent.lt_of_mem_children member))

/-- The ids that nodes have got between two trees, in ascending order. -/
def newIds (before after : BindingTree hierarchy) : List NodeId :=
  List.range' before.size (after.size - before.size)

theorem newIds_self (tree : BindingTree hierarchy) : newIds tree tree = [] := by
  rw [newIds, Nat.sub_self]
  rfl

theorem newIds_append (first : before.size ≤ middle.size) (second : middle.size ≤ after.size) :
    newIds before middle ++ newIds middle after = newIds before after := by
  have start : middle.size = before.size + 1 * (middle.size - before.size) := by omega
  have total : middle.size - before.size + (after.size - middle.size) =
      after.size - before.size := by omega
  rw [newIds, newIds, newIds, ← total, ← List.range'_append, ← start]

/-- What a run does to the numbering: a walk over what has been made meets the new nodes in the order
of their ids. -/
def Numbers (before after : BindingTree hierarchy) : BuildTask → Prop
  | .node id =>
    id < before.size → before.children id = [] →
      Extended before after id ∧ after.preorder id = id :: newIds before after
  | .children parent _ _ =>
    parent < before.size →
      Extended before after parent ∧ ∃ made,
        after.children parent = before.children parent ++ made ∧
          made.flatMap after.preorder = newIds before after

/-- One more child in front: its subtree comes first, and then the subtrees of the others. -/
theorem Numbers.cons {parent : NodeId} {entity : EntityId} {kind childKind : NodeKind}
    {entities : List EntityId} (coherent : before.Coherent) (existing : parent < before.size)
    (first : Numbers (before.append (.fresh entity childKind (some parent))) middle
      (.node before.size))
    (rest : (middle.update parent fun node =>
        { node with children := node.children ++ [before.size] }).Coherent →
      Numbers (middle.update parent fun node =>
        { node with children := node.children ++ [before.size] }) after
          (.children parent kind entities)) :
    Numbers before after (.children parent kind (entity :: entities)) := by
  intro _
  have new : (before.append (.fresh entity childKind (some parent))).children before.size = [] := by
    rw [children, node_append_size]
    rfl
  obtain ⟨made, numbered⟩ := first (by simp) new
  have attached := Extended.attach coherent existing made
  have small := made.new_lt
  have above : parent < middle.size := Nat.lt_trans existing small
  have own := Extended.addChild above attached.coherent
  obtain ⟨later, others, lists, rests⟩ :=
    rest attached.coherent (Nat.lt_of_lt_of_le existing attached.grows)
  have whole := own.trans later
  refine ⟨attached.trans later, before.size :: others, ?_, ?_⟩
  · rw [lists, children, node_update_self above, made.node_eq_of_new existing, List.append_assoc]
    rfl
  · have sizes : (middle.update parent fun node =>
        { node with children := node.children ++ [before.size] }).size = middle.size :=
      size_update ..
    have shared : newIds (middle.update parent fun node =>
        { node with children := node.children ++ [before.size] }) after = newIds middle after := by
      rw [newIds, newIds, sizes]
    have firstIds : before.size ::
        newIds (before.append (.fresh entity childKind (some parent))) middle =
          newIds before middle := by
      rw [newIds, newIds, size_append, ← List.range'_succ]
      congr 1
      omega
    rw [List.flatMap_cons, whole.preorder_eq made.coherent existing small, numbered, rests, shared,
      firstIds, newIds_append (Nat.le_of_lt small) whole.grows]

/-- A run numbers what it makes in order. -/
theorem numbers_of_buildRun {task : BuildTask} {before after : Workspace hierarchy}
    (run : BuildRun task before after) (coherent : before.tree.Coherent) :
    Numbers before.tree after.tree task := by
  induction run with
  | @node id before after created below ih =>
      intro existing childless
      have own := extended_contribute coherent existing
      have same : (before.contribute id).tree.size = before.tree.size := size_update ..
      obtain ⟨grown, made, lists, numbered⟩ := ih own.coherent (same ▸ existing)
      have above : id < after.tree.size :=
        Nat.lt_of_lt_of_le existing (own.trans grown).grows
      have marked : Extended after.tree (after.finish id).tree id :=
        .update grown.coherent above rfl rfl rfl rfl
      refine ⟨(own.trans grown).trans marked, ?_⟩
      have finished : (after.finish id).tree.preorder = after.tree.preorder :=
        preorder_congr (size_update ..) fun other =>
          read_update BindingNode.children (by intro _; rfl) id other
      have contributed : (before.contribute id).tree.children id = [] := by
        rw [children, node_contribute existing]
        exact childless
      have newSame : newIds before.tree (after.finish id).tree =
          newIds (before.contribute id).tree after.tree := by
        rw [newIds, newIds, same, Workspace.finish, size_update]
      rw [finished, newSame, grown.coherent.preorder_eq above, lists, contributed, List.nil_append,
        numbered]
  | done parent kind workspace =>
      intro existing
      exact ⟨.refl coherent parent, [], (List.append_nil _).symm, (newIds_self _).symm⟩
  | skip ineligible rest ih => exact ih coherent
  | @make parent kind childKind entity entities before middle after eligible supported first rest
      ihFirst ihRest =>
      intro existing
      exact Numbers.cons coherent existing
        (ihFirst (coherent.append existing entity childKind)) ihRest existing

/-- The nodes of a tree whose root has just been built are numbered in the order in which a walk over
the tree meets them. -/
theorem preorder_root_of_build (descends : hierarchy.Descends) {session : Session}
    {after : Workspace hierarchy}
    (performed : (build root).perform { tree := start hierarchy, session } = (.ok (), after)) :
    after.tree.preorder root = List.range after.tree.size := by
  have run := buildRun_of_build descends performed
  have coherent := coherent_start hierarchy
  obtain ⟨grown, numbered⟩ := numbers_of_buildRun run coherent coherent.hasRoot rfl
  have positive : 0 < after.tree.size := grown.coherent.hasRoot
  have sizes : after.tree.size = after.tree.size - 1 + 1 := by omega
  rw [numbered, List.range_eq_range', sizes, List.range'_succ]
  rfl

end BindingTree

end RubyBindings
