/-
Module: RubyBindings.Proofs.BindingTree.RootBuild
Purpose: What there is to know about a successful build of the root, whatever hierarchy is built.
  Every node that it has made counts among the children of a node, so all of them stand below the
  root. And nothing can have happened before it: a root that could not be built never can.
Main exports: BindingTree.Attached, BindingTree.attached_build,
  BindingTree.WaitsUntouched, BindingTree.Reachable.eq_start_of_build,
  BindingTree.Reachable.encloses_root_of_build
-/
import RubyBindings.Proofs.BindingTree.Lifecycle

namespace RubyBindings.BindingTree

variable {hierarchy : Hierarchy} {tree before middle after : BindingTree hierarchy} {id : NodeId}

/-! ## New nodes are children -/

/-- The tree has grown below `id`; every new node is a child of some node, and no child is lost. -/
structure Attached (before after : BindingTree hierarchy) (id : NodeId) : Prop
    extends Extended before after id where
  keeps : ∀ parent, ∀ child ∈ before.children parent, child ∈ after.children parent
  attached : ∀ other < after.size, before.size ≤ other → ∃ parent, other ∈ after.children parent

namespace Attached

theorem trans (first : Attached before middle id) (second : Attached middle after id) :
    Attached before after id where
  toExtended := first.toExtended.trans second.toExtended
  keeps := fun parent child member => second.keeps parent child (first.keeps parent child member)
  attached := by
    intro other small new
    by_cases early : other < middle.size
    · obtain ⟨parent, member⟩ := first.attached other early new
      exact ⟨parent, second.keeps parent other member⟩
    · exact second.attached other small (Nat.le_of_not_lt early)

/-- No new nodes, and the same children as before. -/
theorem ofSame (extended : Extended before after id) (size : after.size = before.size)
    (children : ∀ parent, after.children parent = before.children parent) :
    Attached before after id where
  toExtended := extended
  keeps := fun parent _ member => children parent ▸ member
  attached := fun _ small new => absurd small (Nat.not_lt_of_le (size ▸ new))

theorem refl (coherent : tree.Coherent) (id : NodeId) : Attached tree tree id :=
  .ofSame (.refl coherent id) rfl fun _ => rfl

/-- A change of the node itself that leaves its place and its links alone. -/
theorem update (coherent : tree.Coherent) (existing : id < tree.size)
    {change : BindingNode → BindingNode} (entity : ∀ node, (change node).entity = node.entity)
    (kind : ∀ node, (change node).kind = node.kind)
    (parent : ∀ node, (change node).parent = node.parent)
    (children : ∀ node, (change node).children = node.children) :
    Attached tree (tree.update id change) id :=
  .ofSame (.update coherent existing (entity _) (kind _) (parent _) (children _)) (size_update ..)
    fun other => read_update BindingNode.children children id other

/-- A new node below `id` becomes its last child. -/
theorem attach (coherent : before.Coherent) (existing : id < before.size) {entity : EntityId}
    {kind : NodeKind}
    (below : Attached (before.append (.fresh entity kind (some id))) middle before.size) :
    Attached before
      (middle.update id fun node => { node with children := node.children ++ [before.size] }) id := by
  have above : id < middle.size := Nat.lt_trans existing below.new_lt
  have own : (middle.update id fun node =>
      { node with children := node.children ++ [before.size] }).children id =
        middle.children id ++ [before.size] :=
    congrArg BindingNode.children (node_update_self above _)
  have keeps : ∀ parent, ∀ child ∈ middle.children parent, child ∈ (middle.update id fun node =>
      { node with children := node.children ++ [before.size] }).children parent := by
    intro parent child member
    by_cases self : parent = id
    · rw [self, own]
      exact List.mem_append_left _ (self ▸ member)
    · rw [children, node_update_of_ne self]
      exact member
  refine ⟨.attach coherent existing below.toExtended, ?_, ?_⟩
  · intro parent child member
    apply keeps
    rw [children, below.node_eq_of_new (lt_size_of_mem_children member)]
    exact member
  · intro other small new
    rw [size_update] at small
    rcases Nat.lt_or_eq_of_le new with later | rfl
    · obtain ⟨parent, member⟩ := below.attached other small (by rw [size_append]; exact later)
      exact ⟨parent, keeps parent other member⟩
    · exact ⟨id, own ▸ List.mem_append_right _ (List.mem_singleton.mpr rfl)⟩

end Attached

/-- Each step of a successful build attaches what it makes. -/
theorem buildLaw_attached : BuildLaw fun id (workspace : Workspace hierarchy) ended =>
    workspace.tree.Coherent → id < workspace.tree.size → ended.1 = .ok () →
      Attached workspace.tree ended.2.tree id where
  idle := fun _ coherent _ _ => .refl coherent _
  contribute := by
    intro id workspace ended below coherent existing succeeded
    have own : Attached workspace.tree (workspace.contribute id).tree id :=
      .update coherent existing (by intro _; rfl) (by intro _; rfl) (by intro _; rfl)
        (by intro _; rfl)
    exact own.trans (below own.coherent (Nat.lt_of_lt_of_le existing own.grows) succeeded)
  finish := by
    intro id workspace after below coherent existing succeeded
    have grown := below coherent existing succeeded
    exact grown.trans (.update grown.coherent (Nat.lt_of_lt_of_le existing grown.grows)
      (by intro _; rfl) (by intro _; rfl) (by intro _; rfl) (by intro _; rfl))
  leave := fun _ _ _ _ _ succeeded => nomatch succeeded
  make := by
    intro parent workspace scope entity childKind middle ended kind _ _ first rest coherent existing
      succeeded
    have below := first (coherent.append existing entity childKind) (by simp [Workspace.addNode]) rfl
    have attached : Attached workspace.tree (middle.attach workspace.tree.size parent).tree parent :=
      .attach coherent existing below
    exact attached.trans
      (rest attached.coherent (Nat.lt_of_lt_of_le existing attached.grows) succeeded)

/-- A successful build attaches all that it makes. -/
theorem attached_build {workspace after : Workspace hierarchy} (coherent : workspace.tree.Coherent)
    (existing : id < workspace.tree.size)
    (performed : (build id).perform workspace = (.ok (), after)) :
    Attached workspace.tree after.tree id := by
  have ended := buildLaw_attached.build id workspace coherent existing
  rw [performed] at ended
  exact ended rfl

/-- Where all nodes but the root are children, the lists of children lead to all of them from the
root. -/
theorem Coherent.encloses_root (coherent : tree.Coherent)
    (attached : ∀ other < tree.size, other ≠ root → ∃ parent, other ∈ tree.children parent)
    (id : NodeId) (existing : id < tree.size) : tree.Encloses root id := by
  induction id using Nat.strongRecOn with
  | ind id ih =>
      by_cases top : id = root
      · exact top ▸ .refl tree root
      · obtain ⟨parent, member⟩ := attached id existing top
        have above := ih parent (coherent.lt_of_mem_children member) (lt_size_of_mem_children member)
        exact above.trans (Encloses.child member)

/-! ## The tree before a build of the root -/

/-- The root goes on standing for what it stands for, and never falls back behind its build. -/
structure RootKept (before after : BindingTree hierarchy) : Prop where
  entity : (after.node root).entity = (before.node root).entity
  kind : (after.node root).kind = (before.node root).kind
  begun : (before.node root).stage ≠ .created → (after.node root).stage ≠ .created

namespace RootKept

theorem refl (tree : BindingTree hierarchy) : RootKept tree tree :=
  ⟨rfl, rfl, fun begun => begun⟩

theorem build {workspace : Workspace hierarchy} (coherent : workspace.tree.Coherent)
    (existing : id < workspace.tree.size) :
    RootKept workspace.tree ((build id).perform workspace).2.tree where
  entity := (extended_build coherent existing).entity_eq coherent.hasRoot
  kind := (extended_build coherent existing).kind_eq coherent.hasRoot
  begun := by
    intro begun
    by_cases top : root = id
    · subst top
      rw [perform_build_of_ne_created workspace begun]
      exact begun
    · rw [(extended_build coherent existing).kept root coherent.hasRoot top]
      exact begun

theorem sort (coherent : tree.Coherent) (existing : id < tree.size) :
    RootKept tree ((BindingTree.sort id).perform tree).2 := by
  rcases (sortEffect_sort coherent existing).partly.node root with same | ⟨-, same⟩
  · exact ⟨by rw [same], by rw [same], fun begun => same ▸ begun⟩
  · exact ⟨by rw [same, sortedNode], by rw [same, sortedNode], fun _ => by simp [same, sortedNode]⟩

theorem process (coherent : tree.Coherent) (existing : id < tree.size) :
    RootKept tree ((BindingTree.process id).perform tree).2 := by
  rw [perform_process]
  cases tree.requireSorted id with
  | error error => exact .refl tree
  | ok passed =>
      have handed := handedUp_aggregate coherent existing
      refine ⟨(handed.keeps root).1, (handed.keeps root).2, fun begun => ?_⟩
      by_cases listed : root ∈ tree.preorder id
      · dsimp only
        rw [handed.node, aggregatedNode, if_pos listed]
        simp
      · rwa [handed.stage_outside listed]

theorem render (coherent : tree.Coherent) (layout : UnitLayout) :
    RootKept tree ((BindingTree.render layout).perform tree).2 := by
  rcases tree_render layout tree with same | processed
  · rw [same]
    exact .refl tree
  · rw [processed]
    exact .process coherent coherent.hasRoot

/-- Every call keeps the root. -/
theorem call (coherent : tree.Coherent) (call : TreeCall) (named : call.NamesNodeOf tree) :
    RootKept tree (call.after tree) := by
  cases call with
  | build id session => exact @RootKept.build hierarchy id { tree, session } coherent named
  | sort id => exact .sort coherent named
  | emit id => exact .refl tree
  | process id => exact .process coherent named
  | render layout => exact .render coherent layout
  | write σ layout sink world =>
      rw [TreeCall.after, tree_write]
      exact .render coherent layout

end RootKept

/-- A node that has been built is not waiting any more. -/
theorem stage_of_build {workspace after : Workspace hierarchy} (coherent : workspace.tree.Coherent)
    (existing : id < workspace.tree.size)
    (performed : (build id).perform workspace = (.ok (), after)) :
    (after.tree.node id).stage = .built := by
  have grows := (attached_build coherent existing performed).grows
  obtain ⟨-, middle, -, rfl⟩ := exists_finish_of_buildWithin performed
  rw [Workspace.finish, size_update] at grows
  exact congrArg BindingNode.stage (node_update_self (Nat.lt_of_lt_of_le existing grows) _)

/-- As long as the root waits for a build that would succeed, nothing has happened to the tree. -/
def WaitsUntouched (tree : BindingTree hierarchy) : Prop :=
  (tree.node root).stage = .created →
    hierarchy.firstUnsupported? (tree.node root).kind (tree.node root).entity = none →
      tree = start hierarchy

/-- A build that would succeed does, and other calls do nothing to a new tree. -/
theorem waitsUntouched_after_start (call : TreeCall) (named : call.NamesNodeOf (start hierarchy)) :
    WaitsUntouched (call.after (start hierarchy)) := by
  have processed : ((process root).perform (start hierarchy)).2 = start hierarchy := rfl
  have rendered : ∀ layout, ((render layout).perform (start hierarchy)).2 = start hierarchy := by
    intro layout
    rcases tree_render layout (start hierarchy) with same | same
    · exact same
    · exact same.trans processed
  intro created supported
  cases call with
  | emit id => rfl
  | render layout => exact rendered layout
  | write σ layout sink world => exact (tree_write layout sink _ world).trans (rendered layout)
  | sort id =>
      obtain rfl : id = root := Nat.lt_one_iff.mp named
      rfl
  | process id =>
      obtain rfl : id = root := Nat.lt_one_iff.mp named
      exact processed
  | build id session =>
      obtain rfl : id = root := Nat.lt_one_iff.mp named
      have coherent := coherent_start hierarchy
      have kept := @RootKept.build hierarchy root { tree := start hierarchy, session } coherent named
      have result := @result_build hierarchy { tree := start hierarchy, session } root rfl
      rw [TreeCall.after, kept.kind, kept.entity] at supported
      rw [supported] at result
      -- Nothing stands in the way of the build, so the root is not waiting any more.
      have built := @stage_of_build hierarchy root { tree := start hierarchy, session } _ coherent
        named (Prod.ext result rfl)
      cases created.symm.trans built

/-- Whatever calls have been made on a tree. -/
theorem Reachable.waitsUntouched (reachable : tree.Reachable) : tree.WaitsUntouched := by
  induction reachable with
  | start => exact fun _ _ => rfl
  | @call tree reachable call named ih =>
      intro created supported
      have kept := RootKept.call reachable.coherent call named
      have untouched : tree = BindingTree.start hierarchy := by
        apply ih
        · by_contra begun
          exact kept.begun begun created
        · rw [← kept.kind, ← kept.entity]
          exact supported
      subst untouched
      exact waitsUntouched_after_start call named created supported

variable {workspace built : Workspace hierarchy}

/-- A build of the root that succeeds is the first thing that happens to a tree. -/
theorem Reachable.eq_start_of_build (reachable : workspace.tree.Reachable)
    (performed : (build root).perform workspace = (.ok (), built)) :
    workspace.tree = BindingTree.start hierarchy := by
  have created := (exists_finish_of_buildWithin performed).1
  apply reachable.waitsUntouched created
  rw [← refusal_eq_ok, ← result_build workspace created, performed]

/-- After a successful build of the root, everything stands below the root. -/
theorem Reachable.encloses_root_of_build (reachable : workspace.tree.Reachable)
    (performed : (build root).perform workspace = (.ok (), built)) :
    ∀ id < built.tree.size, built.tree.Encloses root id := by
  have coherent := reachable.coherent
  have made := attached_build coherent coherent.hasRoot performed
  apply made.coherent.encloses_root
  intro other small notRoot
  apply made.attached other small
  rw [reachable.eq_start_of_build performed]
  exact Nat.pos_of_ne_zero notRoot

end RubyBindings.BindingTree
