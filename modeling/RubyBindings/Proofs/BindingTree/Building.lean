/-
Module: RubyBindings.Proofs.BindingTree.Building
Purpose: What building does to a tree. However it ends, old nodes other than the one that is built
  stay as they are, and the links stay coherent. If it succeeds, the node and every new one below it
  is faithful to its entity: its children stand for the eligible entities inside it, in their order.
Main exports: BindingTree.Extended, BindingTree.extended_build, BindingTree.Faithful,
  BindingTree.built_build, BindingTree.Complete, BindingTree.complete_build
-/
import RubyBindings.Proofs.BindingTree.BuildLaw
import RubyBindings.Proofs.BindingTree.Links
import RubyBindings.Proofs.Hierarchy.Nesting

namespace RubyBindings

variable {hierarchy : Hierarchy}

/-! ## What a node contributes -/

/-- What a node registers: its own text. The extension registers nothing. -/
def NodeKind.registrations (hierarchy : Hierarchy) (id : EntityId) : NodeKind → List String
  | .extension => []
  | kind => [kind.text hierarchy id]

/-- Apart from include lines, the shared session has no say in what a node contributes. -/
theorem NodeKind.contribute_fragments (hierarchy : Hierarchy) (id : EntityId) (kind : NodeKind)
    (session : Session) :
    (kind.contribute hierarchy id session).1.declarations = kind.declarations hierarchy id ∧
      (kind.contribute hierarchy id session).1.registrations = kind.registrations hierarchy id := by
  cases kind <;> exact ⟨rfl, rfl⟩

namespace BindingTree

/-! ## Coherence through the steps of a build -/

variable {tree : BindingTree hierarchy}

/-- A new node below an old one is nobody's child yet. -/
theorem Coherent.append (coherent : tree.Coherent) {parent : NodeId} (existing : parent < tree.size)
    (entity : EntityId) (kind : NodeKind) :
    (tree.append (.fresh entity kind (some parent))).Coherent where
  hasRoot := by
    rw [size_append]
    exact Nat.lt_succ_of_lt coherent.hasRoot
  rootParent := by
    rw [node_append_of_lt coherent.hasRoot]
    exact coherent.rootParent
  parentBefore := by
    intro id small notRoot
    rw [size_append] at small
    rcases Nat.lt_succ_iff_lt_or_eq.mp small with old | rfl
    · rw [node_append_of_lt old]
      exact coherent.parentBefore id old notRoot
    · exact ⟨parent, existing, by rw [node_append_size]; rfl⟩
  childLink := by
    intro other child member
    have small := lt_size_of_mem_children member
    rw [size_append] at small ⊢
    rw [children] at member
    rcases Nat.lt_succ_iff_lt_or_eq.mp small with old | rfl
    · rw [node_append_of_lt old] at member
      obtain ⟨childOld, link⟩ := coherent.childLink other child member
      exact ⟨Nat.lt_succ_of_lt childOld, by rw [node_append_of_lt childOld, link]⟩
    · rw [node_append_size] at member
      exact absurd member List.not_mem_nil
  childrenNodup := by
    intro other
    rw [children]
    by_cases old : other < tree.size
    · rw [node_append_of_lt old]
      exact coherent.childrenNodup other
    · rcases Nat.lt_or_eq_of_le (Nat.le_of_not_lt old) with missing | rfl
      · rw [node_of_size_le (by rw [size_append]; exact missing)]
        exact List.nodup_nil
      · rw [node_append_size]
        exact List.nodup_nil

/-- A node that names another one as its parent may become its last child, once. -/
theorem Coherent.attach (coherent : tree.Coherent) {parent child : NodeId}
    (above : parent < tree.size) (existing : child < tree.size)
    (link : (tree.node child).parent = some parent) (fresh : child ∉ tree.children parent) :
    (tree.update parent fun node =>
      { node with children := node.children ++ [child] }).Coherent := by
  let after := tree.update parent fun node => { node with children := node.children ++ [child] }
  have self : after.node parent =
      { tree.node parent with children := (tree.node parent).children ++ [child] } :=
    node_update_self above _
  have others : ∀ other, other ≠ parent → after.node other = tree.node other :=
    fun other different => node_update_of_ne different _
  have parents : ∀ other, (after.node other).parent = (tree.node other).parent := by
    intro other
    by_cases same : other = parent
    · rw [same, self]
    · rw [others other same]
  have lists : ∀ other, after.children other =
      if other = parent then tree.children parent ++ [child] else tree.children other := by
    intro other
    by_cases same : other = parent
    · rw [if_pos same, same, children, self]
      rfl
    · rw [if_neg same, children, others other same]
      rfl
  constructor
  · rw [size_update]
    exact coherent.hasRoot
  · exact (parents root).trans coherent.rootParent
  · intro id small notRoot
    rw [size_update] at small
    rw [parents id]
    exact coherent.parentBefore id small notRoot
  · intro other below member
    rw [size_update, parents below]
    rw [lists other] at member
    split at member
    · rename_i same
      rcases List.mem_append.mp member with old | new
      · exact same ▸ coherent.childLink parent below old
      · cases List.mem_singleton.mp new
        exact ⟨existing, same ▸ link⟩
    · exact coherent.childLink other below member
  · intro other
    rw [lists other]
    split
    · rw [List.nodup_append]
      refine ⟨coherent.childrenNodup parent, List.nodup_singleton child, ?_⟩
      intro old oldMember new newMember same
      cases List.mem_singleton.mp newMember
      exact fresh (same ▸ oldMember)
    · exact coherent.childrenNodup other

/-- A change of one node that leaves its links alone. -/
theorem sameForest_update {id : NodeId} (existing : id < tree.size)
    {change : BindingNode → BindingNode}
    (parent : (change (tree.node id)).parent = (tree.node id).parent)
    (children : (change (tree.node id)).children = (tree.node id).children) :
    SameForest tree (tree.update id change) where
  size := size_update tree id change
  parent := by
    intro other
    by_cases same : other = id
    · rw [same, node_update_self existing, parent]
    · rw [node_update_of_ne same]
  children := by
    intro other
    by_cases same : other = id
    · rw [same, BindingTree.children, node_update_self existing, children]
      exact .refl _
    · rw [BindingTree.children, node_update_of_ne same]
      exact .refl _

/-! ## However a build ends -/

/-- The tree has grown below `id`: what was there stays, but for what `id` itself holds. -/
structure Extended (before after : BindingTree hierarchy) (id : NodeId) : Prop where
  coherent : after.Coherent
  grows : before.size ≤ after.size
  kept : ∀ other < before.size, other ≠ id → after.node other = before.node other
  entity : (after.node id).entity = (before.node id).entity
  kind : (after.node id).kind = (before.node id).kind
  parent : (after.node id).parent = (before.node id).parent

namespace Extended

variable {before middle after : BindingTree hierarchy} {id : NodeId}

theorem refl (coherent : tree.Coherent) (id : NodeId) : Extended tree tree id :=
  ⟨coherent, Nat.le_refl _, fun _ _ _ => rfl, rfl, rfl, rfl⟩

theorem trans (first : Extended before middle id) (second : Extended middle after id) :
    Extended before after id where
  coherent := second.coherent
  grows := Nat.le_trans first.grows second.grows
  kept := by
    intro other small different
    rw [second.kept other (Nat.lt_of_lt_of_le small first.grows) different,
      first.kept other small different]
  entity := second.entity.trans first.entity
  kind := second.kind.trans first.kind
  parent := second.parent.trans first.parent

/-- A change of the node itself that leaves its place and its links alone. -/
theorem update (coherent : tree.Coherent) (existing : id < tree.size)
    {change : BindingNode → BindingNode}
    (entity : (change (tree.node id)).entity = (tree.node id).entity)
    (kind : (change (tree.node id)).kind = (tree.node id).kind)
    (parent : (change (tree.node id)).parent = (tree.node id).parent)
    (children : (change (tree.node id)).children = (tree.node id).children) :
    Extended tree (tree.update id change) id where
  coherent := (sameForest_update existing parent children).coherent coherent
  grows := Nat.le_of_eq (size_update tree id change).symm
  kept := fun _ _ different => node_update_of_ne different change
  entity := by rw [node_update_self existing, entity]
  kind := by rw [node_update_self existing, kind]
  parent := by rw [node_update_self existing, parent]

/-- One more child changes nothing else about a node. -/
theorem addChild (existing : id < before.size) {child : NodeId}
    (coherent : (before.update id fun node =>
      { node with children := node.children ++ [child] }).Coherent) :
    Extended before
      (before.update id fun node => { node with children := node.children ++ [child] }) id where
  coherent := coherent
  grows := Nat.le_of_eq (size_update ..).symm
  kept := fun _ _ different => node_update_of_ne different _
  entity := by rw [node_update_self existing]
  kind := by rw [node_update_self existing]
  parent := by rw [node_update_self existing]

/-- A new node is there after what has been built below it. -/
theorem new_lt {node : BindingNode} (built : Extended (before.append node) after before.size) :
    before.size < after.size := by
  have sizes := built.grows
  rw [size_append] at sizes
  exact sizes

/-- Building a new node leaves all the old ones alone. -/
theorem node_eq_of_new {node : BindingNode}
    (built : Extended (before.append node) after before.size) {other : NodeId}
    (small : other < before.size) : after.node other = before.node other := by
  have inside : other < (before.append node).size := by
    rw [size_append]
    exact Nat.lt_succ_of_lt small
  rw [built.kept other inside (Nat.ne_of_lt small), node_append_of_lt small]

/-- A new node below `id`, with what has been built below it. -/
theorem ofNew (existing : id < before.size) {entity : EntityId} {kind : NodeKind}
    (built : Extended (before.append (.fresh entity kind (some id))) after before.size) :
    Extended before after id := by
  refine ⟨built.coherent, Nat.le_of_lt built.new_lt, fun _ small _ => built.node_eq_of_new small,
    ?_, ?_, ?_⟩
  all_goals rw [built.node_eq_of_new existing]

/-- A new node below `id` becomes its last child. -/
theorem attach (coherent : before.Coherent) (existing : id < before.size) {entity : EntityId}
    {kind : NodeKind}
    (built : Extended (before.append (.fresh entity kind (some id))) after before.size) :
    Extended before
      (after.update id fun node => { node with children := node.children ++ [before.size] })
      id := by
  have grown := ofNew existing built
  have above : id < after.size := Nat.lt_of_lt_of_le existing grown.grows
  have old := built.node_eq_of_new existing
  have link : (after.node before.size).parent = some id := by
    rw [built.parent, node_append_size]
    rfl
  have fresh : before.size ∉ after.children id := by
    intro member
    rw [children, old] at member
    exact Nat.lt_irrefl _ (coherent.childLink id before.size member).1
  exact grown.trans (.addChild above (built.coherent.attach above built.new_lt link fresh))

end Extended

/-- What a node is once it has contributed. -/
theorem node_contribute {workspace : Workspace hierarchy} {id : NodeId}
    (existing : id < workspace.tree.size) :
    (workspace.contribute id).tree.node id =
      let node := workspace.tree.node id
      { node with
        fragments := (node.kind.contribute hierarchy node.entity workspace.session).1
        handle := node.kind.handle? hierarchy node.entity } :=
  node_update_self existing _

/-- Contributing changes only what a node holds. -/
theorem extended_contribute {workspace : Workspace hierarchy} (coherent : workspace.tree.Coherent)
    {id : NodeId} (existing : id < workspace.tree.size) :
    Extended workspace.tree (workspace.contribute id).tree id :=
  Extended.update coherent existing rfl rfl rfl rfl

/-- Each step keeps the tree in shape. -/
theorem buildLaw_extended : BuildLaw fun id (workspace : Workspace hierarchy) ended =>
    workspace.tree.Coherent → id < workspace.tree.size →
      Extended workspace.tree ended.2.tree id where
  idle := fun _ coherent _ => .refl coherent _
  contribute := by
    intro id workspace ended below coherent existing
    have own := extended_contribute coherent existing
    exact own.trans (below own.coherent (Nat.lt_of_lt_of_le existing own.grows))
  finish := by
    intro id workspace after below coherent existing
    have grown := below coherent existing
    exact grown.trans (.update grown.coherent (Nat.lt_of_lt_of_le existing grown.grows)
      rfl rfl rfl rfl)
  leave := by
    intro parent workspace scope entity childKind error after kind _ _ below coherent existing
    exact .ofNew existing (below (coherent.append existing entity childKind)
      (by simp [Workspace.addNode]))
  make := by
    intro parent workspace scope entity childKind middle ended kind _ _ first rest coherent existing
    have below := first (coherent.append existing entity childKind) (by simp [Workspace.addNode])
    have attached : Extended workspace.tree (middle.attach workspace.tree.size parent).tree parent :=
      .attach coherent existing below
    exact attached.trans (rest attached.coherent (Nat.lt_of_lt_of_le existing attached.grows))

/-- Building keeps the tree in shape, whether it succeeds or fails. -/
theorem extended_build {workspace : Workspace hierarchy} (coherent : workspace.tree.Coherent)
    {id : NodeId} (existing : id < workspace.tree.size) :
    Extended workspace.tree ((build id).perform workspace).2.tree id :=
  buildLaw_extended.build id workspace coherent existing

/-! ## What a successful build leaves -/

/-- A built node stands for its entity: its children stand for the eligible entities inside it, in
their order, each as the kind that belongs there, and it holds what its kind declares and
registers. -/
structure Faithful (tree : BindingTree hierarchy) (id : NodeId) : Prop where
  stage : (tree.node id).stage = .built
  entities : (tree.children id).map (fun child => (tree.node child).entity) =
    (hierarchy.children (tree.node id).entity).filter hierarchy.isEligible
  kinds : ∀ child ∈ tree.children id,
    (tree.node id).kind.child? (hierarchy.kind (tree.node child).entity) =
      some (tree.node child).kind
  declarations : (tree.node id).fragments.declarations =
    (tree.node id).kind.declarations hierarchy (tree.node id).entity
  registrations : (tree.node id).fragments.registrations =
    (tree.node id).kind.registrations hierarchy (tree.node id).entity

namespace Extended

variable {before after : BindingTree hierarchy} {id : NodeId}

theorem entity_eq (extended : Extended before after id) {other : NodeId}
    (existing : other < before.size) : (after.node other).entity = (before.node other).entity := by
  by_cases same : other = id
  · rw [same, extended.entity]
  · rw [extended.kept other existing same]

theorem kind_eq (extended : Extended before after id) {other : NodeId}
    (existing : other < before.size) : (after.node other).kind = (before.node other).kind := by
  by_cases same : other = id
  · rw [same, extended.kind]
  · rw [extended.kept other existing same]

/-- A node other than the one that grows stays faithful. -/
theorem faithful (extended : Extended before after id) (coherent : before.Coherent)
    {other : NodeId} (existing : other < before.size) (different : other ≠ id)
    (faithful : Faithful before other) : Faithful after other := by
  have same := extended.kept other existing different
  have lists : after.children other = before.children other := by
    rw [children, children, same]
  constructor
  · rw [same, faithful.stage]
  · rw [lists, same, ← faithful.entities]
    apply List.map_congr_left
    intro child member
    exact extended.entity_eq (coherent.childLink other child member).1
  · intro child member
    rw [lists] at member
    have small := (coherent.childLink other child member).1
    rw [same, extended.entity_eq small, extended.kind_eq small]
    exact faithful.kinds child member
  · rw [same, faithful.declarations]
  · rw [same, faithful.registrations]

/-- What a node made after `id` encloses, it still does. -/
theorem encloses (extended : Extended before after id) (coherent : before.Coherent)
    {top below : NodeId} (existing : top < before.size) (later : id < top)
    (encloses : before.Encloses top below) : after.Encloses top below := by
  induction encloses with
  | refl => exact .refl after top
  | @tail middle last path member ih =>
      have different : middle ≠ id :=
        Nat.ne_of_gt (Nat.lt_of_lt_of_le later (coherent.encloses_le path))
      apply ih.trans
      apply Encloses.child
      rw [children, extended.kept middle (coherent.encloses_lt_size existing path) different]
      exact member

end Extended

/-- The subtree of `id` has been built: `id` and all the new nodes are faithful and stand in it. -/
structure Built (before after : BindingTree hierarchy) (id : NodeId) : Prop
    extends Extended before after id where
  faithful : ∀ other < after.size, other = id ∨ before.size ≤ other → Faithful after other
  reached : ∀ other < after.size, before.size ≤ other → after.Encloses id other

/-- Nodes for a list of entities have been made and built below `id`. The nodes in `made` are its
new children, and all the new nodes stand below them. -/
structure ChildrenBuilt (before after : BindingTree hierarchy) (id : NodeId)
    (entities : List EntityId) (made : List NodeId) : Prop extends Extended before after id where
  node : after.node id = { before.node id with children := before.children id ++ made }
  entities : made.map (fun child => (after.node child).entity) =
    entities.filter hierarchy.isEligible
  fresh : ∀ child ∈ made, before.size ≤ child
  kinds : ∀ child ∈ made,
    (before.node id).kind.child? (hierarchy.kind (after.node child).entity) =
      some (after.node child).kind
  faithful : ∀ other < after.size, before.size ≤ other → Faithful after other
  reached : ∀ other < after.size, before.size ≤ other → ∃ child ∈ made, after.Encloses child other

namespace ChildrenBuilt

variable {before middle after : BindingTree hierarchy} {id : NodeId} {entities : List EntityId}
  {made : List NodeId}

theorem nil (coherent : tree.Coherent) (id : NodeId) : ChildrenBuilt tree tree id [] [] where
  toExtended := .refl coherent id
  node := by
    rw [List.append_nil]
    rfl
  entities := rfl
  fresh := fun _ member => absurd member List.not_mem_nil
  kinds := fun _ member => absurd member List.not_mem_nil
  faithful := fun _ small large => absurd small (Nat.not_lt_of_le large)
  reached := fun _ small large => absurd small (Nat.not_lt_of_le large)

theorem skip {entity : EntityId} (ineligible : hierarchy.isEligible entity = false)
    (built : ChildrenBuilt before after id entities made) :
    ChildrenBuilt before after id (entity :: entities) made :=
  { built with
    entities := by rw [built.entities, List.filter_cons_of_neg (by simp [ineligible])] }

/-- One more child in front: its subtree is built while it is nobody's child, then it is attached,
then the others follow. -/
theorem cons (coherent : before.Coherent) (existing : id < before.size) {entity : EntityId}
    {kind : NodeKind} (eligible : hierarchy.isEligible entity = true)
    (supported : (before.node id).kind.child? (hierarchy.kind entity) = some kind)
    (first : Built (before.append (.fresh entity kind (some id))) middle before.size)
    (rest : ChildrenBuilt
      (middle.update id fun node => { node with children := node.children ++ [before.size] })
      after id entities made) :
    ChildrenBuilt before after id (entity :: entities) (before.size :: made) := by
  have attached := Extended.attach coherent existing first.toExtended
  have small := first.new_lt
  have above : id < middle.size := Nat.lt_trans existing small
  have old := first.node_eq_of_new existing
  have later := (Extended.addChild above attached.coherent).trans rest.toExtended
  have childEntity : (after.node before.size).entity = entity := by
    rw [later.entity_eq small, first.entity, node_append_size]
    rfl
  have childKind : (after.node before.size).kind = kind := by
    rw [later.kind_eq small, first.kind, node_append_size]
    rfl
  -- A new node belongs to the first child or to the rest, by its id.
  have split : ∀ other : Nat, before.size ≤ other →
      other < middle.size ∧
          (other = before.size ∨ (before.append (.fresh entity kind (some id))).size ≤ other) ∨
        middle.size ≤ other := by
    intro other large
    rw [size_append]
    omega
  constructor
  · exact attached.trans rest.toExtended
  · rw [rest.node, children, node_update_self above, old, List.append_assoc]
    rfl
  · rw [List.map_cons, childEntity, rest.entities, List.filter_cons_of_pos eligible]
  · intro child member
    rcases List.mem_cons.mp member with rfl | other
    · exact Nat.le_refl _
    · have large := rest.fresh child other
      rw [size_update] at large
      exact Nat.le_trans (Nat.le_of_lt small) large
  · intro child member
    rcases List.mem_cons.mp member with rfl | other
    · rw [childEntity, childKind]
      exact supported
    · have supports := rest.kinds child other
      rw [node_update_self above, old] at supports
      exact supports
  · intro other bound large
    rcases split other large with ⟨inFirst, origin⟩ | inRest
    · have different : other ≠ id := Nat.ne_of_gt (Nat.lt_of_lt_of_le existing large)
      exact later.faithful first.coherent inFirst different (first.faithful other inFirst origin)
    · exact rest.faithful other bound (by rw [size_update]; exact inRest)
  · intro other bound large
    rcases split other large with ⟨inFirst, origin⟩ | inRest
    · refine ⟨before.size, List.mem_cons_self, ?_⟩
      rcases origin with rfl | new
      · exact .refl after _
      · exact later.encloses first.coherent small existing (first.reached other inFirst new)
    · obtain ⟨child, member, encloses⟩ :=
        rest.reached other bound (by rw [size_update]; exact inRest)
      exact ⟨child, List.mem_cons_of_mem _ member, encloses⟩

theorem lt_of_mem_made (built : ChildrenBuilt before after id entities made) {child : NodeId}
    (member : child ∈ made) : child < after.size := by
  have listed : child ∈ after.children id := by
    rw [children, built.node]
    exact List.mem_append_right _ member
  exact (built.coherent.childLink id child listed).1

end ChildrenBuilt

section Finish

variable {workspace after : Workspace hierarchy} {id : NodeId} {made : List NodeId}

/-- The node in the end: what it contributed, the children it got, and the mark. -/
theorem ChildrenBuilt.node_finish (coherent : workspace.tree.Coherent)
    (existing : id < workspace.tree.size) (childless : workspace.tree.children id = [])
    (built : ChildrenBuilt (workspace.contribute id).tree after.tree id
      (hierarchy.children (workspace.tree.node id).entity) made) :
    (after.finish id).tree.node id =
      { workspace.tree.node id with
        fragments := ((workspace.tree.node id).kind.contribute hierarchy
          (workspace.tree.node id).entity workspace.session).1
        handle := (workspace.tree.node id).kind.handle? hierarchy (workspace.tree.node id).entity
        children := made
        stage := .built } := by
  have grown := (extended_contribute coherent existing).trans built.toExtended
  rw [Workspace.finish, node_update_self (Nat.lt_of_lt_of_le existing grown.grows), built.node,
    children, node_contribute existing]
  rw [children] at childless
  simp only [childless, List.nil_append]

/-- A node that has contributed and got its children is built by marking it so. -/
theorem ChildrenBuilt.finish (coherent : workspace.tree.Coherent)
    (existing : id < workspace.tree.size) (childless : workspace.tree.children id = [])
    (built : ChildrenBuilt (workspace.contribute id).tree after.tree id
      (hierarchy.children (workspace.tree.node id).entity) made) :
    Built workspace.tree (after.finish id).tree id := by
  have own := extended_contribute coherent existing
  have grown := own.trans built.toExtended
  have above : id < after.tree.size := Nat.lt_of_lt_of_le existing grown.grows
  have marked : Extended after.tree (after.finish id).tree id :=
    .update grown.coherent above rfl rfl rfl rfl
  have pieces := NodeKind.contribute_fragments hierarchy (workspace.tree.node id).entity
    (workspace.tree.node id).kind workspace.session
  have sizes : (workspace.contribute id).tree.size = workspace.tree.size := size_update ..
  have final := built.node_finish coherent existing childless
  have lists : (after.finish id).tree.children id = made := by rw [children, final]
  refine ⟨grown.trans marked, ?_, ?_⟩
  · rintro other small (rfl | large)
    · constructor
      · rw [final]
      · rw [lists, final, ← built.entities]
        apply List.map_congr_left
        intro child member
        exact marked.entity_eq (built.lt_of_mem_made member)
      · intro child member
        rw [lists] at member
        have supports := built.kinds child member
        rw [own.kind] at supports
        have small := built.lt_of_mem_made member
        rw [final, marked.entity_eq small, marked.kind_eq small]
        exact supports
      · rw [final]
        exact pieces.1
      · rw [final]
        exact pieces.2
    · rw [Workspace.finish, size_update] at small
      exact marked.faithful grown.coherent small
        (Nat.ne_of_gt (Nat.lt_of_lt_of_le existing large))
        (built.faithful other small (sizes ▸ large))
  · intro other small large
    rw [Workspace.finish, size_update] at small
    obtain ⟨child, member, encloses⟩ := built.reached other small (sizes ▸ large)
    have later : id < child := Nat.lt_of_lt_of_le existing (sizes ▸ built.fresh child member)
    apply (Encloses.child (lists ▸ member)).trans
    exact marked.encloses grown.coherent (built.lt_of_mem_made member) later encloses

end Finish

/-- Where `build` succeeds, it builds the subtree of a childless node for one of these entities. -/
def Builds (build : NodeId → Attempt (Workspace hierarchy) GenerationError Unit)
    (entities : List EntityId) : Prop :=
  ∀ workspace after : Workspace hierarchy, workspace.tree.Coherent →
    ∀ id < workspace.tree.size, workspace.tree.children id = [] →
      (workspace.tree.node id).entity ∈ entities →
      (build id).perform workspace = (.ok (), after) → Built workspace.tree after.tree id

/-- Building the nodes for a list of entities, if each new node is built as it should be. -/
theorem built_buildChildren
    {build : NodeId → Attempt (Workspace hierarchy) GenerationError Unit}
    {entities : List EntityId} (builds : Builds build entities) :
    ∀ {workspace after : Workspace hierarchy}, workspace.tree.Coherent →
      ∀ id < workspace.tree.size,
        (buildChildren build id (workspace.tree.node id).kind entities).perform workspace =
          (.ok (), after) →
        ∃ made, ChildrenBuilt workspace.tree after.tree id entities made := by
  induction entities with
  | nil =>
      intro workspace after coherent id existing performed
      rw [perform_buildChildren_nil] at performed
      cases performed
      exact ⟨[], .nil coherent id⟩
  | cons entity entities ih =>
      intro workspace after coherent id existing performed
      have others : Builds build entities :=
        fun start finish startCoherent below small childless member =>
          builds start finish startCoherent below small childless (List.mem_cons_of_mem _ member)
      have step := childStep build id (workspace.tree.node id).kind workspace entity entities
      generalize (buildChildren build id (workspace.tree.node id).kind (entity :: entities)).perform
        workspace = ended at step performed
      cases step with
      | refuse => cases performed
      | leave => cases performed
      | skip ineligible =>
          obtain ⟨made, built⟩ := ih others coherent id existing performed
          exact ⟨made, built.skip ineligible⟩
      | @make kind middle eligible supported made =>
          have new : (workspace.addNode entity kind id).tree.node workspace.tree.size =
              .fresh entity kind (some id) := node_append_size ..
          have first : Built (workspace.addNode entity kind id).tree middle.tree
              workspace.tree.size := by
            apply builds _ _ (coherent.append existing entity kind) _ _ _ _ made
            · exact Nat.lt_of_lt_of_eq (Nat.lt_succ_self _) (size_append ..).symm
            · rw [children, new]
              rfl
            · rw [new]
              exact List.mem_cons_self
          have attached : Extended workspace.tree
              (middle.attach workspace.tree.size id).tree id :=
            .attach coherent existing first.toExtended
          obtain ⟨rest, built⟩ := ih others attached.coherent id
            (Nat.lt_of_lt_of_le existing attached.grows) (attached.kind.symm ▸ performed)
          exact ⟨_, .cons coherent existing eligible supported first built⟩

/-- Building as deep as the hierarchy reaches below the node's entity. -/
theorem built_buildWithin (descends : hierarchy.Descends) (depth : Nat) :
    ∀ {workspace after : Workspace hierarchy}, workspace.tree.Coherent →
      ∀ id < workspace.tree.size, workspace.tree.children id = [] → 0 < depth →
        hierarchy.size < depth + (workspace.tree.node id).entity →
        (buildWithin depth id).perform workspace = (.ok (), after) →
        Built workspace.tree after.tree id := by
  induction depth with
  | zero => exact fun _ _ _ _ positive => absurd positive (Nat.lt_irrefl 0)
  | succ depth ih =>
      intro workspace after coherent id existing childless _ deep performed
      obtain ⟨-, middle, ran, rfl⟩ := exists_finish_of_buildWithin performed
      have own := extended_contribute coherent existing
      have small : id < (workspace.contribute id).tree.size :=
        Nat.lt_of_lt_of_le existing own.grows
      have builds : @Builds hierarchy (buildWithin depth)
          (hierarchy.children (workspace.tree.node id).entity) := by
        intro start finish startCoherent below belowSmall belowChildless member ranBelow
        obtain ⟨larger, inside⟩ := descends.lt_of_mem_children member
        exact ih startCoherent below belowSmall belowChildless (by omega) (by omega) ranBelow
      obtain ⟨made, built⟩ := built_buildChildren builds own.coherent id small
        (own.kind.symm ▸ ran)
      exact built.finish coherent existing childless

/-- A successful build of a node without children has built its whole subtree. -/
theorem built_build (descends : hierarchy.Descends) {workspace after : Workspace hierarchy}
    (coherent : workspace.tree.Coherent) {id : NodeId} (existing : id < workspace.tree.size)
    (childless : workspace.tree.children id = [])
    (performed : (build id).perform workspace = (.ok (), after)) :
    Built workspace.tree after.tree id :=
  built_buildWithin descends (hierarchy.size + 1) coherent id existing childless
    (Nat.succ_pos _) (by omega) performed

/-! ## Whole trees -/

/-- A tree whose root has been built: every node is faithful, and the lists of children lead to it
from the root, which stands for the root entity. -/
structure Complete (tree : BindingTree hierarchy) : Prop where
  coherent : tree.Coherent
  rootEntity : (tree.node root).entity = Hierarchy.root
  rootKind : (tree.node root).kind = .extension
  faithful : ∀ id < tree.size, Faithful tree id
  reached : ∀ id < tree.size, tree.Encloses root id

theorem coherent_start (hierarchy : Hierarchy) : (start hierarchy).Coherent where
  hasRoot := Nat.zero_lt_one
  rootParent := rfl
  parentBefore := fun _ small notRoot => absurd (Nat.lt_one_iff.mp small) notRoot
  childLink := by
    intro parent child member
    cases parent <;> exact absurd member List.not_mem_nil
  childrenNodup := by
    intro parent
    cases parent <;> exact List.nodup_nil

/-- A successful build of the root, in whatever session, leaves a complete tree. -/
theorem complete_build (descends : hierarchy.Descends) {session : Session}
    {after : Workspace hierarchy}
    (performed : (build root).perform { tree := start hierarchy, session } = (.ok (), after)) :
    Complete after.tree := by
  have built := built_build descends (coherent_start hierarchy) (coherent_start hierarchy).hasRoot
    rfl performed
  have origin : ∀ id : Nat, id = root ∨ (start hierarchy).size ≤ id := by
    intro id
    rcases Nat.eq_zero_or_pos id with top | new
    · exact Or.inl top
    · exact Or.inr new
  refine ⟨built.coherent, built.entity, built.kind, ?_, ?_⟩
  · exact fun id existing => built.faithful id existing (origin id)
  · intro id existing
    rcases origin id with rfl | new
    · exact .refl _ root
    · exact built.reached id existing new

end BindingTree

end RubyBindings
