/-
Module: RubyBindings.Proofs.BindingTree.Growth
Purpose: How a build ends. The hierarchy alone decides whether a node can be built, so a node that
  could not be built never can. A build that stops halfway leaves built nodes among the children of
  their parents, and unbuilt ones, which are nobody's children and can never be built either.
Main exports: BindingTree.result_build, BindingTree.Settled, BindingTree.Grown,
  BindingTree.Ended, BindingTree.ended_build
-/
import RubyBindings.Proofs.BindingTree.Building
import RubyBindings.Proofs.Hierarchy.Unsupported

namespace RubyBindings.BindingTree

variable {hierarchy : Hierarchy} {tree : BindingTree hierarchy}

/-! ## The result of a build -/

/-- An error if there is one, and otherwise success. -/
def refusal (error : Option GenerationError) : Except GenerationError Unit :=
  error.elim (.ok ()) .error

theorem refusal_eq_ok {error : Option GenerationError} {done : Unit} :
    refusal error = .ok done ↔ error = none := by
  cases error with
  | none => exact iff_of_true rfl rfl
  | some error => exact iff_of_false nofun nofun

theorem refusal_eq_error {error : Option GenerationError} {found : GenerationError} :
    refusal error = .error found ↔ error = some found := by
  cases error with
  | none => exact iff_of_false nofun nofun
  | some error => simp [refusal]

theorem requireStage_created {id : NodeId} (created : (tree.node id).stage = .created) :
    tree.requireStage .build [.created] .created id = .ok () := by
  simp [requireStage, created]

/-- A node that is not waiting to be built stays as it is, and the build is refused as out of
order. -/
theorem perform_build_of_ne_created (workspace : Workspace hierarchy) {id : NodeId}
    (notCreated : (workspace.tree.node id).stage ≠ .created) :
    (build id).perform workspace =
      (.error (.outOfOrder .build (workspace.tree.name id) (workspace.tree.node id).stage .created),
        workspace) := by
  rw [build, perform_buildWithin_succ, requireStage]
  simp [notCreated]

/-- The results of building nodes for a list of entities, if `below` gives those of single ones. -/
theorem result_buildChildren
    {build : NodeId → Attempt (Workspace hierarchy) GenerationError Unit}
    {below : NodeKind → EntityId → Option GenerationError}
    (each : ∀ (workspace : Workspace hierarchy) (id : NodeId),
      (workspace.tree.node id).stage = .created →
        ((build id).perform workspace).1 =
          refusal (below (workspace.tree.node id).kind (workspace.tree.node id).entity))
    (parent : NodeId) (kind : NodeKind) (entities : List EntityId) :
    ∀ workspace : Workspace hierarchy,
      ((buildChildren build parent kind entities).perform workspace).1 =
        refusal ((entities.filter hierarchy.isEligible).findSome?
          (hierarchy.unsupportedIn below kind)) := by
  induction entities with
  | nil => exact fun _ => rfl
  | cons entity entities ih =>
      intro workspace
      have fresh : ∀ (workspace : Workspace hierarchy) (childKind : NodeKind),
          ((build workspace.tree.size).perform (workspace.addNode entity childKind parent)).1 =
            refusal (below childKind entity) := by
        intro workspace childKind
        have new : (workspace.addNode entity childKind parent).tree.node workspace.tree.size =
            .fresh entity childKind (some parent) := node_append_size ..
        have first := each (workspace.addNode entity childKind parent) workspace.tree.size
          (by rw [new]; rfl)
        rw [new] at first
        exact first
      have step := childStep build parent kind workspace entity entities
      generalize (buildChildren build parent kind (entity :: entities)).perform workspace = ended
        at step ⊢
      cases step with
      | skip ineligible => rw [ih, List.filter_cons_of_neg (by simp [ineligible])]
      | refuse eligible unsupported =>
          rw [List.filter_cons_of_pos eligible, List.findSome?_cons, Hierarchy.unsupportedIn,
            unsupported]
          rfl
      | @leave childKind error after eligible supported made =>
          have first := fresh workspace childKind
          rw [made] at first
          have found : below childKind entity = some error := refusal_eq_error.mp first.symm
          rw [List.filter_cons_of_pos eligible, List.findSome?_cons, Hierarchy.unsupportedIn,
            supported]
          dsimp only
          rw [found]
          rfl
      | @make childKind middle eligible supported made =>
          have first := fresh workspace childKind
          rw [made] at first
          have found : below childKind entity = none := refusal_eq_ok.mp first.symm
          rw [List.filter_cons_of_pos eligible, List.findSome?_cons, Hierarchy.unsupportedIn,
            supported]
          dsimp only
          rw [found]
          exact ih _

theorem result_buildWithin (depth : Nat) :
    ∀ (workspace : Workspace hierarchy) (id : NodeId), (workspace.tree.node id).stage = .created →
      ((buildWithin depth id).perform workspace).1 =
        refusal (hierarchy.firstUnsupportedWithin depth (workspace.tree.node id).kind
          (workspace.tree.node id).entity) := by
  induction depth with
  | zero => exact fun _ _ _ => rfl
  | succ depth ih =>
      intro workspace id created
      have inside := result_buildChildren ih id (workspace.tree.node id).kind
        (hierarchy.children (workspace.tree.node id).entity) (workspace.contribute id)
      rw [perform_buildWithin_succ, requireStage_created created, Hierarchy.firstUnsupportedWithin,
        ← inside]
      dsimp only
      rcases (buildChildren (buildWithin depth) id (workspace.tree.node id).kind
        (hierarchy.children (workspace.tree.node id).entity)).perform (workspace.contribute id) with
        ⟨error | done, after⟩ <;> rfl

/-- Building a node that waits for it fails exactly with the error for the first entity inside that
cannot be wrapped where it stands. The session has no say in it, nor has what was built before. -/
theorem result_build (workspace : Workspace hierarchy) {id : NodeId}
    (created : (workspace.tree.node id).stage = .created) :
    ((build id).perform workspace).1 =
      refusal (hierarchy.firstUnsupported? (workspace.tree.node id).kind
        (workspace.tree.node id).entity) :=
  result_buildWithin (hierarchy.size + 1) workspace id created

/-! ## What a build leaves behind -/

/-- A node that a build has made. It is built and counts among the children of a node, or the build
stopped at it, because something inside its entity cannot be wrapped. Its own children are built, and
come in the order of their making. -/
structure Settled (tree : BindingTree hierarchy) (id : NodeId) : Prop where
  placed :
    (tree.node id).stage = .built ∧
        hierarchy.firstUnsupported? (tree.node id).kind (tree.node id).entity = none ∧
        (∃ parent, id ∈ tree.children parent) ∨
      (tree.node id).stage = .created ∧
        hierarchy.firstUnsupported? (tree.node id).kind (tree.node id).entity ≠ none
  built : ∀ child ∈ tree.children id, (tree.node child).stage = .built
  ascend : (tree.children id).Pairwise (· < ·)

/-- The tree has grown below `id` by the children in `made` and by whatever was made below these or
was left behind; all the new nodes are settled. -/
structure Grown (before after : BindingTree hierarchy) (id : NodeId) (made : List NodeId) : Prop
    extends Extended before after id where
  children : after.children id = before.children id ++ made
  fresh : ∀ child ∈ made, before.size ≤ child
  ascend : made.Pairwise (· < ·)
  built : ∀ child ∈ made, (after.node child).stage = .built
  settled : ∀ other < after.size, before.size ≤ other → Settled after other

/-- A settled node stays settled while a node made before it grows. -/
theorem Settled.extended {before after : BindingTree hierarchy} {id other : NodeId}
    (settled : Settled before other) (coherent : before.Coherent) (later : id < other)
    (existing : other < before.size) (extended : Extended before after id)
    (attached : ∀ child ∈ before.children id, child ∈ after.children id) : Settled after other := by
  have same := extended.kept other existing (Nat.ne_of_gt later)
  have lists : after.children other = before.children other := by rw [children, children, same]
  refine ⟨?_, ?_, ?_⟩
  · rw [same]
    rcases settled.placed with ⟨stage, supported, parent, member⟩ | unfinished
    · refine Or.inl ⟨stage, supported, parent, ?_⟩
      by_cases grows : parent = id
      · exact grows ▸ attached other (grows ▸ member)
      · rw [children, extended.kept parent (lt_size_of_mem_children member) grows]
        exact member
    · exact Or.inr unfinished
  · intro child member
    rw [lists] at member
    have larger : id < child := Nat.lt_trans later (coherent.lt_of_mem_children member)
    rw [extended.kept child (coherent.childLink other child member).1 (Nat.ne_of_gt larger)]
    exact settled.built child member
  · rw [lists]
    exact settled.ascend

namespace Grown

variable {before middle after : BindingTree hierarchy} {id : NodeId} {made more : List NodeId}

/-- Nothing new. -/
theorem ofSize (extended : Extended before after id) (size : after.size = before.size)
    (children : after.children id = before.children id) : Grown before after id [] where
  toExtended := extended
  children := by rw [children, List.append_nil]
  fresh := fun _ member => absurd member List.not_mem_nil
  ascend := .nil
  built := fun _ member => absurd member List.not_mem_nil
  settled := fun _ small large => absurd small (Nat.not_lt_of_le (size ▸ large))

theorem refl (coherent : tree.Coherent) (id : NodeId) : Grown tree tree id [] :=
  .ofSize (.refl coherent id) rfl rfl

/-- A change of the node itself that leaves its place and its links alone. -/
theorem update (coherent : tree.Coherent) (existing : id < tree.size)
    {change : BindingNode → BindingNode}
    (entity : (change (tree.node id)).entity = (tree.node id).entity)
    (kind : (change (tree.node id)).kind = (tree.node id).kind)
    (parent : (change (tree.node id)).parent = (tree.node id).parent)
    (children : (change (tree.node id)).children = (tree.node id).children) :
    Grown tree (tree.update id change) id [] := by
  apply Grown.ofSize (.update coherent existing entity kind parent children) (size_update ..)
  rw [BindingTree.children, node_update_self existing, children]
  rfl

theorem trans (existing : id < before.size) (first : Grown before middle id made)
    (second : Grown middle after id more) : Grown before after id (made ++ more) where
  toExtended := first.toExtended.trans second.toExtended
  children := by rw [second.children, first.children, List.append_assoc]
  fresh := by
    intro child member
    rcases List.mem_append.mp member with early | late
    · exact first.fresh child early
    · exact Nat.le_trans first.grows (second.fresh child late)
  ascend := by
    rw [List.pairwise_append]
    refine ⟨first.ascend, second.ascend, ?_⟩
    intro early earlyMember late lateMember
    have listed : early ∈ middle.children id :=
      first.children ▸ List.mem_append_right _ earlyMember
    exact Nat.lt_of_lt_of_le (first.coherent.childLink id early listed).1
      (second.fresh late lateMember)
  built := by
    intro child member
    rcases List.mem_append.mp member with early | late
    · have listed : child ∈ middle.children id := first.children ▸ List.mem_append_right _ early
      have different : child ≠ id := Nat.ne_of_gt (first.coherent.lt_of_mem_children listed)
      rw [second.kept child (first.coherent.childLink id child listed).1 different]
      exact first.built child early
    · exact second.built child late
  settled := by
    intro other small large
    by_cases early : other < middle.size
    · apply (first.settled other early large).extended first.coherent
        (Nat.lt_of_lt_of_le existing large) early second.toExtended
      intro child member
      rw [second.children]
      exact List.mem_append_left _ member
    · exact second.settled other small (Nat.le_of_not_lt early)

section New

variable {entity : EntityId} {kind : NodeKind}
  (below : Grown (before.append (.fresh entity kind (some id))) middle before.size made)
include below

/-- The children of a new node are those that were made for it. -/
theorem children_new : middle.children before.size = made := by
  rw [below.children, BindingTree.children, node_append_size]
  rfl

theorem entity_new : (middle.node before.size).entity = entity := by
  rw [below.entity, node_append_size]
  rfl

theorem kind_new : (middle.node before.size).kind = kind := by
  rw [below.kind, node_append_size]
  rfl

/-- A new node whose build stopped is nobody's child. -/
theorem ofUnfinished (existing : id < before.size)
    (stage : (middle.node before.size).stage = .created)
    (unsupported : hierarchy.firstUnsupported? kind entity ≠ none) :
    Grown before middle id [] where
  toExtended := .ofNew existing below.toExtended
  children := by
    rw [BindingTree.children, below.node_eq_of_new existing, List.append_nil]
    rfl
  fresh := fun _ member => absurd member List.not_mem_nil
  ascend := .nil
  built := fun _ member => absurd member List.not_mem_nil
  settled := by
    intro other small large
    rcases Nat.lt_or_eq_of_le large with later | rfl
    · exact below.settled other small (by rw [size_append]; exact later)
    · refine ⟨Or.inr ⟨stage, ?_⟩, ?_, ?_⟩
      · rw [below.kind_new, below.entity_new]
        exact unsupported
      · rw [below.children_new]
        exact below.built
      · rw [below.children_new]
        exact below.ascend

/-- A new node that has been built becomes the last child. -/
theorem attach (coherent : before.Coherent) (existing : id < before.size)
    (stage : (middle.node before.size).stage = .built)
    (supported : hierarchy.firstUnsupported? kind entity = none) :
    Grown before
      (middle.update id fun node => { node with children := node.children ++ [before.size] }) id
      [before.size] := by
  have attached := Extended.attach coherent existing below.toExtended
  have small := below.new_lt
  have above : id < middle.size := Nat.lt_trans existing small
  have own := Extended.addChild above attached.coherent
  have lists : (middle.update id fun node =>
      { node with children := node.children ++ [before.size] }).children id =
        before.children id ++ [before.size] := by
    rw [BindingTree.children, node_update_self above, below.node_eq_of_new existing]
    rfl
  have listed : before.size ∈ (middle.update id fun node =>
      { node with children := node.children ++ [before.size] }).children id :=
    lists ▸ List.mem_append_right _ (List.mem_singleton.mpr rfl)
  have kept := own.kept before.size small (Nat.ne_of_gt existing)
  have childrenKept : (middle.update id fun node =>
      { node with children := node.children ++ [before.size] }).children before.size = made := by
    rw [BindingTree.children, kept]
    exact below.children_new
  refine ⟨attached, lists, ?_, List.pairwise_singleton _ _, ?_, ?_⟩
  · intro child member
    exact Nat.le_of_eq (List.mem_singleton.mp member).symm
  · intro child member
    rw [List.mem_singleton.mp member, kept]
    exact stage
  · intro other bound large
    rw [size_update] at bound
    rcases Nat.lt_or_eq_of_le large with later | rfl
    · apply (below.settled other bound (by rw [size_append]; exact later)).extended below.coherent
        (Nat.lt_trans existing later) bound own
      intro child member
      rw [BindingTree.children, node_update_self above]
      exact List.mem_append_left _ member
    · refine ⟨Or.inl ⟨?_, ?_, id, listed⟩, ?_, ?_⟩
      · rw [kept]
        exact stage
      · rw [kept, below.kind_new, below.entity_new]
        exact supported
      · intro child member
        rw [childrenKept] at member
        have inMiddle : child ∈ middle.children before.size := below.children_new ▸ member
        have larger := below.coherent.lt_of_mem_children inMiddle
        rw [own.kept child (below.coherent.childLink _ child inMiddle).1
          (Nat.ne_of_gt (Nat.lt_trans existing larger))]
        exact below.built child member
      · rw [childrenKept]
        exact below.ascend

end New

end Grown

/-- A build of `id` has ended: the tree has grown below it, and it counts as built if the build was
a success, and is at its old stage if not. -/
structure Ended (before : BindingTree hierarchy) (id : NodeId)
    (performed : Except GenerationError Unit × Workspace hierarchy) : Prop where
  grown : ∃ made, Grown before performed.2.tree id made
  success : performed.1 = .ok () → (performed.2.tree.node id).stage = .built
  failure : performed.1 ≠ .ok () → (performed.2.tree.node id).stage = (before.node id).stage

/-- Every build of a waiting node for one of these entities ends as it should, with the error for
the first thing inside that cannot be wrapped. -/
def Ends (build : NodeId → Attempt (Workspace hierarchy) GenerationError Unit)
    (entities : List EntityId) : Prop :=
  ∀ workspace : Workspace hierarchy, workspace.tree.Coherent → ∀ id < workspace.tree.size,
    (workspace.tree.node id).stage = .created → (workspace.tree.node id).entity ∈ entities →
      Ended workspace.tree id ((build id).perform workspace) ∧
        ((build id).perform workspace).1 =
          refusal (hierarchy.firstUnsupported? (workspace.tree.node id).kind
            (workspace.tree.node id).entity)

/-- Building nodes for a list of entities lets the tree grow, and leaves the stage of their parent
alone. -/
theorem grown_buildChildren
    {build : NodeId → Attempt (Workspace hierarchy) GenerationError Unit} (kind : NodeKind)
    {entities : List EntityId} (ends : Ends build entities) :
    ∀ {workspace : Workspace hierarchy}, workspace.tree.Coherent →
      ∀ id < workspace.tree.size,
        let after := ((buildChildren build id kind entities).perform workspace).2.tree
        (∃ made, Grown workspace.tree after id made) ∧
          (after.node id).stage = (workspace.tree.node id).stage := by
  induction entities with
  | nil => exact fun coherent id _ => ⟨⟨[], .refl coherent id⟩, rfl⟩
  | cons entity entities ih =>
      intro workspace coherent id existing
      have others : Ends build entities := fun start startCoherent below small created member =>
        ends start startCoherent below small created (List.mem_cons_of_mem _ member)
      have fresh : ∀ childKind : NodeKind,
          Ended (workspace.addNode entity childKind id).tree workspace.tree.size
              ((build workspace.tree.size).perform (workspace.addNode entity childKind id)) ∧
            ((build workspace.tree.size).perform (workspace.addNode entity childKind id)).1 =
              refusal (hierarchy.firstUnsupported? childKind entity) := by
        intro childKind
        have new : (workspace.addNode entity childKind id).tree.node workspace.tree.size =
            .fresh entity childKind (some id) := node_append_size ..
        have ended := ends (workspace.addNode entity childKind id)
          (coherent.append existing entity childKind) workspace.tree.size
          (by simp [Workspace.addNode]) (by rw [new]; rfl) (by rw [new]; exact List.mem_cons_self)
        rw [new] at ended
        exact ended
      have step := childStep build id kind workspace entity entities
      generalize (buildChildren build id kind (entity :: entities)).perform workspace = ended
        at step ⊢
      cases step with
      | skip => exact ih others coherent id existing
      | refuse => exact ⟨⟨[], .refl coherent id⟩, rfl⟩
      | @leave childKind error after _ _ made =>
          obtain ⟨⟨⟨new, below⟩, -, failure⟩, result⟩ := fresh childKind
          rw [made] at below failure result
          have found : hierarchy.firstUnsupported? childKind entity = some error :=
            refusal_eq_error.mp result.symm
          have unsupported : hierarchy.firstUnsupported? childKind entity ≠ none := by
            rw [found]
            exact Option.some_ne_none error
          have stage : (after.tree.node workspace.tree.size).stage = .created := by
            rw [failure (by simp)]
            exact congrArg BindingNode.stage (node_append_size ..)
          exact ⟨⟨[], below.ofUnfinished existing stage unsupported⟩,
            congrArg _ (below.node_eq_of_new existing)⟩
      | @make childKind after _ _ made =>
          obtain ⟨⟨⟨new, below⟩, success, -⟩, result⟩ := fresh childKind
          rw [made] at below success result
          have old := below.node_eq_of_new existing
          have supports : hierarchy.firstUnsupported? childKind entity = none :=
            refusal_eq_ok.mp result.symm
          have attached : Grown workspace.tree (after.attach workspace.tree.size id).tree id
              [workspace.tree.size] :=
            below.attach coherent existing (success rfl) supports
          have above : id < after.tree.size := Nat.lt_trans existing below.new_lt
          have kept : ((after.attach workspace.tree.size id).tree.node id).stage =
              (workspace.tree.node id).stage := by
            rw [Workspace.attach, node_update_self above, old]
          obtain ⟨⟨rest, grown⟩, stage⟩ := ih others attached.coherent id
            (Nat.lt_of_lt_of_le existing attached.grows)
          exact ⟨⟨_, attached.trans existing grown⟩, stage.trans kept⟩

theorem ended_buildWithin (descends : hierarchy.Descends) (depth : Nat) :
    ∀ {workspace : Workspace hierarchy}, workspace.tree.Coherent →
      ∀ id < workspace.tree.size, 0 < depth →
        hierarchy.size < depth + (workspace.tree.node id).entity →
        Ended workspace.tree id ((buildWithin depth id).perform workspace) := by
  induction depth with
  | zero => exact fun _ _ _ positive => absurd positive (Nat.lt_irrefl 0)
  | succ depth ih =>
      intro workspace coherent id existing _ deep
      rw [perform_buildWithin_succ]
      cases workspace.tree.requireStage .build [.created] .created id with
      | error error => exact ⟨⟨[], .refl coherent id⟩, nofun, fun _ => rfl⟩
      | ok passed =>
          have ends : @Ends hierarchy (buildWithin depth)
              (hierarchy.children (workspace.tree.node id).entity) := by
            intro start startCoherent below small created member
            obtain ⟨larger, inside⟩ := descends.lt_of_mem_children member
            refine ⟨ih startCoherent below small (by omega) (by omega), ?_⟩
            rw [result_buildWithin depth start below created,
              Hierarchy.firstUnsupportedWithin_eq descends (by omega) (by omega)]
          have own : Grown workspace.tree (workspace.contribute id).tree id [] :=
            .update coherent existing rfl rfl rfl rfl
          have below := grown_buildChildren (workspace.tree.node id).kind ends own.coherent id
            (Nat.lt_of_lt_of_le existing own.grows)
          have stage : ((workspace.contribute id).tree.node id).stage =
              (workspace.tree.node id).stage := by rw [node_contribute existing]
          dsimp only at below ⊢
          rcases performed : (buildChildren (buildWithin depth) id (workspace.tree.node id).kind
            (hierarchy.children (workspace.tree.node id).entity)).perform
            (workspace.contribute id) with ⟨error | done, after⟩
          · rw [performed] at below
            obtain ⟨⟨made, grown⟩, kept⟩ := below
            exact ⟨⟨_, own.trans existing grown⟩, nofun, fun _ => kept.trans stage⟩
          · rw [performed] at below
            obtain ⟨⟨made, grown⟩, kept⟩ := below
            have whole := own.trans existing grown
            have above : id < after.tree.size := Nat.lt_of_lt_of_le existing whole.grows
            have marked : Grown after.tree (after.finish id).tree id [] :=
              .update grown.coherent above rfl rfl rfl rfl
            refine ⟨⟨_, whole.trans existing marked⟩, fun _ => ?_, fun failed => absurd rfl failed⟩
            exact congrArg BindingNode.stage (node_update_self above _)

/-- Whatever node is built, and however the build ends. -/
theorem ended_build (descends : hierarchy.Descends) {workspace : Workspace hierarchy}
    (coherent : workspace.tree.Coherent) {id : NodeId} (existing : id < workspace.tree.size) :
    Ended workspace.tree id ((build id).perform workspace) :=
  ended_buildWithin descends (hierarchy.size + 1) coherent id existing (Nat.succ_pos _) (by omega)

end RubyBindings.BindingTree
