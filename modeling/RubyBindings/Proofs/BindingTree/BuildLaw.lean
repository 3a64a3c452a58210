/-
Module: RubyBindings.Proofs.BindingTree.BuildLaw
Purpose: Builds step by step. Each step has an equation for what it does to a workspace, and whatever
  every step bears out is a law of builds: it holds of the build of any node, whether that succeeds or
  is stopped.
Main exports: BindingTree.childStep, BindingTree.perform_buildWithin_succ,
  BindingTree.exists_finish_of_buildWithin, BindingTree.BuildLaw, BindingTree.BuildLaw.build
-/
import RubyBindings.BindingTree.Build
import RubyBindings.Proofs.Attempt

namespace RubyBindings.BindingTree

variable {hierarchy : Hierarchy}

/-! ## The run of a build -/

section Run

variable (build : NodeId → Attempt (Workspace hierarchy) GenerationError Unit) (parent : NodeId)
  (kind : NodeKind) (workspace : Workspace hierarchy)

theorem perform_buildChildren_nil :
    (buildChildren build parent kind []).perform workspace = (.ok (), workspace) := rfl

/-- An entity that is not eligible is passed over. -/
theorem perform_buildChildren_skip {entity : EntityId} (entities : List EntityId)
    (ineligible : hierarchy.isEligible entity = false) :
    (buildChildren build parent kind (entity :: entities)).perform workspace =
      (buildChildren build parent kind entities).perform workspace := by
  rw [buildChildren]
  simp only [ineligible, Bool.false_eq_true, if_false]

/-- An eligible entity that has no place here ends the build. -/
theorem perform_buildChildren_refuse {entity : EntityId} (entities : List EntityId)
    (eligible : hierarchy.isEligible entity = true)
    (unsupported : kind.child? (hierarchy.kind entity) = none) :
    (buildChildren build parent kind (entity :: entities)).perform workspace =
      (.error (.unsupportedEntity (hierarchy.kind entity) (hierarchy.qualifiedName entity) kind),
        workspace) := by
  rw [buildChildren]
  simp only [eligible, if_true, unsupported]
  rw [Attempt.perform_bind, Attempt.perform_throw]

/-- Any other entity gets a node, which is built and only then counts as a child. -/
theorem perform_buildChildren_make {entity : EntityId} (entities : List EntityId)
    {childKind : NodeKind} (eligible : hierarchy.isEligible entity = true)
    (supported : kind.child? (hierarchy.kind entity) = some childKind) :
    (buildChildren build parent kind (entity :: entities)).perform workspace =
      match (build workspace.tree.size).perform (workspace.addNode entity childKind parent) with
      | (.error error, after) => (.error error, after)
      | (.ok (), after) =>
        (buildChildren build parent kind entities).perform
          (after.attach workspace.tree.size parent) := by
  rw [buildChildren]
  simp only [eligible, if_true, supported, Attempt.perform_bind, Attempt.perform_get,
    Attempt.perform_modify]
  rcases (build workspace.tree.size).perform (workspace.addNode entity childKind parent) with
    ⟨error | done, after⟩
  · rfl
  · rfl

/-- What comes of the first of some entities, and of the others after it. -/
inductive ChildStep (entity : EntityId) (entities : List EntityId) :
    Except GenerationError Unit × Workspace hierarchy → Prop
  | skip (ineligible : hierarchy.isEligible entity = false) :
      ChildStep entity entities ((buildChildren build parent kind entities).perform workspace)
  | refuse (eligible : hierarchy.isEligible entity = true)
      (unsupported : kind.child? (hierarchy.kind entity) = none) :
      ChildStep entity entities
        (.error (.unsupportedEntity (hierarchy.kind entity) (hierarchy.qualifiedName entity) kind),
          workspace)
  | leave {childKind : NodeKind} {error : GenerationError} {after : Workspace hierarchy}
      (eligible : hierarchy.isEligible entity = true)
      (supported : kind.child? (hierarchy.kind entity) = some childKind)
      (made : (build workspace.tree.size).perform (workspace.addNode entity childKind parent) =
        (.error error, after)) :
      ChildStep entity entities (.error error, after)
  | make {childKind : NodeKind} {middle : Workspace hierarchy}
      (eligible : hierarchy.isEligible entity = true)
      (supported : kind.child? (hierarchy.kind entity) = some childKind)
      (made : (build workspace.tree.size).perform (workspace.addNode entity childKind parent) =
        (.ok (), middle)) :
      ChildStep entity entities ((buildChildren build parent kind entities).perform
        (middle.attach workspace.tree.size parent))

/-- Whatever building nodes for some entities comes to, it begins with one of these steps. -/
theorem childStep (entity : EntityId) (entities : List EntityId) :
    ChildStep build parent kind workspace entity entities
      ((buildChildren build parent kind (entity :: entities)).perform workspace) := by
  cases eligible : hierarchy.isEligible entity with
  | false =>
      rw [perform_buildChildren_skip _ _ _ _ _ eligible]
      exact .skip eligible
  | true =>
      cases supported : kind.child? (hierarchy.kind entity) with
      | none =>
          rw [perform_buildChildren_refuse _ _ _ _ _ eligible supported]
          exact .refuse eligible supported
      | some childKind =>
          rw [perform_buildChildren_make _ _ _ _ _ eligible supported]
          rcases made : (build workspace.tree.size).perform
            (workspace.addNode entity childKind parent) with ⟨error | done, middle⟩
          · exact .leave eligible supported made
          · exact .make eligible supported made

/-- One level of building: the stage is looked at, the node contributes, the entities inside get
their nodes, and then the node counts as built. -/
theorem perform_buildWithin_succ (depth : Nat) (id : NodeId) :
    (buildWithin (depth + 1) id).perform workspace =
      match workspace.tree.requireStage .build [.created] .created id with
      | .error error => (.error error, workspace)
      | .ok () =>
        let node := workspace.tree.node id
        match (buildChildren (buildWithin depth) id node.kind
            (hierarchy.children node.entity)).perform (workspace.contribute id) with
        | (.error error, after) => (.error error, after)
        | (.ok (), after) => (.ok (), after.finish id) := by
  simp only [buildWithin, Attempt.perform_bind, Attempt.perform_get, Attempt.perform_ofExcept,
    Attempt.perform_modify]
  cases workspace.tree.requireStage .build [.created] .created id with
  | error error => rfl
  | ok passed =>
      dsimp only
      rcases (buildChildren (buildWithin depth) id (workspace.tree.node id).kind
        (hierarchy.children (workspace.tree.node id).entity)).perform (workspace.contribute id) with
        ⟨error | done, after⟩
      · rfl
      · rfl

end Run

/-- What a successful build has done: the node was waiting for it, the entities inside have got their
nodes, and then the node was marked as built. -/
theorem exists_finish_of_buildWithin {depth : Nat} {id : NodeId}
    {workspace after : Workspace hierarchy}
    (performed : (buildWithin (depth + 1) id).perform workspace = (.ok (), after)) :
    (workspace.tree.node id).stage = .created ∧ ∃ middle : Workspace hierarchy,
      (buildChildren (buildWithin depth) id (workspace.tree.node id).kind
          (hierarchy.children (workspace.tree.node id).entity)).perform (workspace.contribute id) =
        (.ok (), middle) ∧ after = middle.finish id := by
  rw [perform_buildWithin_succ] at performed
  cases allowed : workspace.tree.requireStage .build [.created] .created id with
  | error error =>
      rw [allowed] at performed
      cases performed
  | ok passed =>
      rw [allowed] at performed
      dsimp only at performed
      rcases made : (buildChildren (buildWithin depth) id (workspace.tree.node id).kind
        (hierarchy.children (workspace.tree.node id).entity)).perform (workspace.contribute id) with
        ⟨error | done, middle⟩
      · rw [made] at performed
        cases performed
      · rw [made] at performed
        cases performed
        exact ⟨by simpa [requireStage] using allowed, middle, rfl, rfl⟩

/-! ## Laws of builds -/

/-- A law is about the node that is built, the workspace before and how the build has ended. If each
step bears it out, it holds of every build, however deep that goes and wherever it stops. -/
structure BuildLaw
    (law : NodeId → Workspace hierarchy → Except GenerationError Unit × Workspace hierarchy → Prop) :
    Prop where
  idle : ∀ {id workspace} result, law id workspace (result, workspace)
  contribute : ∀ {id workspace ended}, law id (workspace.contribute id) ended →
    law id workspace ended
  finish : ∀ {id workspace after}, law id workspace (.ok (), after) →
    law id workspace (.ok (), after.finish id)
  /-- A build that has stopped inside a new node leaves that node behind. -/
  leave : ∀ {parent workspace scope entity childKind error after} {kind : NodeKind},
    entity ∈ hierarchy.children scope → kind.child? (hierarchy.kind entity) = some childKind →
      law workspace.tree.size (workspace.addNode entity childKind parent) (.error error, after) →
        law parent workspace (.error error, after)
  /-- A new node that has been built is attached, and then the build goes on. -/
  make : ∀ {parent workspace scope entity childKind middle ended} {kind : NodeKind},
    entity ∈ hierarchy.children scope → kind.child? (hierarchy.kind entity) = some childKind →
      law workspace.tree.size (workspace.addNode entity childKind parent) (.ok (), middle) →
        law parent (middle.attach workspace.tree.size parent) ended → law parent workspace ended

namespace BuildLaw

variable
  {law : NodeId → Workspace hierarchy → Except GenerationError Unit × Workspace hierarchy → Prop}
  (holds : BuildLaw law)
include holds

theorem buildChildren {build : NodeId → Attempt (Workspace hierarchy) GenerationError Unit}
    (each : ∀ id workspace, law id workspace ((build id).perform workspace)) (parent : NodeId)
    (kind : NodeKind) {scope : EntityId} {entities : List EntityId}
    (inside : entities ⊆ hierarchy.children scope) :
    ∀ workspace, law parent workspace
      ((BindingTree.buildChildren build parent kind entities).perform workspace) := by
  induction entities with
  | nil => exact fun _ => holds.idle (.ok ())
  | cons entity entities ih =>
      intro workspace
      obtain ⟨member, others⟩ := List.cons_subset.mp inside
      have step := childStep build parent kind workspace entity entities
      generalize (BindingTree.buildChildren build parent kind (entity :: entities)).perform
        workspace = ended at step ⊢
      cases step with
      | skip => exact ih others workspace
      | refuse => exact holds.idle _
      | @leave childKind _ _ _ supported made =>
          have below := each workspace.tree.size (workspace.addNode entity childKind parent)
          rw [made] at below
          exact holds.leave member supported below
      | @make childKind _ _ supported made =>
          have below := each workspace.tree.size (workspace.addNode entity childKind parent)
          rw [made] at below
          exact holds.make member supported below (ih others _)

theorem buildWithin (depth : Nat) :
    ∀ id workspace, law id workspace ((BindingTree.buildWithin depth id).perform workspace) := by
  induction depth with
  | zero => exact fun _ _ => holds.idle (.ok ())
  | succ depth ih =>
      intro id workspace
      rw [perform_buildWithin_succ]
      cases workspace.tree.requireStage .build [.created] .created id with
      | error error => exact holds.idle _
      | ok passed =>
          have below := holds.contribute (holds.buildChildren ih id (workspace.tree.node id).kind
            (List.Subset.refl (hierarchy.children (workspace.tree.node id).entity))
            (workspace.contribute id))
          dsimp only
          rcases made : (BindingTree.buildChildren (BindingTree.buildWithin depth) id
            (workspace.tree.node id).kind
            (hierarchy.children (workspace.tree.node id).entity)).perform
            (workspace.contribute id) with ⟨error | done, after⟩
          · rw [made] at below
            exact below
          · rw [made] at below
            exact holds.finish below

theorem build (id : NodeId) (workspace : Workspace hierarchy) :
    law id workspace ((BindingTree.build id).perform workspace) :=
  holds.buildWithin (hierarchy.size + 1) id workspace

end BuildLaw

end RubyBindings.BindingTree
