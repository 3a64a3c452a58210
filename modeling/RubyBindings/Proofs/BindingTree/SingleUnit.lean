/-
Module: RubyBindings.Proofs.BindingTree.SingleUnit
Purpose: One tree makes at most one unit. A unit is rendered once the root has been processed, which
  is never undone; so no second call gets past rendering, and sinks are offered one unit at most. A
  tree whose root cannot be built makes none, nor does one of which a part was processed on its own.
Main exports: UnitSink.noting, BindingTree.perform_write, BindingTree.Barred,
  BindingTree.SingleUnit, BindingTree.single_unit
-/
import RubyBindings.Output.Sink
import RubyBindings.Proofs.BindingTree.Lifecycle

namespace RubyBindings

variable {hierarchy : Hierarchy}

/-- The sink that does what `sink` does, and also writes down each unit that it is offered. -/
def UnitSink.noting {σ : Type} (sink : UnitSink σ) : UnitSink (List SourceUnit × σ) := fun unit =>
  Attempt.ofFunction fun (offered, world) =>
    let (result, world) := (sink unit).perform world
    (result, offered ++ [unit], world)

/-! ## Runs of calls -/

namespace TreeCall

/-- The unit with which a call gets past rendering, if it does. -/
def rendered (tree : BindingTree hierarchy) : TreeCall → List SourceUnit
  | .render layout | .write _ layout _ _ =>
    ((BindingTree.render layout).perform tree).1.toOption.toList
  | .build .. | .sort _ | .emit _ | .process _ => []

/-- The units that a call offers to its sink. -/
def offered (tree : BindingTree hierarchy) : TreeCall → List SourceUnit
  | .write _ layout sink world =>
    ((BindingTree.write layout (UnitSink.noting sink)).perform (tree, [], world)).2.2.1
  | .build .. | .sort _ | .emit _ | .process _ | .render _ => []

end TreeCall

namespace BindingTree

variable {tree : BindingTree hierarchy}

/-- The tree after some calls, each made on what the one before has left. -/
def afterCalls (tree : BindingTree hierarchy) (calls : List TreeCall) : BindingTree hierarchy :=
  calls.foldl TreeCall.after tree

/-- Every call of a run names a node that is there by then. -/
def Admits : BindingTree hierarchy → List TreeCall → Prop
  | _, [] => True
  | tree, call :: calls => call.NamesNodeOf tree ∧ Admits (call.after tree) calls

/-- The units that the calls of a run bring out one after the other. -/
def unitsAlong (units : BindingTree hierarchy → TreeCall → List SourceUnit) :
    BindingTree hierarchy → List TreeCall → List SourceUnit
  | _, [] => []
  | tree, call :: calls => units tree call ++ unitsAlong units (call.after tree) calls

theorem Reachable.afterCalls (reachable : tree.Reachable) {calls : List TreeCall}
    (admits : tree.Admits calls) : (tree.afterCalls calls).Reachable := by
  induction calls generalizing tree with
  | nil => exact reachable
  | cons call calls ih => exact ih (.call reachable call admits.1) admits.2

/-! ## One write -/

/-- A write renders, and then hands the unit to the sink; either step may end it. -/
theorem perform_write {σ : Type} (layout : UnitLayout) (sink : UnitSink σ)
    (tree : BindingTree hierarchy) (world : σ) :
    (write layout sink).perform (tree, world) =
      match (render layout).perform tree with
      | (.error error, after) =>
        (.error ((Report.ofGeneration error).because
          ("failed to generate '" ++ tree.unitName ++ "'")), after, world)
      | (.ok unit, after) =>
        match (sink unit).perform world with
        | (.error report, world) =>
          (.error (report.because ("failed to write '" ++ unit.name ++ "'")), after, world)
        | (.ok (), world) => (.ok unit, after, world) := by
  simp only [write, Attempt.perform_bind, Attempt.perform_get, Attempt.perform_mapError,
    Attempt.perform_within, Attempt.perform_pure]
  rcases (render layout).perform tree with ⟨error | unit, after⟩
  · rfl
  · dsimp only [Except.mapError]
    rcases (sink unit).perform world with ⟨error | done, later⟩ <;> rfl

/-- What a write does with its sink. -/
structure WriteOutcome {σ : Type} (tree : BindingTree hierarchy) (layout : UnitLayout)
    (sink : UnitSink σ) (world : σ) : Prop where
  /-- Writing the offers down changes nothing else. -/
  noted :
    let plain := (write layout sink).perform (tree, world)
    let noted := (write layout (UnitSink.noting sink)).perform (tree, [], world)
    noted.1 = plain.1 ∧ noted.2.1 = plain.2.1 ∧ noted.2.2.2 = plain.2.2
  /-- Where no unit is rendered, the sink is not called. -/
  unrendered : ∀ error, ((render layout).perform tree).1 = .error error →
    (TreeCall.write σ layout sink world).offered tree = [] ∧
      ((write layout sink).perform (tree, world)).2.2 = world ∧
      ((write layout sink).perform (tree, world)).1 =
        .error ((Report.ofGeneration error).because
          ("failed to generate '" ++ tree.unitName ++ "'"))
  /-- A rendered unit is offered once, and returned if the sink accepts it. -/
  rendered : ∀ unit, ((render layout).perform tree).1 = .ok unit →
    (TreeCall.write σ layout sink world).offered tree = [unit] ∧
      ((write layout sink).perform (tree, world)).2.2 = ((sink unit).perform world).2 ∧
      ((write layout sink).perform (tree, world)).1 =
        match ((sink unit).perform world).1 with
        | .ok () => .ok unit
        | .error report => .error (report.because ("failed to write '" ++ unit.name ++ "'"))

theorem writeOutcome {σ : Type} (tree : BindingTree hierarchy) (layout : UnitLayout)
    (sink : UnitSink σ) (world : σ) : WriteOutcome tree layout sink world := by
  have noting : ∀ unit, (UnitSink.noting sink unit).perform ([], world) =
      (((sink unit).perform world).1, [unit], ((sink unit).perform world).2) := fun _ => rfl
  refine ⟨?_, ?_, ?_⟩
  · simp only [perform_write]
    rcases (render layout).perform tree with ⟨error | unit, after⟩
    · exact ⟨rfl, rfl, rfl⟩
    · dsimp only
      rw [noting]
      rcases (sink unit).perform world with ⟨report | done, later⟩ <;> exact ⟨rfl, rfl, rfl⟩
  · intro error failed
    rw [TreeCall.offered, perform_write, perform_write]
    rcases performed : (render layout).perform tree with ⟨other | unit, after⟩
    · rw [performed] at failed
      cases failed
      exact ⟨rfl, rfl, rfl⟩
    · rw [performed] at failed
      cases failed
  · intro unit made
    rw [TreeCall.offered, perform_write, perform_write]
    rcases performed : (render layout).perform tree with ⟨error | other, after⟩
    · rw [performed] at made
      cases made
    · rw [performed] at made
      cases made
      dsimp only
      rw [noting]
      rcases (sink unit).perform world with ⟨report | done, later⟩ <;> exact ⟨rfl, rfl, rfl⟩

/-- A call offers what it has rendered, or nothing at all. -/
theorem offered_sublist_rendered (tree : BindingTree hierarchy) (call : TreeCall) :
    (call.offered tree).Sublist (call.rendered tree) := by
  cases call with
  | build | sort | emit | process | render => exact List.nil_sublist _
  | write σ layout sink world =>
      have outcome := writeOutcome tree layout sink world
      rw [TreeCall.rendered]
      cases performed : ((render layout).perform tree).1 with
      | error error =>
          rw [(outcome.unrendered error performed).1]
          exact List.nil_sublist _
      | ok unit =>
          rw [(outcome.rendered unit performed).1]
          exact List.Sublist.refl _

/-! ## Trees that render no unit any more -/

/-- No unit will ever be rendered: what the root stands for cannot be wrapped, or something below
the root, or the root itself, has been processed. -/
def Barred (tree : BindingTree hierarchy) : Prop :=
  hierarchy.firstUnsupported? .extension Hierarchy.root ≠ none ∨
    ∃ id, tree.Encloses root id ∧ (tree.node id).stage = .processed

theorem eq_processed_of_le_progress {stage : NodeStage}
    (late : NodeStage.processed.progress ≤ stage.progress) : stage = .processed := by
  cases stage with
  | processed => rfl
  | created | built | sorted => exact absurd late (by decide)

/-- Calls only move nodes forwards, so a barred tree stays barred. -/
theorem Barred.advances {before after : BindingTree hierarchy} (barred : Barred before)
    (coherent : before.Coherent) (advances : Advances before after) : Barred after := by
  rcases barred with unsupported | ⟨id, encloses, processed⟩
  · exact Or.inl unsupported
  · refine Or.inr ⟨id, advances.encloses encloses, eq_processed_of_le_progress ?_⟩
    rw [← processed]
    exact advances.stage id (coherent.encloses_lt_size coherent.hasRoot encloses)

/-- A unit is rendered only from a tree that is sorted throughout, and the root is processed by
it. -/
theorem Orderly.sorted_of_render (orderly : tree.Orderly) {layout : UnitLayout} {unit : SourceUnit}
    (made : ((BindingTree.render layout).perform tree).1 = .ok unit) :
    (∀ below, tree.Encloses root below → (tree.node below).stage = .sorted) ∧
      Barred ((BindingTree.render layout).perform tree).2 := by
  have coherent := orderly.coherent
  rcases performed : (BindingTree.render layout).perform tree with ⟨error | other, after⟩
  · rw [performed] at made
    cases made
  · have processed := (process_of_render performed).2
    rw [perform_process] at processed
    cases allowed : tree.requireSorted root with
    | error error =>
        rw [allowed] at processed
        cases processed
    | ok passed =>
        rw [allowed] at processed
        cases processed
        have sorted := (coherent.requireSorted_eq_ok coherent.hasRoot).mp allowed
        have moved :=
          (handedUp_aggregate coherent coherent.hasRoot).fragmentsMoved coherent coherent.hasRoot
        refine ⟨sorted, Or.inr ⟨root, .refl _ root, ?_⟩⟩
        rw [moved.root rfl]

theorem Barred.not_rendered (barred : tree.Barred) (orderly : tree.Orderly) (layout : UnitLayout)
    (unit : SourceUnit) : ((render layout).perform tree).1 ≠ .ok unit := by
  intro made
  have sorted := (orderly.sorted_of_render made).1
  rcases barred with unsupported | ⟨id, encloses, processed⟩
  · have begun : (tree.node root).stage ≠ .created := by
      rw [sorted root (.refl tree root)]
      exact nofun
    have supported := orderly.supported root orderly.coherent.hasRoot begun
    rw [orderly.rootKind, orderly.rootEntity] at supported
    exact unsupported supported
  · rw [sorted id encloses] at processed
    cases processed

/-- A build of the root that meets something that cannot be wrapped bars the tree for good. -/
theorem Orderly.barred_of_unsupported (orderly : tree.Orderly) {session : Session}
    {kind : DeclarationKind} {name : String} {parent : NodeKind}
    (failed : ((BindingTree.build root).perform { tree, session }).1 =
      .error (.unsupportedEntity kind name parent)) : tree.Barred := by
  by_cases created : (tree.node root).stage = .created
  · rw [result_build { tree, session } created] at failed
    dsimp only at failed
    rw [orderly.rootKind, orderly.rootEntity] at failed
    rw [refusal_eq_error] at failed
    refine Or.inl ?_
    rw [failed]
    exact nofun
  · rw [perform_build_of_ne_created { tree, session } created] at failed
    cases failed

/-- A node below the root that has been processed bars the tree for good. -/
theorem Orderly.barred_of_process (orderly : tree.Orderly) {id : NodeId}
    (encloses : tree.Encloses root id) (success : ((BindingTree.process id).perform tree).1 = .ok ()) :
    Barred ((BindingTree.process id).perform tree).2 := by
  have coherent := orderly.coherent
  have existing := coherent.encloses_lt_size coherent.hasRoot encloses
  rw [perform_process] at success ⊢
  cases allowed : tree.requireSorted id with
  | error error =>
      rw [allowed] at success
      cases success
  | ok passed =>
      have handed := handedUp_aggregate coherent existing
      refine Or.inr ⟨id, handed.forest.encloses_iff.mpr encloses, ?_⟩
      have listed : id ∈ tree.preorder id := (coherent.mem_preorder existing).mpr (.refl tree id)
      dsimp only
      rw [handed.node, aggregatedNode, if_pos listed]

/-! ## Runs and their units -/

/-- A barred tree renders nothing, whatever calls follow. -/
theorem Barred.unitsAlong_eq_nil (descends : hierarchy.Descends) {calls : List TreeCall}
    (barred : tree.Barred) (orderly : tree.Orderly) (admits : tree.Admits calls) :
    unitsAlong (fun tree call => call.rendered tree) tree calls = [] := by
  induction calls generalizing tree with
  | nil => rfl
  | cons call calls ih =>
      obtain ⟨afterOrderly, advances⟩ := orderly.call descends call admits.1
      have none : call.rendered tree = [] := by
        cases call with
        | build | sort | emit | process => rfl
        | render layout | write σ layout sink world =>
            rw [TreeCall.rendered]
            cases performed : ((render layout).perform tree).1 with
            | error error => rfl
            | ok unit => exact absurd performed (barred.not_rendered orderly layout unit)
      rw [unitsAlong, none, List.nil_append]
      exact ih (barred.advances orderly.coherent advances) afterOrderly admits.2

/-- A call renders nothing, or it renders one unit and bars the tree for all that follow. -/
theorem Orderly.rendered_or_barred (orderly : tree.Orderly) (call : TreeCall) :
    call.rendered tree = [] ∨ (call.rendered tree).length = 1 ∧ Barred (call.after tree) := by
  have rendering : ∀ layout, (TreeCall.render layout).rendered tree = [] ∨
      ((TreeCall.render layout).rendered tree).length = 1 ∧
        Barred ((TreeCall.render layout).after tree) := by
    intro layout
    rw [TreeCall.rendered]
    cases performed : ((BindingTree.render layout).perform tree).1 with
    | error error => exact Or.inl rfl
    | ok unit => exact Or.inr ⟨rfl, (orderly.sorted_of_render performed).2⟩
  cases call with
  | build | sort | emit | process => exact Or.inl rfl
  | render layout => exact rendering layout
  | write σ layout sink world =>
      rw [TreeCall.after, tree_write]
      exact rendering layout

/-- The first unit that is rendered is the last one. -/
theorem Orderly.length_unitsAlong_le_one (descends : hierarchy.Descends) {calls : List TreeCall}
    (orderly : tree.Orderly) (admits : tree.Admits calls) :
    (unitsAlong (fun tree call => call.rendered tree) tree calls).length ≤ 1 := by
  induction calls generalizing tree with
  | nil => exact Nat.zero_le 1
  | cons call calls ih =>
      obtain ⟨afterOrderly, -⟩ := orderly.call descends call admits.1
      rw [unitsAlong]
      rcases orderly.rendered_or_barred call with none | ⟨one, barred⟩
      · rw [none, List.nil_append]
        exact ih afterOrderly admits.2
      · rw [barred.unitsAlong_eq_nil descends afterOrderly admits.2, List.append_nil]
        exact Nat.le_of_eq one

theorem unitsAlong_sublist {first second : BindingTree hierarchy → TreeCall → List SourceUnit}
    (each : ∀ tree call, (first tree call).Sublist (second tree call)) (calls : List TreeCall) :
    (unitsAlong first tree calls).Sublist (unitsAlong second tree calls) := by
  induction calls generalizing tree with
  | nil => exact List.Sublist.refl _
  | cons call calls ih => exact (each tree call).append ih

/-- No calls lead from here to a unit. -/
def Barren (tree : BindingTree hierarchy) : Prop :=
  ∀ calls : List TreeCall, tree.Admits calls → ∀ (layout : UnitLayout) (unit : SourceUnit),
    ((render layout).perform (tree.afterCalls calls)).1 ≠ .ok unit ∧
      ∀ (σ : Type) (sink : UnitSink σ) (world : σ),
        ((write layout sink).perform (tree.afterCalls calls, world)).1 ≠ .ok unit

/-- A write succeeds only with a unit that is rendered. -/
theorem render_of_write {σ : Type} {layout : UnitLayout} {sink : UnitSink σ} {world : σ}
    {unit : SourceUnit} (written : ((write layout sink).perform (tree, world)).1 = .ok unit) :
    ((render layout).perform tree).1 = .ok unit := by
  have outcome := writeOutcome tree layout sink world
  cases performed : ((render layout).perform tree).1 with
  | error error =>
      rw [(outcome.unrendered error performed).2.2] at written
      cases written
  | ok other =>
      rw [(outcome.rendered other performed).2.2] at written
      cases accepted : ((sink other).perform world).1 with
      | error report =>
          rw [accepted] at written
          cases written
      | ok done =>
          rw [accepted] at written
          cases written
          rfl

theorem Barred.barren (descends : hierarchy.Descends) (barred : tree.Barred)
    (orderly : tree.Orderly) : tree.Barren := by
  intro calls
  induction calls generalizing tree with
  | nil =>
      intro _ layout unit
      exact ⟨barred.not_rendered orderly layout unit, fun σ sink world written =>
        barred.not_rendered orderly layout unit (render_of_write written)⟩
  | cons call calls ih =>
      intro admits
      obtain ⟨afterOrderly, advances⟩ := orderly.call descends call admits.1
      exact ih (barred.advances orderly.coherent advances) afterOrderly admits.2

/-- What a run of calls on a fresh tree has to show for itself. -/
structure SingleUnit (hierarchy : Hierarchy) (calls : List TreeCall) : Prop where
  /-- At most one call gets past rendering. -/
  rendered : (unitsAlong (fun tree call => call.rendered tree) (start hierarchy) calls).length ≤ 1
  /-- At most one unit is offered to any sink. -/
  offered : (unitsAlong (fun tree call => call.offered tree) (start hierarchy) calls).length ≤ 1
  /-- The next write calls its sink once if it renders, and otherwise not at all. -/
  write : ∀ (σ : Type) (layout : UnitLayout) (sink : UnitSink σ) (world : σ),
    WriteOutcome ((start hierarchy).afterCalls calls) layout sink world
  /-- A build of the root that fails at something that cannot be wrapped is the end. -/
  unsupported : ∀ (session : Session) (kind : DeclarationKind) (name : String) (parent : NodeKind),
    ((build root).perform { tree := (start hierarchy).afterCalls calls, session }).1 =
        .error (.unsupportedEntity kind name parent) →
      Barren ((TreeCall.build root session).after ((start hierarchy).afterCalls calls))
  /-- Processing a node below the root on its own is the end. -/
  descendant : ∀ id, id ≠ root → ((start hierarchy).afterCalls calls).Encloses root id →
    ((process id).perform ((start hierarchy).afterCalls calls)).1 = .ok () →
      Barren ((TreeCall.process id).after ((start hierarchy).afterCalls calls))

/-- However a tree is used, it makes at most one unit, and a write offers a unit exactly if it
renders one. -/
theorem single_unit (descends : hierarchy.Descends) {calls : List TreeCall}
    (admits : (start hierarchy).Admits calls) : SingleUnit hierarchy calls := by
  have rendered := (orderly_start hierarchy).length_unitsAlong_le_one descends admits
  have orderly := (Reachable.start.afterCalls admits).orderly descends
  refine ⟨rendered, ?_, ?_, ?_, ?_⟩
  · exact Nat.le_trans (unitsAlong_sublist offered_sublist_rendered calls).length_le rendered
  · exact fun σ layout sink world => writeOutcome _ layout sink world
  · intro session kind name parent failed
    obtain ⟨afterOrderly, advances⟩ :=
      orderly.call descends (.build root session) orderly.coherent.hasRoot
    exact ((orderly.barred_of_unsupported failed).advances orderly.coherent advances).barren
      descends afterOrderly
  · intro id _ encloses success
    have existing := orderly.coherent.encloses_lt_size orderly.coherent.hasRoot encloses
    obtain ⟨afterOrderly, -⟩ := orderly.call descends (.process id) existing
    exact (orderly.barred_of_process encloses success).barren descends afterOrderly

/-- The first write makes the one unit of the tree and offers it; the calls behind it fail. Processing
a function on its own is the end. -/
theorem single_unit_overloadedArea :
    let layout : UnitLayout := ({} : UnitStyle).singleFile
    let write : TreeCall := .write UnitShelf layout UnitShelf.accept .empty
    let calls := [.render layout, .build root .fresh, .sort root, write, .render layout, write]
    overloadedArea.Descends ∧ (start overloadedArea).Admits calls ∧
      SingleUnit overloadedArea calls ∧
      (unitsAlong (fun tree call => call.rendered tree) (start overloadedArea) calls).map
        SourceUnit.name = ["shapes"] ∧
      (unitsAlong (fun tree call => call.offered tree) (start overloadedArea) calls).map
        SourceUnit.name = ["shapes"] ∧
      Barren ((TreeCall.process 4).after overloadedAreaSorted) := by
  intro layout write calls
  have descends : overloadedArea.Descends := by decide
  have admits : (start overloadedArea).Admits calls :=
    ⟨trivial, by decide, by decide, trivial, trivial, trivial, trivial⟩
  have passes : (start overloadedArea).Admits [.build root .fresh, .sort root] :=
    ⟨by decide, by decide, trivial⟩
  have area : 4 ∈ overloadedAreaSorted.children 1 := by decide
  have inside : overloadedAreaSorted.Encloses root 1 := .child (by decide)
  have below : overloadedAreaSorted.Encloses root 4 := inside.tail area
  exact ⟨descends, admits, single_unit descends admits, by decide, by decide,
    (single_unit descends passes).descendant 4 (by decide) below rfl⟩

end BindingTree

end RubyBindings
