/-
Module: RubyBindings.Proofs.Pipeline.Generation
Purpose: What a successful generation has done. Plugins and the user's own phases may do anything;
  as long as they leave the tree and the unit alone, the run is build, sort and process of the root,
  and the unit is what the layout makes of the root's fragments.
Main exports: Step.Keeps, Pipeline.Undisturbed, Pipeline.Generated, Pipeline.generated_of_generate
-/
import RubyBindings.Pipeline.Basic
import RubyBindings.Proofs.BindingTree.Contents

namespace RubyBindings

variable {ω : Type} {hierarchy : Hierarchy}

/-! ## Steps that leave the tree alone -/

/-- The tree and the unit are the same in two states of a pipeline. -/
structure SameOutput (before after : PipelineState hierarchy × ω) : Prop where
  tree : after.1.tree = before.1.tree
  unit : after.1.unit = before.1.unit

theorem SameOutput.trans {before middle after : PipelineState hierarchy × ω}
    (first : SameOutput before middle) (second : SameOutput middle after) :
    SameOutput before after :=
  ⟨second.tree.trans first.tree, second.unit.trans first.unit⟩

/-- Where a step succeeds, it has left the tree and the unit alone. -/
def Step.Keeps (step : Step ω hierarchy) : Prop :=
  ∀ before after, step.perform before = (.ok (), after) → SameOutput before after

namespace Step.Keeps

theorem mapError {step : Step ω hierarchy} (keeps : step.Keeps) (tell : Report → Report) :
    Step.Keeps (step.mapError tell) :=
  fun before after performed => keeps before after (Attempt.perform_mapError_ok performed)

theorem forM {α : Type} {action : α → Step ω hierarchy} {items : List α}
    (each : ∀ item ∈ items, (action item).Keeps) : Step.Keeps (items.forM action) := by
  induction items with
  | nil =>
      intro before after performed
      cases performed
      exact ⟨rfl, rfl⟩
  | cons item items ih =>
      intro before after performed
      obtain ⟨middle, first, rest⟩ := Attempt.perform_forM_cons_ok performed
      have keepsFirst := each item List.mem_cons_self
      have keepsRest := ih fun other member => each other (List.mem_cons_of_mem item member)
      exact (keepsFirst before middle first).trans (keepsRest middle after rest)

theorem requireNoErrors (phase : String) :
    Step.Keeps (Pipeline.requireNoErrors phase : Step ω hierarchy) := by
  intro before after performed
  rw [Pipeline.requireNoErrors] at performed
  obtain ⟨state, middle, first, rest⟩ := Attempt.perform_bind_ok performed
  cases first
  dsimp only at rest
  split at rest
  · cases rest
  · cases rest
    exact ⟨rfl, rfl⟩

end Step.Keeps

/-! ## The phases of every generation -/

namespace Phase

variable {start finish : PipelineState hierarchy × ω}

theorem build_of_run (ran : (build : Phase ω hierarchy).run.perform start = (.ok (), finish)) :
    (BindingTree.build BindingTree.root).perform start.1.workspace =
      (.ok (), finish.1.workspace) := by
  simp only [build] at ran
  obtain ⟨workspace, performed, rfl⟩ := Attempt.perform_within_ok ran
  exact Attempt.perform_mapError_ok performed

theorem sort_of_run (ran : (sort : Phase ω hierarchy).run.perform start = (.ok (), finish)) :
    (BindingTree.sort BindingTree.root).perform start.1.tree = (.ok (), finish.1.tree) := by
  simp only [sort] at ran
  obtain ⟨tree, performed, rfl⟩ := Attempt.perform_within_ok ran
  exact Attempt.perform_mapError_ok performed

theorem render_of_run {layout : UnitLayout}
    (ran : (emit layout : Phase ω hierarchy).run.perform start = (.ok (), finish)) :
    ∃ unit, (BindingTree.render layout).perform start.1.tree = (.ok unit, finish.1.tree) ∧
      finish.1.unit = some unit := by
  obtain ⟨unit, middle, rendered, kept⟩ := Attempt.perform_bind_ok ran
  obtain ⟨tree, performed, rfl⟩ := Attempt.perform_within_ok rendered
  cases kept
  exact ⟨unit, Attempt.perform_mapError_ok performed, rfl⟩

end Phase

/-! ## The run of a generation -/

namespace Pipeline

variable {pipeline : Pipeline ω hierarchy}

/-- No plugin and none of the user's own phases touches the tree or the unit. -/
structure Undisturbed (pipeline : Pipeline ω hierarchy) : Prop where
  before : ∀ plugin ∈ pipeline.plugins, ∀ phase, (plugin.before phase).Keeps
  after : ∀ plugin ∈ pipeline.plugins, ∀ phase, (plugin.after phase).Keeps
  phases : ∀ phase ∈ pipeline.phases, phase.run.Keeps

/-- A successful phase has run, and around it nothing has happened to the tree and the unit. -/
theorem run_of_runPhase (undisturbed : pipeline.Undisturbed) {phase : Phase ω hierarchy}
    {before after : PipelineState hierarchy × ω}
    (performed : (pipeline.runPhase phase).perform before = (.ok (), after)) :
    ∃ start finish, phase.run.perform start = (.ok (), finish) ∧ SameOutput before start ∧
      SameOutput finish after := by
  rw [runPhase] at performed
  obtain ⟨_, start, hooks, performed⟩ := Attempt.perform_bind_ok performed
  obtain ⟨_, finish, ran, performed⟩ := Attempt.perform_bind_ok performed
  obtain ⟨_, checked, laterHooks, passed⟩ := Attempt.perform_bind_ok performed
  have keepsBefore : Step.Keeps (pipeline.callBefore phase.name) :=
    .forM fun plugin member => (undisturbed.before plugin member phase.name).mapError _
  have keepsAfter : Step.Keeps (pipeline.callAfter phase.name) :=
    .forM fun plugin member => (undisturbed.after plugin member phase.name).mapError _
  refine ⟨start, finish, Attempt.perform_mapError_ok ran, keepsBefore before start hooks, ?_⟩
  exact (keepsAfter finish checked laterHooks).trans
    (Step.Keeps.requireNoErrors phase.name checked after passed)

theorem Undisturbed.keeps_runPhase (undisturbed : pipeline.Undisturbed) {phase : Phase ω hierarchy}
    (keeps : phase.run.Keeps) : Step.Keeps (pipeline.runPhase phase) := by
  intro before after performed
  obtain ⟨start, finish, ran, first, last⟩ := run_of_runPhase undisturbed performed
  exact first.trans ((keeps start finish ran).trans last)

/-- What a generation comes to: the three passes over a new tree, in some session, and the unit that
the layout makes of the root's fragments. -/
structure Generated (layout : UnitLayout) (session : Session) (built : Workspace hierarchy)
    (sorted : BindingTree hierarchy) (state : PipelineState hierarchy) : Prop where
  passes : BindingTree.Passes session built sorted state.tree
  unit : state.unit = some
    { name := hierarchy.name Hierarchy.root
      content := layout.render (hierarchy.name Hierarchy.root) hierarchy.extensionText
        (state.tree.node BindingTree.root).fragments }

/-- A successful generation that nothing disturbs has built, sorted and processed the root. -/
theorem generated_of_generate (descends : hierarchy.Descends) (undisturbed : pipeline.Undisturbed)
    {world after : ω} {state : PipelineState hierarchy}
    (generated : pipeline.generate.perform world = (.ok state, after)) :
    ∃ session built sorted, Generated pipeline.layout session built sorted state := by
  rw [generate, Attempt.perform_ofFunction] at generated
  rcases performed : (pipeline.allPhases.forM pipeline.runPhase).perform (.start hierarchy, world)
    with ⟨error | done, last, lastWorld⟩
  · rw [performed] at generated
    cases generated
  · rw [performed] at generated
    cases generated
    obtain ⟨afterBuild, first, rest⟩ := Attempt.perform_forM_cons_ok performed
    obtain ⟨afterSort, second, rest⟩ := Attempt.perform_forM_cons_ok rest
    obtain ⟨afterEmit, third, rest⟩ := Attempt.perform_forM_cons_ok rest
    obtain ⟨buildStart, buildEnd, ranBuild, toBuild, fromBuild⟩ := run_of_runPhase undisturbed first
    obtain ⟨sortStart, sortEnd, ranSort, toSort, fromSort⟩ := run_of_runPhase undisturbed second
    obtain ⟨emitStart, emitEnd, ranEmit, toEmit, fromEmit⟩ := run_of_runPhase undisturbed third
    have own : SameOutput emitEnd (last, after) :=
      fromEmit.trans (Step.Keeps.forM (fun phase member =>
        undisturbed.keeps_runPhase (undisturbed.phases phase member)) afterEmit _ rest)
    have build := Phase.build_of_run ranBuild
    rw [PipelineState.workspace, toBuild.tree] at build
    have sort := Phase.sort_of_run ranSort
    rw [(fromBuild.trans toSort).tree] at sort
    obtain ⟨unit, render, kept⟩ := Phase.render_of_run ranEmit
    rw [(fromSort.trans toEmit).tree] at render
    obtain ⟨named, process⟩ := BindingTree.process_of_render render
    have passes : BindingTree.Passes buildStart.1.session buildEnd.1.workspace sortEnd.1.tree
        last.tree := by
      refine ⟨build, sort, ?_⟩
      rw [process, own.tree]
    refine ⟨buildStart.1.session, buildEnd.1.workspace, sortEnd.1.tree, passes, ?_⟩
    rw [passes.perform_render descends pipeline.layout named] at render
    have sameUnit := congrArg Prod.fst render
    cases sameUnit
    exact own.unit.trans kept

end Pipeline

end RubyBindings
