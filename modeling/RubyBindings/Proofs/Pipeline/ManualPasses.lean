/-
Module: RubyBindings.Proofs.Pipeline.ManualPasses
Purpose: A pipeline without plugins and phases of the user's own is the same generator as its three
  passes done by hand: build the root, sort the root, write. It checks for reported errors on the way,
  but a build reports none; it tells its failures with other steps, but with the same cause.
Main exports: Pipeline.bare, Pipeline.perform_moments_bare, Pipeline.perform_run_bare,
  BindingTree.generateByHand, SameGeneration, manual_passes_match_pipeline
-/
import RubyBindings.Output.Sink
import RubyBindings.Proofs.BindingTree.Warnings
import RubyBindings.Proofs.Pipeline.StepOrder

namespace RubyBindings

variable {ω : Type} {hierarchy : Hierarchy}

/-! ## The phases of every run -/

namespace Phase

variable (state : PipelineState hierarchy) (world : ω)

theorem perform_build :
    (build : Phase ω hierarchy).run.perform (state, world) =
      match (BindingTree.build BindingTree.root).perform state.workspace with
      | (.error error, after) =>
        (.error (.ofGeneration error),
          { state with tree := after.tree, session := after.session }, world)
      | (.ok (), after) =>
        (.ok (), { state with tree := after.tree, session := after.session }, world) := by
  rw [build, Attempt.perform_within, Attempt.perform_mapError]
  rcases (BindingTree.build BindingTree.root).perform state.workspace with ⟨error | done, after⟩ <;>
    rfl

theorem perform_sort :
    (sort : Phase ω hierarchy).run.perform (state, world) =
      match (BindingTree.sort BindingTree.root).perform state.tree with
      | (.error error, tree) => (.error (.ofGeneration error), { state with tree }, world)
      | (.ok (), tree) => (.ok (), { state with tree }, world) := by
  rw [sort, Attempt.perform_within, Attempt.perform_mapError]
  rcases (BindingTree.sort BindingTree.root).perform state.tree with ⟨error | done, tree⟩ <;> rfl

theorem perform_emit (layout : UnitLayout) :
    (emit layout : Phase ω hierarchy).run.perform (state, world) =
      match (BindingTree.render layout).perform state.tree with
      | (.error error, tree) => (.error (.ofGeneration error), { state with tree }, world)
      | (.ok unit, tree) => (.ok (), { state with tree, unit := some unit }, world) := by
  rw [emit, Attempt.perform_bind, Attempt.perform_within, Attempt.perform_mapError]
  rcases (BindingTree.render layout).perform state.tree with ⟨error | unit, tree⟩ <;> rfl

end Phase

/-! ## The run of a bare pipeline -/

namespace Pipeline

/-- A pipeline without plugins and without phases of the user's own. -/
def bare (layout : UnitLayout) : Pipeline ω hierarchy where
  layout := layout

/-- A phase without plugins runs, is followed by the check for errors, and then the others come. -/
theorem perform_phase (phase : Phase ω hierarchy) (later : List (Moment ω hierarchy))
    (before : PipelineState hierarchy × ω) :
    ((.during phase :: .check phase.name :: later).forM Moment.step).perform before =
      match phase.run.perform before with
      | (.error report, after) =>
        (.error (report.because (phase.name ++ " phase failed")), after)
      | (.ok (), after) =>
        if after.1.session.hasErrors then
          (.error (.ofText (Nat.repr after.1.session.errors.length ++
            " error(s) reported during " ++ phase.name)), after)
        else (later.forM Moment.step).perform after := by
  rw [Attempt.perform_forM_cons, Moment.step, Attempt.perform_mapError]
  rcases phase.run.perform before with ⟨report | done, after⟩
  · rfl
  · dsimp only [Except.mapError]
    rw [Attempt.perform_forM_cons, Moment.perform_check]
    cases after.1.session.hasErrors <;> rfl

/-- What the moments of a bare pipeline come to, if none of them reports an error: the build, the sort
and the rendering, each told as its phase if it fails. The world is left alone. -/
theorem perform_moments_bare (descends : hierarchy.Descends) (layout : UnitLayout) (world : ω) :
    ((bare layout : Pipeline ω hierarchy).moments.forM Moment.step).perform
        (.start hierarchy, world) =
      match (BindingTree.build BindingTree.root).perform
        { tree := BindingTree.start hierarchy, session := .fresh } with
      | (.error error, built) =>
        (.error ((Report.ofGeneration error).because "build phase failed"),
          { tree := built.tree, session := built.session, unit := none }, world)
      | (.ok (), built) =>
        match (BindingTree.sort BindingTree.root).perform built.tree with
        | (.error error, tree) =>
          (.error ((Report.ofGeneration error).because "sort phase failed"),
            { tree, session := built.session, unit := none }, world)
        | (.ok (), sorted) =>
          match (BindingTree.render layout).perform sorted with
          | (.error error, tree) =>
            (.error ((Report.ofGeneration error).because "emit phase failed"),
              { tree, session := built.session, unit := none }, world)
          | (.ok unit, tree) =>
            (.ok (), { tree, session := built.session, unit := some unit }, world) := by
  have moments : (bare layout : Pipeline ω hierarchy).moments =
      [.during .build, .check Phase.build.name, .during .sort, .check Phase.sort.name,
        .during (.emit layout), .check (Phase.emit layout).name] := rfl
  have start : (PipelineState.start hierarchy).workspace =
      { tree := BindingTree.start hierarchy, session := .fresh } := rfl
  rw [moments, perform_phase, Phase.perform_build, start]
  rcases built : (BindingTree.build BindingTree.root).perform
    { tree := BindingTree.start hierarchy, session := .fresh } with ⟨error | done, workspace⟩
  · rfl
  · -- Whatever the passes still do, what was reported stays what the build has reported.
    have noErrors : ¬ workspace.session.hasErrors = true := by
      rw [BindingTree.hasErrors_of_build descends built]
      exact Bool.false_ne_true
    dsimp only
    rw [if_neg noErrors, perform_phase, Phase.perform_sort]
    dsimp only
    rcases (BindingTree.sort BindingTree.root).perform workspace.tree with ⟨error | done, sorted⟩
    · rfl
    · dsimp only
      rw [if_neg noErrors, perform_phase, Phase.perform_emit]
      dsimp only
      rcases (BindingTree.render layout).perform sorted with ⟨error | unit, tree⟩
      · rfl
      · dsimp only
        rw [if_neg noErrors]
        rfl

/-- What a bare pipeline does: it builds, sorts and renders, and hands the unit to its sink. Each of
these may end the run; before the sink, the world is left alone. -/
theorem perform_run_bare (descends : hierarchy.Descends) (layout : UnitLayout) (sink : UnitSink ω)
    (world : ω) :
    ((bare layout : Pipeline ω hierarchy).run sink).perform world =
      match (BindingTree.build BindingTree.root).perform
        { tree := BindingTree.start hierarchy, session := .fresh } with
      | (.error error, _) => (.error ((Report.ofGeneration error).because "build phase failed"), world)
      | (.ok (), built) =>
        match (BindingTree.sort BindingTree.root).perform built.tree with
        | (.error error, _) =>
          (.error ((Report.ofGeneration error).because "sort phase failed"), world)
        | (.ok (), sorted) =>
          match (BindingTree.render layout).perform sorted with
          | (.error error, _) =>
            (.error ((Report.ofGeneration error).because "emit phase failed"), world)
          | (.ok unit, tree) =>
            match (sink unit).perform world with
            | (.error report, after) =>
              (.error (report.because ("failed to write '" ++ unit.name ++ "'")), after)
            | (.ok (), after) =>
              (.ok { tree, session := built.session, unit := some unit }, after) := by
  rw [perform_run, perform_moments_bare descends]
  rcases (BindingTree.build BindingTree.root).perform
    { tree := BindingTree.start hierarchy, session := .fresh } with ⟨error | done, built⟩
  · rfl
  · dsimp only
    rcases (BindingTree.sort BindingTree.root).perform built.tree with ⟨error | done, sorted⟩
    · rfl
    · dsimp only
      rcases (BindingTree.render layout).perform sorted with ⟨error | unit, tree⟩
      · rfl
      · rfl

end Pipeline

/-! ## The passes by hand -/

/-- Build the root, sort the root, and write the unit, without a pipeline. -/
def BindingTree.generateByHand (layout : UnitLayout) (sink : UnitSink ω) :
    Attempt (Workspace hierarchy × ω) Report SourceUnit := do
  ((build root).mapError Report.ofGeneration).within Prod.fst
    fun workspace (_, world) => (workspace, world)
  ((sort root).mapError Report.ofGeneration).within (fun (workspace, _) => workspace.tree)
    fun tree (workspace, world) => ({ workspace with tree }, world)
  (write layout sink).within (fun (workspace, world) => (workspace.tree, world))
    fun (tree, world) (workspace, _) => ({ workspace with tree }, world)

/-- What is done by hand, pass by pass. -/
theorem BindingTree.perform_generateByHand (layout : UnitLayout) (sink : UnitSink ω)
    (workspace : Workspace hierarchy) (world : ω) :
    (generateByHand layout sink).perform (workspace, world) =
      match (build root).perform workspace with
      | (.error error, built) => (.error (.ofGeneration error), built, world)
      | (.ok (), built) =>
        match (sort root).perform built.tree with
        | (.error error, tree) => (.error (.ofGeneration error), { built with tree }, world)
        | (.ok (), sorted) =>
          match (render layout).perform sorted with
          | (.error error, tree) =>
            (.error ((Report.ofGeneration error).because
              ("failed to generate '" ++ sorted.unitName ++ "'")), { built with tree }, world)
          | (.ok unit, tree) =>
            match (sink unit).perform world with
            | (.error report, after) =>
              (.error (report.because ("failed to write '" ++ unit.name ++ "'")),
                { built with tree }, after)
            | (.ok (), after) => (.ok unit, { built with tree }, after) := by
  simp only [generateByHand, Attempt.perform_bind, Attempt.perform_within, Attempt.perform_mapError]
  rcases (build root).perform workspace with ⟨error | done, built⟩
  · rfl
  · dsimp only [Except.mapError]
    rcases (sort root).perform built.tree with ⟨error | done, sorted⟩
    · rfl
    · dsimp only
      rw [perform_write]
      rcases (render layout).perform sorted with ⟨error | unit, tree⟩
      · rfl
      · dsimp only
        rcases (sink unit).perform world with ⟨report | done, after⟩ <;> rfl

/-- Both ways to generate come to the same: one succeeds exactly if the other does, with the same
unit, tree, findings and claimed headers; if they fail, it is for the same cause; and in any case the
world that the sink works on ends up the same. -/
structure SameGeneration (byHand : Except Report SourceUnit × Workspace hierarchy × ω)
    (byPipeline : Except Report (PipelineState hierarchy) × ω) : Prop where
  succeeds : (∃ unit, byHand.1 = .ok unit) ↔ ∃ state, byPipeline.1 = .ok state
  success : ∀ unit state, byHand.1 = .ok unit → byPipeline.1 = .ok state →
    state.unit = some unit ∧ state.tree = byHand.2.1.tree ∧
      state.session.diagnostics = byHand.2.1.session.diagnostics ∧
      state.session.claimedHeaders = byHand.2.1.session.claimedHeaders
  failure : ∀ one two, byHand.1 = .error one → byPipeline.1 = .error two → one.cause = two.cause
  world : byHand.2.2 = byPipeline.2

theorem SameGeneration.ofFailures {one two : Report} (cause : one.cause = two.cause)
    (workspace : Workspace hierarchy) (world : ω) :
    @SameGeneration ω hierarchy (.error one, workspace, world) (.error two, world) where
  succeeds := ⟨nofun, nofun⟩
  success := nofun
  failure := by
    intro first second firstSame secondSame
    cases firstSame
    cases secondSame
    exact cause
  world := rfl

theorem SameGeneration.ofSuccesses (state : PipelineState hierarchy) {unit : SourceUnit}
    (rendered : state.unit = some unit) (world : ω) :
    SameGeneration (.ok unit, state.workspace, world) (.ok state, world) := by
  refine ⟨⟨fun _ => ⟨state, rfl⟩, fun _ => ⟨unit, rfl⟩⟩, ?_, ?_, rfl⟩
  · intro made last same sameState
    obtain rfl := Except.ok.inj same
    obtain rfl := Except.ok.inj sameState
    exact ⟨rendered, rfl, rfl, rfl⟩
  · intro one two impossible
    exact nomatch impossible

/-- A pipeline without plugins and phases of the user's own generates what its passes generate by
hand, and fails as they do. -/
theorem manual_passes_match_pipeline (descends : hierarchy.Descends) (layout : UnitLayout)
    (sink : UnitSink ω) (world : ω) :
    SameGeneration
      ((BindingTree.generateByHand layout sink).perform
        ({ tree := BindingTree.start hierarchy, session := .fresh }, world))
      (((Pipeline.bare layout : Pipeline ω hierarchy).run sink).perform world) := by
  rw [BindingTree.perform_generateByHand, Pipeline.perform_run_bare descends]
  rcases (BindingTree.build BindingTree.root).perform
    { tree := BindingTree.start hierarchy, session := .fresh } with ⟨error | done, built⟩
  · exact .ofFailures (by rfl) built world
  · dsimp only
    rcases (BindingTree.sort BindingTree.root).perform built.tree with ⟨error | done, sorted⟩
    · exact .ofFailures (by rfl) _ world
    · dsimp only
      rcases (BindingTree.render layout).perform sorted with ⟨error | unit, tree⟩
      · exact .ofFailures (by rfl) _ world
      · dsimp only
        rcases (sink unit).perform world with ⟨report | accepted, after⟩
        · exact .ofFailures (by rfl) _ after
        · exact .ofSuccesses { tree, session := built.session, unit := some unit } rfl after

/-- Both make the unit of a library with siblings to sort and an overloaded function. -/
theorem manual_passes_match_pipeline_overloadedArea :
    let byHand :=
      (BindingTree.generateByHand (UnitStyle.singleFile {}) UnitShelf.accept).perform
        ({ tree := BindingTree.start BindingTree.overloadedArea, session := .fresh }, .empty)
    BindingTree.overloadedArea.Descends ∧
      SameGeneration byHand
        (((Pipeline.bare (UnitStyle.singleFile {}) :
          Pipeline UnitShelf BindingTree.overloadedArea).run UnitShelf.accept).perform .empty) ∧
      byHand.1.isOk = true ∧ byHand.2.2.units.map SourceUnit.name = ["shapes"] := by
  intro byHand
  have descends : BindingTree.overloadedArea.Descends := by decide
  exact ⟨descends, manual_passes_match_pipeline descends _ _ _, by decide, by decide⟩

end RubyBindings
