/-
Module: RubyBindings.Proofs.Pipeline.StepOrder
Purpose: What happens in a run, and in which order. Each phase comes between the calls of the plugins
  and ends with a check for errors; the first of these moments that fails ends the run. The sink is
  called once at most: after all moments have succeeded, with the unit that they have left.
Main exports: Moment, Pipeline.moments, Completes, StopsAt, Pipeline.offered, Pipeline.RunsInOrder,
  Pipeline.runs_in_order
-/
import RubyBindings.Pipeline.Basic
import RubyBindings.Proofs.BindingTree.SingleUnit

namespace RubyBindings

variable {ω : Type} {hierarchy : Hierarchy}

/-! ## The moments of a run -/

/-- Something that happens in a run at one time. -/
inductive Moment (ω : Type) (hierarchy : Hierarchy) where
  /-- A plugin is called before the phase of this name. -/
  | before (plugin : Plugin ω hierarchy) (phase : String)
  /-- A phase is run. -/
  | during (phase : Phase ω hierarchy)
  /-- A plugin is called after the phase of this name. -/
  | after (plugin : Plugin ω hierarchy) (phase : String)
  /-- Reported errors are looked for. -/
  | check (phase : String)

/-- What is done at a moment, and how it is told if that fails. -/
def Moment.step : Moment ω hierarchy → Step ω hierarchy
  | .before plugin phase =>
    (plugin.before phase).mapError
      (Report.because ("plugin '" ++ plugin.name ++ "' failed before " ++ phase))
  | .during phase => phase.run.mapError (Report.because (phase.name ++ " phase failed"))
  | .after plugin phase =>
    (plugin.after phase).mapError
      (Report.because ("plugin '" ++ plugin.name ++ "' failed after " ++ phase))
  | .check phase => Pipeline.requireNoErrors phase

theorem Session.hasErrors_iff {session : Session} :
    session.hasErrors = true ↔
      ∃ diagnostic ∈ session.diagnostics, diagnostic.severity = .error := by
  simp [hasErrors, Severity.isError]

theorem Session.length_errors (session : Session) :
    session.errors.length = session.diagnostics.countP (·.severity = .error) := by
  rw [errors, List.countP_eq_length_filter]
  rfl

/-- The check fails exactly if an error has been reported, and changes nothing. -/
theorem Moment.perform_check (phase : String) (state : PipelineState hierarchy × ω) :
    (Moment.check phase).step.perform state =
      if state.1.session.hasErrors then
        (.error (.ofText
          (Nat.repr state.1.session.errors.length ++ " error(s) reported during " ++ phase)), state)
      else (.ok (), state) := by
  rw [step, Pipeline.requireNoErrors, Attempt.perform_bind, Attempt.perform_get]
  dsimp only
  split <;> rfl

namespace Pipeline

/-- The moments of one phase: the plugins before it, the phase, the plugins after it, the check. -/
def momentsOf (pipeline : Pipeline ω hierarchy) (phase : Phase ω hierarchy) :
    List (Moment ω hierarchy) :=
  pipeline.plugins.map (Moment.before · phase.name) ++ [.during phase] ++
    pipeline.plugins.map (Moment.after · phase.name) ++ [.check phase.name]

/-- The moments of a run: build, sort and emit come first, and then the user's own phases. -/
def moments (pipeline : Pipeline ω hierarchy) : List (Moment ω hierarchy) :=
  ([Phase.build, Phase.sort, Phase.emit pipeline.layout] ++ pipeline.phases).flatMap
    pipeline.momentsOf

theorem runPhase_eq (pipeline : Pipeline ω hierarchy) (phase : Phase ω hierarchy) :
    pipeline.runPhase phase = (pipeline.momentsOf phase).forM Moment.step := by
  simp [runPhase, callBefore, callAfter, momentsOf, Moment.step]

theorem forM_runPhase (pipeline : Pipeline ω hierarchy) (phases : List (Phase ω hierarchy)) :
    phases.forM pipeline.runPhase = (phases.flatMap pipeline.momentsOf).forM Moment.step := by
  induction phases with
  | nil => rfl
  | cons phase phases ih =>
      simp only [List.forM_eq_forM, List.forM_cons, List.flatMap_cons, List.forM_append] at ih ⊢
      rw [ih, runPhase_eq]
      rfl

end Pipeline

/-! ## How far a run comes -/

/-- All of the moments have succeeded, one after the other. -/
inductive Completes : List (Moment ω hierarchy) → PipelineState hierarchy × ω →
    PipelineState hierarchy × ω → Prop
  | nil (state : PipelineState hierarchy × ω) : Completes [] state state
  | cons {moment : Moment ω hierarchy} {moments : List (Moment ω hierarchy)}
      {start middle finish : PipelineState hierarchy × ω}
      (first : moment.step.perform start = (.ok (), middle))
      (rest : Completes moments middle finish) : Completes (moment :: moments) start finish

/-- All of the moments before this one have succeeded, and this one fails with a report; what is
left is what it leaves. -/
structure StopsAt (moments : List (Moment ω hierarchy)) (start : PipelineState hierarchy × ω)
    (done : List (Moment ω hierarchy)) (moment : Moment ω hierarchy)
    (later : List (Moment ω hierarchy)) (report : Report)
    (finish : PipelineState hierarchy × ω) : Prop where
  split : moments = done ++ moment :: later
  fails : ∃ middle, Completes done start middle ∧
    moment.step.perform middle = (.error report, finish)

section Runs

variable {moments : List (Moment ω hierarchy)} {start finish : PipelineState hierarchy × ω}

/-- Moments that are completed have been gone through with success. -/
theorem Completes.perform_forM (completes : Completes moments start finish) :
    (moments.forM Moment.step).perform start = (.ok (), finish) := by
  induction completes with
  | nil state => rfl
  | cons first rest ih =>
      rw [Attempt.perform_forM_cons, first]
      exact ih

/-- A run that stops at a moment ends with what this moment leaves. -/
theorem StopsAt.perform_forM {done later : List (Moment ω hierarchy)} {moment : Moment ω hierarchy}
    {report : Report} (stops : StopsAt moments start done moment later report finish) :
    (moments.forM Moment.step).perform start = (.error report, finish) := by
  obtain ⟨rfl, middle, completes, failed⟩ := stops
  induction completes with
  | nil state => rw [List.nil_append, Attempt.perform_forM_cons, failed]
  | cons first rest ih =>
      rw [List.cons_append, Attempt.perform_forM_cons, first]
      exact ih failed

/-- A run gets through all of its moments, or it stops at one of them. -/
theorem completes_or_stopsAt (moments : List (Moment ω hierarchy)) :
    ∀ start, (∃ finish, Completes moments start finish) ∨
      ∃ done moment later report finish, StopsAt moments start done moment later report finish := by
  induction moments with
  | nil => exact fun start => Or.inl ⟨start, .nil start⟩
  | cons moment moments ih =>
      intro start
      rcases first : moment.step.perform start with ⟨report | success, middle⟩
      · exact Or.inr ⟨[], moment, moments, report, middle, rfl, start, .nil start, first⟩
      · rcases ih middle with ⟨finish, completes⟩ |
          ⟨done, stopping, later, report, finish, rfl, last, completes, failed⟩
        · exact Or.inl ⟨finish, .cons first completes⟩
        · exact Or.inr ⟨moment :: done, stopping, later, report, finish, rfl, last,
            .cons first completes, failed⟩

end Runs

/-! ## The end of a run -/

/-- A run goes through its moments, and then hands the unit to the sink. -/
theorem Pipeline.perform_run (pipeline : Pipeline ω hierarchy) (sink : UnitSink ω) (world : ω) :
    (pipeline.run sink).perform world =
      match (pipeline.moments.forM Moment.step).perform (.start hierarchy, world) with
      | (.error report, last) => (.error report, last.2)
      | (.ok (), last) =>
        match last.1.unit with
        | none =>
          (.error (.ofText ("no unit was rendered for '" ++ last.1.tree.unitName ++ "'")), last.2)
        | some unit =>
          match (sink unit).perform last.2 with
          | (.error report, after) =>
            (.error (report.because ("failed to write '" ++ unit.name ++ "'")), after)
          | (.ok (), after) => (.ok last.1, after) := by
  have generated : pipeline.generate.perform world =
      (((pipeline.moments.forM Moment.step).perform (.start hierarchy, world)).1.map fun _ =>
          ((pipeline.moments.forM Moment.step).perform (.start hierarchy, world)).2.1,
        ((pipeline.moments.forM Moment.step).perform (.start hierarchy, world)).2.2) := by
    rw [generate, Attempt.perform_ofFunction, allPhases, forM_runPhase]
    rfl
  rw [run, Attempt.perform_bind, generated]
  rcases (pipeline.moments.forM Moment.step).perform (.start hierarchy, world) with
    ⟨report | success, state, after⟩
  · rfl
  · dsimp only [Except.map]
    cases state.unit with
    | none => rfl
    | some unit =>
        dsimp only
        rw [Attempt.perform_bind, Attempt.perform_mapError]
        rcases (sink unit).perform after with ⟨report | accepted, later⟩ <;> rfl

/-! ## A record beside the world -/

/-- A step that leaves alone what is recorded beside the world that it works on. -/
def Step.beside (ρ : Type) (step : Step ω hierarchy) : Step (ρ × ω) hierarchy :=
  step.within (fun (state, _, world) => (state, world))
    fun (state, world) (_, record, _) => (state, record, world)

/-- A phase that leaves alone what is recorded beside the world. -/
def Phase.beside (ρ : Type) (phase : Phase ω hierarchy) : Phase (ρ × ω) hierarchy :=
  { phase with run := phase.run.beside ρ }

/-- A plugin that leaves alone what is recorded beside the world. -/
def Plugin.beside (ρ : Type) (plugin : Plugin ω hierarchy) : Plugin (ρ × ω) hierarchy :=
  plugin.within Prod.snd fun world (record, _) => (record, world)

/-- A pipeline that leaves alone what is recorded beside the world. -/
def Pipeline.beside (ρ : Type) (pipeline : Pipeline ω hierarchy) : Pipeline (ρ × ω) hierarchy where
  phases := pipeline.phases.map (Phase.beside ρ)
  plugins := pipeline.plugins.map (Plugin.beside ρ)
  layout := pipeline.layout

/-- A moment that leaves alone what is recorded beside the world. -/
def Moment.beside (ρ : Type) : Moment ω hierarchy → Moment (ρ × ω) hierarchy
  | .before plugin phase => .before (plugin.beside ρ) phase
  | .during phase => .during (phase.beside ρ)
  | .after plugin phase => .after (plugin.beside ρ) phase
  | .check phase => .check phase

section Record

variable {ρ : Type}

theorem Moment.perform_beside (moment : Moment ω hierarchy) (state : PipelineState hierarchy)
    (record : ρ) (world : ω) :
    (moment.beside ρ).step.perform (state, record, world) =
      (moment.step.beside ρ).perform (state, record, world) := by
  cases moment with
  | before plugin phase => rfl
  | during phase => rfl
  | after plugin phase => rfl
  | check phase =>
      rw [Step.beside, Attempt.perform_within, beside, perform_check, perform_check]
      dsimp only
      split <;> rfl

/-- The phases of every run leave the record alone by themselves. -/
theorem Phase.beside_emit (layout : UnitLayout) :
    (Phase.emit layout : Phase ω hierarchy).beside ρ = .emit layout := by
  have sameRun : Step.beside ρ (Phase.emit layout : Phase ω hierarchy).run =
      (Phase.emit layout : Phase (ρ × ω) hierarchy).run := by
    apply Attempt.ext
    rintro ⟨state, record, world⟩
    rw [Step.beside, Attempt.perform_within, emit, emit, Attempt.perform_bind,
      Attempt.perform_bind, Attempt.perform_within, Attempt.perform_within]
    dsimp only
    rcases (Attempt.mapError Report.ofGeneration (BindingTree.render layout)).perform state.tree
      with ⟨report | unit, tree⟩ <;> rfl
  rw [beside, sameRun]
  rfl

theorem Pipeline.moments_beside (pipeline : Pipeline ω hierarchy) :
    (pipeline.beside ρ).moments = pipeline.moments.map (Moment.beside ρ) := by
  have builtIn : [Phase.build, Phase.sort, Phase.emit pipeline.layout] =
      [Phase.build, Phase.sort, Phase.emit pipeline.layout].map
        (Phase.beside ρ : Phase ω hierarchy → Phase (ρ × ω) hierarchy) := by
    simp only [List.map_cons, List.map_nil, Phase.beside_emit]
    rfl
  have own : ∀ phase : Phase ω hierarchy, (pipeline.beside ρ).momentsOf (phase.beside ρ) =
      (pipeline.momentsOf phase).map (Moment.beside ρ) := by
    intro phase
    simp only [momentsOf, Pipeline.beside, List.map_append, List.map_map, List.map_cons,
      List.map_nil]
    rfl
  -- The phases of every run are already what they would be made into.
  calc (pipeline.beside ρ).moments
      = (([Phase.build, Phase.sort, Phase.emit pipeline.layout] ++ pipeline.phases).map
          (Phase.beside ρ)).flatMap (pipeline.beside ρ).momentsOf := by
        rw [List.map_append, ← builtIn]
        rfl
    _ = pipeline.moments.map (Moment.beside ρ) := by
        simp only [List.flatMap_map, own, moments, List.map_flatMap]

/-- Moments leave a record alone, and do otherwise what they do without it. -/
theorem perform_forM_beside (moments : List (Moment ω hierarchy)) (state : PipelineState hierarchy)
    (record : ρ) (world : ω) :
    ((moments.map (Moment.beside ρ)).forM Moment.step).perform (state, record, world) =
      (Step.beside ρ (moments.forM Moment.step)).perform (state, record, world) := by
  induction moments generalizing state world with
  | nil => rfl
  | cons moment moments ih =>
      rw [List.map_cons, Attempt.perform_forM_cons, Moment.perform_beside, Step.beside,
        Attempt.perform_within, Step.beside, Attempt.perform_within, Attempt.perform_forM_cons]
      dsimp only
      rcases moment.step.perform (state, world) with ⟨report | success, middle⟩
      · rfl
      · exact ih middle.1 middle.2

end Record

/-! ## Calls of the sink -/

namespace Pipeline

/-- The units that a run calls its sink with. -/
def offered (pipeline : Pipeline ω hierarchy) (sink : UnitSink ω) (world : ω) : List SourceUnit :=
  (((pipeline.beside (List SourceUnit)).run (UnitSink.noting sink)).perform ([], world)).2.1

/-- A run in which the units that the sink is called with are written down. -/
theorem perform_run_noting (pipeline : Pipeline ω hierarchy) (sink : UnitSink ω) (world : ω) :
    ((pipeline.beside (List SourceUnit)).run (UnitSink.noting sink)).perform ([], world) =
      (((pipeline.run sink).perform world).1,
        match (pipeline.moments.forM Moment.step).perform (.start hierarchy, world) with
        | (.error _, _) => []
        | (.ok (), last) => last.1.unit.toList,
        ((pipeline.run sink).perform world).2) := by
  have noting : ∀ unit world, (UnitSink.noting sink unit).perform ([], world) =
      (((sink unit).perform world).1, [unit], ((sink unit).perform world).2) := fun _ _ => rfl
  rw [perform_run, perform_run, moments_beside, perform_forM_beside, Step.beside,
    Attempt.perform_within]
  dsimp only
  rcases (pipeline.moments.forM Moment.step).perform (.start hierarchy, world) with
    ⟨report | success, state, after⟩
  · rfl
  · dsimp only
    cases state.unit with
    | none => rfl
    | some unit =>
        dsimp only
        rw [noting]
        rcases (sink unit).perform after with ⟨report | accepted, later⟩ <;> rfl

/-- What a run does: it gets through its moments in their order, up to the first one that fails, and
calls its sink at the very end or not at all. Every step is given a tree over the hierarchy that the
run began with, and leaves one. -/
structure RunsInOrder (pipeline : Pipeline ω hierarchy) (sink : UnitSink ω) (world : ω) :
    Prop where
  /-- A check fails exactly if there is an error among the diagnostics, and changes nothing. -/
  checked : ∀ phase (state : PipelineState hierarchy × ω),
    (Moment.check phase).step.perform state =
      if ∃ diagnostic ∈ state.1.session.diagnostics, diagnostic.severity = .error then
        (.error (.ofText
          (Nat.repr (state.1.session.diagnostics.countP (·.severity = .error)) ++
            " error(s) reported during " ++ phase)), state)
      else (.ok (), state)
  /-- All of the moments succeed, or there is a first one that fails. -/
  ends : (∃ last, Completes pipeline.moments (.start hierarchy, world) last) ∨
    ∃ done moment later report last,
      StopsAt pipeline.moments (.start hierarchy, world) done moment later report last
  /-- Where one fails, its report is the answer, and nothing has happened after it. -/
  stopped : ∀ done moment later report last,
    StopsAt pipeline.moments (.start hierarchy, world) done moment later report last →
      (pipeline.run sink).perform world = (.error report, last.2) ∧
        pipeline.offered sink world = []
  /-- Where all of them succeed but have left no unit, nothing has happened after them either. -/
  unrendered : ∀ last, Completes pipeline.moments (.start hierarchy, world) last →
    last.1.unit = none →
      (pipeline.run sink).perform world =
          (.error (.ofText ("no unit was rendered for '" ++ last.1.tree.unitName ++ "'")),
            last.2) ∧
        pipeline.offered sink world = []
  /-- Where they have left a unit, the sink is called with it once, and then the run is over. -/
  written : ∀ last unit, Completes pipeline.moments (.start hierarchy, world) last →
    last.1.unit = some unit →
      (pipeline.run sink).perform world =
          (match (sink unit).perform last.2 with
          | (.ok (), after) => (.ok last.1, after)
          | (.error report, after) =>
            (.error (report.because ("failed to write '" ++ unit.name ++ "'")), after)) ∧
        pipeline.offered sink world = [unit]
  /-- The sink is called exactly if all of the moments succeed and leave a unit. -/
  calls : ∀ unit, unit ∈ pipeline.offered sink world ↔
    ∃ last, Completes pipeline.moments (.start hierarchy, world) last ∧ last.1.unit = some unit
  /-- Writing down what the sink is called with changes nothing else. -/
  noted : ((pipeline.beside (List SourceUnit)).run (UnitSink.noting sink)).perform ([], world) =
    (((pipeline.run sink).perform world).1, pipeline.offered sink world,
      ((pipeline.run sink).perform world).2)

theorem offered_eq (pipeline : Pipeline ω hierarchy) (sink : UnitSink ω) (world : ω) :
    pipeline.offered sink world =
      match (pipeline.moments.forM Moment.step).perform (.start hierarchy, world) with
      | (.error _, _) => []
      | (.ok (), last) => last.1.unit.toList := by
  rw [offered, perform_run_noting]

/-- Every run goes through its moments in order and calls its sink last of all. -/
theorem runs_in_order (pipeline : Pipeline ω hierarchy) (sink : UnitSink ω) (world : ω) :
    pipeline.RunsInOrder sink world where
  checked := by
    intro phase state
    rw [Moment.perform_check]
    simp only [Session.hasErrors_iff, Session.length_errors]
  ends := completes_or_stopsAt pipeline.moments _
  stopped := by
    intro done moment later report last stops
    rw [perform_run, offered_eq, stops.perform_forM]
    exact ⟨rfl, rfl⟩
  unrendered := by
    intro last completes noUnit
    rw [perform_run, offered_eq, completes.perform_forM]
    simp [noUnit]
  written := by
    intro last unit completes hasUnit
    rw [perform_run, offered_eq, completes.perform_forM]
    simp only [hasUnit, Option.toList_some, and_true]
    rcases (sink unit).perform last.2 with ⟨report | accepted, after⟩ <;> rfl
  calls := by
    intro unit
    rw [offered_eq]
    rcases completes_or_stopsAt pipeline.moments (PipelineState.start hierarchy, world) with
      ⟨last, completes⟩ | ⟨done, moment, later, report, last, stops⟩
    · rw [completes.perform_forM]
      simp only [Option.mem_toList]
      constructor
      · exact fun hasUnit => ⟨last, completes, hasUnit⟩
      · rintro ⟨other, same, hasUnit⟩
        cases completes.perform_forM.symm.trans same.perform_forM
        exact hasUnit
    · rw [stops.perform_forM]
      constructor
      · exact nofun
      · rintro ⟨other, completes, -⟩
        cases stops.perform_forM.symm.trans completes.perform_forM
  noted := by
    rw [offered, perform_run_noting]

end Pipeline

end RubyBindings
