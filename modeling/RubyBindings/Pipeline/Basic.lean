/-
Module: RubyBindings.Pipeline.Basic
Purpose: Pipelines. A pipeline takes a hierarchy through the phases build, sort and emit and then
  through the user's own phases. Plugins are called before and after each phase, and an error that
  was reported ends the run at the end of the phase. The unit goes to the sink last of all.
Main exports: PipelineState, Step, Phase, Plugin, Pipeline, Pipeline.generate, Pipeline.run
-/
import RubyBindings.BindingTree.Build
import RubyBindings.BindingTree.Order
import RubyBindings.Output.Emission

namespace RubyBindings

/-- What the phases of a pipeline work on. The tree is always one over the hierarchy that the run began
with: a step may put any tree of that hierarchy in its place, but none of another hierarchy. -/
structure PipelineState (hierarchy : Hierarchy) where
  tree : BindingTree hierarchy
  session : Session
  /-- The rendered unit, once there is one. -/
  unit : Option SourceUnit
deriving DecidableEq, Repr

/-- The state before the first phase. -/
def PipelineState.start (hierarchy : Hierarchy) : PipelineState hierarchy where
  tree := .start hierarchy
  session := .fresh
  unit := none

/-- One step of a pipeline: it works on the pipeline's state, and on the world `ω` outside. -/
abbrev Step (ω : Type) (hierarchy : Hierarchy) := Attempt (PipelineState hierarchy × ω) Report Unit

/-- A named phase. -/
structure Phase (ω : Type) (hierarchy : Hierarchy) where
  name : String
  description : String
  run : Step ω hierarchy

/-- A plugin: what to do before and after the phase of a given name. -/
structure Plugin (ω : Type) (hierarchy : Hierarchy) where
  name : String
  before : String → Step ω hierarchy
  after : String → Step ω hierarchy

namespace PipelineState

variable {hierarchy : Hierarchy}

/-- The part of the state that building works on. -/
def workspace (state : PipelineState hierarchy) : Workspace hierarchy :=
  { tree := state.tree, session := state.session }

end PipelineState

namespace Phase

variable {ω : Type} {hierarchy : Hierarchy}

/-- Build the whole tree. -/
def build : Phase ω hierarchy where
  name := "build"
  description := "Create a node for every wrapped entity and collect its fragments"
  run := ((BindingTree.build BindingTree.root).mapError Report.ofGeneration).within
    (fun (state, _) => state.workspace)
    fun workspace (state, world) =>
      ({ state with tree := workspace.tree, session := workspace.session }, world)

/-- Sort the whole tree. -/
def sort : Phase ω hierarchy where
  name := "sort"
  description := "Order siblings so base classes precede derived classes"
  run := ((BindingTree.sort BindingTree.root).mapError Report.ofGeneration).within
    (fun (state, _) => state.tree)
    fun tree (state, world) => ({ state with tree }, world)

/-- Render the unit. -/
def emit (layout : UnitLayout) : Phase ω hierarchy where
  name := "emit"
  description := "Aggregate fragments into the root and render the unit"
  run := do
    let unit ← ((BindingTree.render layout).mapError Report.ofGeneration).within
      (fun (state, _) => state.tree)
      fun tree (state, world) => ({ state with tree }, world)
    modify fun (state, world) => ({ state with unit := some unit }, world)

end Phase

/-- A plugin that works on a part of the world outside. -/
def Plugin.within {ω θ : Type} {hierarchy : Hierarchy} (view : θ → ω) (update : ω → θ → θ)
    (plugin : Plugin ω hierarchy) : Plugin θ hierarchy where
  name := plugin.name
  before := fun phase => (plugin.before phase).within (fun (state, world) => (state, view world))
    fun (state, part) (_, world) => (state, update part world)
  after := fun phase => (plugin.after phase).within (fun (state, world) => (state, view world))
    fun (state, part) (_, world) => (state, update part world)

/-- The plugins, the user's own phases and the layout of a generation. -/
structure Pipeline (ω : Type) (hierarchy : Hierarchy) where
  phases : List (Phase ω hierarchy) := []
  plugins : List (Plugin ω hierarchy) := []
  layout : UnitLayout := UnitStyle.singleFile {}

namespace Pipeline

variable {ω : Type} {hierarchy : Hierarchy}

/-- Call every plugin before a phase. -/
def callBefore (pipeline : Pipeline ω hierarchy) (phase : String) : Step ω hierarchy :=
  pipeline.plugins.forM fun plugin =>
    (plugin.before phase).mapError
      (Report.because ("plugin '" ++ plugin.name ++ "' failed before " ++ phase))

/-- Call every plugin after a phase. -/
def callAfter (pipeline : Pipeline ω hierarchy) (phase : String) : Step ω hierarchy :=
  pipeline.plugins.forM fun plugin =>
    (plugin.after phase).mapError
      (Report.because ("plugin '" ++ plugin.name ++ "' failed after " ++ phase))

/-- End the run if an error has been reported. -/
def requireNoErrors (phase : String) : Step ω hierarchy := do
  let session := (← get).1.session
  if session.hasErrors then
    throw (.ofText (Nat.repr session.errors.length ++ " error(s) reported during " ++ phase))

/-- Run one phase between the calls of the plugins. -/
def runPhase (pipeline : Pipeline ω hierarchy) (phase : Phase ω hierarchy) : Step ω hierarchy := do
  pipeline.callBefore phase.name
  phase.run.mapError (Report.because (phase.name ++ " phase failed"))
  pipeline.callAfter phase.name
  requireNoErrors phase.name

/-- The phases of a run, in order. -/
def allPhases (pipeline : Pipeline ω hierarchy) : List (Phase ω hierarchy) :=
  [.build, .sort, .emit pipeline.layout] ++ pipeline.phases

/-- Run every phase from the start, without writing anything. -/
def generate (pipeline : Pipeline ω hierarchy) : Attempt ω Report (PipelineState hierarchy) :=
  .ofFunction fun world =>
    let (result, state, world) :=
      (pipeline.allPhases.forM pipeline.runPhase).perform (.start hierarchy, world)
    (result.map fun _ => state, world)

/-- Run every phase and hand the unit to a sink. -/
def run (pipeline : Pipeline ω hierarchy) (sink : UnitSink ω) :
    Attempt ω Report (PipelineState hierarchy) := do
  let state ← pipeline.generate
  match state.unit with
  | none => throw (.ofText ("no unit was rendered for '" ++ state.tree.unitName ++ "'"))
  | some unit =>
    (sink unit).mapError (Report.because ("failed to write '" ++ unit.name ++ "'"))
    return state

end Pipeline

end RubyBindings
