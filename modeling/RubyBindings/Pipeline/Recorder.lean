/-
Module: RubyBindings.Pipeline.Recorder
Purpose: A plugin that keeps the state of a pipeline after each phase, and writes it to a directory
  as JSON if it is given one.
Main exports: PhaseSnapshot, PhaseSnapshot.toJson, recorder
-/
import RubyBindings.BindingTree.Snapshot
import RubyBindings.Output.FileStore
import RubyBindings.Pipeline.Basic
import RubyBindings.Text.Json

namespace RubyBindings

open Text (JsonValue)

/-- The state of a pipeline after a phase. -/
structure PhaseSnapshot where
  phase : String
  tree : NodeSnapshot
  /-- The text of the rendered unit, once there is one. -/
  unit : Option String
  diagnostics : List Diagnostic

/-- A list of texts as JSON. -/
def textsJson (texts : List String) : JsonValue :=
  .list (texts.map JsonValue.text)

/-- An optional text as JSON. -/
def optionalTextJson (text : Option String) : JsonValue :=
  text.elim .null JsonValue.text

/-- A diagnostic as JSON. -/
def Diagnostic.toJson (diagnostic : Diagnostic) : JsonValue :=
  .record [
    ("severity", .text diagnostic.severity.title),
    ("phase", .text diagnostic.phase),
    ("message", .text diagnostic.message),
    ("location", optionalTextJson diagnostic.location)]

/-- A handle as JSON. -/
def Handle.toJson (handle : Handle) : JsonValue :=
  .record [("variable", .text handle.name), ("type", .text handle.type)]

/-- Fragments as JSON. -/
def Fragments.toJson (fragments : Fragments) : JsonValue :=
  .record [
    ("includes", textsJson fragments.includes),
    ("declarations", textsJson fragments.declarations),
    ("registrations", textsJson fragments.registrations)]

/-- The fields of a node without the nodes below it. Variable and fragments are left out where
there are none. -/
def NodeSnapshot.ownFields (snapshot : NodeSnapshot) : List (String × JsonValue) :=
  [("id", .number snapshot.id),
    ("kind", .text snapshot.kind.name),
    ("name", .text snapshot.name),
    ("state", .text snapshot.stage.name)] ++
  (snapshot.handle.map fun handle => ("binding", handle.toJson)).toList ++
  (if snapshot.fragments.isEmpty then [] else [("fragments", snapshot.fragments.toJson)])

mutual

/-- A subtree as JSON. A node without children has no field for them. -/
def NodeSnapshot.toJson : NodeSnapshot → JsonValue
  | ⟨id, kind, name, stage, handle, fragments, children⟩ =>
    let own := NodeSnapshot.ownFields ⟨id, kind, name, stage, handle, fragments, []⟩
    match children with
    | [] => .record own
    | first :: others =>
      .record (own ++ [("children", .list (first.toJson :: NodeSnapshot.listJson others))])

/-- A list of subtrees as JSON. -/
def NodeSnapshot.listJson : List NodeSnapshot → List JsonValue
  | [] => []
  | snapshot :: snapshots => snapshot.toJson :: NodeSnapshot.listJson snapshots

end

/-- The state after a phase as JSON. A unit that was not rendered is left out. -/
def PhaseSnapshot.toJson (snapshot : PhaseSnapshot) : JsonValue :=
  .record (
    [("phase", .text snapshot.phase), ("tree", snapshot.tree.toJson)] ++
    (snapshot.unit.map fun unit => ("unit", .text unit)).toList ++
    [("diagnostics", .list (snapshot.diagnostics.map Diagnostic.toJson))])

/-- The state of a pipeline after a phase. -/
def PipelineState.snapshot {hierarchy : Hierarchy} (state : PipelineState hierarchy)
    (phase : String) : PhaseSnapshot where
  phase := phase
  tree := state.tree.snapshot BindingTree.root
  unit := state.unit.map SourceUnit.content
  diagnostics := state.session.diagnostics

/-- Write the state after a phase to a directory, which is created if it is missing. -/
def PhaseSnapshot.writeTo {σ : Type} (store : FileStore σ) (directory : Path)
    (snapshot : PhaseSnapshot) : Attempt σ Report Unit := do
  (store.createDirectories directory).mapError (Report.because ("failed to create " ++ directory))
  let path := directory.join (snapshot.phase ++ ".json")
  (store.write path snapshot.toJson.pretty).mapError (Report.because ("failed to write " ++ path))

/-- A plugin that adds the state after each phase to a list, and then writes it to a directory if
it is given one. -/
def recorder {hierarchy : Hierarchy} {σ : Type} (store : FileStore σ) (directory : Option Path) :
    Plugin (List PhaseSnapshot × σ) hierarchy where
  name := "snapshot"
  before := fun _ => return
  after := fun phase => do
    let snapshot := (← get).1.snapshot phase
    modify fun (state, snapshots, files) => (state, snapshots ++ [snapshot], files)
    match directory with
    | none => return
    | some directory =>
      (snapshot.writeTo store directory).within (fun (_, _, files) => files)
        fun files (state, snapshots, _) => (state, snapshots, files)

end RubyBindings
