/-
Module: RubyBindings.Output.Emission
Purpose: From a sorted tree to a finished unit: the unit's name is checked before anything else,
  then the fragments are moved up, then a layout makes the text. A sink gets a unit only once it is
  finished.
Main exports: BindingTree.render, BindingTree.write
-/
import RubyBindings.BindingTree.Aggregate
import RubyBindings.Output.SourceUnit

namespace RubyBindings.BindingTree

open Naming (identifierFault?)

variable {hierarchy : Hierarchy}

/-- Refuse a tree whose unit cannot be named. -/
def requireUnitName (tree : BindingTree hierarchy) : Except GenerationError Unit :=
  match identifierFault? tree.unitName with
  | some fault => .error (.invalidUnitName tree.unitName fault)
  | none => .ok ()

/-- Move all fragments to the root and lay out the unit. -/
def render (layout : UnitLayout) : Attempt (BindingTree hierarchy) GenerationError SourceUnit := do
  Attempt.ofExcept (← get).requireUnitName
  process root
  let tree ← get
  let preamble ← Attempt.ofExcept (tree.emit root)
  return {
    name := tree.unitName
    content := layout.render tree.unitName preamble (tree.node root).fragments }

/-- Render the unit and hand it to a sink. The sink is called once, and only with a finished
unit. -/
def write {σ : Type} (layout : UnitLayout) (sink : UnitSink σ) :
    Attempt (BindingTree hierarchy × σ) Report SourceUnit := do
  let unitName := (← get).1.unitName
  let unit ← ((render layout).within Prod.fst fun tree state => (tree, state.2)).mapError fun error =>
    (Report.ofGeneration error).because ("failed to generate '" ++ unitName ++ "'")
  ((sink unit).within Prod.snd fun part state => (state.1, part)).mapError
    (Report.because ("failed to write '" ++ unit.name ++ "'"))
  return unit

end RubyBindings.BindingTree
