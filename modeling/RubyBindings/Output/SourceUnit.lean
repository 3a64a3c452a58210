/-
Module: RubyBindings.Output.SourceUnit
Purpose: Generated units, the layouts that turn fragments into the text of one, and the sinks that
  take a finished unit. A layout gets the name of the unit, the root's own text and all fragments.
Main exports: SourceUnit, UnitLayout, UnitStyle, UnitStyle.singleFile, UnitSink
-/
import RubyBindings.Attempt
import RubyBindings.Fragments
import RubyBindings.Naming.VariableName
import RubyBindings.Output.Report
import RubyBindings.Source.SourceText

namespace RubyBindings

open Naming (variableName)
open Source (Indentation SourceText)

/-- The finished text of one root, under the name of the root. -/
structure SourceUnit where
  name : String
  content : String
deriving DecidableEq, Repr

/-- A way to lay out a unit. -/
structure UnitLayout where
  name : String
  render : (unitName preamble : String) → Fragments → String

/-- A place for finished units, as an operation on its state. -/
abbrev UnitSink (σ : Type) := SourceUnit → Attempt σ Report Unit

/-- The choices left to the user of the single file layout. -/
structure UnitStyle where
  /-- The indentation inside the initialiser. -/
  indentation : Indentation := .cpp
  /-- Does the unit begin with the root's own text? -/
  banner : Bool := true
deriving DecidableEq, Repr

/-- Write several texts, each with its own lines. -/
def Source.SourceText.allLines (source : SourceText) (texts : List String) : SourceText :=
  texts.foldl (fun source text => source.lines text) source

/-- Write a section and an empty line behind it; an empty section leaves nothing. -/
def Source.SourceText.closeSection (source : SourceText) (texts : List String) : SourceText :=
  if texts.isEmpty then source else source.blank

namespace UnitStyle

/-- Write the banner, if it is wanted and there is one. -/
def writeBanner (style : UnitStyle) (preamble : String) (source : SourceText) : SourceText :=
  if style.banner = true ∧ preamble ≠ "" then (source.lines preamble).blank else source

/-- The text of a unit in one file: banner, includes, declarations, and then the initialiser, which
Ruby calls when it loads the extension, with every registration inside. -/
def render (style : UnitStyle) (unitName preamble : String) (fragments : Fragments) : String :=
  let source := style.writeBanner preamble (SourceText.empty style.indentation)
  let source := fragments.includes.foldl (fun source text => source.line text) source
  let source := source.closeSection fragments.includes
  let source := source.allLines fragments.declarations
  let source := source.closeSection fragments.declarations
  let source := source.line "extern \"C\""
  let source := source.line ("void Init_" ++ variableName unitName ++ "()")
  let source := (source.line "\x7b").indent
  let source := source.allLines fragments.registrations
  ((source.dedent).line "\x7d").text

/-- The layout of a unit as one C++ source file. -/
def singleFile (style : UnitStyle) : UnitLayout where
  name := "single_file"
  render := style.render

end UnitStyle

end RubyBindings
