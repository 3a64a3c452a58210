/-
Module: RubyBindings.Output.Sink
Purpose: Sinks for finished units: a shelf that keeps them, and a folder that writes each to a file
  of its own.
Main exports: UnitShelf, UnitShelf.accept, OutputFolder, OutputFolder.accept
-/
import RubyBindings.Output.FileStore
import RubyBindings.Output.SourceUnit

namespace RubyBindings

/-- The units received so far, in order. -/
structure UnitShelf where
  units : List SourceUnit
deriving DecidableEq, Repr

namespace UnitShelf

/-- No unit has been received. -/
def empty : UnitShelf where
  units := []

/-- The first unit with a name. -/
def find? (shelf : UnitShelf) (name : String) : Option SourceUnit :=
  shelf.units.find? (·.name == name)

/-- Keep a unit. -/
def accept : UnitSink UnitShelf := fun unit =>
  modify fun shelf => { units := shelf.units ++ [unit] }

end UnitShelf

/-- What to do with a file that is there already. -/
inductive OverwriteRule where
  | always
  /-- Keep the file, since the user may have edited it. -/
  | ifMissing
deriving DecidableEq, Repr

/-- A folder that units are written to, with the rules for writing, and the paths written so
far. -/
structure OutputFolder where
  directory : Path
  extension : String
  overwrite : OverwriteRule := .always
  /-- A line above the content, such as a licence. -/
  header : Option String := none
  written : List Path := []
deriving DecidableEq, Repr

namespace OutputFolder

/-- The extension of generated sources. -/
def defaultExtension : String := "rb.cpp"

/-- The path that a unit is written to. -/
def pathFor (folder : OutputFolder) (name : String) : Path :=
  folder.directory.join (name ++ "." ++ folder.extension)

/-- The text of a unit's file. -/
def fileText (folder : OutputFolder) (unit : SourceUnit) : String :=
  match folder.header with
  | some header => header ++ "\n" ++ unit.content
  | none => unit.content

variable {σ : Type}

/-- Is an existing file kept? -/
def keeps (folder : OutputFolder) (store : FileStore σ) (state : σ) (path : Path) : Bool :=
  folder.overwrite == .ifMissing && store.pathExists state path

/-- Write a unit to its file, unless the file is there and is to be kept. Only a file that was
written is recorded. -/
def accept (store : FileStore σ) : UnitSink (OutputFolder × σ) := fun unit =>
  Attempt.ofFunction fun (folder, state) =>
    let path := folder.pathFor unit.name
    if folder.keeps store state path then (.ok (), folder, state)
    else
      match (store.writeCreating path (folder.fileText unit)).perform state with
      | (.error report, state) =>
        (.error (report.because ("failed to write '" ++ path ++ "'")), folder, state)
      | (.ok (), state) => (.ok (), { folder with written := folder.written ++ [path] }, state)

end OutputFolder

end RubyBindings
