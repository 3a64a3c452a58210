/-
Module: RubyBindings.Output.FileStore
Purpose: Stores of files, as far as generated files need them: a path is looked up, directories are
  created, and a file is written. A store may refuse any of it at any time. The disk is one store.
Main exports: FileStore, FileStore.writeCreating, Disk.store
-/
import RubyBindings.Attempt
import RubyBindings.Output.Report

namespace RubyBindings

/-- The operations of a store of files whose states are in `σ`. -/
structure FileStore (σ : Type) where
  /-- Does a path lead to something? -/
  pathExists : σ → Path → Bool
  /-- Create a directory together with the directories around it. -/
  createDirectories : Path → Attempt σ Report Unit
  /-- Write a file in a directory that exists, in the place of an old file of that name. -/
  write : Path → String → Attempt σ Report Unit

namespace FileStore

variable {σ : Type}

/-- Create the directories around a file. -/
def createAround (store : FileStore σ) (path : Path) : Attempt σ Report Unit :=
  match path.parent? with
  | some directory => store.createDirectories directory
  | none => return

/-- Create the directories around a file and write it. -/
def writeCreating (store : FileStore σ) (path : Path) (content : String) :
    Attempt σ Report Unit := do
  store.createAround path
  store.write path content

end FileStore

/-- A disk as a store of files. -/
def Disk.store : FileStore Disk where
  pathExists := Disk.pathExists
  createDirectories := fun path =>
    Attempt.mapError (fun error => .ofCause (.disk error))
      (Attempt.ofFunction fun disk => disk.createDirectories path)
  write := fun path content =>
    Attempt.ofFunction fun disk =>
      match disk.write path content with
      | .error error => (.error (.ofCause (.disk error)), disk)
      | .ok disk => (.ok (), disk)

end RubyBindings
