/-
Module: RubyBindings.Proofs.Output.FileStore
Purpose: What may be assumed of a store of files: a write replaces one file or changes none, creating
  directories changes no file, and nothing goes away. Disks are such stores, and so is any store of
  this kind whose operations may be interrupted.
Main exports: FileView, FileStore.Lawful, Disk.lawful, FileStore.interrupted,
  FileStore.Lawful.interrupted, FileStore.Lawful.writeCreating_ok
-/
import RubyBindings.Output.FileStore
import RubyBindings.Proofs.Attempt
import RubyBindings.Proofs.Output.Disk

namespace RubyBindings

/-- The files of a store: which file a path is for, and what the files hold. Different paths may be
for one file. -/
structure FileView (σ φ : Type) where
  file : Path → φ
  content : σ → φ → Option String

/-- The same files where a state has something beside it that holds no files. -/
def FileView.beside {σ φ : Type} (view : FileView σ φ) (τ : Type) : FileView (σ × τ) φ where
  file := view.file
  content := fun state => view.content state.1

namespace FileStore

variable {σ φ : Type} [DecidableEq φ] {store : FileStore σ} {view : FileView σ φ}

/-- The operations of a store do to its files what they are called for, or fail without changing
any file. Nothing is assumed of when they fail. -/
structure Lawful (store : FileStore σ) (view : FileView σ φ) : Prop where
  /-- Creating directories changes no file, also if it fails on the way. -/
  content_createDirectories : ∀ path state file,
    view.content ((store.createDirectories path).perform state).2 file = view.content state file
  /-- Writing a file replaces whatever it held, and changes no other file. -/
  content_write : ∀ path text before after,
    (store.write path text).perform before = (.ok (), after) → ∀ file,
      view.content after file =
        if file = view.file path then some text else view.content before file
  /-- A failed write changes no file. -/
  content_write_error : ∀ path text before report after,
    (store.write path text).perform before = (.error report, after) → ∀ file,
      view.content after file = view.content before file
  /-- A file that has been written is there. -/
  pathExists_write : ∀ path text before after,
    (store.write path text).perform before = (.ok (), after) → store.pathExists after path = true
  /-- What is there does not go away when directories are created or a file is written. -/
  keeps_createDirectories : ∀ path state other, store.pathExists state other = true →
    store.pathExists ((store.createDirectories path).perform state).2 other = true
  keeps_write : ∀ path text state other, store.pathExists state other = true →
    store.pathExists ((store.write path text).perform state).2 other = true

/-- Whatever was there is there still. -/
def Keeps (store : FileStore σ) (before after : σ) : Prop :=
  ∀ path, store.pathExists before path = true → store.pathExists after path = true

namespace Keeps

variable {before middle after : σ}

theorem refl (state : σ) : store.Keeps state state :=
  fun _ => id

theorem trans (first : store.Keeps before middle) (second : store.Keeps middle after) :
    store.Keeps before after :=
  fun path existing => second path (first path existing)

end Keeps

/-! ## Writing a file with the directories around it -/

theorem perform_writeCreating (store : FileStore σ) (path : Path) (text : String) (state : σ) :
    (store.writeCreating path text).perform state =
      match (store.createAround path).perform state with
      | (.ok _, between) => (store.write path text).perform between
      | (.error report, between) => (.error report, between) := by
  rw [writeCreating, Attempt.perform_bind]
  rcases (store.createAround path).perform state with ⟨_ | _, between⟩ <;> rfl

namespace Lawful

variable (lawful : store.Lawful view) {path : Path} {text : String} {before after : σ}
include lawful

theorem content_createAround (path : Path) (state : σ) (file : φ) :
    view.content ((store.createAround path).perform state).2 file = view.content state file := by
  rw [createAround]
  cases path.parent? with
  | none => rfl
  | some directory => exact lawful.content_createDirectories directory state file

theorem keeps_createAround (path : Path) (state : σ) :
    store.Keeps state ((store.createAround path).perform state).2 := by
  rw [createAround]
  cases path.parent? with
  | none => exact .refl state
  | some directory =>
      exact fun other existing => lawful.keeps_createDirectories directory state other existing

/-- With success one file is replaced and the others stay as they are. -/
theorem writeCreating_ok
    (wrote : (store.writeCreating path text).perform before = (.ok (), after)) :
    (∀ file, view.content after file =
        if file = view.file path then some text else view.content before file) ∧
      store.pathExists after path = true := by
  have around := lawful.content_createAround path before
  rw [perform_writeCreating] at wrote
  rcases made : (store.createAround path).perform before with ⟨report | done, between⟩
  · rw [made] at wrote
    cases wrote
  · rw [made] at wrote around
    refine ⟨fun file => ?_, lawful.pathExists_write path text between after wrote⟩
    rw [lawful.content_write path text between after wrote, around]

/-- Without success all files stay as they are, whatever directories have been created. -/
theorem writeCreating_error {report : Report}
    (failed : (store.writeCreating path text).perform before = (.error report, after)) (file : φ) :
    view.content after file = view.content before file := by
  have around := lawful.content_createAround path before file
  rw [perform_writeCreating] at failed
  rcases made : (store.createAround path).perform before with ⟨other | done, between⟩
  · rw [made] at failed around
    cases failed
    exact around
  · rw [made] at failed around
    exact (lawful.content_write_error path text between report after failed file).trans around

theorem keeps_writeCreating (path : Path) (text : String) (state : σ) :
    store.Keeps state ((store.writeCreating path text).perform state).2 := by
  have around := lawful.keeps_createAround path state
  rw [perform_writeCreating]
  rcases made : (store.createAround path).perform state with ⟨report | done, between⟩
  · rw [made] at around
    exact around
  · rw [made] at around
    exact around.trans fun other existing => lawful.keeps_write path text between other existing

end Lawful

/-! ## Interruptions -/

/-- An operation that asks the next signal first. If that says so, it fails before it has done
anything; without a signal it goes ahead. -/
def interruptible (operation : Attempt σ Report Unit) : Attempt (σ × List Bool) Report Unit :=
  .ofFunction fun (state, signals) =>
    if signals.headD false then (.error (.ofText "interrupted"), state, signals.tail)
    else
      let (result, state) := operation.perform state
      (result, state, signals.tail)

/-- Either nothing is done, or the operation is. -/
theorem perform_interruptible {operation : Attempt σ Report Unit} {before after : σ}
    {signals rest : List Bool} {result : Except Report Unit}
    (performed : (interruptible operation).perform (before, signals) = (result, after, rest)) :
    result = .error (.ofText "interrupted") ∧ after = before ∨
      operation.perform before = (result, after) := by
  rw [interruptible, Attempt.perform_ofFunction] at performed
  dsimp only at performed
  split at performed
  · cases performed
    exact Or.inl ⟨rfl, rfl⟩
  · cases performed
    exact Or.inr rfl

/-- What holds before an operation, and would hold after it, holds also if it may be interrupted. -/
theorem holds_interruptible (holds : σ → Prop) {operation : Attempt σ Report Unit} {before : σ}
    (undone : holds before) (done : holds (operation.perform before).2) (signals : List Bool) :
    holds ((interruptible operation).perform (before, signals)).2.1 := by
  rcases performed : (interruptible operation).perform (before, signals) with
    ⟨result, after, rest⟩
  rcases perform_interruptible performed with ⟨-, rfl⟩ | same
  · exact undone
  · rw [same] at done
    exact done

/-- What succeeds has not been interrupted. -/
theorem perform_of_interruptible {operation : Attempt σ Report Unit} {before after : σ}
    {signals rest : List Bool}
    (performed : (interruptible operation).perform (before, signals) = (.ok (), after, rest)) :
    operation.perform before = (.ok (), after) :=
  (perform_interruptible performed).resolve_left fun interrupted => nomatch interrupted.1

/-- A store whose operations may be interrupted. -/
def interrupted (store : FileStore σ) : FileStore (σ × List Bool) where
  pathExists := fun state => store.pathExists state.1
  createDirectories := fun path => interruptible (store.createDirectories path)
  write := fun path text => interruptible (store.write path text)

namespace Lawful

variable (lawful : store.Lawful view)
include lawful

/-- Interruptions do no harm: a store that keeps to the rules does so however often it is
interrupted. -/
theorem interrupted : store.interrupted.Lawful (view.beside (List Bool)) where
  content_createDirectories := by
    rintro path ⟨before, signals⟩ file
    exact holds_interruptible (fun after => view.content after file = view.content before file) rfl
      (lawful.content_createDirectories path before file) signals
  content_write := by
    rintro path text ⟨before, signals⟩ ⟨after, rest⟩ wrote
    exact lawful.content_write path text before after (perform_of_interruptible wrote)
  content_write_error := by
    rintro path text ⟨before, signals⟩ report ⟨after, rest⟩ failed file
    rcases perform_interruptible failed with ⟨-, rfl⟩ | refused
    · rfl
    · exact lawful.content_write_error path text before report after refused file
  pathExists_write := by
    rintro path text ⟨before, signals⟩ ⟨after, rest⟩ wrote
    exact lawful.pathExists_write path text before after (perform_of_interruptible wrote)
  keeps_createDirectories := by
    rintro path ⟨before, signals⟩ other existing
    exact holds_interruptible (fun after => store.pathExists after other = true) existing
      (lawful.keeps_createDirectories path before other existing) signals
  keeps_write := by
    rintro path text ⟨before, signals⟩ other existing
    exact holds_interruptible (fun after => store.pathExists after other = true) existing
      (lawful.keeps_write path text before other existing) signals

end Lawful

end FileStore

/-! ## Disks -/

/-- The files of a disk are at its places. -/
def Disk.view : FileView Disk Place where
  file := Path.destination
  content := Disk.fileAt?

theorem Disk.perform_store_write (path : Path) (text : String) (disk : Disk) :
    (Disk.store.write path text).perform disk =
      match disk.write path text with
      | .error error => (.error (.ofCause (.disk error)), disk)
      | .ok after => (.ok (), after) := rfl

/-- A disk keeps to the rules for stores of files. -/
theorem Disk.lawful : Disk.store.Lawful Disk.view where
  content_createDirectories := by
    intro path disk place
    exact (onlyDirectories_createDirectories disk path).file place
  content_write := by
    intro path text before after wrote
    rw [perform_store_write] at wrote
    split at wrote
    · cases wrote
    next written =>
      cases wrote
      exact (holdsWritten_of_write written).file
  content_write_error := by
    intro path text before report after failed place
    rw [perform_store_write] at failed
    split at failed
    · cases failed
      rfl
    · cases failed
  pathExists_write := by
    intro path text before after wrote
    rw [perform_store_write] at wrote
    split at wrote
    · cases wrote
    next written =>
      cases wrote
      exact (holdsWritten_of_write written).pathExists
  keeps_createDirectories := by
    intro path disk other existing
    exact (onlyDirectories_createDirectories disk path).lasting.pathExists existing
  keeps_write := by
    intro path text disk other existing
    rw [perform_store_write]
    split
    · exact existing
    next written => exact (holdsWritten_of_write written).lasting.pathExists existing

end RubyBindings
