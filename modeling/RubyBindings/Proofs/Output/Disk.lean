/-
Module: RubyBindings.Proofs.Output.Disk
Purpose: What operations on files leave alone. A path can lead to one place only, if it leads anywhere;
  directories and files stay what they are; creating directories changes no file, and writing a file
  changes that file and no other, or fails and changes none.
Main exports: Path.destination, Disk.fileAt?, Disk.Lasting, Disk.OnlyDirectories,
  Disk.onlyDirectories_createDirectories, Disk.HoldsWritten, Disk.holdsWritten_of_write
-/
import RubyBindings.Output.Disk

namespace RubyBindings

/-! ## Where paths lead -/

namespace Path

/-- The place that one name leads to, if there is a directory to start from. -/
def beyond (place : Place) (name : String) : Place :=
  if name = ".." then place.dropLast else place ++ [name]

/-- The place that a path leads to, if every directory on the way is there. -/
def destination (path : Path) : Place :=
  path.segments.foldl beyond []

end Path

namespace Disk

variable {disk before middle after : Disk} {place other goal : Place} {path : Path}

/-- The content of the file at a place, if a file is there. -/
def fileAt? (disk : Disk) (place : Place) : Option String :=
  match disk.entry? place with
  | some (.file content) => some content
  | _ => none

theorem fileAt?_eq_some {content : String} :
    disk.fileAt? place = some content ↔ disk.entry? place = some (.file content) := by
  rw [fileAt?]
  split <;> simp_all

theorem fileAt?_congr (same : after.entry? place = before.entry? place) :
    after.fileAt? place = before.fileAt? place := by
  rw [fileAt?, fileAt?, same]

@[simp] theorem entry?_root (disk : Disk) : disk.entry? [] = some .directory := rfl

theorem entry?_put_self (below : place ≠ []) (entry : DiskEntry) :
    Disk.entry? (disk.put place entry) place = some entry := by
  simp [put, entry?, below]

theorem entry?_put_of_ne (different : other ≠ place) (entry : DiskEntry) :
    Disk.entry? (disk.put place entry) other = disk.entry? other := by
  have elsewhere (entries : List (Place × DiskEntry)) :
      (entries.filter (·.1 != place)).lookup other = entries.lookup other := by
    induction entries with
    | nil => rfl
    | cons first entries ih =>
        by_cases same : first.1 = place
        · have apart : (other == first.1) = false := by simpa [same] using different
          rw [List.filter_cons_of_neg (by simpa using same), ih, List.lookup_cons, apart]
        · rw [List.filter_cons_of_pos (by simpa using same), List.lookup_cons, List.lookup_cons, ih]
  have apart : (other == place) = false := by simpa using different
  simp only [put, entry?, List.lookup_cons, apart, elsewhere]

/-! ## What lasts -/

/-- A directory stays one, and where a file is, there stays one. -/
structure Lasting (before after : Disk) : Prop where
  directory : ∀ place, before.entry? place = some .directory → after.entry? place = some .directory
  file : ∀ place content, before.entry? place = some (.file content) →
    ∃ later, after.entry? place = some (.file later)

namespace Lasting

theorem refl (disk : Disk) : Lasting disk disk :=
  ⟨fun _ => id, fun _ content found => ⟨content, found⟩⟩

theorem trans (first : Lasting before middle) (second : Lasting middle after) :
    Lasting before after where
  directory := fun place found => second.directory place (first.directory place found)
  file := by
    intro place content found
    obtain ⟨later, still⟩ := first.file place content found
    exact second.file place later still

/-- A file is put where no directory is. -/
theorem put_file (notDirectory : disk.entry? place ≠ some .directory) (content : String) :
    Lasting disk (disk.put place (.file content)) := by
  have below : place ≠ [] := by
    rintro rfl
    exact notDirectory rfl
  constructor
  · intro other found
    have different : other ≠ place := by
      rintro rfl
      exact notDirectory found
    rw [entry?_put_of_ne different, found]
  · intro other old found
    by_cases same : other = place
    · rw [same]
      exact ⟨content, entry?_put_self below _⟩
    · exact ⟨old, by rw [entry?_put_of_ne same, found]⟩

end Lasting

/-- Directories may have been added, and nothing else has happened. -/
structure OnlyDirectories (before after : Disk) : Prop where
  directory : ∀ place, before.entry? place = some .directory → after.entry? place = some .directory
  file : ∀ place, after.fileAt? place = before.fileAt? place

namespace OnlyDirectories

theorem refl (disk : Disk) : OnlyDirectories disk disk :=
  ⟨fun _ => id, fun _ => rfl⟩

theorem trans (first : OnlyDirectories before middle) (second : OnlyDirectories middle after) :
    OnlyDirectories before after where
  directory := fun place found => second.directory place (first.directory place found)
  file := fun place => (second.file place).trans (first.file place)

theorem lasting (only : OnlyDirectories before after) : Lasting before after where
  directory := only.directory
  file := by
    intro place content found
    refine ⟨content, ?_⟩
    rw [← fileAt?_eq_some, only.file, fileAt?_eq_some, found]

/-- A directory is put where nothing is. -/
theorem put (free : disk.entry? place = none) : OnlyDirectories disk (disk.put place .directory) := by
  have below : place ≠ [] := by
    rintro rfl
    cases free
  constructor
  · intro other found
    by_cases same : other = place
    · rw [same]
      exact entry?_put_self below _
    · rw [entry?_put_of_ne same, found]
  · intro other
    by_cases same : other = place
    · rw [same, fileAt?, fileAt?, entry?_put_self below, free]
    · exact fileAt?_congr (entry?_put_of_ne same _)

end OnlyDirectories

/-! ## Following names -/

/-- One name leads on from a directory, unless the name is too long. -/
theorem step_eq (disk : Disk) (place : Place) (name : String) :
    disk.step place name =
      match disk.entry? place with
      | none => .error .notFound
      | some (.file _) => .error .notADirectory
      | some .directory =>
        if name ≠ ".." ∧ longestName < name.utf8ByteSize then .error .nameTooLong
        else .ok (Path.beyond place name) := by
  cases found : disk.entry? place with
  | none => simp [step, requireDirectory, found, bind, Except.bind]
  | some entry =>
      cases entry with
      | file content => simp [step, requireDirectory, found, bind, Except.bind]
      | directory =>
          simp only [step, requireDirectory, found, Path.beyond]
          by_cases up : name = ".."
          · simp [up, bind, Except.bind, pure, Except.pure]
          · by_cases long : longestName < name.utf8ByteSize
            · simp [up, long, bind, Except.bind, throw, throwThe, MonadExceptOf.throw]
            · simp [up, long, bind, Except.bind, pure, Except.pure]

theorem directory_of_step {name : String} (stepped : disk.step place name = .ok goal) :
    disk.entry? place = some .directory ∧ goal = Path.beyond place name := by
  rw [step_eq] at stepped
  split at stepped
  · cases stepped
  · cases stepped
  · split at stepped
    · cases stepped
    · exact ⟨‹_›, (Except.ok.inj stepped).symm⟩

/-- A directory once there can be gone through for ever. -/
theorem Lasting.step (lasting : Lasting before after) {name : String}
    (stepped : before.step place name = .ok goal) : after.step place name = .ok goal := by
  obtain ⟨found, -⟩ := directory_of_step stepped
  rw [step_eq, found] at stepped
  rw [step_eq, lasting.directory place found]
  exact stepped

theorem Lasting.foldlM_step (lasting : Lasting before after) {names : List String}
    (followed : names.foldlM before.step place = .ok goal) :
    names.foldlM after.step place = .ok goal := by
  induction names generalizing place with
  | nil => exact followed
  | cons name names ih =>
      rw [List.foldlM_cons] at followed ⊢
      cases stepped : before.step place name with
      | error error =>
          rw [stepped] at followed
          cases followed
      | ok next =>
          rw [stepped] at followed
          rw [lasting.step stepped]
          exact ih followed

/-- Names lead to one place, whatever is on the disk. -/
theorem eq_of_foldlM_step {names : List String}
    (followed : names.foldlM disk.step place = .ok goal) : goal = names.foldl Path.beyond place := by
  induction names generalizing place with
  | nil => exact (Except.ok.inj followed).symm
  | cons name names ih =>
      rw [List.foldlM_cons] at followed
      cases stepped : disk.step place name with
      | error error =>
          rw [stepped] at followed
          cases followed
      | ok next =>
          rw [stepped] at followed
          rw [List.foldl_cons, ← (directory_of_step stepped).2]
          exact ih followed

/-! ## Resolving paths -/

theorem resolve_eq (disk : Disk) (path : Path) :
    disk.resolve path =
      match requireSpelling path with
      | .error error => .error error
      | .ok () => path.segments.foldlM disk.step [] := by
  rw [resolve]
  cases requireSpelling path <;> rfl

theorem eq_of_resolve (resolved : disk.resolve path = .ok goal) : goal = path.destination := by
  rw [resolve_eq] at resolved
  split at resolved
  · cases resolved
  · exact eq_of_foldlM_step resolved

theorem Lasting.resolve (lasting : Lasting before after)
    (resolved : before.resolve path = .ok goal) : after.resolve path = .ok goal := by
  rw [resolve_eq] at resolved ⊢
  split at resolved
  · cases resolved
  · exact lasting.foldlM_step resolved

/-- What is found through a path. -/
theorem find_eq (disk : Disk) (path : Path) :
    disk.find path =
      match disk.resolve path with
      | .error error => .error error
      | .ok place =>
        match disk.entry? place with
        | none => .error .notFound
        | some .directory => .ok .directory
        | some (.file content) =>
          if path.namesDirectory then .error .notADirectory else .ok (.file content) := by
  rw [find]
  cases disk.resolve path with
  | error error => rfl
  | ok place => rfl

/-- What a path leads to is there for ever. -/
theorem Lasting.pathExists (lasting : Lasting before after)
    (existing : before.pathExists path = true) : after.pathExists path = true := by
  rw [Disk.pathExists, find_eq] at existing ⊢
  cases resolved : before.resolve path with
  | error error => simp [resolved, Except.isOk, Except.toBool] at existing
  | ok place =>
      rw [lasting.resolve resolved]
      simp only [resolved] at existing ⊢
      split at existing
      · cases existing
      next found => rw [lasting.directory place found]; rfl
      next content found =>
        obtain ⟨later, still⟩ := lasting.file place content found
        rw [still]
        by_cases named : path.namesDirectory = true
        · simp [named, Except.isOk, Except.toBool] at existing
        · simp [named, Except.isOk, Except.toBool]

/-! ## Creating directories -/

theorem onlyDirectories_createAlong (disk : Disk) (place : Place) (names : List String) :
    OnlyDirectories disk (disk.createAlong place names).2 := by
  induction names generalizing disk place with
  | nil => exact .refl disk
  | cons name names ih =>
      rw [createAlong]
      split
      · exact .refl disk
      · split
        next free => exact (OnlyDirectories.put free).trans (ih _ _)
        next => exact ih _ _

/-- Creating directories changes no file, also if it fails. -/
theorem onlyDirectories_createDirectories (disk : Disk) (path : Path) :
    OnlyDirectories disk (disk.createDirectories path).2 := by
  rw [createDirectories]
  split
  · exact .refl disk
  · split
    · have created := onlyDirectories_createAlong disk [] path.segments.dropLast
      split
      next error done failed =>
        rw [failed] at created
        exact created
      next done passed =>
        rw [passed] at created
        exact created
    · exact onlyDirectories_createAlong disk [] path.segments

/-! ## Writing files -/

theorem write_eq (disk : Disk) (path : Path) (content : String) :
    disk.write path content =
      match disk.resolve path with
      | .error error => .error error
      | .ok place =>
        if path.namesDirectory = true ∨ disk.entry? place = some .directory then
          .error .isADirectory
        else .ok (disk.put place (.file content)) := by
  rw [write]
  cases disk.resolve path with
  | error error => rfl
  | ok place =>
      by_cases named : path.namesDirectory = true
      · simp [named, bind, Except.bind, throw, throwThe, MonadExceptOf.throw]
      · cases found : disk.entry? place with
        | none => simp [named, found, bind, Except.bind, pure, Except.pure]
        | some entry =>
            cases entry <;>
              simp [named, found, bind, Except.bind, pure, Except.pure, throw, throwThe,
                MonadExceptOf.throw]

/-- A disk after a file has been written: the file is at the end of the path and can be read, and no
other file has changed. -/
structure HoldsWritten (before after : Disk) (path : Path) (content : String) : Prop where
  lasting : Lasting before after
  resolved : after.resolve path = .ok path.destination
  named : path.namesDirectory = false
  file : ∀ place, after.fileAt? place =
    if place = path.destination then some content else before.fileAt? place

theorem HoldsWritten.pathExists {content : String}
    (holds : HoldsWritten before after path content) : after.pathExists path = true := by
  have found : after.fileAt? path.destination = some content := by rw [holds.file, if_pos rfl]
  rw [Disk.pathExists, find_eq, holds.resolved]
  simp [fileAt?_eq_some.mp found, holds.named, Except.isOk, Except.toBool]

theorem holdsWritten_of_write {content : String}
    (written : disk.write path content = .ok after) : HoldsWritten disk after path content := by
  rw [write_eq] at written
  split at written
  · cases written
  next place resolved =>
    have same := eq_of_resolve resolved
    subst same
    split at written
    · cases written
    next free =>
      obtain ⟨named, notDirectory⟩ := not_or.mp free
      cases written
      have lasting := Lasting.put_file notDirectory content
      refine ⟨lasting, lasting.resolve resolved, by simpa using named, ?_⟩
      intro other
      by_cases same : other = path.destination
      · rw [if_pos same, same, fileAt?_eq_some]
        apply entry?_put_self
        intro root
        exact notDirectory (by rw [root, entry?_root])
      · rw [if_neg same]
        exact fileAt?_congr (entry?_put_of_ne same _)

end Disk

end RubyBindings
