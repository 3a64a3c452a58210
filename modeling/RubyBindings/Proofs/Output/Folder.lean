/-
Module: RubyBindings.Proofs.Output.Folder
Purpose: A folder that takes one unit after the other, in any store of files. Each unit changes its own
  file or none, and the record of written paths tells exactly which units were written. The last of
  them is what a file holds; where files are to be kept, the first of them is also the last.
Main exports: OutputFolder.headed, OutputFolder.Accepts, OutputFolder.afterUnits,
  OutputFolder.writtenUnits, OutputFolder.acceptedUnits, OutputFolder.FollowsRules,
  OutputFolder.files_follow_rules
-/
import RubyBindings.Output.Sink
import RubyBindings.Proofs.Output.FileStore

namespace RubyBindings

namespace OutputFolder

variable {σ φ : Type} [DecidableEq φ] {store : FileStore σ} {view : FileView σ φ}
  {folder : OutputFolder} {state : σ} {unit : SourceUnit}

/-! ## One unit -/

/-- The file of a unit. -/
def fileOf (folder : OutputFolder) (view : FileView σ φ) (unit : SourceUnit) : φ :=
  view.file (folder.pathFor unit.name)

/-- What the file of a unit is to hold: the header, if there is one, on lines of its own, and then
the unit. -/
def headed (folder : OutputFolder) (unit : SourceUnit) : String :=
  folder.header.elim "" (· ++ "\n") ++ unit.content

theorem fileText_eq_headed (folder : OutputFolder) (unit : SourceUnit) :
    folder.fileText unit = folder.headed unit := by
  rw [fileText, headed]
  cases folder.header <;> simp

/-- A folder that has recorded the path of a unit. -/
def recording (folder : OutputFolder) (unit : SourceUnit) : OutputFolder :=
  { folder with written := folder.written ++ [folder.pathFor unit.name] }

/-- Is a unit accepted when it is handed over? -/
def accepts (folder : OutputFolder) (store : FileStore σ) (state : σ) (unit : SourceUnit) : Bool :=
  ((accept store unit).perform (folder, state)).1.isOk

/-- The state of the store after a unit has been handed over. -/
def stateAfter (folder : OutputFolder) (store : FileStore σ) (state : σ) (unit : SourceUnit) : σ :=
  ((accept store unit).perform (folder, state)).2.2

/-- Is a unit really written when it is handed over? It is not when its file is kept, and not when
the store refuses it. -/
def writes (folder : OutputFolder) (store : FileStore σ) (state : σ) (unit : SourceUnit) : Bool :=
  folder.accepts store state unit && ! folder.keeps store state (folder.pathFor unit.name)

theorem perform_accept_kept (kept : folder.keeps store state (folder.pathFor unit.name) = true) :
    (accept store unit).perform (folder, state) = (.ok (), folder, state) := by
  rw [accept, Attempt.perform_ofFunction]
  dsimp only
  rw [if_pos kept]

theorem perform_accept_refused {report : Report} {after : σ}
    (unseen : folder.keeps store state (folder.pathFor unit.name) = false)
    (failed : (store.writeCreating (folder.pathFor unit.name) (folder.fileText unit)).perform state =
      (.error report, after)) :
    (accept store unit).perform (folder, state) =
      (.error (report.because ("failed to write '" ++ folder.pathFor unit.name ++ "'")), folder,
        after) := by
  rw [accept, Attempt.perform_ofFunction]
  dsimp only
  rw [if_neg (by simp [unseen]), failed]

theorem perform_accept_written {after : σ}
    (unseen : folder.keeps store state (folder.pathFor unit.name) = false)
    (wrote : (store.writeCreating (folder.pathFor unit.name) (folder.fileText unit)).perform state =
      (.ok (), after)) :
    (accept store unit).perform (folder, state) = (.ok (), folder.recording unit, after) := by
  rw [accept, Attempt.perform_ofFunction]
  dsimp only
  rw [if_neg (by simp [unseen]), wrote]
  rfl

/-- The three things that can become of a unit: its file is kept, the store refuses it, or it is
written. -/
inductive Outcome (folder : OutputFolder) (store : FileStore σ) (state : σ) (unit : SourceUnit) :
    Except Report Unit × OutputFolder × σ → Prop
  | kept (kept : folder.keeps store state (folder.pathFor unit.name) = true)
      (unwritten : folder.writes store state unit = false) :
      Outcome folder store state unit (.ok (), folder, state)
  | refused (report : Report) (after : σ)
      (unseen : folder.keeps store state (folder.pathFor unit.name) = false)
      (failed :
        (store.writeCreating (folder.pathFor unit.name) (folder.fileText unit)).perform state =
          (.error report, after))
      (unwritten : folder.writes store state unit = false) :
      Outcome folder store state unit
        (.error (report.because ("failed to write '" ++ folder.pathFor unit.name ++ "'")), folder,
          after)
  | written (after : σ)
      (unseen : folder.keeps store state (folder.pathFor unit.name) = false)
      (wrote :
        (store.writeCreating (folder.pathFor unit.name) (folder.fileText unit)).perform state =
          (.ok (), after))
      (written : folder.writes store state unit = true) :
      Outcome folder store state unit (.ok (), folder.recording unit, after)

theorem outcome (folder : OutputFolder) (store : FileStore σ) (state : σ) (unit : SourceUnit) :
    Outcome folder store state unit ((accept store unit).perform (folder, state)) := by
  cases kept : folder.keeps store state (folder.pathFor unit.name) with
  | true =>
      have unwritten : folder.writes store state unit = false := by simp [writes, kept]
      rw [perform_accept_kept kept]
      exact .kept kept unwritten
  | false =>
      rcases wrote : (store.writeCreating (folder.pathFor unit.name)
        (folder.fileText unit)).perform state with ⟨report | done, after⟩
      · have performed := perform_accept_refused kept wrote
        have unwritten : folder.writes store state unit = false := by
          rw [writes, accepts, performed]
          rfl
        rw [performed]
        exact .refused report after kept wrote unwritten
      · have performed := perform_accept_written kept wrote
        have written : folder.writes store state unit = true := by
          rw [writes, accepts, performed, kept]
          rfl
        rw [performed]
        exact .written after kept wrote written

/-- What was recorded before makes no difference, and one path more is recorded for a unit that is
written. -/
theorem perform_accept_record (folder : OutputFolder) (written : List Path) (store : FileStore σ)
    (state : σ) (unit : SourceUnit) :
    (accept store unit).perform ({ folder with written }, state) =
      (((accept store unit).perform (folder, state)).1,
        { folder with
          written := written ++
            if folder.writes store state unit then [folder.pathFor unit.name] else [] },
        folder.stateAfter store state unit) := by
  have sameKeeps : ({ folder with written } : OutputFolder).keeps store state
      (folder.pathFor unit.name) = folder.keeps store state (folder.pathFor unit.name) := rfl
  have outcome := outcome folder store state unit
  rw [stateAfter]
  generalize (accept store unit).perform (folder, state) = made at outcome ⊢
  cases outcome with
  | kept kept unwritten =>
      rw [perform_accept_kept (sameKeeps.trans kept), unwritten]
      simp
  | refused report after unseen failed unwritten =>
      rw [perform_accept_refused (sameKeeps.trans unseen) failed, unwritten]
      simp [pathFor]
  | written after unseen wrote written =>
      rw [perform_accept_written (sameKeeps.trans unseen) wrote, written]
      rfl

theorem pathExists_of_keeps {path : Path} (kept : folder.keeps store state path = true) :
    folder.overwrite = .ifMissing ∧ store.pathExists state path = true := by
  rwa [keeps, Bool.and_eq_true, beq_iff_eq] at kept

theorem keeps_eq_pathExists {path : Path} (overwrite : folder.overwrite = .ifMissing) :
    folder.keeps store state path = store.pathExists state path := by
  rw [keeps, overwrite]
  rfl

/-- What holds after a unit has been handed over, with `result` as the answer. -/
structure Accepts (view : FileView σ φ) (store : FileStore σ) (folder : OutputFolder) (state : σ)
    (unit : SourceUnit) (result : Except Report Unit) (folderAfter : OutputFolder)
    (stateAfter : σ) : Prop where
  /-- Only the file of the unit may have changed. -/
  elsewhere : ∀ file, file ≠ folder.fileOf view unit →
    view.content stateAfter file = view.content state file
  /-- Where files are to be kept and the path is there already, nothing at all happens. -/
  kept : folder.overwrite = .ifMissing →
    store.pathExists state (folder.pathFor unit.name) = true →
      result = .ok () ∧ folderAfter = folder ∧ stateAfter = state
  /-- Any other unit that is accepted is what its file holds, and its path is recorded. -/
  written : result = .ok () →
    (folder.overwrite = .ifMissing →
      store.pathExists state (folder.pathFor unit.name) = false) →
    view.content stateAfter (folder.fileOf view unit) = some (folder.headed unit) ∧
      folderAfter = folder.recording unit
  /-- A failure changes no file and records nothing. -/
  failed : ∀ report, result = .error report → folderAfter = folder ∧
    ∀ file, view.content stateAfter file = view.content state file

section Lawful

variable (lawful : store.Lawful view)
include lawful

theorem Outcome.accepts {result : Except Report Unit} {folderAfter : OutputFolder} {stateAfter : σ}
    (outcome : Outcome folder store state unit (result, folderAfter, stateAfter)) :
    Accepts view store folder state unit result folderAfter stateAfter := by
  cases outcome with
  | kept kept unwritten =>
      obtain ⟨overwrite, seen⟩ := pathExists_of_keeps kept
      exact
        { elsewhere := fun _ _ => rfl
          kept := fun _ _ => ⟨rfl, rfl, rfl⟩
          written := fun _ missing => absurd seen (by simp [missing overwrite])
          failed := nofun }
  | refused report after unseen failed unwritten =>
      have same := lawful.writeCreating_error failed
      exact
        { elsewhere := fun file _ => same file
          kept := fun overwrite seen => by
            rw [keeps_eq_pathExists overwrite, seen] at unseen
            cases unseen
          written := nofun
          failed := fun _ _ => ⟨rfl, same⟩ }
  | written after unseen wrote written =>
      have holds := (lawful.writeCreating_ok wrote).1
      exact
        { elsewhere := fun file other => (holds file).trans (if_neg other)
          kept := fun overwrite seen => by
            rw [keeps_eq_pathExists overwrite, seen] at unseen
            cases unseen
          written := fun _ _ => by
            rw [fileOf, holds, if_pos rfl, fileText_eq_headed]
            exact ⟨rfl, rfl⟩
          failed := nofun }

/-! ## The store after one unit -/

theorem content_stateAfter (folder : OutputFolder) (state : σ) (unit : SourceUnit) (file : φ) :
    view.content (folder.stateAfter store state unit) file =
      if folder.writes store state unit = true ∧ folder.fileOf view unit = file then
        some (folder.headed unit)
      else view.content state file := by
  have outcome := outcome folder store state unit
  rw [stateAfter]
  generalize (accept store unit).perform (folder, state) = made at outcome ⊢
  cases outcome with
  | kept kept unwritten => simp [unwritten]
  | refused report after unseen failed unwritten =>
      simpa [unwritten] using lawful.writeCreating_error failed file
  | written after unseen wrote written =>
      simpa [written, eq_comm, fileOf, fileText_eq_headed] using (lawful.writeCreating_ok wrote).1 file

theorem keeps_stateAfter (folder : OutputFolder) (state : σ) (unit : SourceUnit) :
    store.Keeps state (folder.stateAfter store state unit) := by
  have outcome := outcome folder store state unit
  have created := lawful.keeps_writeCreating (folder.pathFor unit.name) (folder.fileText unit) state
  rw [stateAfter]
  generalize (accept store unit).perform (folder, state) = made at outcome ⊢
  cases outcome with
  | kept kept unwritten => exact .refl state
  | refused report after unseen failed unwritten => rwa [failed] at created
  | written after unseen wrote written => rwa [wrote] at created

/-- Once a unit has been accepted, its path leads to something. -/
theorem pathExists_of_accepts (accepted : folder.accepts store state unit = true) :
    store.pathExists (folder.stateAfter store state unit) (folder.pathFor unit.name) = true := by
  have outcome := outcome folder store state unit
  rw [accepts] at accepted
  rw [stateAfter]
  generalize (accept store unit).perform (folder, state) = made at outcome accepted ⊢
  cases outcome with
  | kept kept unwritten => exact (pathExists_of_keeps kept).2
  | refused report after unseen failed unwritten => cases accepted
  | written after unseen wrote written => exact (lawful.writeCreating_ok wrote).2

end Lawful

/-- Where files are to be kept, a unit is written only if its path leads to nothing. -/
theorem unseen_of_writes (overwrite : folder.overwrite = .ifMissing)
    (written : folder.writes store state unit = true) :
    store.pathExists state (folder.pathFor unit.name) = false := by
  rw [writes, Bool.and_eq_true, Bool.not_eq_true', keeps_eq_pathExists overwrite] at written
  exact written.2

/-! ## Many units -/

/-- The folder and the store after a list of units has been handed over, one after the other,
whatever became of each. -/
def afterUnits (folder : OutputFolder) (store : FileStore σ) (state : σ) (units : List SourceUnit) :
    OutputFolder × σ :=
  units.foldl (fun states unit => ((accept store unit).perform states).2) (folder, state)

/-- The store after a list of units has been handed over. -/
def stateAfterUnits (folder : OutputFolder) (store : FileStore σ) (state : σ)
    (units : List SourceUnit) : σ :=
  units.foldl (folder.stateAfter store) state

/-- The units that pass a test at their turn, when a list of units is handed over. -/
def atTheirTurn (folder : OutputFolder) (store : FileStore σ) (test : σ → SourceUnit → Bool) :
    σ → List SourceUnit → List SourceUnit
  | _, [] => []
  | state, unit :: units =>
    let rest := folder.atTheirTurn store test (folder.stateAfter store state unit) units
    if test state unit then unit :: rest else rest

theorem atTheirTurn_sublist (folder : OutputFolder) (store : FileStore σ)
    (test : σ → SourceUnit → Bool) (state : σ) (units : List SourceUnit) :
    (folder.atTheirTurn store test state units).Sublist units := by
  induction units generalizing state with
  | nil => exact .slnil
  | cons unit units ih =>
      rw [atTheirTurn]
      split
      · exact (ih _).cons_cons unit
      · exact (ih _).cons unit

/-- The units of a list that are written when the list is handed over. -/
def writtenUnits (folder : OutputFolder) (store : FileStore σ) (state : σ)
    (units : List SourceUnit) : List SourceUnit :=
  folder.atTheirTurn store (folder.writes store) state units

/-- The units of a list that are accepted when the list is handed over. -/
def acceptedUnits (folder : OutputFolder) (store : FileStore σ) (state : σ)
    (units : List SourceUnit) : List SourceUnit :=
  folder.atTheirTurn store (folder.accepts store) state units

/-- The folder and the store can be told apart: the folder records what is written, and what it has
recorded makes no difference to the store. -/
theorem afterUnits_record (folder : OutputFolder) (written : List Path) (store : FileStore σ)
    (state : σ) (units : List SourceUnit) :
    afterUnits { folder with written } store state units =
      ({ folder with
          written := written ++
            (folder.writtenUnits store state units).map fun unit => folder.pathFor unit.name },
        folder.stateAfterUnits store state units) := by
  induction units generalizing written state with
  | nil => simp [afterUnits, writtenUnits, atTheirTurn, stateAfterUnits]
  | cons unit units ih =>
      rw [afterUnits, List.foldl_cons, perform_accept_record]
      refine (ih _ _).trans ?_
      cases wrote : folder.writes store state unit <;>
        simp [writtenUnits, atTheirTurn, stateAfterUnits, wrote]

theorem afterUnits_eq (folder : OutputFolder) (store : FileStore σ) (state : σ)
    (units : List SourceUnit) :
    folder.afterUnits store state units =
      ({ folder with
          written := folder.written ++
            (folder.writtenUnits store state units).map fun unit => folder.pathFor unit.name },
        folder.stateAfterUnits store state units) :=
  folder.afterUnits_record folder.written store state units

section Lawful

variable (lawful : store.Lawful view) {units : List SourceUnit}
include lawful

theorem keeps_stateAfterUnits (folder : OutputFolder) (state : σ) (units : List SourceUnit) :
    store.Keeps state (folder.stateAfterUnits store state units) := by
  induction units generalizing state with
  | nil => exact .refl state
  | cons unit units ih => exact (keeps_stateAfter lawful folder state unit).trans (ih _)

/-- A unit that passes a test at its turn passes it between the beginning and the end. -/
theorem exists_of_mem_atTheirTurn {test : σ → SourceUnit → Bool}
    (passed : unit ∈ folder.atTheirTurn store test state units) :
    ∃ before, test before unit = true ∧ store.Keeps state before ∧
      store.Keeps (folder.stateAfter store before unit)
        (folder.stateAfterUnits store state units) := by
  induction units generalizing state with
  | nil => cases passed
  | cons first units ih =>
      have first_or_later : unit = first ∧ test state first = true ∨
          unit ∈ folder.atTheirTurn store test (folder.stateAfter store state first) units := by
        rw [atTheirTurn] at passed
        split at passed
        next passes => exact (List.mem_cons.mp passed).imp_left fun same => ⟨same, passes⟩
        next => exact Or.inr passed
      rcases first_or_later with ⟨rfl, passes⟩ | later
      · exact ⟨state, passes, .refl state, keeps_stateAfterUnits lawful folder _ units⟩
      · obtain ⟨before, passes, start, rest⟩ := ih later
        exact ⟨before, passes, (keeps_stateAfter lawful folder state first).trans start, rest⟩

/-- A file holds the last unit written to it, or else what it held at the beginning. -/
theorem content_stateAfterUnits (folder : OutputFolder) (state : σ) (units : List SourceUnit)
    (file : φ) :
    view.content (folder.stateAfterUnits store state units) file =
      ((((folder.writtenUnits store state units).filter
        (folder.fileOf view · = file)).getLast?).map folder.headed).or
          (view.content state file) := by
  -- The state is general: what the first unit leaves behind is the beginning for the others.
  induction units generalizing state with
  | nil => rfl
  | cons unit units ih =>
      refine (ih _).trans ?_
      rw [content_stateAfter lawful, writtenUnits, writtenUnits, atTheirTurn]
      cases wrote : folder.writes store state unit with
      | false => simp
      | true =>
          by_cases here : folder.fileOf view unit = file
          · rw [if_pos rfl, List.filter_cons_of_pos (by simpa using here), List.getLast?_cons]
            cases ((folder.atTheirTurn store (folder.writes store)
              (folder.stateAfter store state unit) units).filter
                (folder.fileOf view · = file)).getLast? <;> simp [here]
          · rw [if_pos rfl, List.filter_cons_of_neg (by simpa using here)]
            simp [here]

/-- Where files are to be kept, a path that is written led to nothing at the beginning. -/
theorem unseen_of_mem_writtenUnits (overwrite : folder.overwrite = .ifMissing)
    (written : unit ∈ folder.writtenUnits store state units) :
    store.pathExists state (folder.pathFor unit.name) = false := by
  obtain ⟨before, wrote, start, -⟩ := exists_of_mem_atTheirTurn lawful written
  rw [Bool.eq_false_iff]
  intro seen
  have still := start _ seen
  rw [unseen_of_writes overwrite wrote] at still
  cases still

/-- Where files are to be kept, a path is written once. -/
theorem nodup_writtenUnits (overwrite : folder.overwrite = .ifMissing) (state : σ)
    (units : List SourceUnit) :
    ((folder.writtenUnits store state units).map fun unit => folder.pathFor unit.name).Nodup := by
  induction units generalizing state with
  | nil => exact List.nodup_nil
  | cons unit units ih =>
      have rest := ih (folder.stateAfter store state unit)
      rw [writtenUnits, atTheirTurn]
      split
      next wrote =>
        have accepted : folder.accepts store state unit = true := by
          rw [writes, Bool.and_eq_true] at wrote
          exact wrote.1
        rw [List.map_cons, List.nodup_cons]
        refine ⟨fun again => ?_, rest⟩
        obtain ⟨other, written, samePath⟩ := List.mem_map.mp again
        have unseen := unseen_of_mem_writtenUnits lawful overwrite written
        rw [samePath, pathExists_of_accepts lawful accepted] at unseen
        cases unseen
      next => exact rest

end Lawful

/-- Where a key comes at most once, the last item with a key is the first one. -/
theorem getLast?_filter_of_nodup {α β : Type} [DecidableEq β] {items : List α} {key : α → β}
    (nodup : (items.map key).Nodup) (wanted : β) :
    (items.filter (key · = wanted)).getLast? = items.find? (key · = wanted) := by
  induction items with
  | nil => rfl
  | cons item items ih =>
      rw [List.map_cons, List.nodup_cons] at nodup
      by_cases here : key item = wanted
      · have others : items.filter (key · = wanted) = [] := by
          rw [List.filter_eq_nil_iff]
          intro other member same
          exact nodup.1 (List.mem_map.mpr ⟨other, member, (of_decide_eq_true same).trans here.symm⟩)
        rw [List.filter_cons_of_pos (by simpa using here), others,
          List.find?_cons_of_pos (by simpa using here)]
        rfl
      · rw [List.filter_cons_of_neg (by simpa using here),
          List.find?_cons_of_neg (by simpa using here)]
        exact ih nodup.2

/-! ## The rules -/

/-- What holds while a list of units is handed over to a folder. -/
structure FollowsRules (view : FileView σ φ) (store : FileStore σ) (folder : OutputFolder)
    (state : σ) (units : List SourceUnit) : Prop where
  /-- Each unit in turn changes its own file or none. -/
  each : ∀ earlier unit later, units = earlier ++ unit :: later →
    ∀ before stateBefore result after stateAfter,
      folder.afterUnits store state earlier = (before, stateBefore) →
      (accept store unit).perform (before, stateBefore) = (result, after, stateAfter) →
      Accepts view store before stateBefore unit result after stateAfter
  /-- Exactly the paths of the units that were written have been recorded, in order. -/
  record : (folder.afterUnits store state units).1 =
    { folder with
      written := folder.written ++
        (folder.writtenUnits store state units).map fun unit => folder.pathFor unit.name }
  /-- A file holds the last unit written to it, or else what it held at the beginning. -/
  last : ∀ file, view.content (folder.afterUnits store state units).2 file =
    ((((folder.writtenUnits store state units).filter
      (folder.fileOf view · = file)).getLast?).map folder.headed).or (view.content state file)
  /-- If files are always written, then the file of an accepted unit holds the last unit accepted for
  it. -/
  always : folder.overwrite = .always → ∀ unit ∈ folder.acceptedUnits store state units,
    ∃ last, ((folder.acceptedUnits store state units).filter
        (folder.fileOf view · = folder.fileOf view unit)).getLast? = some last ∧
      view.content (folder.afterUnits store state units).2 (folder.fileOf view unit) =
        some (folder.headed last)
  /-- If files are to be kept, then a path is written at most once, and not if it is there at the
  beginning; -/
  once : folder.overwrite = .ifMissing →
    ((folder.writtenUnits store state units).map fun unit => folder.pathFor unit.name).Nodup ∧
      ∀ unit ∈ folder.writtenUnits store state units,
        store.pathExists state (folder.pathFor unit.name) = false
  /-- so a file to which all units take one path holds the first unit written to it, or else what it
  held at the beginning, -/
  first : folder.overwrite = .ifMissing → ∀ path,
    (∀ unit ∈ units, folder.fileOf view unit = view.file path → folder.pathFor unit.name = path) →
      view.content (folder.afterUnits store state units).2 (view.file path) =
        (((folder.writtenUnits store state units).find?
          (folder.pathFor ·.name = path)).map folder.headed).or
            (view.content state (view.file path))
  /-- and nothing happens when a path comes again for which a unit has been accepted. -/
  again : folder.overwrite = .ifMissing → ∀ unit ∈ folder.acceptedUnits store state units,
    ∀ other, folder.pathFor other.name = folder.pathFor unit.name →
      (accept store other).perform (folder.afterUnits store state units) =
        (.ok (), folder.afterUnits store state units)

/-- Where files are always written, what is accepted is written. -/
theorem writes_eq_accepts (overwrite : folder.overwrite = .always) :
    folder.writes store = folder.accepts store := by
  funext state unit
  simp [writes, keeps, overwrite]

/-- Whatever units are handed over to a folder in a store of files, each of them changes its own file
or none, the record tells what was written, files that are to be overwritten hold the last unit, and
files that are to be kept are kept. -/
theorem files_follow_rules (lawful : store.Lawful view) (folder : OutputFolder) (state : σ)
    (units : List SourceUnit) : FollowsRules view store folder state units where
  each := by
    intro earlier unit later _ before stateBefore result after stateAfter _ performed
    have outcome := outcome before store stateBefore unit
    rw [performed] at outcome
    exact outcome.accepts lawful
  record := by rw [afterUnits_eq]
  last := by
    rw [afterUnits_eq]
    exact content_stateAfterUnits lawful folder state units
  always := by
    intro overwrite unit accepted
    rw [afterUnits_eq, acceptedUnits, ← writes_eq_accepts overwrite]
    rw [acceptedUnits, ← writes_eq_accepts overwrite] at accepted
    have chosen : unit ∈ (folder.writtenUnits store state units).filter
        (folder.fileOf view · = folder.fileOf view unit) :=
      List.mem_filter.mpr ⟨accepted, decide_eq_true rfl⟩
    have last := List.getLast?_eq_some_getLast (List.ne_nil_of_mem chosen)
    refine ⟨_, last, ?_⟩
    rw [content_stateAfterUnits lawful, last]
    rfl
  once := by
    intro overwrite
    exact ⟨nodup_writtenUnits lawful overwrite state units,
      fun unit written => unseen_of_mem_writtenUnits lawful overwrite written⟩
  first := by
    intro overwrite path onePath
    have samePath : (folder.writtenUnits store state units).filter
          (folder.fileOf view · = view.file path) =
        (folder.writtenUnits store state units).filter (folder.pathFor ·.name = path) := by
      apply List.filter_congr
      intro unit written
      have member := (folder.atTheirTurn_sublist store _ state units).subset written
      rw [decide_eq_decide]
      exact ⟨onePath unit member, congrArg view.file⟩
    rw [afterUnits_eq, content_stateAfterUnits lawful, samePath,
      getLast?_filter_of_nodup (nodup_writtenUnits lawful overwrite state units)]
  again := by
    intro overwrite unit accepted other samePath
    obtain ⟨before, accepts, -, rest⟩ := exists_of_mem_atTheirTurn lawful accepted
    have seen := rest _ (pathExists_of_accepts lawful accepts)
    rw [afterUnits_eq]
    apply perform_accept_kept
    rw [keeps_eq_pathExists (by exact overwrite)]
    exact samePath ▸ seen

/-- A hand-edited file is kept; the other file is written once the store is no longer interrupted, and
then it is kept as well. -/
theorem files_follow_rules_interrupted :
    let folder : OutputFolder :=
      { directory := "ext"
        extension := defaultExtension
        overwrite := .ifMissing
        header := some "// generated" }
    let disk : Disk :=
      { entries := [(["ext"], .directory), (["ext", "shapes.rb.cpp"], .file "hand edited")] }
    let units : List SourceUnit :=
      [⟨"shapes", "new"⟩, ⟨"lists", "first"⟩, ⟨"lists", "second"⟩, ⟨"lists", "third"⟩]
    let outcome := folder.afterUnits Disk.store.interrupted (disk, [false, true]) units
    FollowsRules (Disk.view.beside (List Bool)) Disk.store.interrupted folder (disk, [false, true])
        units ∧
      outcome.1.written = ["ext/lists.rb.cpp"] ∧
      outcome.2.1.fileAt? ["ext", "shapes.rb.cpp"] = some "hand edited" ∧
      outcome.2.1.fileAt? ["ext", "lists.rb.cpp"] = some "// generated\nsecond" :=
  ⟨files_follow_rules Disk.lawful.interrupted _ _ _, by decide +kernel, by decide +kernel,
    by decide +kernel⟩

end OutputFolder

end RubyBindings
