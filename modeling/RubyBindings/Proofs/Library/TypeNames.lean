/-
Module: RubyBindings.Proofs.Library.TypeNames
Purpose: How far the names of namespaces, classes and enumerations are unique in a library. A second
  type of a name is refused if the first entity of that name is a type, and only then; so whatever
  types share a name stand behind a method, function or constructor that had the name before them.
Main exports: Library.Checked, Library.declare_of_checked, Library.TypesApart, Library.types_apart,
  Library.second_class_accepted
-/
import RubyBindings.Proofs.Library.Representation

namespace RubyBindings.Library

variable {library after : Library} {scope : EntityId} {declaration added : Declaration}

/-! ## When a declaration is refused for its name -/

/-- A declaration has passed every check but that of its qualified name, and becomes `added`. -/
structure Checked (library : Library) (scope : EntityId) (declaration added : Declaration) :
    Prop where
  existing : scope < library.size
  named : library.named scope declaration = .ok added
  names : library.requireNames scope added = .ok ()
  superclass : ∀ superclass, added.superclass = some superclass →
    library.requireSuperclass (library.qualify scope added.name) superclass = .ok ()

/-- The check of the qualified name is the last one. -/
theorem declare_of_checked (checked : Checked library scope declaration added) :
    library.declare scope declaration =
      if library.isRepeatedType added.kind (library.qualify scope added.name) = true then
        .error (.duplicateName added.kind (library.qualify scope added.name))
      else .ok (library.size, library.append scope added (library.qualify scope added.name)) := by
  have existing := requireEntity_eq_ok.mpr checked.existing
  cases link : added.superclass with
  | none =>
      simp only [declare, existing, checked.named, checked.names, link, bind, Except.bind]
      split <;> rfl
  | some superclass =>
      simp only [declare, existing, checked.named, checked.names, link,
        checked.superclass superclass link, bind, Except.bind]
      split <;> rfl

theorem Declares.checked (declares : Declares library scope declaration added after) :
    Checked library scope declaration added :=
  ⟨declares.existing, declares.named, declares.names, declares.superclass⟩

/-- A declaration with usable names has a qualified name. -/
theorem Checked.qualify_ne_empty (checked : Checked library scope declaration added) :
    library.qualify scope added.name ≠ "" := by
  have sound := requireNames_eq_ok.mp checked.names (.declaration added.kind, added.name)
    List.mem_cons_self
  obtain ⟨first, rest, spelled, -⟩ := (Naming.declarable_iff.mp sound).1.start
  intro none
  have letters := congrArg String.toList none
  rw [qualify] at letters
  split at letters <;> simp [spelled] at letters

/-! ## Types of one name -/

/-- The names of types are unique, except behind a callable of the name. -/
structure TypesApart (library : Library) : Prop where
  /-- Names are found by the index, which has the first entity of each. -/
  index : library.Indexed
  /-- Where two types share a name, the first entity of that name is before both, and no type. -/
  shared : ∀ first < library.size, ∀ second < library.size,
    (library.hierarchy.kind first).isType = true → (library.hierarchy.kind second).isType = true →
      library.hierarchy.qualifiedName first = library.hierarchy.qualifiedName second →
        first ≠ second →
          ∃ callable, library.find? (library.hierarchy.qualifiedName first) = some callable ∧
            (library.hierarchy.kind callable).isType = false ∧ callable < first ∧ callable < second
  /-- A type that would repeat the name of another one is refused if the first entity of that name
  is a type, and accepted otherwise. -/
  repeated : ∀ scope declaration added, Checked library scope declaration added →
    added.kind.isType = true → ∀ existing < library.size,
      (library.hierarchy.kind existing).isType = true →
        library.hierarchy.qualifiedName existing = library.qualify scope added.name →
          ∃ first ≤ existing,
            library.find? (library.qualify scope added.name) = some first ∧
              library.declare scope declaration =
                if (library.hierarchy.kind first).isType = true then
                  .error (.duplicateName added.kind (library.qualify scope added.name))
                else
                  .ok (library.size,
                    library.append scope added (library.qualify scope added.name))

/-- The first entity of a name is no type, and comes before the one that is looked at. -/
def BehindCallable (library : Library) (id : EntityId) : Prop :=
  ∃ callable < id, library.find? (library.hierarchy.qualifiedName id) = some callable ∧
    (library.hierarchy.kind callable).isType = false

/-- What has been declared behind a callable stays there. -/
theorem BehindCallable.append (existing : scope < library.hierarchy.size) {id : EntityId}
    (old : id < library.hierarchy.size) {qualifiedName : String}
    (behind : library.BehindCallable id) :
    (library.append scope added qualifiedName).BehindCallable id := by
  obtain ⟨callable, before, found, notType⟩ := behind
  refine ⟨callable, before, ?_, ?_⟩
  · rw [qualifiedName_append library existing, if_neg (Nat.ne_of_lt old), find?_append, found]
    rfl
  · rw [kind_append library existing, if_neg (Nat.ne_of_lt (Nat.lt_trans before old))]
    exact notType

namespace Reachable

/-- Wherever the name of an entity other than the root is, the search finds the first one. -/
theorem exists_first (reachable : library.Reachable) {id : EntityId} (existing : id < library.size)
    (named : library.hierarchy.qualifiedName id ≠ "") :
    ∃ first ≤ id, library.find? (library.hierarchy.qualifiedName id) = some first := by
  have notRoot : id ≠ Hierarchy.root := by
    rintro rfl
    exact named reachable.qualifiedName_root
  have hasParent := reachable.isSome_parent_iff.mpr ⟨existing, notRoot⟩
  cases found : library.find? (library.hierarchy.qualifiedName id) with
  | none => exact absurd rfl (reachable.find?_eq_none_iff.mp found id hasParent)
  | some first => exact ⟨first, (reachable.find?_eq_some_iff.mp found).2 ⟨hasParent, rfl⟩, rfl⟩

/-- When a type is accepted under the name of another one, the check has seen a callable of the
name and not that other type. -/
theorem behindCallable_of_declares (reachable : library.Reachable)
    (declares : Declares library scope declaration added after)
    (isType : added.kind.isType = true) {first : EntityId} (existing : first < library.size)
    (firstIsType : (library.hierarchy.kind first).isType = true)
    (same : library.hierarchy.qualifiedName first = library.qualify scope added.name) :
    library.BehindCallable first := by
  have named : library.hierarchy.qualifiedName first ≠ "" := by
    rw [same]
    exact declares.checked.qualify_ne_empty
  obtain ⟨callable, notAfter, found⟩ := reachable.exists_first existing named
  have notType : (library.hierarchy.kind callable).isType = false := by
    simpa [isRepeatedType, isType, ← same, found] using declares.unique
  refine ⟨callable, Nat.lt_of_le_of_ne notAfter ?_, found, notType⟩
  intro self
  simp [self, firstIsType] at notType

/-- What shares its name with an earlier type, and is a type, comes behind a callable of the
name. -/
theorem behindCallable (reachable : library.Reachable) :
    ∀ {first second : Nat}, first < second → second < library.size →
      (library.hierarchy.kind first).isType = true →
      (library.hierarchy.kind second).isType = true →
      library.hierarchy.qualifiedName first = library.hierarchy.qualifiedName second →
        library.BehindCallable first := by
  induction reachable with
  | empty name =>
      intro first second smaller existing
      exact absurd existing (Nat.not_lt_of_le (Nat.zero_lt_of_lt smaller))
  | step before change ih =>
      rename_i library after
      intro first second smaller existing isType otherIsType same
      cases change with
      | addHeader header => exact ih smaller existing isType otherIsType same
      | linkSuperclass linked =>
          have links := links_of_linkSuperclass linked
          rw [size, links.size] at existing
          simp only [BehindCallable, links.kind, links.qualifiedName, links.find?_eq] at *
          exact ih smaller existing isType otherIsType same
      | declare declared =>
          rename_i scope id declaration
          obtain ⟨-, added, declares⟩ := declares_of_declare declared
          have scopeExists := declares.existing
          rw [size, declares.size_eq] at existing
          obtain rfl := declares.after_eq
          have old : first < library.hierarchy.size :=
            Nat.lt_of_lt_of_le smaller (Nat.le_of_lt_succ existing)
          rw [kind_append library scopeExists, if_neg (Nat.ne_of_lt old)] at isType
          rw [kind_append library scopeExists] at otherIsType
          rw [qualifiedName_append library scopeExists, if_neg (Nat.ne_of_lt old),
            qualifiedName_append library scopeExists] at same
          apply BehindCallable.append scopeExists old
          by_cases new : second = library.hierarchy.size
          · rw [if_pos new] at otherIsType same
            exact before.behindCallable_of_declares declares otherIsType old isType same
          · rw [if_neg new] at otherIsType same
            exact ih smaller (Nat.lt_of_le_of_ne (Nat.le_of_lt_succ existing) new) isType
              otherIsType same

end Reachable

/-- In every library, types share a name only behind a callable of that name; and a type that would
repeat the name of another one is refused exactly if the first entity of the name is a type. -/
theorem types_apart (reachable : library.Reachable) : library.TypesApart where
  index := reachable.indexed
  shared := by
    intro first existing second otherExisting isType otherIsType same different
    rcases Nat.lt_or_gt_of_ne different with smaller | larger
    · obtain ⟨callable, before, found, notType⟩ :=
        reachable.behindCallable smaller otherExisting isType otherIsType same
      exact ⟨callable, found, notType, before, Nat.lt_trans before smaller⟩
    · obtain ⟨callable, before, found, notType⟩ :=
        reachable.behindCallable larger existing otherIsType isType same.symm
      exact ⟨callable, same ▸ found, notType, Nat.lt_trans before larger, before⟩
  repeated := by
    intro scope declaration added checked isType existing small existingIsType same
    have named : library.hierarchy.qualifiedName existing ≠ "" := by
      rw [same]
      exact checked.qualify_ne_empty
    obtain ⟨first, notAfter, found⟩ := reachable.exists_first small named
    rw [same] at found
    refine ⟨first, notAfter, found, ?_⟩
    rw [declare_of_checked checked]
    simp [isRepeatedType, isType, found]

/-! ## A type behind a callable -/

/-- A library in which a function has the name of a class. -/
def hiddenClass : Library :=
  (empty "lib").afterCalls
    [.declare Hierarchy.root { kind := .function, name := "f" },
      .declare Hierarchy.root { kind := .classType, name := "f" }]

theorem reachable_hiddenClass : hiddenClass.Reachable :=
  .afterCalls (.empty "lib") _

/-- The class that has the name of a function. -/
def secondClass : Library :=
  hiddenClass.append Hierarchy.root { kind := .classType, name := "f" } "f"

theorem types_apart_secondClass :
    secondClass.Reachable ∧ secondClass.TypesApart ∧
      ∃ callable, secondClass.find? "f" = some callable ∧
        (secondClass.hierarchy.kind callable).isType = false ∧ callable < 2 ∧ callable < 3 := by
  have declared : hiddenClass.declare Hierarchy.root { kind := .classType, name := "f" } =
      .ok (3, secondClass) := rfl
  have reachable := Reachable.step reachable_hiddenClass (.declare declared)
  have apart := types_apart reachable
  exact ⟨reachable, apart, apart.shared 2 (by decide) 3 (by decide) rfl rfl rfl (by decide)⟩

/-- A function hides the classes of its name from the check: a second class is accepted, in a
description as well as by a call, and the names of types are not unique. -/
theorem second_class_accepted :
    hiddenClass.Reachable ∧ hiddenClass.hierarchy.kind 2 = .classType ∧
      hiddenClass.hierarchy.qualifiedName 2 = "f" ∧
      hiddenClass.declare Hierarchy.root { kind := .classType, name := "f" } =
        .ok (3, secondClass) ∧
      ofDescription
          { name := "lib"
            headers := []
            entities :=
              [{ kind := .function, name := "f" },
                { kind := .classType, name := "f" },
                { kind := .classType, name := "f" }] } = .ok secondClass ∧
      ¬ secondClass.hierarchy.DistinctTypes :=
  ⟨reachable_hiddenClass, rfl, rfl, rfl, rfl, by decide⟩

end RubyBindings.Library
