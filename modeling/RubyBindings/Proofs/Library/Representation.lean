/-
Module: RubyBindings.Proofs.Library.Representation
Purpose: How the parts of a library fit together. Parent links, lists of children, qualified names,
  superclass links and the index of names are kept apart and read by different users of a library;
  after any calls, the refused ones included, all of them say the same, and a qualified name stands
  for one list of names from the root down.
Main exports: Hierarchy.path, Library.Indexed, Library.Reachable.find?_eq_some_iff,
  Library.Reachable.qualifiedName_eq_iff_path, Library.Represented, Library.represented_afterCalls
-/
import RubyBindings.Proofs.Library.Names
import Mathlib.Data.List.Sort
import Mathlib.Order.Bounds.Basic

namespace RubyBindings

open Naming

variable {hierarchy : Hierarchy}

/-! ## Paths -/

namespace Hierarchy

/-- The names from below the root down to an entity, looking at most `steps` entities up. -/
def pathWithin (hierarchy : Hierarchy) : Nat → EntityId → List String
  | 0, _ => []
  | steps + 1, id =>
    match hierarchy.parent id with
    | none => []
    | some scope => hierarchy.pathWithin steps scope ++ [hierarchy.name id]

/-- The names from below the root down to an entity. A chain of parents without repetition is no
longer than the hierarchy. -/
def path (hierarchy : Hierarchy) (id : EntityId) : List String :=
  hierarchy.pathWithin hierarchy.size id

namespace Nested

variable (nested : hierarchy.Nested)
include nested

/-- Looking further up than the root adds no names. -/
theorem pathWithin_eq (id : Nat) : ∀ {steps : Nat}, id < steps →
    hierarchy.pathWithin steps id = hierarchy.pathWithin (id + 1) id := by
  induction id using Nat.strongRecOn with
  | ind id ih =>
      intro steps far
      obtain ⟨steps, rfl⟩ : ∃ rest, steps = rest + 1 := ⟨steps - 1, by omega⟩
      cases link : hierarchy.parent id with
      | none => simp [pathWithin, link]
      | some scope =>
          have smaller : scope < id := nested.parent_lt link
          have near : scope < steps := Nat.lt_of_lt_of_le smaller (Nat.le_of_lt_succ far)
          simp [pathWithin, link, ih scope smaller near, ih scope smaller smaller]

theorem path_root : hierarchy.path root = [] := by
  simp [path, nested.pathWithin_eq root nested.hasRoot, pathWithin, nested.rootParent]

theorem path_child {id scope : Nat} (link : hierarchy.parent id = some scope) :
    hierarchy.path id = hierarchy.path scope ++ [hierarchy.name id] := by
  have smaller := nested.parent_lt link
  have existing := lt_size_of_parent link
  simp [path, nested.pathWithin_eq id existing, pathWithin, link,
    nested.pathWithin_eq scope smaller,
    nested.pathWithin_eq scope (Nat.lt_trans smaller existing)]

/-- The children of an entity are all that name it as their parent, in the order of their ids. -/
theorem children_eq_filter (scope : EntityId) :
    hierarchy.children scope =
      (List.range hierarchy.size).filter fun id => hierarchy.parent id = some scope := by
  apply (nested.childrenAscend scope).eq_of_mem_iff (List.pairwise_lt_range.filter _)
  intro id
  have existing : hierarchy.parent id = some scope → id < hierarchy.size := lt_size_of_parent
  simpa [nested.childIff scope id] using existing

end Nested

end Hierarchy

/-! ## Search by qualified name -/

/-- What a name is entered for is found under it, unless the name was entered before. -/
theorem NameIndex.find?_enter (index : NameIndex) (name other : String) (id : EntityId) :
    (index.enter name id).find? other =
      (index.find? other).or (if name = other then some id else none) := by
  cases entered : index.find? name with
  | some first =>
      rw [enter, entered]
      by_cases same : name = other
      · rw [← same, entered, Option.some_or]
      · rw [if_neg same, Option.or_none]
  | none =>
      rw [enter, entered, find?, List.lookup_append]
      by_cases same : name = other
      · simp [find?, same]
      · have apart : (other == name) = false := by simpa using Ne.symm same
        simp [find?, same, List.lookup_cons, apart]

namespace Library

variable {library : Library}

/-- A declaration is found under its name unless another one was found before. -/
theorem find?_append (scope : EntityId) (declaration : Declaration) (qualifiedName other : String) :
    (library.append scope declaration qualifiedName).find? other =
      (library.find? other).or (if qualifiedName = other then some library.size else none) :=
  library.index.find?_enter qualifiedName other library.size

/-- Superclass links do not change what is found. -/
theorem Links.find?_eq {after : Library} {id superclass : EntityId}
    (links : Links library id superclass after) (qualifiedName : String) :
    after.find? qualifiedName = library.find? qualifiedName := by
  rw [find?, find?, links.index]

/-- The entities that have a qualified name. What has no parent has no name to be found by. -/
def namedEntities (library : Library) (qualifiedName : String) : Set EntityId :=
  {id | (library.hierarchy.parent id).isSome = true ∧
    library.hierarchy.qualifiedName id = qualifiedName}

/-- The index agrees with the entities: it has the first entity of every name, and no other
names. -/
structure Indexed (library : Library) : Prop where
  least : ∀ qualifiedName id, library.find? qualifiedName = some id →
    IsLeast (library.namedEntities qualifiedName) id
  missing : ∀ qualifiedName, library.find? qualifiedName = none →
    library.namedEntities qualifiedName = ∅

namespace Indexed

theorem empty (name : String) : (Library.empty name).Indexed where
  least := nofun
  missing := by
    intro qualifiedName _
    rw [Set.eq_empty_iff_forall_notMem]
    rintro id ⟨hasParent, -⟩
    cases id <;> cases hasParent

/-- An entity that is declared gets the greatest id, and is entered only if its name has not been. -/
theorem declares (indexed : library.Indexed) {after : Library} {scope : EntityId}
    {declaration added : Declaration} (declares : Declares library scope declaration added after) :
    after.Indexed := by
  have existing : scope < library.hierarchy.size := declares.existing
  obtain rfl := declares.after_eq
  have smaller : ∀ name, ∀ id ∈ library.namedEntities name, id < library.size := by
    rintro name id ⟨hasParent, -⟩
    obtain ⟨above, link⟩ := Option.isSome_iff_exists.mp hasParent
    exact Hierarchy.lt_size_of_parent link
  have named : ∀ name id, id ∈ (library.append scope added
      (library.qualify scope added.name)).namedEntities name ↔
        id ∈ library.namedEntities name ∨
          id = library.size ∧ library.qualify scope added.name = name := by
    intro name id
    have notYet : library.size ∉ library.namedEntities name :=
      fun member => Nat.lt_irrefl _ (smaller name _ member)
    change ((library.append scope added _).hierarchy.parent id).isSome = true ∧
      (library.append scope added _).hierarchy.qualifiedName id = name ↔ _
    rw [parent_append library existing, qualifiedName_append library existing]
    by_cases new : id = library.hierarchy.size
    · subst new
      rw [if_pos rfl, if_pos rfl]
      constructor
      · exact fun both => Or.inr ⟨rfl, both.2⟩
      · rintro (before | ⟨-, same⟩)
        · exact absurd before notYet
        · exact ⟨rfl, same⟩
    · rw [if_neg new, if_neg new]
      exact ⟨Or.inl, fun either => either.resolve_right fun both => new both.1⟩
  constructor
  · intro name id found
    rw [find?_append] at found
    cases first : library.find? name with
    | some old =>
        rw [first, Option.some_or] at found
        cases found
        obtain ⟨member, least⟩ := indexed.least name id first
        refine ⟨(named name id).mpr (Or.inl member), ?_⟩
        intro other otherMember
        rcases (named name other).mp otherMember with before | ⟨rfl, -⟩
        · exact least before
        · exact Nat.le_of_lt (smaller name id member)
    | none =>
        rw [first, Option.none_or] at found
        split at found
        next same =>
          cases found
          refine ⟨(named name _).mpr (Or.inr ⟨rfl, same⟩), ?_⟩
          intro other otherMember
          rcases (named name other).mp otherMember with before | ⟨rfl, -⟩
          · rw [indexed.missing name first] at before
            cases before
          · exact Nat.le_refl _
        · cases found
  · intro name found
    rw [find?_append, Option.or_eq_none_iff] at found
    rw [Set.eq_empty_iff_forall_notMem]
    intro id member
    rcases (named name id).mp member with before | ⟨-, same⟩
    · rw [indexed.missing name found.1] at before
      cases before
    · rw [if_pos same] at found
      cases found.2

/-- What only another superclass tells apart is named alike. -/
theorem links (indexed : library.Indexed) {after : Library} {id superclass : EntityId}
    (links : Links library id superclass after) : after.Indexed := by
  have named : ∀ name, after.namedEntities name = library.namedEntities name := by
    intro name
    simp only [namedEntities, links.parent, links.qualifiedName]
  constructor
  · intro name other found
    rw [links.find?_eq] at found
    exact named name ▸ indexed.least name other found
  · intro name found
    rw [links.find?_eq] at found
    exact (named name).trans (indexed.missing name found)

/-- One change keeps the index in agreement with the entities. -/
theorem change (indexed : library.Indexed) {after : Library} (change : Change library after) :
    after.Indexed := by
  cases change with
  | addHeader header => exact ⟨indexed.least, indexed.missing⟩
  | declare declared =>
      obtain ⟨-, added, declares⟩ := declares_of_declare declared
      exact indexed.declares declares
  | linkSuperclass linked => exact indexed.links (links_of_linkSuperclass linked)

end Indexed

namespace Reachable

variable (reachable : library.Reachable)
include reachable

/-- In every library that comes about, the index agrees with the entities. -/
theorem indexed : library.Indexed := by
  induction reachable with
  | empty name => exact .empty name
  | step _ change ih => exact ih.change change

/-- A name finds the first entity that has it. -/
theorem find?_eq_some_iff {qualifiedName : String} {id : EntityId} :
    library.find? qualifiedName = some id ↔
      IsLeast (library.namedEntities qualifiedName) id := by
  refine ⟨reachable.indexed.least qualifiedName id, fun least => ?_⟩
  cases found : library.find? qualifiedName with
  | none =>
      have nobody := least.1
      rw [reachable.indexed.missing qualifiedName found] at nobody
      cases nobody
  | some other =>
      exact congrArg some ((reachable.indexed.least qualifiedName other found).unique least)

/-- A name finds nothing exactly where no entity has it. -/
theorem find?_eq_none_iff {qualifiedName : String} :
    library.find? qualifiedName = none ↔
      ∀ id, (library.hierarchy.parent id).isSome = true →
        library.hierarchy.qualifiedName id ≠ qualifiedName := by
  constructor
  · intro missing id hasParent same
    have nobody := reachable.indexed.missing qualifiedName missing
    exact Set.eq_empty_iff_forall_notMem.mp nobody id ⟨hasParent, same⟩
  · intro apart
    cases found : library.find? qualifiedName with
    | none => rfl
    | some id =>
        have first := (reachable.indexed.least qualifiedName id found).1
        exact absurd first.2 (apart id first.1)

/-- Two entities have one qualified name exactly if the names on their paths are the same. -/
theorem qualifiedName_eq_iff_path {id other : EntityId} (existing : id < library.hierarchy.size)
    (otherExisting : other < library.hierarchy.size) :
    library.hierarchy.qualifiedName id = library.hierarchy.qualifiedName other ↔
      library.hierarchy.path id = library.hierarchy.path other := by
  have nested := reachable.wellFormed.nested
  have wellNamed := reachable.wellNamed
  have rootName := reachable.qualifiedName_root
  induction id, existing using nested.induction_on_parent generalizing other with
  | top =>
      rcases eq_or_ne other Hierarchy.root with rfl | notRoot
      · simp
      · obtain ⟨scope, -, link⟩ := nested.parentBefore other otherExisting notRoot
        have named := wellNamed.qualifiedName_ne_empty nested link
        simp [rootName, nested.path_root, nested.path_child link, named.symm]
  | step id existing scope link ih =>
      rcases eq_or_ne other Hierarchy.root with rfl | notRoot
      · have named := wellNamed.qualifiedName_ne_empty nested link
        simp [rootName, nested.path_root, nested.path_child link, named]
      · obtain ⟨otherScope, smaller, otherLink⟩ :=
          nested.parentBefore other otherExisting notRoot
        have scopes := ih (Nat.lt_trans smaller otherExisting)
        simp [reachable.qualifiedName_eq_iff link otherLink, scopes, nested.path_child link,
          nested.path_child otherLink]

/-- An entity has a parent exactly if it is not the root. -/
theorem isSome_parent_iff {id : EntityId} :
    (library.hierarchy.parent id).isSome = true ↔
      id < library.size ∧ id ≠ Hierarchy.root := by
  have nested := reachable.wellFormed.nested
  constructor
  · intro hasParent
    obtain ⟨scope, link⟩ := Option.isSome_iff_exists.mp hasParent
    refine ⟨Hierarchy.lt_size_of_parent link, ?_⟩
    rintro rfl
    simp [nested.rootParent] at link
  · rintro ⟨existing, notRoot⟩
    obtain ⟨scope, -, link⟩ := nested.parentBefore id existing notRoot
    simp [link]

end Reachable

/-! ## The parts together -/

/-- The parts of a library fit together. -/
structure Represented (library : Library) : Prop where
  hasRoot : Hierarchy.root < library.size
  /-- Only the root has no parent. -/
  parent_eq_none : ∀ id < library.size,
    library.hierarchy.parent id = none ↔ id = Hierarchy.root
  parent_lt : ∀ id scope, library.hierarchy.parent id = some scope → scope < id
  /-- Children are listed once each, in the order of their ids. -/
  children : ∀ scope, library.hierarchy.children scope =
    (List.range library.size).filter fun id => library.hierarchy.parent id = some scope
  /-- The members of the root are not qualified; every other name is qualified by its scope. -/
  qualifiedName : ∀ id scope, library.hierarchy.parent id = some scope →
    library.hierarchy.qualifiedName id =
      if scope = Hierarchy.root then library.hierarchy.name id
      else library.hierarchy.qualifiedName scope ++ "::" ++ library.hierarchy.name id
  name : ∀ id < library.size, id ≠ Hierarchy.root → Declarable (library.hierarchy.name id)
  values : ∀ id < library.size, ∀ value ∈ (library.hierarchy.declaration id).values,
    Declarable value
  superclass : ∀ id superclass, library.hierarchy.superclass id = some superclass →
    superclass < library.size ∧ library.hierarchy.kind superclass = .classType
  /-- The index has the least id of every name, the root apart, and no other names. -/
  find?_eq_some : ∀ qualifiedName id, library.find? qualifiedName = some id ↔
    IsLeast {other | other < library.size ∧ other ≠ Hierarchy.root ∧
      library.hierarchy.qualifiedName other = qualifiedName} id
  find?_eq_none : ∀ qualifiedName, library.find? qualifiedName = none ↔
    ∀ id < library.size, id ≠ Hierarchy.root →
      library.hierarchy.qualifiedName id ≠ qualifiedName
  find?_empty : library.find? "" = none
  path : ∀ id < library.size, id ≠ Hierarchy.root → ∀ other < library.size,
    other ≠ Hierarchy.root →
      (library.hierarchy.qualifiedName id = library.hierarchy.qualifiedName other ↔
        library.hierarchy.path id = library.hierarchy.path other)

/-- Whatever a library introduces may be declared. -/
theorem Reachable.declarable_introduced (reachable : library.Reachable) {id : EntityId}
    (existing : id < library.hierarchy.size) (notRoot : id ≠ Hierarchy.root)
    (introduced : NameRole × String)
    (member : introduced ∈ introducedNames (library.hierarchy.declaration id)) :
    Declarable introduced.2 :=
  declarable_iff.mp
    (reachable.wellNamed.introduced id existing notRoot introduced member)

theorem Reachable.represented (reachable : library.Reachable) : library.Represented := by
  have nested := reachable.wellFormed.nested
  have wellNamed := reachable.wellNamed
  have least : ∀ qualifiedName id, library.find? qualifiedName = some id ↔
      IsLeast {other | other < library.size ∧ other ≠ Hierarchy.root ∧
        library.hierarchy.qualifiedName other = qualifiedName} id := by
    intro qualifiedName id
    rw [reachable.find?_eq_some_iff]
    simp only [namedEntities, reachable.isSome_parent_iff, and_assoc]
  have none_iff : ∀ qualifiedName, library.find? qualifiedName = none ↔
      ∀ id < library.size, id ≠ Hierarchy.root →
        library.hierarchy.qualifiedName id ≠ qualifiedName := by
    intro qualifiedName
    rw [reachable.find?_eq_none_iff]
    simp only [reachable.isSome_parent_iff, and_imp]
  exact
    { hasRoot := nested.hasRoot
      parent_eq_none := by
        intro id existing
        rw [← Option.not_isSome_iff_eq_none, reachable.isSome_parent_iff]
        simp [existing]
      parent_lt := fun id scope link => nested.parent_lt link
      children := nested.children_eq_filter
      qualifiedName := by
        intro id scope link
        split
        · rename_i top
          subst top
          exact wellNamed.qualifiedName_top nested link
        · rename_i notTop
          exact wellNamed.qualifiedName_scoped nested link notTop
      name := by
        intro id existing notRoot
        exact reachable.declarable_introduced existing notRoot
          (.declaration _, library.hierarchy.name id) List.mem_cons_self
      values := by
        intro id existing value member
        rcases eq_or_ne id Hierarchy.root with rfl | notRoot
        · obtain ⟨name, superclass, children, same⟩ := reachable.entity_root
          simp [Hierarchy.declaration, same] at member
        · exact reachable.declarable_introduced existing notRoot (.enumerator, value)
            (List.mem_cons_of_mem _ (List.mem_map.mpr ⟨value, member, rfl⟩))
      superclass := reachable.wellFormed.superclasses
      find?_eq_some := least
      find?_eq_none := none_iff
      find?_empty := by
        rw [none_iff]
        intro id existing notRoot
        obtain ⟨scope, -, link⟩ := nested.parentBefore id existing notRoot
        exact wellNamed.qualifiedName_ne_empty nested link
      path := by
        intro id existing _ other otherExisting _
        exact reachable.qualifiedName_eq_iff_path existing otherExisting }

/-- Whatever calls are made on a new library, and however many of them are refused, its parts fit
together. -/
theorem represented_afterCalls (name : String) (calls : List Call) :
    ((empty name).afterCalls calls).Represented :=
  (Reachable.afterCalls (.empty name) calls).represented

end Library

end RubyBindings
