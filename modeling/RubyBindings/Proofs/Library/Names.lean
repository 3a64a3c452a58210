/-
Module: RubyBindings.Proofs.Library.Names
Purpose: The names in a library. Whatever a declaration introduces may be declared in C++, and its
  qualified name is made from that of its scope; so a qualified name leads back to the scope and the
  name, as long as no two types share one.
Main exports: Library.WellNamed, Library.Reachable.wellNamed, Library.WellNamed.variableName_scoped,
  Hierarchy.DistinctTypes, Library.Reachable.qualifiedName_eq_iff, Library.Reachable.eq_place
-/
import RubyBindings.Proofs.Library.History
import RubyBindings.Proofs.Naming.VariableName

namespace RubyBindings

/-- No two namespaces, classes or enumerations share a qualified name. -/
def Hierarchy.DistinctTypes (hierarchy : Hierarchy) : Prop :=
  ∀ first < hierarchy.size, ∀ second < hierarchy.size, (hierarchy.kind first).isType = true →
    (hierarchy.kind second).isType = true →
      hierarchy.qualifiedName first = hierarchy.qualifiedName second → first = second

instance (hierarchy : Hierarchy) : Decidable hierarchy.DistinctTypes :=
  inferInstanceAs (Decidable (∀ first < hierarchy.size, ∀ second < hierarchy.size,
    (hierarchy.kind first).isType = true → (hierarchy.kind second).isType = true →
      hierarchy.qualifiedName first = hierarchy.qualifiedName second → first = second))

namespace Library

open Naming

variable {library after : Library} {scope : EntityId} {declaration added : Declaration}

/-! ## Names through the history of a library -/

/-- The names of a library: all that are introduced may be declared, and qualified names go from a
scope to what is inside it. -/
structure WellNamed (library : Library) : Prop where
  introduced : ∀ id < library.hierarchy.size, id ≠ Hierarchy.root →
    ∀ introduced ∈ introducedNames (library.hierarchy.declaration id),
      declaredNameFault? introduced.2 = none
  qualified : ∀ id scope, library.hierarchy.parent id = some scope →
    library.hierarchy.qualifiedName id = library.qualify scope (library.hierarchy.name id)

theorem requireNames_eq_ok :
    library.requireNames scope declaration = .ok () ↔
      ∀ introduced ∈ introducedNames declaration, declaredNameFault? introduced.2 = none := by
  rw [requireNames, forM_eq_ok]
  apply forall₂_congr
  rintro ⟨role, name⟩ -
  dsimp only
  cases declaredNameFault? name with
  | none => exact iff_of_true rfl rfl
  | some fault => exact iff_of_false nofun nofun

/-- How an old scope qualifies what is inside it does not change. -/
theorem qualify_append (existing : scope < library.hierarchy.size) (declaration : Declaration)
    (qualifiedName : String) {other : EntityId} (small : other < library.hierarchy.size)
    (name : String) :
    (library.append scope declaration qualifiedName).qualify other name =
      library.qualify other name := by
  rw [qualify, qualify, parent_append library existing, qualifiedName_append library existing,
    if_neg (Nat.ne_of_lt small), if_neg (Nat.ne_of_lt small)]

namespace WellNamed

theorem empty (name : String) : (empty name).WellNamed where
  introduced := fun _ small notRoot => absurd (Nat.lt_one_iff.mp small) notRoot
  qualified := by
    intro id scope link
    cases id <;> cases link

theorem declares (wellNamed : library.WellNamed) (nested : library.hierarchy.Nested)
    (declares : Declares library scope declaration added after) : after.WellNamed := by
  have existing : scope < library.hierarchy.size := declares.existing
  rw [declares.after_eq]
  refine ⟨?_, ?_⟩
  · intro id small notRoot
    rw [size_append] at small
    rw [declaration_append library existing]
    split
    · exact requireNames_eq_ok.mp declares.names
    · rename_i old
      exact wellNamed.introduced id (Nat.lt_of_le_of_ne (Nat.le_of_lt_succ small) old) notRoot
  · intro id above link
    rw [parent_append library existing] at link
    rw [qualifiedName_append library existing, name_append library existing]
    by_cases new : id = library.hierarchy.size
    · rw [if_pos new] at link
      cases link
      rw [if_pos new, if_pos new, qualify_append existing _ _ existing]
    · rw [if_neg new] at link
      have aboveSmall := Nat.lt_trans (nested.parent_lt link) (Hierarchy.lt_size_of_parent link)
      rw [if_neg new, if_neg new, qualify_append existing _ _ aboveSmall]
      exact wellNamed.qualified id above link

theorem links (wellNamed : library.WellNamed) {id superclass : EntityId}
    (links : Links library id superclass after) : after.WellNamed where
  introduced := by
    intro other small notRoot
    have same := links.read_eq (fun entity => introducedNames entity.declaration)
      (fun _ _ => rfl) other
    rw [Hierarchy.declaration, same]
    exact wellNamed.introduced other (links.size ▸ small) notRoot
  qualified := by
    intro other scope link
    rw [links.parent] at link
    rw [qualify, links.parent, links.qualifiedName, links.qualifiedName, links.name]
    exact wellNamed.qualified other scope link

/-- One change keeps the names of a library in order. -/
theorem change (wellNamed : library.WellNamed) (nested : library.hierarchy.Nested)
    (change : Change library after) : after.WellNamed := by
  cases change with
  | addHeader header => exact ⟨wellNamed.introduced, wellNamed.qualified⟩
  | declare declared =>
      obtain ⟨-, added, declares⟩ := declares_of_declare declared
      exact wellNamed.declares nested declares
  | linkSuperclass linked => exact wellNamed.links (links_of_linkSuperclass linked)

end WellNamed

/-- The names of every library that comes about are in order. -/
theorem Reachable.wellNamed (reachable : library.Reachable) : library.WellNamed := by
  induction reachable with
  | empty name => exact .empty name
  | step before change ih => exact ih.change before.wellFormed.nested change

/-! ## Qualified names -/

namespace WellNamed

variable (wellNamed : library.WellNamed) (nested : library.hierarchy.Nested)
include wellNamed nested

theorem isIdentifier {id scope : EntityId} (link : library.hierarchy.parent id = some scope) :
    IsIdentifier (library.hierarchy.name id) := by
  have notRoot : id ≠ Hierarchy.root := by
    rintro rfl
    rw [nested.rootParent] at link
    cases link
  have sound := wellNamed.introduced id (Hierarchy.lt_size_of_parent link) notRoot
    (.declaration _, library.hierarchy.name id) List.mem_cons_self
  exact (declarable_iff.mp sound).1

/-- At the top level, the name of an entity is its qualified name. -/
theorem qualifiedName_top {id : EntityId}
    (link : library.hierarchy.parent id = some Hierarchy.root) :
    library.hierarchy.qualifiedName id = library.hierarchy.name id := by
  rw [wellNamed.qualified id _ link, qualify, nested.rootParent]

theorem qualifiedName_scoped {id scope : EntityId}
    (link : library.hierarchy.parent id = some scope) (notRoot : scope ≠ Hierarchy.root) :
    library.hierarchy.qualifiedName id =
      library.hierarchy.qualifiedName scope ++ "::" ++ library.hierarchy.name id := by
  have existing := Nat.lt_trans (nested.parent_lt link) (Hierarchy.lt_size_of_parent link)
  obtain ⟨above, -, scopeLink⟩ := nested.parentBefore scope existing notRoot
  rw [wellNamed.qualified id scope link, qualify, scopeLink]

theorem endsPlain {id scope : EntityId} (link : library.hierarchy.parent id = some scope) :
    EndsPlain (library.hierarchy.qualifiedName id) := by
  have plain := (wellNamed.isIdentifier nested link).endsPlain
  rcases eq_or_ne scope Hierarchy.root with rfl | notTop
  · rw [wellNamed.qualifiedName_top nested link]
    exact plain
  · rw [wellNamed.qualifiedName_scoped nested link notTop]
    exact plain.append _

theorem variableName_top {id : EntityId}
    (link : library.hierarchy.parent id = some Hierarchy.root) :
    variableName (library.hierarchy.qualifiedName id) = library.hierarchy.name id := by
  rw [wellNamed.qualifiedName_top nested link,
    variableName_identifier (wellNamed.isIdentifier nested link)]

/-- The variable name of an entity is that of its scope, an underscore, and its own name. -/
theorem variableName_scoped {id scope : EntityId}
    (link : library.hierarchy.parent id = some scope) (notRoot : scope ≠ Hierarchy.root) :
    variableName (library.hierarchy.qualifiedName id) =
      variableName (library.hierarchy.qualifiedName scope) ++ "_" ++
        library.hierarchy.name id := by
  have existing := Nat.lt_trans (nested.parent_lt link) (Hierarchy.lt_size_of_parent link)
  obtain ⟨above, -, scopeLink⟩ := nested.parentBefore scope existing notRoot
  rw [wellNamed.qualifiedName_scoped nested link notRoot, Naming.variableName_scoped
    (wellNamed.endsPlain nested scopeLink) (wellNamed.isIdentifier nested link)]

/-- A scope operator tells the qualified name of a member from a name at the top level. -/
theorem name_ne_scoped {id scope : EntityId} (link : library.hierarchy.parent id = some scope)
    (front ending : String) : library.hierarchy.name id ≠ front ++ "::" ++ ending := by
  intro same
  apply (wellNamed.isIdentifier nested link).colon_not_mem
  rw [same]
  simp

theorem qualifiedName_ne_empty {id scope : EntityId}
    (link : library.hierarchy.parent id = some scope) : library.hierarchy.qualifiedName id ≠ "" := by
  obtain ⟨front, last, spelled, -⟩ := wellNamed.endsPlain nested link
  intro none
  simp [none] at spelled

end WellNamed

namespace Reachable

variable (reachable : library.Reachable)
include reachable

theorem qualifiedName_root : library.hierarchy.qualifiedName Hierarchy.root = "" := by
  obtain ⟨name, superclass, children, same⟩ := reachable.entity_root
  rw [Hierarchy.qualifiedName, same]

/-- A qualified name tells the name of an entity and the qualified name of the scope around it. -/
theorem qualifiedName_eq_iff {id scope other otherScope : EntityId}
    (link : library.hierarchy.parent id = some scope)
    (otherLink : library.hierarchy.parent other = some otherScope) :
    library.hierarchy.qualifiedName id = library.hierarchy.qualifiedName other ↔
      library.hierarchy.qualifiedName scope = library.hierarchy.qualifiedName otherScope ∧
        library.hierarchy.name id = library.hierarchy.name other := by
  have wellNamed := reachable.wellNamed
  have nested := reachable.wellFormed.nested
  have nonempty : ∀ {scope id}, library.hierarchy.parent id = some scope →
      scope ≠ Hierarchy.root → library.hierarchy.qualifiedName scope ≠ "" := by
    intro scope id link notRoot
    have existing := Nat.lt_trans (nested.parent_lt link) (Hierarchy.lt_size_of_parent link)
    obtain ⟨above, -, scopeLink⟩ := nested.parentBefore scope existing notRoot
    exact wellNamed.qualifiedName_ne_empty nested scopeLink
  rcases eq_or_ne scope Hierarchy.root with rfl | notTop <;>
    rcases eq_or_ne otherScope Hierarchy.root with rfl | otherNotTop
  · simp [wellNamed.qualifiedName_top nested link, wellNamed.qualifiedName_top nested otherLink]
  · have apart := wellNamed.name_ne_scoped nested link
      (library.hierarchy.qualifiedName otherScope) (library.hierarchy.name other)
    simp [wellNamed.qualifiedName_top nested link, apart, reachable.qualifiedName_root,
      wellNamed.qualifiedName_scoped nested otherLink otherNotTop,
      (nonempty otherLink otherNotTop).symm]
  · have apart := wellNamed.name_ne_scoped nested otherLink
      (library.hierarchy.qualifiedName scope) (library.hierarchy.name id)
    simp [wellNamed.qualifiedName_top nested otherLink, apart.symm, reachable.qualifiedName_root,
      wellNamed.qualifiedName_scoped nested link notTop, nonempty link notTop]
  · rw [wellNamed.qualifiedName_scoped nested link notTop,
      wellNamed.qualifiedName_scoped nested otherLink otherNotTop]
    constructor
    · exact scoped_inj (wellNamed.isIdentifier nested link)
        (wellNamed.isIdentifier nested otherLink)
    · rintro ⟨scopes, names⟩
      rw [scopes, names]

/-- Where no two types share a qualified name, members of types that share one have the same name
in the same scope. -/
theorem eq_place (distinct : library.hierarchy.DistinctTypes) {id scope other otherScope : EntityId}
    (link : library.hierarchy.parent id = some scope)
    (otherLink : library.hierarchy.parent other = some otherScope)
    (isType : (library.hierarchy.kind scope).isType = true)
    (otherIsType : (library.hierarchy.kind otherScope).isType = true)
    (same : library.hierarchy.qualifiedName id = library.hierarchy.qualifiedName other) :
    scope = otherScope ∧ library.hierarchy.name id = library.hierarchy.name other := by
  have nested := reachable.wellFormed.nested
  have existing := Nat.lt_trans (nested.parent_lt link) (Hierarchy.lt_size_of_parent link)
  have otherExisting :=
    Nat.lt_trans (nested.parent_lt otherLink) (Hierarchy.lt_size_of_parent otherLink)
  obtain ⟨scopes, names⟩ := (reachable.qualifiedName_eq_iff link otherLink).mp same
  exact ⟨distinct scope existing otherScope otherExisting isType otherIsType scopes, names⟩

end Reachable

end Library

end RubyBindings
