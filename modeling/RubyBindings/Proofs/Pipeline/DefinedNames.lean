/-
Module: RubyBindings.Proofs.Pipeline.DefinedNames
Purpose: The C++ names that a unit defines: the variables of namespaces, classes and enumerations,
  and the function pointer types of overloaded callables. All of them are made from variable names,
  and these forget where a scope ends; so two names are the same exactly where variable names are
  mistaken for each other. Without underscores in the names of a library that cannot happen.
Main exports: Hierarchy.definedNames, Hierarchy.SharesVariable, Hierarchy.SharesPointer,
  Hierarchy.Imitates, Library.nodup_definedNames_iff, NamesApart, Pipeline.defined_names_apart,
  Pipeline.defined_names_repeated
-/
import RubyBindings.Proofs.Library.Names
import RubyBindings.Proofs.Naming.Numeral
import RubyBindings.Proofs.Pipeline.DeclaredFirst
import RubyBindings.Proofs.Registration.Overload
import Mathlib.Data.List.Pairwise

namespace RubyBindings

open Naming

variable {ω : Type} {hierarchy : Hierarchy}

namespace Hierarchy

/-! ## The names of a unit -/

/-- The names that the statements and types of a unit define: first the variables, then the
function pointer types. -/
def definedNames (hierarchy : Hierarchy) : List String :=
  (hierarchy.registered.filterMap hierarchy.statement?).filterMap Statement.defines? ++
    (hierarchy.registered.filterMap hierarchy.typedef?).map Typedef.name

/-- The name of the variable that an entity defines. -/
def handleName? (hierarchy : Hierarchy) (id : EntityId) : Option String :=
  (hierarchy.handle? id).map Handle.name

/-- The name of the function pointer type that is defined for an entity. -/
def pointerName? (hierarchy : Hierarchy) (id : EntityId) : Option String :=
  (hierarchy.typedef? id).map Typedef.name

theorem definedNames_eq (hierarchy : Hierarchy) :
    hierarchy.definedNames =
      hierarchy.registered.filterMap hierarchy.handleName? ++
        hierarchy.registered.filterMap hierarchy.pointerName? := by
  rw [definedNames, List.filterMap_filterMap, List.map_filterMap]
  congr 2
  funext id
  exact defines?_statement? id

/-- How the variables of a kind of entities begin. -/
def variablePrefix : DeclarationKind → String
  | .namespaceScope => "rb_m"
  | .classType => "rb_c"
  | .enumType => "rb_e"
  | .constructor | .method | .function => ""

theorem handleName?_eq_some {id : EntityId} {name : String} :
    hierarchy.handleName? id = some name ↔
      (∃ scope, hierarchy.parent id = some scope) ∧ (hierarchy.kind id).isType = true ∧
        name = variablePrefix (hierarchy.kind id) ++ variableName (hierarchy.qualifiedName id) := by
  rw [handleName?, handle?]
  cases hierarchy.parent id with
  | none => simp
  | some scope =>
      cases hierarchy.kind id <;>
        simp [variablePrefix, DeclarationKind.isType, eq_comm]

theorem pointerName?_eq_some {id : EntityId} {name : String} :
    hierarchy.pointerName? id = some name ↔
      hierarchy.isCallable id = true ∧ 1 < (hierarchy.overload id).count ∧
        name = variableName (hierarchy.qualifiedName id) ++ "_" ++
          Nat.repr (hierarchy.overload id).position ++ "_type" := by
  rw [pointerName?, typedef?, isCallable]
  cases hierarchy.kind id with
  | namespaceScope | classType | enumType | constructor => simp
  | method | function =>
      rw [Option.map_map, aliasName?]
      by_cases overloaded : 1 < (hierarchy.overload id).count <;>
        simp [overloaded, eq_comm]

end Hierarchy

/-! ## Spellings -/

/-- The variable of a type tells its kind and its variable name. -/
theorem variable_inj {kind other : DeclarationKind} {front back : String}
    (isType : kind.isType = true) (otherIsType : other.isType = true) :
    Hierarchy.variablePrefix kind ++ front = Hierarchy.variablePrefix other ++ back ↔
      kind = other ∧ front = back := by
  constructor
  · intro same
    have lists := congrArg String.toList same
    rw [String.toList_append, String.toList_append] at lists
    cases kind <;> cases other <;>
      simp_all [Hierarchy.variablePrefix, DeclarationKind.isType]
  · rintro ⟨rfl, rfl⟩
    rfl

/-- A function pointer type tells the variable name of its callable and the place of that among its
overloads. -/
theorem alias_inj {front back : String} {position other : Nat} :
    front ++ "_" ++ Nat.repr position ++ "_type" = back ++ "_" ++ Nat.repr other ++ "_type" ↔
      front = back ∧ position = other := by
  constructor
  · intro same
    have lists := congrArg String.toList same
    rw [String.toList_append, @String.toList_append _ "_type"] at lists
    exact numbered_inj.mp (String.toList_injective (List.append_cancel_right lists))
  · rintro ⟨rfl, rfl⟩
    rfl

/-- The prefix of a variable ends with a letter behind an underscore. -/
theorem exists_letter {kind : DeclarationKind} (isType : kind.isType = true) :
    ∃ letter, Hierarchy.variablePrefix kind = String.ofList ['r', 'b', '_', letter] ∧
      letter.isDigit = false ∧ letter ≠ '_' := by
  cases kind with
  | namespaceScope => exact ⟨'m', rfl, rfl, by decide⟩
  | classType => exact ⟨'c', rfl, rfl, by decide⟩
  | enumType => exact ⟨'e', rfl, rfl, by decide⟩
  | constructor | method | function => cases isType

/-- A variable that is spelled like a function pointer type begins like the variable name in that
type: the underscore in its prefix is not the one in front of the place, since a letter follows. -/
theorem variable_eq_alias {kind : DeclarationKind} {front back : String} {position : Nat}
    (isType : kind.isType = true) :
    Hierarchy.variablePrefix kind ++ front = back ++ "_" ++ Nat.repr position ++ "_type" ↔
      ∃ rest, back = Hierarchy.variablePrefix kind ++ rest ∧
        front = rest ++ "_" ++ Nat.repr position ++ "_type" := by
  obtain ⟨letter, spelled, notDigit, notUnderscore⟩ := exists_letter isType
  obtain ⟨digit, digits, number, isDigit⟩ := exists_digit_cons position
  rw [spelled]
  constructor
  · intro same
    have lists : 'r' :: 'b' :: '_' :: letter :: front.toList =
        back.toList ++ '_' :: digit :: (digits ++ "_type".toList) := by
      have lists := congrArg String.toList same
      simpa [number] using lists
    -- If `back` ended inside the prefix, one of these four characters would be another.
    rcases start : back.toList with _ | ⟨first, _ | ⟨second, _ | ⟨third, _ | ⟨fourth, rest⟩⟩⟩⟩ <;>
      simp only [start, List.nil_append, List.cons_append, List.cons.injEq] at lists
    · exact absurd lists.1 (by decide)
    · exact absurd lists.2.1 (by decide)
    · rw [lists.2.2.2.1, isDigit] at notDigit
      cases notDigit
    · exact absurd lists.2.2.2.1 notUnderscore
    · obtain ⟨rfl, rfl, rfl, rfl, behind⟩ := lists
      refine ⟨String.ofList rest, String.toList_injective ?_, String.toList_injective ?_⟩
      · simp [start]
      · simpa [number] using behind
  · rintro ⟨rest, rfl, rfl⟩
    simp only [String.append_assoc]

/-- The names in a list of things that each have one at most are different exactly if no two things
share one. -/
theorem nodup_filterMap_iff {α β : Type} {name? : α → Option β} {items : List α}
    (nodup : items.Nodup) :
    (items.filterMap name?).Nodup ↔
      ∀ first ∈ items, ∀ second ∈ items, ∀ name, name? first = some name →
        name? second = some name → first = second := by
  rw [List.Nodup, List.pairwise_filterMap]
  constructor
  · intro apart first firstMember second secondMember name firstName secondName
    by_contra different
    have : Std.Symm fun first second => ∀ name, name? first = some name →
        ∀ other, name? second = some other → name ≠ other :=
      ⟨fun _ _ apart other found name named same => apart name named other found same.symm⟩
    exact apart.forall firstMember secondMember different name firstName name secondName rfl
  · intro apart
    apply nodup.pairwise_of_forall_ne
    rintro first firstMember second secondMember different name firstName other secondName rfl
    exact different (apart first firstMember second secondMember name firstName secondName)

/-! ## When names are the same -/

/-- A scope takes methods or functions, and not both. -/
theorem NodeKind.child?_function_of_method {kind : NodeKind}
    (takesMethods : kind.child? .method ≠ none) : kind.child? .function = none := by
  cases kind with
  | classType => rfl
  | extension | moduleScope | constructor | method | function | enumType =>
      exact absurd rfl takesMethods

namespace Hierarchy

/-- A method or function that is not the only one of its name in its scope. -/
def IsOverloaded (hierarchy : Hierarchy) (id : EntityId) : Prop :=
  hierarchy.isCallable id = true ∧ 1 < (hierarchy.overload id).count

/-- The variables of two types of one kind are the same, though their qualified names are not. -/
def SharesVariable (hierarchy : Hierarchy) (first second : EntityId) : Prop :=
  (hierarchy.kind first).isType = true ∧ hierarchy.kind first = hierarchy.kind second ∧
    hierarchy.qualifiedName first ≠ hierarchy.qualifiedName second ∧
    variableName (hierarchy.qualifiedName first) = variableName (hierarchy.qualifiedName second)

/-- The function pointer types of two callables, each in the same place among its overloads, are the
same, though the qualified names of the callables are not. -/
def SharesPointer (hierarchy : Hierarchy) (first second : EntityId) : Prop :=
  hierarchy.IsOverloaded first ∧ hierarchy.IsOverloaded second ∧
    (hierarchy.overload first).position = (hierarchy.overload second).position ∧
    hierarchy.qualifiedName first ≠ hierarchy.qualifiedName second ∧
    variableName (hierarchy.qualifiedName first) = variableName (hierarchy.qualifiedName second)

/-- The variable of a type is spelled like the function pointer type of a callable. -/
def Imitates (hierarchy : Hierarchy) (id callable : EntityId) : Prop :=
  (hierarchy.kind id).isType = true ∧ hierarchy.IsOverloaded callable ∧
    ∃ rest,
      variableName (hierarchy.qualifiedName callable) =
          variablePrefix (hierarchy.kind id) ++ rest ∧
        variableName (hierarchy.qualifiedName id) =
          rest ++ "_" ++ Nat.repr (hierarchy.overload callable).position ++ "_type"

/-- No name of what is registered holds an underscore. -/
def WithoutUnderscores (hierarchy : Hierarchy) : Prop :=
  ∀ id ∈ hierarchy.registered, '_' ∉ (hierarchy.name id).toList

/-- Whatever is registered stands in a scope. -/
theorem Nested.exists_scope (nested : hierarchy.Nested) {id : EntityId}
    (member : id ∈ hierarchy.registered) : ∃ scope, hierarchy.parent id = some scope := by
  obtain ⟨existing, notRoot, -⟩ := nested.mem_registered.mp member
  obtain ⟨scope, -, link⟩ := nested.parentBefore id existing notRoot
  exact ⟨scope, link⟩

/-- Whatever is registered is one of its own overloads. -/
theorem Nested.mem_overloads_self (nested : hierarchy.Nested) {id scope : EntityId}
    (member : id ∈ hierarchy.registered) (link : hierarchy.parent id = some scope) :
    id ∈ hierarchy.overloads scope id := by
  have wrapped := (nested.mem_registered.mp member).2.2
  rw [nested.isWrapped_child link, Bool.and_eq_true] at wrapped
  exact mem_overloads.mpr ⟨(nested.childIff scope id).mpr link, wrapped.1, rfl, rfl⟩

namespace Placed

variable {id scope : EntityId} (placed : hierarchy.Placed id scope)
include placed

theorem isType_scope (rootKind : hierarchy.kind root = .namespaceScope) :
    (hierarchy.kind scope).isType = true := by
  by_cases top : scope = root
  · rw [top, rootKind]
    rfl
  · exact placed.isType_of_ne_root top

/-- Callables of one scope are of one kind. -/
theorem kind_eq {other : EntityId} (otherPlaced : hierarchy.Placed other scope)
    (callable : hierarchy.isCallable id = true) (otherCallable : hierarchy.isCallable other = true) :
    hierarchy.kind id = hierarchy.kind other := by
  have supports := placed.supports
  have otherSupports := otherPlaced.supports
  rw [isCallable, Bool.or_eq_true, beq_iff_eq, beq_iff_eq] at callable otherCallable
  rcases callable with kind | kind <;> rcases otherCallable with otherKind | otherKind <;>
    rw [kind] at supports ⊢ <;> rw [otherKind] at otherSupports ⊢
  · exact absurd (NodeKind.child?_function_of_method supports) otherSupports
  · exact absurd (NodeKind.child?_function_of_method otherSupports) supports

end Placed

end Hierarchy

namespace Library

open Hierarchy

variable {library : Library}

section Apart

variable (reachable : library.Reachable) (distinct : library.hierarchy.DistinctTypes)
  (placed : ∀ id ∈ library.hierarchy.registered, ∃ scope, library.hierarchy.Placed id scope)

section Variables

include reachable

include distinct in
/-- The variables of a unit are different exactly if no two types share one. -/
theorem nodup_handleNames_iff :
    (library.hierarchy.registered.filterMap library.hierarchy.handleName?).Nodup ↔
      ∀ first ∈ library.hierarchy.registered, ∀ second ∈ library.hierarchy.registered,
        ¬ library.hierarchy.SharesVariable first second := by
  have nested := reachable.wellFormed.nested
  rw [nodup_filterMap_iff nested.nodup_registered]
  constructor
  · rintro apart first firstMember second secondMember ⟨isType, sameKind, different, sameName⟩
    apply different
    rw [apart first firstMember second secondMember _
      (handleName?_eq_some.mpr ⟨nested.exists_scope firstMember, isType, rfl⟩)
      (handleName?_eq_some.mpr ⟨nested.exists_scope secondMember, sameKind ▸ isType, by
        rw [sameKind, sameName]⟩)]
  · intro apart first firstMember second secondMember name firstName secondName
    obtain ⟨-, isType, rfl⟩ := handleName?_eq_some.mp firstName
    obtain ⟨-, otherIsType, same⟩ := handleName?_eq_some.mp secondName
    obtain ⟨sameKind, sameName⟩ := (variable_inj isType otherIsType).mp same
    have qualified : library.hierarchy.qualifiedName first =
        library.hierarchy.qualifiedName second := by
      by_contra different
      exact apart first firstMember second secondMember ⟨isType, sameKind, different, sameName⟩
    exact distinct first (nested.mem_registered.mp firstMember).1 second
      (nested.mem_registered.mp secondMember).1 isType otherIsType qualified

/-- No variable is a function pointer type exactly if no type imitates a callable. -/
theorem handleNames_apart_iff :
    (∀ name ∈ library.hierarchy.registered.filterMap library.hierarchy.handleName?,
      ∀ other ∈ library.hierarchy.registered.filterMap library.hierarchy.pointerName?,
        name ≠ other) ↔
      ∀ id ∈ library.hierarchy.registered, ∀ callable ∈ library.hierarchy.registered,
        ¬ library.hierarchy.Imitates id callable := by
  constructor
  · rintro apart id member callable callableMember ⟨isType, overloaded, rest, front, whole⟩
    obtain ⟨scope, link⟩ := reachable.wellFormed.nested.exists_scope member
    have named : library.hierarchy.handleName? id = some _ :=
      handleName?_eq_some.mpr ⟨⟨scope, link⟩, isType, rfl⟩
    have pointed : library.hierarchy.pointerName? callable = some _ :=
      pointerName?_eq_some.mpr ⟨overloaded.1, overloaded.2, rfl⟩
    exact apart _ (List.mem_filterMap.mpr ⟨id, member, named⟩) _
      (List.mem_filterMap.mpr ⟨callable, callableMember, pointed⟩)
      ((variable_eq_alias isType).mpr ⟨rest, front, whole⟩)
  · intro apart name nameMember other otherMember same
    obtain ⟨id, member, named⟩ := List.mem_filterMap.mp nameMember
    obtain ⟨callable, callableMember, pointed⟩ := List.mem_filterMap.mp otherMember
    obtain ⟨-, isType, rfl⟩ := handleName?_eq_some.mp named
    obtain ⟨isCallable, several, rfl⟩ := pointerName?_eq_some.mp pointed
    exact apart id member callable callableMember
      ⟨isType, ⟨isCallable, several⟩, (variable_eq_alias isType).mp same⟩

end Variables

include reachable distinct placed

/-- Callables with one qualified name are overloads of each other; so if they are also in one place,
they are one. -/
theorem eq_of_overload {first second : EntityId}
    (firstMember : first ∈ library.hierarchy.registered)
    (secondMember : second ∈ library.hierarchy.registered)
    (callable : library.hierarchy.isCallable first = true)
    (otherCallable : library.hierarchy.isCallable second = true)
    (sameName : library.hierarchy.qualifiedName first = library.hierarchy.qualifiedName second)
    (samePlace : (library.hierarchy.overload first).position =
      (library.hierarchy.overload second).position) : first = second := by
  have nested := reachable.wellFormed.nested
  have rootKind := reachable.wellFormed.rootKind
  obtain ⟨scope, firstPlaced⟩ := placed first firstMember
  obtain ⟨otherScope, secondPlaced⟩ := placed second secondMember
  obtain ⟨rfl, names⟩ := reachable.eq_place distinct firstPlaced.link
    secondPlaced.link (firstPlaced.isType_scope rootKind) (secondPlaced.isType_scope rootKind)
    sameName
  exact eq_of_position firstPlaced.link secondPlaced.link
    (nested.mem_overloads_self firstMember firstPlaced.link)
    (nested.mem_overloads_self secondMember secondPlaced.link)
    (firstPlaced.kind_eq secondPlaced callable otherCallable) names samePlace

/-- The function pointer types of a unit are different exactly if no two callables share one. -/
theorem nodup_pointerNames_iff :
    (library.hierarchy.registered.filterMap library.hierarchy.pointerName?).Nodup ↔
      ∀ first ∈ library.hierarchy.registered, ∀ second ∈ library.hierarchy.registered,
        ¬ library.hierarchy.SharesPointer first second := by
  rw [nodup_filterMap_iff reachable.wellFormed.nested.nodup_registered]
  constructor
  · rintro apart first firstMember second secondMember
      ⟨overloaded, otherOverloaded, samePlace, different, sameName⟩
    apply different
    rw [apart first firstMember second secondMember _
      (pointerName?_eq_some.mpr ⟨overloaded.1, overloaded.2, rfl⟩)
      (pointerName?_eq_some.mpr ⟨otherOverloaded.1, otherOverloaded.2, by
        rw [sameName, samePlace]⟩)]
  · intro apart first firstMember second secondMember name firstName secondName
    obtain ⟨callable, several, rfl⟩ := pointerName?_eq_some.mp firstName
    obtain ⟨otherCallable, otherSeveral, same⟩ := pointerName?_eq_some.mp secondName
    obtain ⟨sameName, samePlace⟩ := alias_inj.mp same
    have qualified : library.hierarchy.qualifiedName first =
        library.hierarchy.qualifiedName second := by
      by_contra different
      exact apart first firstMember second secondMember
        ⟨⟨callable, several⟩, ⟨otherCallable, otherSeveral⟩, samePlace, different, sameName⟩
    exact eq_of_overload reachable distinct placed firstMember secondMember callable otherCallable
      qualified samePlace

/-- The names that a unit defines are different, except where two entities make one name. -/
theorem nodup_definedNames_iff :
    library.hierarchy.definedNames.Nodup ↔
      ∀ first ∈ library.hierarchy.registered, ∀ second ∈ library.hierarchy.registered,
        ¬ library.hierarchy.SharesVariable first second ∧
          ¬ library.hierarchy.SharesPointer first second ∧
          ¬ library.hierarchy.Imitates first second := by
  rw [definedNames_eq, List.nodup_append, nodup_handleNames_iff reachable distinct,
    nodup_pointerNames_iff reachable distinct placed, handleNames_apart_iff reachable]
  constructor
  · rintro ⟨handles, pointers, apart⟩ first firstMember second secondMember
    exact ⟨handles first firstMember second secondMember,
      pointers first firstMember second secondMember,
      apart first firstMember second secondMember⟩
  · intro apart
    exact ⟨fun first firstMember second secondMember =>
        (apart first firstMember second secondMember).1,
      fun first firstMember second secondMember =>
        (apart first firstMember second secondMember).2.1,
      fun first firstMember second secondMember =>
        (apart first firstMember second secondMember).2.2⟩

end Apart

/-! ## Names without underscores -/

section Plain

variable (reachable : library.Reachable) (plain : library.hierarchy.WithoutUnderscores)
  (placed : ∀ id ∈ library.hierarchy.registered, ∃ scope, library.hierarchy.Placed id scope)

include plain in
theorem name_ne_underscored {id : EntityId} (member : id ∈ library.hierarchy.registered)
    (front ending : String) : library.hierarchy.name id ≠ front ++ "_" ++ ending := by
  intro same
  apply plain id member
  rw [same]
  simp

include reachable plain placed

/-- Without underscores in names, a variable name tells the qualified name that it is made from. -/
theorem qualifiedName_eq_of_variableName (first : EntityId) : ∀ {second : EntityId},
    first ∈ library.hierarchy.registered → second ∈ library.hierarchy.registered →
      variableName (library.hierarchy.qualifiedName first) =
          variableName (library.hierarchy.qualifiedName second) →
        library.hierarchy.qualifiedName first = library.hierarchy.qualifiedName second := by
  have wellNamed := reachable.wellNamed
  have nested := reachable.wellFormed.nested
  -- Along the scopes around both entities: the last underscore is where the innermost one ends.
  induction first using Nat.strongRecOn with
  | ind first ih =>
      intro second firstMember secondMember same
      obtain ⟨scope, firstPlaced⟩ := placed first firstMember
      obtain ⟨otherScope, secondPlaced⟩ := placed second secondMember
      rcases firstPlaced.reached with rfl | scopeMember
      · rw [wellNamed.variableName_top nested firstPlaced.link] at same
        rcases secondPlaced.reached with rfl | otherMember
        · rw [wellNamed.variableName_top nested secondPlaced.link] at same
          rw [wellNamed.qualifiedName_top nested firstPlaced.link,
            wellNamed.qualifiedName_top nested secondPlaced.link, same]
        · rw [wellNamed.variableName_scoped nested secondPlaced.link
            (nested.mem_registered.mp otherMember).2.1] at same
          exact absurd same (name_ne_underscored plain firstMember _ _)
      · have notTop := (nested.mem_registered.mp scopeMember).2.1
        rw [wellNamed.variableName_scoped nested firstPlaced.link notTop] at same
        rcases secondPlaced.reached with rfl | otherMember
        · rw [wellNamed.variableName_top nested secondPlaced.link] at same
          exact absurd same.symm (name_ne_underscored plain secondMember _ _)
        · have otherNotTop := (nested.mem_registered.mp otherMember).2.1
          rw [wellNamed.variableName_scoped nested secondPlaced.link otherNotTop] at same
          obtain ⟨scopes, names⟩ :=
            underscored_inj (plain first firstMember) (plain second secondMember) same
          rw [wellNamed.qualifiedName_scoped nested firstPlaced.link notTop,
            wellNamed.qualifiedName_scoped nested secondPlaced.link otherNotTop, names,
            ih scope (nested.parent_lt firstPlaced.link) scopeMember otherMember scopes]

/-- Without underscores in names, no variable is spelled like a function pointer type: the place
among overloads would have to be the name of a scope, but it is a number. -/
theorem variableName_ne_alias {id : EntityId} (member : id ∈ library.hierarchy.registered)
    (rest : String) (position : Nat) :
    variableName (library.hierarchy.qualifiedName id) ≠
      rest ++ "_" ++ Nat.repr position ++ "_type" := by
  have wellNamed := reachable.wellNamed
  have nested := reachable.wellFormed.nested
  intro same
  rw [show "_type" = "_" ++ "type" from rfl, ← String.append_assoc] at same
  obtain ⟨scope, idPlaced⟩ := placed id member
  rcases idPlaced.reached with rfl | scopeMember
  · rw [wellNamed.variableName_top nested idPlaced.link] at same
    exact name_ne_underscored plain member _ _ same
  · rw [wellNamed.variableName_scoped nested idPlaced.link
      (nested.mem_registered.mp scopeMember).2.1] at same
    obtain ⟨scopes, -⟩ := underscored_inj (plain id member) (by decide) same
    obtain ⟨above, scopePlaced⟩ := placed scope scopeMember
    rcases scopePlaced.reached with rfl | aboveMember
    · rw [wellNamed.variableName_top nested scopePlaced.link] at scopes
      exact name_ne_underscored plain scopeMember _ _ scopes
    · rw [wellNamed.variableName_scoped nested scopePlaced.link
        (nested.mem_registered.mp aboveMember).2.1] at scopes
      obtain ⟨-, number⟩ :=
        underscored_inj (plain scope scopeMember) (underscore_not_mem_repr position) scopes
      exact not_isIdentifier_repr position
        (number ▸ wellNamed.isIdentifier nested scopePlaced.link)

end Plain

end Library

/-! ## The names of a generated unit -/

/-- A generated unit, and when the names that it defines are different. -/
structure NamesApart (layout : UnitLayout) (state : PipelineState hierarchy) : Prop
    extends UnitContents layout state where
  /-- A name is defined twice exactly if two entities make one name. -/
  apart : hierarchy.definedNames.Nodup ↔
    ∀ first ∈ hierarchy.registered, ∀ second ∈ hierarchy.registered,
      ¬ hierarchy.SharesVariable first second ∧ ¬ hierarchy.SharesPointer first second ∧
        ¬ hierarchy.Imitates first second
  /-- That takes an underscore in the name of an entity. -/
  plain : hierarchy.WithoutUnderscores → hierarchy.definedNames.Nodup

/-- A library in which names with underscores make one name in all three ways: `a_b` and `a::b` have
one variable, `a::f` and `a_f` one type for each overload, and the variable of `foo_0_type` is the
type of the first `rb_cfoo`. -/
def Library.underscoredNames : Library where
  hierarchy :=
    { entities :=
        [{ declaration := { kind := .namespaceScope, name := "lib" }
           parent := none
           children := [1, 2, 6, 7, 8, 9, 10]
           qualifiedName := "" },
         { declaration := { kind := .classType, name := "a_b" }
           parent := some Hierarchy.root
           children := []
           qualifiedName := "a_b" },
         { declaration := { kind := .namespaceScope, name := "a" }
           parent := some Hierarchy.root
           children := [3, 4, 5]
           qualifiedName := "a" },
         { declaration := { kind := .classType, name := "b" }
           parent := some 2
           children := []
           qualifiedName := "a::b" },
         { declaration := { kind := .function, name := "f" }
           parent := some 2
           children := []
           qualifiedName := "a::f" },
         { declaration := { kind := .function, name := "f", parameters := [⟨none, "int"⟩] }
           parent := some 2
           children := []
           qualifiedName := "a::f" },
         { declaration := { kind := .function, name := "a_f" }
           parent := some Hierarchy.root
           children := []
           qualifiedName := "a_f" },
         { declaration := { kind := .function, name := "a_f", parameters := [⟨none, "int"⟩] }
           parent := some Hierarchy.root
           children := []
           qualifiedName := "a_f" },
         { declaration := { kind := .classType, name := "foo_0_type" }
           parent := some Hierarchy.root
           children := []
           qualifiedName := "foo_0_type" },
         { declaration := { kind := .function, name := "rb_cfoo" }
           parent := some Hierarchy.root
           children := []
           qualifiedName := "rb_cfoo" },
         { declaration := { kind := .function, name := "rb_cfoo", parameters := [⟨none, "int"⟩] }
           parent := some Hierarchy.root
           children := []
           qualifiedName := "rb_cfoo" }]
      headers := [] }
  index :=
    ⟨[("a_b", 1), ("a", 2), ("a::b", 3), ("a::f", 4), ("a_f", 6), ("foo_0_type", 8),
      ("rb_cfoo", 9)]⟩

theorem Library.reachable_underscoredNames : underscoredNames.Reachable := by
  have described : ofDescription
      { name := "lib"
        headers := []
        entities :=
          [{ kind := .classType, name := "a_b" },
            { kind := .namespaceScope
              name := "a"
              children :=
                [{ kind := .classType, name := "b" },
                  { kind := .function, name := "f" },
                  { kind := .function, name := "f", parameters := [⟨none, "int"⟩] }] },
            { kind := .function, name := "a_f" },
            { kind := .function, name := "a_f", parameters := [⟨none, "int"⟩] },
            { kind := .classType, name := "foo_0_type" },
            { kind := .function, name := "rb_cfoo" },
            { kind := .function, name := "rb_cfoo", parameters := [⟨none, "int"⟩] }] } =
        .ok underscoredNames := rfl
  exact .ofDescription described

namespace Pipeline

/-- Where no two types share a qualified name, the names that a generated unit defines are different,
except where variable names do not tell two entities apart; and that takes an underscore in the name
of an entity. -/
theorem defined_names_apart {library : Library} (reachable : library.Reachable)
    (distinct : library.hierarchy.DistinctTypes) {pipeline : Pipeline ω library.hierarchy}
    (undisturbed : pipeline.Undisturbed) {world after : ω}
    {state : PipelineState library.hierarchy}
    (generated : pipeline.generate.perform world = (.ok state, after)) :
    NamesApart pipeline.layout state := by
  have placed : ∀ id ∈ library.hierarchy.registered, ∃ scope, library.hierarchy.Placed id scope :=
    fun _ member => exists_scope_of_generate reachable undisturbed generated member
  have apart := Library.nodup_definedNames_iff reachable distinct placed
  refine ⟨contents_of_generate reachable undisturbed generated, apart, ?_⟩
  intro plain
  refine apart.mpr fun first firstMember second secondMember => ⟨?_, ?_, ?_⟩
  · rintro ⟨-, -, different, same⟩
    exact different (Library.qualifiedName_eq_of_variableName reachable plain placed first
      firstMember secondMember same)
  · rintro ⟨-, -, -, different, same⟩
    exact different (Library.qualifiedName_eq_of_variableName reachable plain placed first
      firstMember secondMember same)
  · rintro ⟨-, -, rest, -, spelled⟩
    exact Library.variableName_ne_alias reachable plain placed firstMember rest _ spelled

theorem defined_names_apart_overloadedMethod :
    let hierarchy := Library.overloadedMethod.hierarchy
    hierarchy.DistinctTypes ∧
      (plain hierarchy).generate.perform () = (.ok (plainState hierarchy), ()) ∧
      NamesApart (plain hierarchy).layout (plainState hierarchy) ∧
      hierarchy.definedNames =
        ["rb_mgeo", "rb_cgeo_Circle", "geo_Circle_scale_0_type", "geo_Circle_scale_1_type"] := by
  have distinct : Library.overloadedMethod.hierarchy.DistinctTypes := by decide +kernel
  have generated := generate_plain Library.overloadedMethod.hierarchy (by decide +kernel)
  have apart := defined_names_apart Library.reachable_overloadedMethod distinct
    (undisturbed_plain _) generated
  exact ⟨distinct, generated, apart, by cbv⟩

/-- With underscores, one name may be defined several times, though no types share a qualified name
and generation succeeds. -/
theorem defined_names_repeated :
    let hierarchy := Library.underscoredNames.hierarchy
    Library.underscoredNames.Reachable ∧ hierarchy.DistinctTypes ∧
      (plain hierarchy).generate.perform () = (.ok (plainState hierarchy), ()) ∧
      hierarchy.definedNames =
        ["rb_ca_b", "rb_ma", "rb_ca_b", "rb_cfoo_0_type", "a_f_0_type", "a_f_1_type",
          "a_f_0_type", "a_f_1_type", "rb_cfoo_0_type", "rb_cfoo_1_type"] ∧
      ¬ hierarchy.definedNames.Nodup := by
  have generated := generate_plain Library.underscoredNames.hierarchy (by decide +kernel)
  have names : Library.underscoredNames.hierarchy.definedNames =
      ["rb_ca_b", "rb_ma", "rb_ca_b", "rb_cfoo_0_type", "a_f_0_type", "a_f_1_type", "a_f_0_type",
        "a_f_1_type", "rb_cfoo_0_type", "rb_cfoo_1_type"] := by cbv
  refine ⟨Library.reachable_underscoredNames, by decide +kernel, generated, names, ?_⟩
  rw [names]
  decide

end Pipeline

end RubyBindings
