/-
Module: RubyBindings.Proofs.Registration.OverloadNumbers
Purpose: Overloads are numbered from zero, in the order of their declaration. The search for the
  suffix of a later overload has no bound of its own; it always ends, and the `n`-th search ends at
  the `n`-th number that no other callable of the scope is spelled with. So callables have different
  Ruby names wherever callables that are no overloads of each other are spelled differently.
Main exports: SuffixSearch, suffixSearch_iff, IsFree, freeSuffix_eq_nth, Hierarchy.namesakes,
  Hierarchy.FreeNumber, Hierarchy.OverloadsNumbered, Library.overloads_are_numbered
-/
import RubyBindings.Proofs.Library.History
import RubyBindings.Proofs.Registration.CallableName
import Mathlib.Data.Nat.Nth

namespace RubyBindings

open Naming (snakeCase)

/-! ## The search without a bound -/

section Search

variable {taken : List String} {base : String} {start number position : Nat}

/-- One number after the other is looked at, from the one behind `start`, until a name is free. -/
inductive NextFree (taken : List String) (base : String) : Nat → Nat → Prop
  | free {start : Nat} (free : suffixed base (start + 1) ∉ taken) :
      NextFree taken base start (start + 1)
  | used {start number : Nat} (used : suffixed base (start + 1) ∈ taken)
      (later : NextFree taken base (start + 1) number) : NextFree taken base start number

/-- The search for a free number is made once for each place among the overloads but the first, and
goes on from the number that was found for the place before. -/
inductive SuffixSearch (taken : List String) (base : String) : Nat → Nat → Prop
  | first : SuffixSearch taken base 0 0
  | next {position found number : Nat} (before : SuffixSearch taken base position found)
      (search : NextFree taken base found number) : SuffixSearch taken base (position + 1) number

/-- What a search ends at is the first free number. -/
theorem NextFree.isLeast (search : NextFree taken base start number) :
    IsLeast {number | start < number ∧ suffixed base number ∉ taken} number := by
  induction search with
  | free free => exact isLeast_succ free
  | used used _ ih =>
      rw [free_behind_taken used]
      exact ih

/-- If there is a free number, the search ends: it comes closer with every step. -/
theorem nextFree_of_isLeast
    (least : IsLeast {number | start < number ∧ suffixed base number ∉ taken} number) :
    NextFree taken base start number := by
  obtain ⟨gap, rfl⟩ := Nat.exists_eq_add_of_lt least.1.1
  induction gap generalizing start with
  | zero => exact .free least.1.2
  | succ gap ih =>
      have used : suffixed base (start + 1) ∈ taken := by
        by_contra free
        have before := least.2 ⟨Nat.lt_succ_self start, free⟩
        omega
      rw [free_behind_taken used] at least
      refine .used used ?_
      have shift : start + (gap + 1) + 1 = start + 1 + gap + 1 := by omega
      rw [shift] at least ⊢
      exact ih least

/-- The search for a place ends, with the free number for that place and with nothing else. -/
theorem suffixSearch_iff :
    SuffixSearch taken base position number ↔ number = freeSuffix taken base position := by
  constructor
  · intro search
    induction search with
    | first => rfl
    | next before search ih =>
        subst ih
        exact search.isLeast.unique (freeSuffix_isLeast taken base _)
  · rintro rfl
    induction position with
    | zero => exact .first
    | succ position ih =>
        exact .next ih (nextFree_of_isLeast (freeSuffix_isLeast taken base position))

/-- A number that a search may end at. -/
def IsFree (taken : List String) (base : String) (number : Nat) : Prop :=
  0 < number ∧ suffixed base number ∉ taken

/-- There is no end of free numbers. -/
theorem infinite_isFree (taken : List String) (base : String) :
    (Set.ofPred (IsFree taken base)).Infinite := by
  apply Set.infinite_of_injective_forall_mem
    (f := fun position => freeSuffix taken base (position + 1))
  · exact (freeSuffix_strictMono taken base).injective.comp (add_left_injective 1)
  · intro position
    exact ⟨Nat.zero_lt_of_lt (freeSuffix_isLeast taken base position).1.1,
      suffixed_freeSuffix_not_mem taken base position⟩

/-- Behind a suffix is what lies behind every free number that was found before it. -/
theorem freeSuffix_lt_iff
    (found : ∀ earlier < position,
      freeSuffix taken base (earlier + 1) = Nat.nth (IsFree taken base) earlier) :
    freeSuffix taken base position < number ↔
      0 < number ∧ ∀ earlier < position, Nat.nth (IsFree taken base) earlier < number := by
  cases position with
  | zero => simp [freeSuffix]
  | succ position =>
      constructor
      · intro behind
        refine ⟨Nat.zero_lt_of_lt behind, fun earlier before => ?_⟩
        simp only [← found earlier before]
        exact Nat.lt_of_le_of_lt
          ((freeSuffix_strictMono taken base).monotone (Nat.succ_le_of_lt before)) behind
      · intro ⟨_, behind⟩
        simpa only [found position (Nat.lt_succ_self position)] using
          behind position (Nat.lt_succ_self position)

/-- The searches find the free numbers one after the other, and leave none out. -/
theorem freeSuffix_eq_nth (taken : List String) (base : String) (position : Nat) :
    freeSuffix taken base (position + 1) = Nat.nth (IsFree taken base) position := by
  induction position using Nat.strong_induction_on with
  | _ position ih =>
      -- Both are least: behind the numbers found before, and free.
      have nth := Nat.isLeast_nth_of_infinite (infinite_isFree taken base) position
      apply (freeSuffix_isLeast taken base position).unique
      simpa only [freeSuffix_lt_iff ih, IsFree, and_right_comm] using nth

end Search

namespace Hierarchy

variable {hierarchy : Hierarchy} {scope id : EntityId} {kind : DeclarationKind}
  {name spelling : String} {number position : Nat}

/-! ## Overloads in the order of their declaration -/

/-- The eligible children of a scope that have a kind and a name, all of them overloads of each
other. -/
def namesakes (hierarchy : Hierarchy) (scope : EntityId) (kind : DeclarationKind) (name : String) :
    List EntityId :=
  (hierarchy.children scope).filter fun id =>
    hierarchy.isEligible id && (hierarchy.kind id == kind && hierarchy.name id == name)

theorem mem_namesakes :
    id ∈ hierarchy.namesakes scope kind name ↔
      id ∈ hierarchy.children scope ∧ hierarchy.isEligible id = true ∧ hierarchy.kind id = kind ∧
        hierarchy.name id = name := by
  simp [namesakes]

/-- The namesakes of a scope are the overloads of each of them. -/
theorem overloads_eq_namesakes (member : id ∈ hierarchy.namesakes scope kind name) :
    hierarchy.overloads scope id = hierarchy.namesakes scope kind name := by
  obtain ⟨-, -, rfl, rfl⟩ := mem_namesakes.mp member
  rfl

theorem Nested.pairwise_namesakes (nested : hierarchy.Nested) (scope : EntityId)
    (kind : DeclarationKind) (name : String) :
    (hierarchy.namesakes scope kind name).Pairwise (· < ·) :=
  (nested.childrenAscend scope).filter _

/-- The place of an overload is its place in the order of declaration. -/
theorem Nested.overload_of_getElem? (nested : hierarchy.Nested)
    (found : (hierarchy.namesakes scope kind name)[position]? = some id) :
    hierarchy.overload id =
      { position := position, count := (hierarchy.namesakes scope kind name).length } := by
  obtain ⟨bound, place⟩ := List.getElem?_eq_some_iff.mp found
  have member : id ∈ hierarchy.namesakes scope kind name := List.mem_of_getElem? found
  have link := (nested.childIff scope id).mp (mem_namesakes.mp member).1
  have listed := overloads_eq_namesakes member
  have nodup : (hierarchy.namesakes scope kind name).Nodup :=
    (nested.pairwise_namesakes scope kind name).imp Nat.ne_of_lt
  rw [overload_eq link (by rwa [listed]), listed, ← place, nodup.idxOf_getElem]

/-! ## Numbers that are free for a name -/

/-- The number is positive, and the numbered name is not how a callable of the scope with another
kind or another name is spelled. -/
def FreeNumber (hierarchy : Hierarchy) (scope : EntityId) (kind : DeclarationKind) (name : String)
    (number : Nat) : Prop :=
  0 < number ∧ ∀ sibling ∈ hierarchy.callables scope,
    (hierarchy.kind sibling = kind → hierarchy.name sibling ≠ name) →
      snakeCase (hierarchy.name sibling) ≠ suffixed (snakeCase name) number

/-- What is taken are the spellings of callables that are no overloads. -/
theorem mem_takenNames :
    spelling ∈ hierarchy.takenNames scope id ↔
      ∃ sibling ∈ hierarchy.callables scope,
        (hierarchy.kind sibling = hierarchy.kind id → hierarchy.name sibling ≠ hierarchy.name id) ∧
          snakeCase (hierarchy.name sibling) = spelling := by
  simp [takenNames, mem_callables, sharesSignature, and_assoc, imp_iff_not_or]

/-- For each of some namesakes, the numbers are free that are free for all of them. -/
theorem freeNumber_eq (member : id ∈ hierarchy.namesakes scope kind name) :
    hierarchy.FreeNumber scope kind name =
      IsFree (hierarchy.takenNames scope id) (snakeCase name) := by
  obtain ⟨-, -, rfl, rfl⟩ := mem_namesakes.mp member
  funext number
  simp [FreeNumber, IsFree, mem_takenNames]

/-- What is said about the callables of a scope that have a kind and a name. -/
structure OverloadsNumbered (hierarchy : Hierarchy) (scope : EntityId) (kind : DeclarationKind)
    (name : String) : Prop where
  /-- Declared later means listed later. -/
  ascending : (hierarchy.namesakes scope kind name).Pairwise (· < ·)
  /-- They are numbered in that order, and each knows how many there are. -/
  overload : ∀ position id, (hierarchy.namesakes scope kind name)[position]? = some id →
    hierarchy.overload id =
      { position := position, count := (hierarchy.namesakes scope kind name).length }
  /-- The first has the snake case of the name. -/
  first : ∀ id, (hierarchy.namesakes scope kind name)[0]? = some id →
    hierarchy.callableName id = snakeCase name
  /-- There are free numbers for any number of overloads. -/
  free : (Set.ofPred (hierarchy.FreeNumber scope kind name)).Infinite
  /-- The search that is made for a later one ends, at the next free number. -/
  search : ∀ position id, (hierarchy.namesakes scope kind name)[position + 1]? = some id →
    ∀ number, SuffixSearch (hierarchy.takenNames scope id) (snakeCase name) (position + 1) number ↔
      number = Nat.nth (hierarchy.FreeNumber scope kind name) position
  /-- A later one has the name with that number. -/
  later : ∀ position id, (hierarchy.namesakes scope kind name)[position + 1]? = some id →
    hierarchy.callableName id =
      suffixed (snakeCase name) (Nat.nth (hierarchy.FreeNumber scope kind name) position)

/-- The free numbers of namesakes are found one after the other. -/
theorem nth_freeNumber (member : id ∈ hierarchy.namesakes scope kind name) (position : Nat) :
    Nat.nth (hierarchy.FreeNumber scope kind name) position =
      freeSuffix (hierarchy.takenNames scope id) (snakeCase name) (position + 1) := by
  rw [freeNumber_eq member, freeSuffix_eq_nth]

/-- Only names that callables of the scope have are taken, so free numbers do not run out. -/
theorem infinite_freeNumber (hierarchy : Hierarchy) (scope : EntityId) (kind : DeclarationKind)
    (name : String) : (Set.ofPred (hierarchy.FreeNumber scope kind name)).Infinite := by
  apply (infinite_isFree ((hierarchy.callables scope).map fun id => snakeCase (hierarchy.name id))
    (snakeCase name)).mono
  intro number ⟨positive, free⟩
  exact ⟨positive, fun sibling member _ spelled =>
    free (List.mem_map.mpr ⟨sibling, member, spelled⟩)⟩

theorem Nested.overloadsNumbered (nested : hierarchy.Nested) (scope : EntityId)
    (kind : DeclarationKind) (name : String) : hierarchy.OverloadsNumbered scope kind name where
  ascending := nested.pairwise_namesakes scope kind name
  overload := fun _ _ => nested.overload_of_getElem?
  first := by
    intro id found
    obtain ⟨child, -, -, rfl⟩ := mem_namesakes.mp (List.mem_of_getElem? found)
    have link := (nested.childIff scope id).mp child
    simp [callableName_eq link, nested.overload_of_getElem? found]
  free := infinite_freeNumber hierarchy scope kind name
  search := by
    intro position id found number
    rw [nth_freeNumber (List.mem_of_getElem? found), suffixSearch_iff]
  later := by
    intro position id found
    have member := List.mem_of_getElem? found
    have numbers := nth_freeNumber member position
    obtain ⟨child, -, -, rfl⟩ := mem_namesakes.mp member
    have link := (nested.childIff scope id).mp child
    simp [callableName_eq link, nested.overload_of_getElem? found, numbers]

/-- Callables that are no overloads of each other are spelled differently. -/
def SpelledApart (hierarchy : Hierarchy) (scope : EntityId) : Prop :=
  ∀ first ∈ hierarchy.callables scope, ∀ second ∈ hierarchy.callables scope,
    snakeCase (hierarchy.name first) = snakeCase (hierarchy.name second) →
      hierarchy.kind first = hierarchy.kind second ∧ hierarchy.name first = hierarchy.name second

instance (hierarchy : Hierarchy) (scope : EntityId) : Decidable (hierarchy.SpelledApart scope) :=
  inferInstanceAs (Decidable (∀ first ∈ hierarchy.callables scope,
    ∀ second ∈ hierarchy.callables scope,
      snakeCase (hierarchy.name first) = snakeCase (hierarchy.name second) →
        hierarchy.kind first = hierarchy.kind second ∧
          hierarchy.name first = hierarchy.name second))

/-- Overloads have places of their own, so spellings are all that can keep names from being
different. -/
theorem Nested.nodup_callableNames (nested : hierarchy.Nested)
    (apart : hierarchy.SpelledApart scope) :
    ((hierarchy.callables scope).map hierarchy.callableName).Nodup := by
  have nodup : (hierarchy.callables scope).Nodup :=
    ((nested.childrenAscend scope).filter _).imp Nat.ne_of_lt
  apply nodup.map_on
  intro first firstMember second secondMember sameName
  obtain ⟨alike, place⟩ := (callableName_eq_iff nested firstMember secondMember).mp sameName
  obtain ⟨sameKind, sameText⟩ := apart first firstMember second secondMember alike
  exact eq_of_position ((nested.childIff scope first).mp (mem_callables.mp firstMember).1)
    ((nested.childIff scope second).mp (mem_callables.mp secondMember).1)
    (mem_overloads_of_mem_callables firstMember) (mem_overloads_of_mem_callables secondMember)
    sameKind sameText place

end Hierarchy

namespace Library

/-- In every scope of every library, overloads are numbered in the order of their declaration, and
each but the first has a name with the next free number; and all callables of a scope have different
Ruby names if those that are no overloads of each other are spelled differently. -/
theorem overloads_are_numbered {library : Library} (reachable : library.Reachable)
    (scope : EntityId) :
    (∀ kind name, library.hierarchy.OverloadsNumbered scope kind name) ∧
      (library.hierarchy.SpelledApart scope →
        ((library.hierarchy.callables scope).map library.hierarchy.callableName).Nodup) :=
  have nested := reachable.wellFormed.nested
  ⟨nested.overloadsNumbered scope, nested.nodup_callableNames⟩

/-- The declarations of a class with three methods of one name, a fourth one with a number in its
name, and a private one with another number. -/
def scaledThrice : List Call :=
  [.declare Hierarchy.root { kind := .classType, name := "Shape" },
    .declare 1 { kind := .method, name := "scale" },
    .declare 1 { kind := .method, name := "scale" },
    .declare 1 { kind := .method, name := "scale" },
    .declare 1 { kind := .method, name := "scale_1" },
    .declare 1 { kind := .method, name := "scale_3", isPublic := false }]

/-- The second overload goes past the number that its sibling has, and the third does not mind the
number of a sibling that is left out; so all names differ. -/
theorem overloads_are_numbered_scaledThrice :
    let library := (empty "lib").afterCalls scaledThrice
    let hierarchy := library.hierarchy
    library.Reachable ∧ hierarchy.SpelledApart 1 ∧
      hierarchy.namesakes 1 .method "scale" = [2, 3, 4] ∧
      hierarchy.overload 4 = { position := 2, count := 3 } ∧
      Nat.nth (hierarchy.FreeNumber 1 .method "scale") 0 = 2 ∧
      [2, 3, 4, 5].map hierarchy.callableName = ["scale", "scale_2", "scale_3", "scale_1"] ∧
      ((hierarchy.callables 1).map hierarchy.callableName).Nodup := by
  intro library hierarchy
  have reachable : library.Reachable := (Reachable.empty "lib").afterCalls scaledThrice
  have apart : hierarchy.SpelledApart 1 := by decide +kernel
  have listed : hierarchy.namesakes 1 .method "scale" = [2, 3, 4] := by decide +kernel
  obtain ⟨numbered, distinct⟩ := overloads_are_numbered reachable 1
  have second : (hierarchy.namesakes 1 .method "scale")[1]? = some 3 := by rw [listed]; rfl
  have third : (hierarchy.namesakes 1 .method "scale")[2]? = some 4 := by rw [listed]; rfl
  have search : SuffixSearch (hierarchy.takenNames 1 3) (snakeCase "scale") 1 2 :=
    .next .first (.used (by decide +kernel) (.free (by decide +kernel)))
  refine ⟨reachable, apart, listed, ?_, ?_, by decide +kernel, distinct apart⟩
  · rw [(numbered .method "scale").overload 2 4 third, listed]
    rfl
  · exact (((numbered .method "scale").search 0 3 second 2).mp search).symm

end Library

end RubyBindings
