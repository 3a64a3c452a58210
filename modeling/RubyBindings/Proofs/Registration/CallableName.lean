/-
Module: RubyBindings.Proofs.Registration.CallableName
Purpose: Ruby names of methods and functions. The numbers that later overloads get are the ones that
  no sibling is named with, in order; so a name tells the snake case of a callable and its place
  among its overloads, and nothing else.
Main exports: suffixed_inj, freeSuffix_isLeast, Hierarchy.callables, Hierarchy.callableName_eq,
  Hierarchy.callableName_eq_iff
-/
import RubyBindings.Proofs.Hierarchy.Nesting
import RubyBindings.Proofs.Naming.Numeral
import RubyBindings.Proofs.Registration.Overload
import Mathlib.Data.List.Nodup
import Mathlib.Order.Bounds.Basic
import Mathlib.Order.Monotone.Basic

namespace RubyBindings

open Naming

/-! ## Numbered names -/

section Suffix

variable {taken others : List String} {base other : String}

/-- A numbered name tells the name and the number. -/
theorem suffixed_inj {number otherNumber : Nat} :
    suffixed base number = suffixed other otherNumber ↔ base = other ∧ number = otherNumber :=
  numbered_inj

theorem suffixed_ne_self (base : String) (number : Nat) : suffixed base number ≠ base := by
  intro same
  have lists := congrArg String.toList same
  simp [suffixed] at lists

/-- Every number takes a name of its own from a list, so no longer run of numbers is taken. -/
theorem le_length_of_taken {start count : Nat}
    (run : ∀ number, start < number → number ≤ start + count → suffixed base number ∈ taken) :
    count ≤ taken.length := by
  have nodup : ((List.range' (start + 1) count).map (suffixed base)).Nodup :=
    List.Nodup.map (fun _ _ same => (suffixed_inj.mp same).2) (List.nodup_range' 1)
  have subset : (List.range' (start + 1) count).map (suffixed base) ⊆ taken := by
    intro name member
    obtain ⟨number, inRun, rfl⟩ := List.mem_map.mp member
    obtain ⟨behind, before⟩ := List.mem_range'_1.mp inRun
    exact run number behind (by omega)
  simpa using nodup.length_le_of_subset subset

/-- A number that is not taken is the first free one behind its predecessor. -/
theorem isLeast_succ {start : Nat} (free : suffixed base (start + 1) ∉ taken) :
    IsLeast {number | start < number ∧ suffixed base number ∉ taken} (start + 1) :=
  ⟨⟨Nat.lt_succ_self start, free⟩, fun _ candidate => candidate.1⟩

/-- If the next number is taken, what is free behind it is what is free behind its predecessor. -/
theorem free_behind_taken {start : Nat} (member : suffixed base (start + 1) ∈ taken) :
    {number | start < number ∧ suffixed base number ∉ taken} =
      {number | start + 1 < number ∧ suffixed base number ∉ taken} := by
  ext number
  refine ⟨fun ⟨behind, free⟩ => ⟨Nat.lt_of_le_of_ne behind ?_, free⟩,
    fun ⟨behind, free⟩ => ⟨Nat.lt_of_succ_lt behind, free⟩⟩
  rintro rfl
  exact free member

/-- A search that may go on for as long as numbers are taken finds the first free number. -/
theorem nextSuffix_isLeast {attempts start : Nat}
    (enough : ∀ count,
      (∀ number, start < number → number ≤ start + count → suffixed base number ∈ taken) →
        count ≤ attempts) :
    IsLeast {number | start < number ∧ suffixed base number ∉ taken}
      (nextSuffix taken base attempts start) := by
  induction attempts generalizing start with
  | zero =>
      apply isLeast_succ
      intro member
      have one := enough 1 fun number behind before => by
        obtain rfl : number = start + 1 := Nat.le_antisymm before behind
        exact member
      exact absurd one (Nat.not_succ_le_zero 0)
  | succ attempts ih =>
      rw [nextSuffix]
      split
      · rename_i member
        rw [free_behind_taken member]
        apply ih
        intro count run
        apply Nat.le_of_succ_le_succ
        apply enough
        intro number behind before
        obtain rfl | further := Nat.eq_or_lt_of_le (Nat.succ_le_of_lt behind)
        · exact member
        · exact run number further (by omega)
      · rename_i free
        exact isLeast_succ free

/-- Each suffix is the first free number behind the one before it. -/
theorem freeSuffix_isLeast (taken : List String) (base : String) (position : Nat) :
    IsLeast {number | freeSuffix taken base position < number ∧ suffixed base number ∉ taken}
      (freeSuffix taken base (position + 1)) :=
  nextSuffix_isLeast fun _ => le_length_of_taken

theorem freeSuffix_strictMono (taken : List String) (base : String) :
    StrictMono (freeSuffix taken base) :=
  strictMono_nat_of_lt_succ fun position => (freeSuffix_isLeast taken base position).1.1

theorem suffixed_freeSuffix_not_mem (taken : List String) (base : String) (position : Nat) :
    suffixed base (freeSuffix taken base (position + 1)) ∉ taken :=
  (freeSuffix_isLeast taken base position).1.2

/-- Suffixes depend on nothing but which numbers are taken. -/
theorem freeSuffix_congr
    (same : ∀ number, suffixed base number ∈ taken ↔ suffixed base number ∈ others)
    (position : Nat) : freeSuffix taken base position = freeSuffix others base position := by
  induction position with
  | zero => rfl
  | succ position ih =>
      have least := freeSuffix_isLeast taken base position
      simp only [same, ih] at least
      exact least.unique (freeSuffix_isLeast others base position)

end Suffix

namespace Hierarchy

variable {hierarchy : Hierarchy} {scope id first second : EntityId}

/-! ## Names in a scope -/

/-- The eligible methods and functions of a scope. -/
def callables (hierarchy : Hierarchy) (scope : EntityId) : List EntityId :=
  (hierarchy.children scope).filter fun id => hierarchy.isEligible id && hierarchy.isCallable id

theorem mem_callables :
    id ∈ hierarchy.callables scope ↔
      id ∈ hierarchy.children scope ∧ hierarchy.isEligible id = true ∧
        hierarchy.isCallable id = true := by
  rw [callables, List.mem_filter, Bool.and_eq_true]

theorem sharesSignature_eq_true :
    hierarchy.sharesSignature id first = true ↔
      hierarchy.kind first = hierarchy.kind id ∧ hierarchy.name first = hierarchy.name id := by
  rw [sharesSignature, Bool.and_eq_true, beq_iff_eq, beq_iff_eq]

/-- A callable is one of its own overloads. -/
theorem mem_overloads_of_mem_callables (member : id ∈ hierarchy.callables scope) :
    id ∈ hierarchy.overloads scope id := by
  obtain ⟨child, eligible, -⟩ := mem_callables.mp member
  exact mem_overloads.mpr ⟨child, eligible, rfl, rfl⟩

/-- A numbered name is taken by whatever callable of the scope is spelled like it: an overload is
not, since it has the name without the number. -/
theorem suffixed_mem_takenNames {number : Nat} :
    suffixed (snakeCase (hierarchy.name id)) number ∈ hierarchy.takenNames scope id ↔
      ∃ sibling ∈ hierarchy.callables scope,
        snakeCase (hierarchy.name sibling) = suffixed (snakeCase (hierarchy.name id)) number := by
  simp only [takenNames, List.mem_map, List.mem_filter, mem_callables, Bool.and_eq_true,
    Bool.not_eq_true']
  constructor
  · rintro ⟨sibling, ⟨child, ⟨eligible, callable⟩, -⟩, spelled⟩
    exact ⟨sibling, ⟨child, eligible, callable⟩, spelled⟩
  · rintro ⟨sibling, ⟨child, eligible, callable⟩, spelled⟩
    refine ⟨sibling, ⟨child, ⟨eligible, callable⟩, ?_⟩, spelled⟩
    by_contra overload
    have sameName := (sharesSignature_eq_true.mp (Bool.eq_true_of_not_eq_false overload)).2
    rw [sameName] at spelled
    exact suffixed_ne_self _ _ spelled.symm

/-- The name of a callable in a scope. -/
theorem callableName_eq (link : hierarchy.parent id = some scope) :
    hierarchy.callableName id =
      if (hierarchy.overload id).position = 0 then snakeCase (hierarchy.name id)
      else
        suffixed (snakeCase (hierarchy.name id))
          (freeSuffix (hierarchy.takenNames scope id) (snakeCase (hierarchy.name id))
            (hierarchy.overload id).position) := by
  rw [callableName, link]
  cases (hierarchy.overload id).position <;> rfl

/-- Callables that are spelled alike find the same numbers taken. -/
theorem freeSuffix_takenNames
    (alike : snakeCase (hierarchy.name first) = snakeCase (hierarchy.name second))
    (position : Nat) :
    freeSuffix (hierarchy.takenNames scope first) (snakeCase (hierarchy.name first)) position =
      freeSuffix (hierarchy.takenNames scope second) (snakeCase (hierarchy.name second))
        position := by
  rw [← alike]
  apply freeSuffix_congr
  intro number
  rw [suffixed_mem_takenNames, alike, suffixed_mem_takenNames]

/-- A numbered overload is not called like a callable of its scope is spelled. -/
theorem suffixed_ne_snakeCase (member : first ∈ hierarchy.callables scope)
    {position : Nat} :
    snakeCase (hierarchy.name first) ≠
      suffixed (snakeCase (hierarchy.name second))
        (freeSuffix (hierarchy.takenNames scope second) (snakeCase (hierarchy.name second))
          (position + 1)) :=
  fun spelled => suffixed_freeSuffix_not_mem _ _ position
    (suffixed_mem_takenNames.mpr ⟨first, member, spelled⟩)

/-- A Ruby name tells how a callable of the scope is spelled, and its place among its overloads. -/
theorem callableName_eq_iff (nested : hierarchy.Nested)
    (firstMember : first ∈ hierarchy.callables scope)
    (secondMember : second ∈ hierarchy.callables scope) :
    hierarchy.callableName first = hierarchy.callableName second ↔
      snakeCase (hierarchy.name first) = snakeCase (hierarchy.name second) ∧
        (hierarchy.overload first).position = (hierarchy.overload second).position := by
  have firstLink := (nested.childIff scope first).mp (mem_callables.mp firstMember).1
  have secondLink := (nested.childIff scope second).mp (mem_callables.mp secondMember).1
  rw [callableName_eq firstLink, callableName_eq secondLink]
  constructor
  · intro same
    cases firstPlace : (hierarchy.overload first).position <;>
      cases secondPlace : (hierarchy.overload second).position <;>
      simp only [firstPlace, secondPlace, if_true, Nat.succ_ne_zero, if_false] at same
    case zero.zero => exact ⟨same, rfl⟩
    case zero.succ => exact absurd same (suffixed_ne_snakeCase firstMember)
    case succ.zero => exact absurd same.symm (suffixed_ne_snakeCase secondMember)
    case succ.succ =>
      obtain ⟨alike, numbers⟩ := suffixed_inj.mp same
      rw [freeSuffix_takenNames alike] at numbers
      exact ⟨alike, (freeSuffix_strictMono _ _).injective numbers⟩
  · rintro ⟨alike, place⟩
    rw [place, freeSuffix_takenNames alike, alike]

end Hierarchy

end RubyBindings
