/-
Module: RubyBindings.Proofs.Registration.Overload
Purpose: Overloads of each other have one list of overloads in common, and each has a place of its
  own in that list.
Main exports: Hierarchy.mem_overloads, Hierarchy.overloads_congr, Hierarchy.overload_eq,
  Hierarchy.eq_of_position
-/
import RubyBindings.Registration.Overload
import Mathlib.Data.List.Basic

namespace RubyBindings.Hierarchy

variable {hierarchy : Hierarchy} {scope id other : EntityId}

theorem mem_overloads :
    other ∈ hierarchy.overloads scope id ↔
      other ∈ hierarchy.children scope ∧ hierarchy.isEligible other = true ∧
        hierarchy.kind other = hierarchy.kind id ∧ hierarchy.name other = hierarchy.name id := by
  rw [overloads, List.mem_filter, Bool.and_eq_true, sharesSignature, Bool.and_eq_true, beq_iff_eq,
    beq_iff_eq]

/-- Kind and name decide what the overloads of an entity are. -/
theorem overloads_congr (sameKind : hierarchy.kind id = hierarchy.kind other)
    (sameName : hierarchy.name id = hierarchy.name other) :
    hierarchy.overloads scope id = hierarchy.overloads scope other := by
  simp only [overloads, sharesSignature, sameKind, sameName]

/-- An eligible entity has a place among its overloads, and is counted as one of them. -/
theorem overload_eq (link : hierarchy.parent id = some scope)
    (member : id ∈ hierarchy.overloads scope id) :
    hierarchy.overload id =
      { position := (hierarchy.overloads scope id).idxOf id
        count := (hierarchy.overloads scope id).length } := by
  obtain ⟨place, found⟩ := Option.isSome_iff_exists.mp (List.isSome_idxOf?.mpr member)
  have position : (hierarchy.overloads scope id).idxOf id = place := by
    rw [List.idxOf_eq_getD_idxOf?, found, Option.getD_some]
  have counted : 1 ≤ (hierarchy.overloads scope id).length := List.length_pos_of_mem member
  rw [overload, link]
  dsimp only
  rw [found, position, Option.getD_some, Nat.max_eq_left counted]

/-- Two overloads of each other in one place are one entity. -/
theorem eq_of_position (link : hierarchy.parent id = some scope)
    (otherLink : hierarchy.parent other = some scope)
    (member : id ∈ hierarchy.overloads scope id)
    (otherMember : other ∈ hierarchy.overloads scope other)
    (sameKind : hierarchy.kind id = hierarchy.kind other)
    (sameName : hierarchy.name id = hierarchy.name other)
    (samePlace : (hierarchy.overload id).position = (hierarchy.overload other).position) :
    id = other := by
  rw [overload_eq link member, overload_eq otherLink otherMember,
    ← overloads_congr sameKind sameName] at samePlace
  exact (List.idxOf_inj member).mp samePlace

end RubyBindings.Hierarchy
