/-
Module: RubyBindings.Proofs.Hierarchy.ChainWalk
Purpose: The walk that measures a superclass chain, as a relation with one rule for each thing that a
  step can meet and no bound on the number of steps. Every walk comes to an end, since it never goes
  on to an entity that it has passed; what it ends with is the inheritance depth.
Main exports: Hierarchy.ChainWalk, Hierarchy.ChainWalk.unique, Hierarchy.chainWalk_iff,
  Hierarchy.inheritanceDepth?_eq_map
-/
import RubyBindings.Proofs.Hierarchy.SuperclassChain

namespace RubyBindings.Hierarchy

/-- The walk along a superclass chain that keeps in mind what it has passed. It ends with the number
of links that it has followed, or with nothing as soon as it would come to an entity again. -/
inductive ChainWalk (hierarchy : Hierarchy) : List EntityId → EntityId → Option Nat → Prop
  | ends {passed : List EntityId} {current : EntityId}
      (last : hierarchy.superclass current = none) : ChainWalk hierarchy passed current (some 0)
  | returns {passed : List EntityId} {current superclass : EntityId}
      (link : hierarchy.superclass current = some superclass) (again : superclass ∈ passed) :
      ChainWalk hierarchy passed current none
  | goesOn {passed : List EntityId} {current superclass : EntityId} {length : Option Nat}
      (link : hierarchy.superclass current = some superclass) (new : superclass ∉ passed)
      (rest : ChainWalk hierarchy (superclass :: passed) superclass length) :
      ChainWalk hierarchy passed current (length.map (· + 1))

variable {hierarchy : Hierarchy} {id : EntityId}

/-- A walk ends in one way only. -/
theorem ChainWalk.unique {passed : List EntityId} {current : EntityId} {first second : Option Nat}
    (one : hierarchy.ChainWalk passed current first)
    (two : hierarchy.ChainWalk passed current second) : first = second := by
  induction one generalizing second with
  | ends last =>
      cases two with
      | ends _ => rfl
      | returns link _ | goesOn link _ _ =>
          rw [last] at link
          cases link
  | returns link again =>
      cases two with
      | ends last =>
          rw [last] at link
          cases link
      | returns _ _ => rfl
      | goesOn otherLink new _ =>
          cases link.symm.trans otherLink
          exact absurd again new
  | goesOn link new _ ih =>
      cases two with
      | ends last =>
          rw [last] at link
          cases link
      | returns otherLink again =>
          cases link.symm.trans otherLink
          exact absurd again new
      | goesOn otherLink _ rest =>
          cases link.symm.trans otherLink
          rw [ih rest]

/-- A bound that the entities not yet passed leave room for is never reached. Every entity passed on
the way has a superclass, and so there are no more of them than entities. -/
theorem chainWalk_chainLength? (links : Nat) : ∀ {passed : List EntityId} {current : EntityId},
    (current :: passed).Nodup → (∀ earlier ∈ passed, earlier < hierarchy.size) →
      hierarchy.size < links + passed.length →
        hierarchy.ChainWalk (current :: passed) current
          (hierarchy.chainLength? links (current :: passed) current) := by
  induction links with
  | zero =>
      intro passed current distinct inside room
      have inRange : passed ⊆ List.range hierarchy.size := fun earlier member =>
        List.mem_range.mpr (inside earlier member)
      have few := (List.subperm_of_subset (List.nodup_cons.mp distinct).2 inRange).length_le
      rw [List.length_range] at few
      omega
  | succ links ih =>
      intro passed current distinct inside room
      rw [chainLength?]
      cases link : hierarchy.superclass current with
      | none => exact .ends link
      | some superclass =>
          dsimp only
          split
          · rename_i again
            exact .returns link again
          · rename_i new
            refine .goesOn link new (ih (List.nodup_cons.mpr ⟨new, distinct⟩) ?_ ?_)
            · exact List.forall_mem_cons.mpr ⟨lt_size_of_superclass link, inside⟩
            · rw [List.length_cons]
              omega

/-- The walk from an entity comes to an end, and that is its inheritance depth. -/
theorem chainWalk_iff {length : Option Nat} :
    hierarchy.ChainWalk [id] id length ↔ length = hierarchy.inheritanceDepth? id := by
  have walk : hierarchy.ChainWalk [id] id (hierarchy.inheritanceDepth? id) :=
    chainWalk_chainLength? (hierarchy.size + 1) (List.nodup_singleton id)
      (fun _ member => absurd member List.not_mem_nil) (Nat.lt_succ_self _)
  constructor
  · exact fun other => other.unique walk
  · rintro rfl
    exact walk

/-- An entity has a depth exactly if its superclass has one, and then one more. -/
theorem inheritanceDepth?_eq_map {superclass : EntityId}
    (link : hierarchy.superclass id = some superclass) :
    hierarchy.inheritanceDepth? id = (hierarchy.inheritanceDepth? superclass).map (· + 1) := by
  ext depth
  simp only [Option.map_eq_some_iff, inheritanceDepth?_eq_some_iff]
  constructor
  · intro ends
    cases depth with
    | zero =>
        rw [endsAfter_zero.mp ends] at link
        cases link
    | succ depth =>
        obtain ⟨other, otherLink, above⟩ := endsAfter_succ.mp ends
        cases link.symm.trans otherLink
        exact ⟨depth, above, rfl⟩
  · rintro ⟨above, ends, rfl⟩
    exact endsAfter_succ.mpr ⟨superclass, link, ends⟩

end RubyBindings.Hierarchy
