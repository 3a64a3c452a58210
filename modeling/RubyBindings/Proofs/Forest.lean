/-
Module: RubyBindings.Proofs.Forest
Purpose: Forests of numbered things, in which each has one parent at most and a smaller number than
  its children. Scopes and binding trees are such forests; what stands above one thing stands in one
  line, and two branches of one parent never meet again.
Main exports: Forest, Forest.eq_of_common_descendant, Forest.Precedes, Forest.precedes_asymm
-/
import Mathlib.Logic.Relation

namespace RubyBindings

/-- The links from parents to children make a forest: they lead from smaller to larger numbers, and
nothing has two parents. -/
structure Forest (link : Nat → Nat → Prop) : Prop where
  ascends : ∀ parent child, link parent child → parent < child
  unique : ∀ first second child, link first child → link second child → first = second

namespace Forest

open Relation (ReflTransGen)

variable {link : Nat → Nat → Prop} (forest : Forest link) {above below first second parent : Nat}
include forest

theorem le_of_reaches (path : ReflTransGen link above below) : above ≤ below := by
  induction path with
  | refl => exact Nat.le_refl above
  | tail _ step ih => exact Nat.le_trans ih (Nat.le_of_lt (forest.ascends _ _ step))

/-- What stands above one thing stands in one line. -/
theorem reaches_or_reaches (one : ReflTransGen link first below)
    (two : ReflTransGen link second below) :
    ReflTransGen link first second ∨ ReflTransGen link second first := by
  have upwards : Relator.RightUnique (Function.swap link) := fun child first second =>
    forest.unique first second child
  rcases ReflTransGen.total_of_right_unique upwards (Relation.reflTransGen_swap.mpr one)
    (Relation.reflTransGen_swap.mpr two) with path | path
  · exact Or.inr (Relation.reflTransGen_swap.mp path)
  · exact Or.inl (Relation.reflTransGen_swap.mp path)

/-- A child does not stand below another child of its parent. -/
theorem eq_of_siblings_of_reaches (one : link parent first) (two : link parent second)
    (path : ReflTransGen link first second) : first = second := by
  rcases ReflTransGen.cases_tail path with same | ⟨middle, inside, step⟩
  · exact same.symm
  · cases forest.unique _ _ _ two step
    exact absurd (forest.le_of_reaches inside) (Nat.not_le_of_lt (forest.ascends _ _ one))

/-- Two children of one parent have nothing below them in common. -/
theorem eq_of_common_descendant (one : link parent first) (two : link parent second)
    (onePath : ReflTransGen link first below) (twoPath : ReflTransGen link second below) :
    first = second := by
  rcases forest.reaches_or_reaches onePath twoPath with path | path
  · exact forest.eq_of_siblings_of_reaches one two path
  · exact (forest.eq_of_siblings_of_reaches two one path).symm

omit forest

/-- The order in which a forest is gone through, parents before children: one thing comes before
another one that stands below it, and otherwise the branches decide in which the two stand, at the
place where these part. -/
def Precedes (link before : Nat → Nat → Prop) (first second : Nat) : Prop :=
  (first ≠ second ∧ ReflTransGen link first second) ∨
    ∃ parent left right, link parent left ∧ link parent right ∧ before left right ∧
      ReflTransGen link left first ∧ ReflTransGen link right second

variable {before : Nat → Nat → Prop}

include forest

/-- Two branches of one parent meet in nothing, so where one is before the other, neither of them
leads to what stands in the other. -/
theorem not_before_of_common_descendant (irrefl : ∀ id, ¬ before id id)
    (one : link parent first) (two : link parent second) (onePath : ReflTransGen link first below)
    (twoPath : ReflTransGen link second below) : ¬ before first second := by
  cases forest.eq_of_common_descendant one two onePath twoPath
  exact irrefl first

/-- Two things that branches put in order are in no other order. -/
theorem precedes_asymm (asymm : ∀ left right, before left right → ¬ before right left)
    (order : Precedes link before first second) : ¬ Precedes link before second first := by
  have irrefl : ∀ id, ¬ before id id := fun id self => asymm id id self self
  intro reverse
  rcases order with ⟨different, path⟩ | ⟨parent, left, right, toLeft, toRight, early, leftPath,
    rightPath⟩
  · rcases reverse with ⟨-, back⟩ | ⟨other, left, right, toLeft, toRight, early, leftPath,
      rightPath⟩
    · exact different (Nat.le_antisymm (forest.le_of_reaches path) (forest.le_of_reaches back))
    · exact forest.not_before_of_common_descendant irrefl toLeft toRight leftPath
        (rightPath.trans path) early
  · rcases reverse with ⟨-, back⟩ | ⟨other, newLeft, newRight, toNewLeft, toNewRight, late,
      newLeftPath, newRightPath⟩
    · exact forest.not_before_of_common_descendant irrefl toLeft toRight leftPath
        (rightPath.trans back) early
    · -- `left` and `newRight` both lead to `first`. If they are one, so are the other two branches,
      -- in the opposite order; if one is above the other, its sibling meets it again in `second`.
      have differ : left ≠ newRight := by
        rintro rfl
        cases forest.unique _ _ _ toLeft toNewRight
        cases forest.eq_of_common_descendant toRight toNewLeft rightPath newLeftPath
        exact asymm left right early late
      rcases forest.reaches_or_reaches leftPath newRightPath with path | path
      · rcases ReflTransGen.cases_tail path with same | ⟨middle, inside, step⟩
        · exact differ same.symm
        · cases forest.unique _ _ _ toNewRight step
          exact forest.not_before_of_common_descendant irrefl toLeft toRight
            (inside.trans (.head toNewLeft newLeftPath)) rightPath early
      · rcases ReflTransGen.cases_tail path with same | ⟨middle, inside, step⟩
        · exact differ same
        · cases forest.unique _ _ _ toLeft step
          exact forest.not_before_of_common_descendant irrefl toNewLeft toNewRight newLeftPath
            (inside.trans (.head toRight rightPath)) late

end Forest

end RubyBindings
