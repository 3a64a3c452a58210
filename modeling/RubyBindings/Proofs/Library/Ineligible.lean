/-
Module: RubyBindings.Proofs.Library.Ineligible
Purpose: What an ineligible declaration does to a library. With all that is declared below it
  afterwards, it leaves the library looking to generation as it was.
Main exports: Library.Declares.looksLike, Library.DeclaredBelow, Library.DeclaredBelow.looksLike
-/
import RubyBindings.Proofs.Hierarchy.Likeness
import RubyBindings.Proofs.Library.Flattening

namespace RubyBindings.Library

variable {library middle after : Library} {scope id : EntityId} {declaration added : Declaration}

/-- A declaration is as eligible as it was asked to be. -/
theorem Declares.isEligible_eq (declares : Declares library scope declaration added after) :
    added.isEligible = declaration.isEligible := by
  rw [named_eq_ok declares.named]
  rfl

/-- A library goes on looking like a hierarchy if what is declared in a scope of the hierarchy is
not eligible. Behind the entities of the hierarchy everything may be declared. -/
theorem Declares.looksLike {narrow : Hierarchy} (like : library.hierarchy.LooksLike narrow)
    (wellFormed : library.WellFormed) (declares : Declares library scope declaration added after)
    (hidden : scope < narrow.size → declaration.isEligible = false) :
    after.hierarchy.LooksLike narrow := by
  have existing : scope < library.hierarchy.size := declares.existing
  have nested := (wellFormed.declares declares).nested
  have notNew : ∀ id < narrow.size, id ≠ library.hierarchy.size :=
    fun id inside => Nat.ne_of_lt (Nat.lt_of_lt_of_le inside like.grows)
  obtain rfl := declares.after_eq
  refine ⟨like.nested, nested, like.closed, like.headers, ?_, ?_, ?_, ?_, ?_⟩
  · rw [size_append]
    exact Nat.le_succ_of_le like.grows
  · intro id inside
    rw [declaration_append library existing, if_neg (notNew id inside), like.declaration id inside]
  · intro id inside
    rw [parent_append library existing, if_neg (notNew id inside), like.parent id inside]
  · intro id inside
    rw [qualifiedName_append library existing, if_neg (notNew id inside),
      like.qualifiedName id inside]
  · intro id inside
    have eligible : ∀ child, (library.append scope added
        (library.qualify scope added.name)).hierarchy.isEligible child =
          if child = library.hierarchy.size then added.isEligible
          else library.hierarchy.isEligible child :=
      library.read_append existing _ _ (fun entity => entity.declaration.isEligible) fun _ _ => rfl
    have old : ∀ child ∈ library.hierarchy.children id, (library.append scope added
        (library.qualify scope added.name)).hierarchy.isEligible child =
          library.hierarchy.isEligible child := by
      intro child member
      have small := (wellFormed.nested.descends.lt_of_mem_children member).2
      rw [eligible, if_neg (Nat.ne_of_lt small)]
    rw [children_append library existing, ← like.eligible id inside]
    split
    · rename_i self
      subst self
      rw [List.filter_append, List.filter_congr old, List.filter_singleton, eligible, if_pos rfl,
        declares.isEligible_eq, hidden inside]
      simp
    · rw [List.filter_congr old]

/-- Declarations have been made one after the other, each of them somewhere below `top`. -/
inductive DeclaredBelow (top : EntityId) (library : Library) : Library → Prop
  | none : DeclaredBelow top library library
  | declare {middle after : Library} {scope id : EntityId} {declaration : Declaration}
      (before : DeclaredBelow top library middle) (below : middle.hierarchy.Encloses top scope)
      (declared : middle.declare scope declaration = .ok (id, after)) :
      DeclaredBelow top library after

theorem DeclaredBelow.reachable (reachable : library.Reachable)
    (below : DeclaredBelow id library after) : after.Reachable := by
  induction below with
  | none => exact reachable
  | declare before inside declared ih => exact .step ih (.declare declared)

/-- An ineligible declaration hides itself and all that is declared below it. -/
theorem DeclaredBelow.looksLike (reachable : library.Reachable)
    (declared : library.declare scope declaration = .ok (id, middle))
    (ineligible : declaration.isEligible = false) (below : DeclaredBelow id middle after) :
    after.hierarchy.LooksLike library.hierarchy := by
  obtain ⟨rfl, added, declares⟩ := declares_of_declare declared
  have wellFormed := reachable.wellFormed
  have like : library.hierarchy.LooksLike library.hierarchy :=
    .refl wellFormed.nested fun id superclass link => (wellFormed.superclasses id superclass link).1
  have middleReachable : middle.Reachable := .step reachable (.declare declared)
  induction below with
  | none => exact declares.looksLike like wellFormed fun _ => ineligible
  | declare before inside more ih =>
      obtain ⟨-, other, moreDeclares⟩ := declares_of_declare more
      have stillWellFormed := (before.reachable middleReachable).wellFormed
      -- What stands below the new entity stands behind all the old ones.
      refine moreDeclares.looksLike ih stillWellFormed fun small => absurd small ?_
      exact Nat.not_lt.mpr (stillWellFormed.nested.forest.le_of_reaches inside)

end RubyBindings.Library
