/-
Module: RubyBindings.Proofs.Hierarchy.RegistrationOrder
Purpose: The order in which wrapped entities are registered. Each stands there once, behind the
  scopes around it; of two entities in different branches of a scope, the branches decide, by their
  inheritance depths and then by the order of their declaration.
Main exports: Hierarchy.ComesBefore, Hierarchy.RegisteredBefore, Hierarchy.registered,
  Hierarchy.Nested.mem_registered, Hierarchy.Nested.nodup_registered,
  Hierarchy.Nested.idxOf_registered_lt
-/
import RubyBindings.Proofs.Hierarchy.Collection
import RubyBindings.Proofs.Hierarchy.Inheritance

namespace RubyBindings

/-- In a list without order conflicts, the order of two members is the order of their places. -/
theorem idxOf_lt_idxOf {before : Nat → Nat → Prop} {items : List Nat}
    (ordered : items.Pairwise before) (asymm : ∀ first second, before first second →
      ¬ before second first) {first second : Nat} (firstMember : first ∈ items)
    (secondMember : second ∈ items) :
    items.idxOf first < items.idxOf second ↔ before first second := by
  have inOrder : ∀ {one two : Nat}, one ∈ items → two ∈ items →
      items.idxOf one < items.idxOf two → before one two := by
    intro one two oneMember twoMember smaller
    have places := List.pairwise_iff_getElem.mp ordered _ _ (List.idxOf_lt_length_of_mem oneMember)
      (List.idxOf_lt_length_of_mem twoMember) smaller
    simpa using places
  constructor
  · exact inOrder firstMember secondMember
  · intro early
    rcases Nat.lt_trichotomy (items.idxOf first) (items.idxOf second) with smaller | same | larger
    · exact smaller
    · cases (List.idxOf_inj firstMember).mp same
      exact absurd early (asymm first first early)
    · exact absurd early (asymm second first (inOrder secondMember firstMember larger))

namespace Hierarchy

variable (hierarchy : Hierarchy)

/-- The order of two entities in one scope: by inheritance depth, and then by declaration. -/
def ComesBefore (first second : EntityId) : Prop :=
  hierarchy.sortKey first < hierarchy.sortKey second ∨
    hierarchy.sortKey first = hierarchy.sortKey second ∧ first < second

/-- The order of two wrapped entities in the unit: a scope stands before what is inside it, and
otherwise the order of the branches counts that hold the two, where these part. -/
def RegisteredBefore : EntityId → EntityId → Prop :=
  Forest.Precedes (fun scope id => hierarchy.parent id = some scope) hierarchy.ComesBefore

/-- The wrapped entities other than the root, in the order of their registration. -/
def registered : List EntityId :=
  (hierarchy.registrationOrder root).tail

variable {hierarchy}

theorem comesBefore_asymm (first second : Nat) (early : hierarchy.ComesBefore first second) :
    ¬ hierarchy.ComesBefore second first := by
  rw [ComesBefore] at early ⊢
  rcases early with smaller | ⟨same, smaller⟩
  · rintro (larger | ⟨same, -⟩) <;> omega
  · rintro (larger | ⟨-, larger⟩)
    · omega
    · exact Nat.lt_asymm smaller larger

/-- Among the entities of one scope, a superclass comes before the classes derived from it. -/
theorem comesBefore_of_superclass {base derived : EntityId} {depth : Nat}
    (link : hierarchy.superclass derived = some base)
    (baseClass : hierarchy.kind base = .classType)
    (derivedClass : hierarchy.kind derived = .classType)
    (found : hierarchy.inheritanceDepth? derived = some depth) :
    hierarchy.ComesBefore base derived := by
  obtain ⟨above, aboveFound, rfl⟩ := inheritanceDepth?_superclass link found
  left
  rw [sortKey, sortKey, if_pos baseClass, if_pos derivedClass, found, aboveFound]
  exact Nat.lt_succ_self above

theorem Descends.registrationOrder_eq (descends : hierarchy.Descends) (id : EntityId) :
    hierarchy.registrationOrder id =
      id :: (hierarchy.orderedChildren id).flatMap hierarchy.registrationOrder :=
  collect_eq descends _ id

namespace Nested

variable (nested : hierarchy.Nested)
include nested

theorem registeredBefore_asymm (first second : Nat)
    (early : hierarchy.RegisteredBefore first second) : ¬ hierarchy.RegisteredBefore second first :=
  nested.forest.precedes_asymm comesBefore_asymm early

theorem encloses_of_mem_registrationOrder (id : EntityId) :
    ∀ below ∈ hierarchy.registrationOrder id, hierarchy.Encloses id below := by
  induction id using nested.descends.induction_on_children with
  | step id ih =>
      rw [nested.descends.registrationOrder_eq, List.forall_mem_cons]
      refine ⟨Relation.ReflTransGen.refl, ?_⟩
      intro below listed
      obtain ⟨child, member, inside⟩ := List.mem_flatMap.mp listed
      have childMember := (mem_orderedChildren.mp member).1
      exact Relation.ReflTransGen.head ((nested.childIff id child).mp childMember)
        (ih child childMember below inside)

/-- Below a wrapped entity, exactly the wrapped ones are registered. -/
theorem mem_registrationOrder (id : EntityId) :
    hierarchy.isWrapped id = true → ∀ below, below ∈ hierarchy.registrationOrder id ↔
      hierarchy.Encloses id below ∧ hierarchy.isWrapped below = true := by
  induction id using nested.descends.induction_on_children with
  | step id ih =>
      intro wrapped below
      have childWrapped : ∀ child ∈ hierarchy.children id,
          hierarchy.isWrapped child = hierarchy.isEligible child := by
        intro child member
        rw [nested.isWrapped_child ((nested.childIff id child).mp member), wrapped, Bool.and_true]
      rw [nested.descends.registrationOrder_eq, List.mem_cons, List.mem_flatMap]
      constructor
      · rintro (rfl | ⟨child, member, inside⟩)
        · exact ⟨Relation.ReflTransGen.refl, wrapped⟩
        · obtain ⟨childMember, eligible⟩ := mem_orderedChildren.mp member
          obtain ⟨encloses, belowWrapped⟩ :=
            (ih child childMember (childWrapped child childMember ▸ eligible) below).mp inside
          have link := (nested.childIff id child).mp childMember
          exact ⟨Relation.ReflTransGen.head link encloses, belowWrapped⟩
      · rintro ⟨encloses, belowWrapped⟩
        rcases Relation.ReflTransGen.cases_head encloses with same | ⟨child, link, rest⟩
        · exact Or.inl same.symm
        · have childMember := (nested.childIff id child).mpr link
          have eligible := nested.isWrapped_of_encloses rest belowWrapped
          refine Or.inr ⟨child, mem_orderedChildren.mpr ⟨childMember, ?_⟩, ?_⟩
          · rw [← childWrapped child childMember, eligible]
          · exact (ih child childMember eligible below).mpr ⟨rest, belowWrapped⟩

/-- The children of a scope come in the order that their depths and ids give. -/
theorem pairwise_orderedChildren (id : EntityId) :
    (hierarchy.orderedChildren id).Pairwise hierarchy.ComesBefore :=
  pairwise_stablyOrdered_of_pairwise ((nested.childrenAscend id).filter _)

/-- What is registered is in order. -/
theorem pairwise_registrationOrder (id : EntityId) :
    (hierarchy.registrationOrder id).Pairwise hierarchy.RegisteredBefore := by
  induction id using nested.descends.induction_on_children with
  | step id ih =>
      have link : ∀ child ∈ hierarchy.orderedChildren id, hierarchy.parent child = some id :=
        fun child member => (nested.childIff id child).mp (mem_orderedChildren.mp member).1
      have inside := nested.encloses_of_mem_registrationOrder
      rw [nested.descends.registrationOrder_eq, List.pairwise_cons, List.pairwise_flatMap]
      refine ⟨?_, ?_, ?_⟩
      · intro below listed
        obtain ⟨child, member, belowMember⟩ := List.mem_flatMap.mp listed
        have encloses := inside child below belowMember
        have larger : id < below := Nat.lt_of_lt_of_le (nested.parent_lt (link child member))
          (nested.forest.le_of_reaches encloses)
        exact Or.inl ⟨Nat.ne_of_lt larger, Relation.ReflTransGen.head (link child member) encloses⟩
      · exact fun child member => ih child (mem_orderedChildren.mp member).1
      · apply (nested.pairwise_orderedChildren id).imp_of_mem
        intro left right leftMember rightMember early first firstMember second secondMember
        exact Or.inr ⟨id, left, right, link left leftMember, link right rightMember, early,
          inside left first firstMember, inside right second secondMember⟩

theorem nodup_registrationOrder (id : EntityId) : (hierarchy.registrationOrder id).Nodup := by
  apply (nested.pairwise_registrationOrder id).imp
  rintro first second early rfl
  exact nested.registeredBefore_asymm first first early early

theorem registrationOrder_root :
    hierarchy.registrationOrder root = root :: hierarchy.registered := by
  rw [registered, nested.descends.registrationOrder_eq]
  rfl

/-- The wrapped entities other than the root are registered. -/
theorem mem_registered {id : EntityId} :
    id ∈ hierarchy.registered ↔
      id < hierarchy.size ∧ id ≠ root ∧ hierarchy.isWrapped id = true := by
  have whole := nested.mem_registrationOrder root nested.isWrapped_root id
  have nodup := nested.nodup_registrationOrder root
  rw [nested.registrationOrder_root] at whole nodup
  rw [List.mem_cons] at whole
  have notRoot := (List.nodup_cons.mp nodup).1
  constructor
  · intro member
    obtain ⟨encloses, wrapped⟩ := whole.mp (Or.inr member)
    have different : id ≠ root := fun same => notRoot (same ▸ member)
    refine ⟨?_, different, wrapped⟩
    rcases Relation.ReflTransGen.cases_tail encloses with same | ⟨scope, -, link⟩
    · exact absurd same different
    · exact lt_size_of_parent link
  · rintro ⟨existing, different, wrapped⟩
    exact (whole.mpr ⟨nested.encloses_root existing, wrapped⟩).resolve_left different

/-- Nothing is registered twice. -/
theorem nodup_registered : hierarchy.registered.Nodup := by
  have nodup := nested.nodup_registrationOrder root
  rw [nested.registrationOrder_root] at nodup
  exact (List.nodup_cons.mp nodup).2

/-- The places of two registrations are in the order of the branches. -/
theorem idxOf_registered_lt {first second : EntityId} (firstMember : first ∈ hierarchy.registered)
    (secondMember : second ∈ hierarchy.registered) :
    hierarchy.registered.idxOf first < hierarchy.registered.idxOf second ↔
      hierarchy.RegisteredBefore first second := by
  have ordered := nested.pairwise_registrationOrder root
  rw [nested.registrationOrder_root, List.pairwise_cons] at ordered
  exact idxOf_lt_idxOf ordered.2 nested.registeredBefore_asymm firstMember secondMember

/-- What the root collects as registrations are the texts of what is registered. -/
theorem collect_ownRegistrations :
    hierarchy.collect hierarchy.ownRegistrations root =
      hierarchy.registered.map fun id => (hierarchy.kind id).nodeKind.text hierarchy id := by
  rw [collect_eq_flatMap, nested.registrationOrder_root, List.flatMap_cons,
    ← List.flatMap_pure_eq_map]
  apply List.flatMap_congr
  intro id member
  rw [ownRegistrations, if_neg (nested.mem_registered.mp member).2.1]
  rfl

end Nested

end Hierarchy

end RubyBindings
