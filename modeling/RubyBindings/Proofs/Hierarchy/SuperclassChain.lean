/-
Module: RubyBindings.Proofs.Hierarchy.SuperclassChain
Purpose: Superclass chains as walks of any length, through wrapped and unwrapped entities alike. A
  chain goes on for ever exactly if it comes to one entity twice. An entity has an inheritance depth
  exactly if its chain ends, and it is the length of the chain; the bound on the links that are
  followed and the list of passed entities decide nothing.
Main exports: Hierarchy.ancestor?, Hierarchy.NeverEnds, Hierarchy.EndsAfter,
  Hierarchy.ChainRepeats, Hierarchy.neverEnds_iff_chainRepeats,
  Hierarchy.inheritanceDepth?_eq_some_iff, Hierarchy.inheritanceDepth?_eq_none_iff,
  Hierarchy.not_neverEnds_of_descending
-/
import RubyBindings.Proofs.Hierarchy.Likeness

namespace RubyBindings.Hierarchy

variable (hierarchy : Hierarchy)

/-- The entity that a number of superclass links lead to, as long as there are so many. -/
def ancestor? : Nat → EntityId → Option EntityId
  | 0, id => some id
  | links + 1, id => (hierarchy.superclass id).bind (ancestor? links)

/-- However many links one follows, there is one more. -/
def NeverEnds (id : EntityId) : Prop :=
  ∀ links, (hierarchy.ancestor? links id).isSome

/-- After so many links, one is at an entity without a superclass. -/
def EndsAfter (links : Nat) (id : EntityId) : Prop :=
  ∃ last, hierarchy.ancestor? links id = some last ∧ hierarchy.superclass last = none

/-- A chain comes to one entity twice. -/
def ChainRepeats (id : EntityId) : Prop :=
  ∃ first second, first < second ∧ ∃ passed, hierarchy.ancestor? first id = some passed ∧
    hierarchy.ancestor? second id = some passed

variable {hierarchy} {id : EntityId}

/-! ## Chains link by link -/

/-- Only an entity of the hierarchy has a superclass. -/
theorem lt_size_of_superclass {superclass : EntityId}
    (link : hierarchy.superclass id = some superclass) : id < hierarchy.size := by
  by_contra missing
  rw [Hierarchy.superclass, declaration, entity_of_size_le (Nat.le_of_not_lt missing)] at link
  cases link

/-- One link more can be followed at the end of a chain as well as in front. -/
theorem ancestor?_succ (links : Nat) : ∀ id : EntityId,
    hierarchy.ancestor? (links + 1) id = (hierarchy.ancestor? links id).bind hierarchy.superclass := by
  induction links with
  | zero => exact fun id => Option.bind_fun_some _
  | succ links ih =>
      intro id
      rw [ancestor?]
      cases link : hierarchy.superclass id with
      | none => rw [ancestor?, link]; rfl
      | some superclass => rw [Option.bind_some, ih, ancestor?, link, Option.bind_some]

/-- To follow a number of links is to follow some of them and then the others. -/
theorem ancestor?_add (first second : Nat) (id : EntityId) :
    hierarchy.ancestor? (first + second) id =
      (hierarchy.ancestor? first id).bind (hierarchy.ancestor? second) := by
  induction second with
  | zero => exact (Option.bind_fun_some _).symm
  | succ second ih =>
      rw [← Nat.add_assoc, ancestor?_succ, ih, Option.bind_assoc]
      exact congrArg _ (funext fun above => (ancestor?_succ second above).symm)

theorem endsAfter_zero : hierarchy.EndsAfter 0 id ↔ hierarchy.superclass id = none := by
  constructor
  · rintro ⟨last, same, ends⟩
    cases same
    exact ends
  · exact fun ends => ⟨id, rfl, ends⟩

theorem endsAfter_succ {links : Nat} :
    hierarchy.EndsAfter (links + 1) id ↔
      ∃ superclass, hierarchy.superclass id = some superclass ∧
        hierarchy.EndsAfter links superclass := by
  simp only [EndsAfter, ancestor?, Option.bind_eq_some_iff]
  constructor
  · rintro ⟨last, ⟨superclass, link, found⟩, ends⟩
    exact ⟨superclass, link, last, found, ends⟩
  · rintro ⟨superclass, link, last, found, ends⟩
    exact ⟨last, ⟨superclass, link, found⟩, ends⟩

/-- A chain ends in one place. -/
theorem EndsAfter.unique (first : Nat) : ∀ {second : Nat} {id : EntityId},
    hierarchy.EndsAfter first id → hierarchy.EndsAfter second id → first = second := by
  induction first with
  | zero =>
      intro second id one two
      cases second with
      | zero => rfl
      | succ second =>
          obtain ⟨superclass, link, -⟩ := endsAfter_succ.mp two
          rw [endsAfter_zero.mp one] at link
          cases link
  | succ first ih =>
      intro second id one two
      obtain ⟨superclass, link, rest⟩ := endsAfter_succ.mp one
      cases second with
      | zero =>
          rw [endsAfter_zero.mp two] at link
          cases link
      | succ second =>
          obtain ⟨other, otherLink, otherRest⟩ := endsAfter_succ.mp two
          cases link.symm.trans otherLink
          rw [ih rest otherRest]

/-- A chain either ends or never does. -/
theorem neverEnds_iff : hierarchy.NeverEnds id ↔ ∀ links, ¬ hierarchy.EndsAfter links id := by
  constructor
  · rintro never links ⟨last, found, ends⟩
    have next := never (links + 1)
    rw [ancestor?_succ, found, Option.bind_some, ends] at next
    cases next
  · intro endless links
    induction links with
    | zero => rfl
    | succ links ih =>
        obtain ⟨last, found⟩ := Option.isSome_iff_exists.mp ih
        rw [ancestor?_succ, found, Option.bind_some]
        by_contra missing
        exact endless links ⟨last, found, Option.not_isSome_iff_eq_none.mp missing⟩

/-- What is passed on the way to the end of a chain is closer to the end by the links up to it. -/
theorem EndsAfter.ancestor {length links : Nat} {above : EntityId}
    (ends : hierarchy.EndsAfter length id) (found : hierarchy.ancestor? links id = some above) :
    ∃ rest, length = links + rest ∧ hierarchy.EndsAfter rest above := by
  induction links generalizing length id with
  | zero =>
      cases found
      exact ⟨length, (Nat.zero_add length).symm, ends⟩
  | succ links ih =>
      obtain ⟨superclass, link, found⟩ := Option.bind_eq_some_iff.mp found
      cases length with
      | zero =>
          rw [endsAfter_zero.mp ends] at link
          cases link
      | succ length =>
          obtain ⟨other, otherLink, rest⟩ := endsAfter_succ.mp ends
          cases link.symm.trans otherLink
          obtain ⟨more, rfl, above⟩ := ih rest found
          exact ⟨more, by omega, above⟩

/-! ## Repetitions -/

/-- A chain with more links than there are entities comes to one of them twice. -/
theorem chainRepeats_of_long (long : (hierarchy.ancestor? (hierarchy.size + 1) id).isSome) :
    hierarchy.ChainRepeats id := by
  by_contra apart
  have passes : ∀ links ≤ hierarchy.size, ∃ passed, hierarchy.ancestor? links id = some passed ∧
      passed < hierarchy.size := by
    intro links few
    obtain ⟨rest, all⟩ : ∃ rest, hierarchy.size + 1 = links + (rest + 1) :=
      ⟨hierarchy.size - links, by omega⟩
    obtain ⟨last, found⟩ := Option.isSome_iff_exists.mp long
    rw [all, ancestor?_add] at found
    obtain ⟨passed, here, more⟩ := Option.bind_eq_some_iff.mp found
    obtain ⟨superclass, link, -⟩ := Option.bind_eq_some_iff.mp more
    exact ⟨passed, here, lt_size_of_superclass link⟩
  choose! passed passes inside using passes
  have unrepeated : ∀ first ≤ hierarchy.size, ∀ second ≤ hierarchy.size,
      passed first = passed second → ¬ first < second := by
    intro first firstFew second secondFew same before
    exact apart ⟨first, second, before, passed first, passes first firstFew,
      same ▸ passes second secondFew⟩
  have distinct : ((List.range (hierarchy.size + 1)).map passed).Nodup := by
    apply List.nodup_range.map_on
    intro first firstMember second secondMember same
    have firstFew := Nat.le_of_lt_succ (List.mem_range.mp firstMember)
    have secondFew := Nat.le_of_lt_succ (List.mem_range.mp secondMember)
    have notBefore := unrepeated first firstFew second secondFew same
    have notBehind := unrepeated second secondFew first firstFew same.symm
    omega
  have inRange : (List.range (hierarchy.size + 1)).map passed ⊆ List.range hierarchy.size := by
    intro id member
    obtain ⟨links, few, rfl⟩ := List.mem_map.mp member
    exact List.mem_range.mpr (inside links (Nat.le_of_lt_succ (List.mem_range.mp few)))
  have few := (List.subperm_of_subset distinct inRange).length_le
  rw [List.length_map, List.length_range, List.length_range] at few
  omega

/-- What comes again comes again and again. -/
theorem neverEnds_of_chainRepeats (repeats : hierarchy.ChainRepeats id) :
    hierarchy.NeverEnds id := by
  rw [neverEnds_iff]
  intro length ends
  obtain ⟨first, second, before, passed, one, two⟩ := repeats
  obtain ⟨firstRest, same, firstEnds⟩ := ends.ancestor one
  obtain ⟨secondRest, otherSame, secondEnds⟩ := ends.ancestor two
  have equal := EndsAfter.unique firstRest firstEnds secondEnds
  omega

/-- There are only so many entities, so a chain goes on for ever exactly if it repeats one. -/
theorem neverEnds_iff_chainRepeats : hierarchy.NeverEnds id ↔ hierarchy.ChainRepeats id :=
  ⟨fun never => chainRepeats_of_long (never _), neverEnds_of_chainRepeats⟩

/-- A chain that ends has no more links than there are entities. -/
theorem EndsAfter.le_size {length : Nat} (ends : hierarchy.EndsAfter length id) :
    length ≤ hierarchy.size := by
  by_contra long
  obtain ⟨more, all⟩ : ∃ more, length = hierarchy.size + 1 + more :=
    ⟨length - (hierarchy.size + 1), by omega⟩
  have ⟨last, found, _⟩ := ends
  rw [all, ancestor?_add] at found
  obtain ⟨passed, here, -⟩ := Option.bind_eq_some_iff.mp found
  have never := neverEnds_of_chainRepeats (chainRepeats_of_long (Option.isSome_of_mem here))
  exact neverEnds_iff.mp never length ends

/-! ## Inheritance depths -/

/-- A chain that has a length ends there. -/
theorem endsAfter_of_chainLength? (links : Nat) : ∀ {seen : List EntityId} {id : EntityId}
    {length : Nat}, hierarchy.chainLength? links seen id = some length →
      hierarchy.EndsAfter length id := by
  induction links with
  | zero => exact fun found => nomatch found
  | succ links ih =>
      intro seen id length found
      rw [chainLength?] at found
      cases link : hierarchy.superclass id with
      | none =>
          rw [link] at found
          cases found
          exact endsAfter_zero.mpr link
      | some superclass =>
          rw [link] at found
          dsimp only at found
          split at found
          · cases found
          · obtain ⟨rest, above, rfl⟩ := Option.map_eq_some_iff.mp found
            exact endsAfter_succ.mpr ⟨superclass, link, ih above⟩

/-- A chain that ends has its length, if enough links may be followed. The entities passed before are
no closer to the end, so the chain comes to none of them again. -/
theorem chainLength?_of_endsAfter (length : Nat) : ∀ {links : Nat} {seen : List EntityId}
    {id : EntityId}, length < links → hierarchy.EndsAfter length id →
      (∀ passed ∈ seen, ∃ rest, length ≤ rest ∧ hierarchy.EndsAfter rest passed) →
        hierarchy.chainLength? links seen id = some length := by
  induction length with
  | zero =>
      intro links seen id many ends _
      obtain ⟨links, rfl⟩ : ∃ rest, links = rest + 1 := ⟨links - 1, by omega⟩
      rw [chainLength?, endsAfter_zero.mp ends]
  | succ length ih =>
      intro links seen id many ends passedBefore
      obtain ⟨links, rfl⟩ : ∃ rest, links = rest + 1 := ⟨links - 1, by omega⟩
      obtain ⟨superclass, link, above⟩ := endsAfter_succ.mp ends
      have new : superclass ∉ seen := by
        intro passed
        obtain ⟨rest, longer, same⟩ := passedBefore superclass passed
        have equal := EndsAfter.unique rest same above
        omega
      rw [chainLength?, link]
      dsimp only
      rw [if_neg new, ih (by omega) above, Option.map_some]
      intro passed member
      rcases List.mem_cons.mp member with rfl | before
      · exact ⟨length, Nat.le_refl length, above⟩
      · obtain ⟨rest, longer, passedEnds⟩ := passedBefore passed before
        exact ⟨rest, by omega, passedEnds⟩

/-- The depth of an entity is the length of its chain. -/
theorem inheritanceDepth?_eq_some_iff {depth : Nat} :
    hierarchy.inheritanceDepth? id = some depth ↔ hierarchy.EndsAfter depth id := by
  constructor
  · exact endsAfter_of_chainLength? (hierarchy.size + 1)
  · intro ends
    apply chainLength?_of_endsAfter depth (Nat.lt_succ_of_le ends.le_size) ends
    intro passed member
    cases List.mem_singleton.mp member
    exact ⟨depth, Nat.le_refl depth, ends⟩

/-- An entity has no depth exactly if its chain never ends. -/
theorem inheritanceDepth?_eq_none_iff :
    hierarchy.inheritanceDepth? id = none ↔ hierarchy.NeverEnds id := by
  rw [neverEnds_iff, Option.eq_none_iff_forall_ne_some]
  exact forall_congr' fun depth => not_congr inheritanceDepth?_eq_some_iff

/-- Where superclass links lead to smaller ids, but not below some id, a chain ends before it can get
there. -/
theorem exists_endsAfter_of_descending {floor : Nat}
    (descending : ∀ id superclass : Nat, hierarchy.superclass id = some superclass →
      floor ≤ superclass ∧ superclass < id) (id : Nat) (above : floor ≤ id) :
    ∃ links, floor + links ≤ id ∧ hierarchy.EndsAfter links id := by
  induction id using Nat.strongRecOn with
  | ind id ih =>
      cases link : hierarchy.superclass id with
      | none => exact ⟨0, above, endsAfter_zero.mpr link⟩
      | some superclass =>
          obtain ⟨high, smaller⟩ := descending id superclass link
          obtain ⟨links, few, ends⟩ := ih superclass smaller high
          exact ⟨links + 1, Nat.lt_of_le_of_lt few smaller,
            endsAfter_succ.mpr ⟨superclass, link, ends⟩⟩

/-- Where every superclass has a smaller id than what is derived from it, all chains end. -/
theorem not_neverEnds_of_descending
    (descending : ∀ id superclass, hierarchy.superclass id = some superclass → superclass < id)
    (id : EntityId) : ¬ hierarchy.NeverEnds id := by
  obtain ⟨links, -, ends⟩ := exists_endsAfter_of_descending
    (fun id superclass link => ⟨Nat.zero_le superclass, descending id superclass link⟩) id
    (Nat.zero_le id)
  exact fun never => neverEnds_iff.mp never links ends

end RubyBindings.Hierarchy
