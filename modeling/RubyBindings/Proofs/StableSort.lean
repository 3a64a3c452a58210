/-
Module: RubyBindings.Proofs.StableSort
Purpose: Sorting by rank is the stable sort by that rank. A list in ascending order of ranks is
  known once the items of each single rank are known in order, and sorting keeps those.
Main exports: stablyOrdered, pairwise_stablyOrdered, pairwise_stablyOrdered_of_pairwise,
  filter_stablyOrdered, eq_of_filter_rank_eq, stableSort_eq_stablyOrdered
-/
import RubyBindings.BindingTree.Order

namespace RubyBindings

variable {α β : Type}

/-- A list in ascending order of a key, items with the same key in the order they had. -/
def stablyOrdered (key : α → Nat) (items : List α) : List α :=
  items.mergeSort fun first second => decide (key first ≤ key second)

theorem stablyOrdered_perm (key : α → Nat) (items : List α) :
    (stablyOrdered key items).Perm items :=
  List.mergeSort_perm items _

@[simp] theorem mem_stablyOrdered {key : α → Nat} {items : List α} {item : α} :
    item ∈ stablyOrdered key items ↔ item ∈ items :=
  (stablyOrdered_perm key items).mem_iff

private theorem key_trans (key : α → Nat) (a b c : α) (one : decide (key a ≤ key b) = true)
    (two : decide (key b ≤ key c) = true) : decide (key a ≤ key c) = true := by
  simp only [decide_eq_true_eq] at one two ⊢
  exact Nat.le_trans one two

private theorem key_total (key : α → Nat) (a b : α) :
    (decide (key a ≤ key b) || decide (key b ≤ key a)) = true := by
  simp only [Bool.or_eq_true, decide_eq_true_eq]
  exact Nat.le_total (key a) (key b)

theorem pairwise_stablyOrdered (key : α → Nat) (items : List α) :
    (stablyOrdered key items).Pairwise fun first second => key first ≤ key second :=
  (List.pairwise_mergeSort (key_trans key) (key_total key) items).imp fun ordered => by
    simpa using ordered

/-- Ordering keeps the items of one rank in their order. -/
theorem filter_stablyOrdered (key : α → Nat) (items : List α) (rank : Nat) :
    (stablyOrdered key items).filter (fun item => key item == rank) =
      items.filter fun item => key item == rank := by
  have leveled : (items.filter fun item => key item == rank).Pairwise
      fun first second => decide (key first ≤ key second) = true := by
    apply List.pairwise_of_forall_mem_list
    intro first firstMember second secondMember
    have firstRank := (List.mem_filter.mp firstMember).2
    have secondRank := (List.mem_filter.mp secondMember).2
    simp only [beq_iff_eq] at firstRank secondRank
    simp [firstRank, secondRank]
  have kept : (items.filter fun item => key item == rank).Sublist (stablyOrdered key items) :=
    List.sublist_mergeSort (key_trans key) (key_total key) leveled List.filter_sublist
  have inside := kept.filter fun item => key item == rank
  rw [List.filter_filter] at inside
  simp only [Bool.and_self] at inside
  have counted :=
    ((stablyOrdered_perm key items).filter fun item => key item == rank).length_eq
  exact (inside.eq_of_length counted.symm).symm

/-- Where the items already come in some order, that order decides between equal keys. -/
theorem pairwise_stablyOrdered_of_pairwise {key : α → Nat} {items : List α} {before : α → α → Prop}
    (ordered : items.Pairwise before) :
    (stablyOrdered key items).Pairwise fun first second =>
      key first < key second ∨ key first = key second ∧ before first second := by
  apply List.pairwise_iff_forall_sublist.mpr
  intro first second inOrder
  have keys := List.pairwise_iff_forall_sublist.mp (pairwise_stablyOrdered key items) inOrder
  rcases Nat.lt_or_eq_of_le keys with smaller | same
  · exact Or.inl smaller
  · have level := inOrder.filter fun item => key item == key second
    rw [filter_stablyOrdered] at level
    simp only [List.filter_cons, same, beq_self_eq_true, if_true, List.filter_nil] at level
    have early := List.pairwise_iff_forall_sublist.mp ordered (level.trans List.filter_sublist)
    exact Or.inr ⟨same, early⟩

/-- Items of one rank that come one before the other still do. -/
theorem pair_sublist_stablyOrdered {key : α → Nat} {items : List α} {first second : α}
    (inOrder : [first, second].Sublist items) (same : key first = key second) :
    [first, second].Sublist (stablyOrdered key items) := by
  have level := inOrder.filter fun item => key item == key second
  rw [← filter_stablyOrdered key items] at level
  simp only [List.filter_cons, same, beq_self_eq_true, if_true, List.filter_nil] at level
  exact level.trans List.filter_sublist

/-- An item of a smaller rank comes before one of a larger rank. -/
theorem pair_sublist_of_lt {key : α → Nat} {items : List α} {first second : α}
    (ordered : items.Pairwise fun a b => key a ≤ key b) (firstMember : first ∈ items)
    (secondMember : second ∈ items) (smaller : key first < key second) :
    [first, second].Sublist items := by
  obtain ⟨front, rest, rfl⟩ := List.append_of_mem secondMember
  rw [List.pairwise_append, List.pairwise_cons] at ordered
  obtain ⟨-, ⟨later, -⟩, -⟩ := ordered
  have before : first ∈ front := by
    rcases List.mem_append.mp firstMember with here | behind
    · exact here
    · rcases List.mem_cons.mp behind with rfl | behind
      · exact absurd smaller (Nat.lt_irrefl _)
      · exact absurd smaller (Nat.not_lt_of_le (later first behind))
  exact (List.singleton_sublist.mpr before).append
    (List.singleton_sublist.mpr List.mem_cons_self)

/-- What is in order stays as it is. -/
theorem stablyOrdered_stablyOrdered (key : α → Nat) (items : List α) :
    stablyOrdered key (stablyOrdered key items) = stablyOrdered key items := by
  apply List.mergeSort_of_pairwise
  simpa using pairwise_stablyOrdered key items

/-- Renaming the items and then ordering them is ordering them and then renaming. -/
theorem map_stablyOrdered {key : α → Nat} (other : β → Nat) (rename : α → β) {items : List α}
    (keys : ∀ item ∈ items, key item = other (rename item)) :
    (stablyOrdered key items).map rename = stablyOrdered other (items.map rename) := by
  apply List.map_mergeSort
  intro first firstMember second secondMember
  rw [keys first firstMember, keys second secondMember]

private theorem mem_iff_of_filter_rank_eq {key : α → Nat} {first second : List α}
    (levels : ∀ rank, first.filter (fun item => key item == rank) =
      second.filter fun item => key item == rank) (item : α) : item ∈ first ↔ item ∈ second := by
  have level : item ∈ first.filter (fun other => key other == key item) ↔
      item ∈ second.filter fun other => key other == key item := by rw [levels]
  simpa using level

/-- A list in ascending order of ranks is determined by its items of each rank. -/
theorem eq_of_filter_rank_eq {key : α → Nat} {first second : List α}
    (firstSorted : first.Pairwise fun a b => key a ≤ key b)
    (secondSorted : second.Pairwise fun a b => key a ≤ key b)
    (levels : ∀ rank, first.filter (fun item => key item == rank) =
      second.filter fun item => key item == rank) : first = second := by
  induction first generalizing second with
  | nil =>
      cases second with
      | nil => rfl
      | cons b second =>
          have member := (mem_iff_of_filter_rank_eq levels b).mpr List.mem_cons_self
          exact absurd member List.not_mem_nil
  | cons a first ih =>
      have aMember := (mem_iff_of_filter_rank_eq levels a).mp List.mem_cons_self
      cases second with
      | nil => exact absurd aMember List.not_mem_nil
      | cons b second =>
          have bMember := (mem_iff_of_filter_rank_eq levels b).mpr List.mem_cons_self
          obtain ⟨aLeast, firstTail⟩ := List.pairwise_cons.mp firstSorted
          obtain ⟨bLeast, secondTail⟩ := List.pairwise_cons.mp secondSorted
          have ranks : key a = key b := by
            apply Nat.le_antisymm
            · rcases List.mem_cons.mp bMember with same | later
              · exact Nat.le_of_eq (congrArg key same.symm)
              · exact aLeast b later
            · rcases List.mem_cons.mp aMember with same | later
              · exact Nat.le_of_eq (congrArg key same.symm)
              · exact bLeast a later
          have heads : a = b := by
            have level := levels (key a)
            simp only [List.filter_cons, beq_self_eq_true, ranks, if_true] at level
            exact (List.cons.inj level).1
          rw [heads]
          congr 1
          apply ih firstTail secondTail
          intro rank
          have level := levels rank
          rw [heads] at level
          simp only [List.filter_cons] at level
          split at level
          · exact (List.cons.inj level).2
          · exact level

/-! ## Insertion by rank -/

theorem insertRanked_perm (item : Nat × α) (sorted : List (Nat × α)) :
    (insertRanked item sorted).Perm (item :: sorted) := by
  induction sorted with
  | nil => exact .refl _
  | cons first rest ih =>
      rw [insertRanked]
      split
      · exact .refl _
      · exact (ih.cons first).trans (.swap item first rest)

theorem pairwise_insertRanked (item : Nat × α) {sorted : List (Nat × α)}
    (ordered : sorted.Pairwise fun a b => a.1 ≤ b.1) :
    (insertRanked item sorted).Pairwise fun a b => a.1 ≤ b.1 := by
  induction sorted with
  | nil => exact List.pairwise_singleton _ item
  | cons first rest ih =>
      obtain ⟨least, restOrdered⟩ := List.pairwise_cons.mp ordered
      rw [insertRanked]
      split
      · rename_i smaller
        refine List.pairwise_cons.mpr ⟨?_, ordered⟩
        intro other member
        rcases List.mem_cons.mp member with rfl | later
        · exact Nat.le_of_lt smaller
        · exact Nat.le_trans (Nat.le_of_lt smaller) (least other later)
      · rename_i notSmaller
        refine List.pairwise_cons.mpr ⟨?_, ih restOrdered⟩
        intro other member
        rcases List.mem_cons.mp ((insertRanked_perm item rest).mem_iff.mp member) with rfl | later
        · exact Nat.le_of_not_lt notSmaller
        · exact least other later

/-- An item is put behind those of its own rank. -/
theorem filter_insertRanked (item : Nat × α) {sorted : List (Nat × α)}
    (ordered : sorted.Pairwise fun a b => a.1 ≤ b.1) (rank : Nat) :
    (insertRanked item sorted).filter (fun other => other.1 == rank) =
      sorted.filter (fun other => other.1 == rank) ++
        [item].filter fun other => other.1 == rank := by
  induction sorted with
  | nil => rfl
  | cons first rest ih =>
      obtain ⟨least, restOrdered⟩ := List.pairwise_cons.mp ordered
      rw [insertRanked]
      split
      · rename_i smaller
        by_cases level : item.1 = rank
        · -- Everything from here on has a larger rank.
          have larger : (first :: rest).filter (fun other => other.1 == rank) = [] := by
            apply List.filter_eq_nil_iff.mpr
            intro other member
            simp only [beq_iff_eq]
            rcases List.mem_cons.mp member with rfl | later
            · omega
            · have := least other later
              omega
          rw [List.filter_cons, larger]
          simp [level]
        · simp [List.filter_cons, level]
      · by_cases level : first.1 = rank
        · simp [List.filter_cons, level, ih restOrdered]
        · simp [List.filter_cons, level, ih restOrdered]

/-- Each insertion keeps the order, and puts its item behind those of the same rank. -/
theorem insertRanked_foldl (items : List (Nat × α)) {sorted : List (Nat × α)}
    (ordered : sorted.Pairwise fun a b => a.1 ≤ b.1) :
    (items.foldl (fun sorted item => insertRanked item sorted) sorted).Pairwise
        (fun a b => a.1 ≤ b.1) ∧
      ∀ rank, (items.foldl (fun sorted item => insertRanked item sorted) sorted).filter
          (fun other => other.1 == rank) =
        sorted.filter (fun other => other.1 == rank) ++
          items.filter fun other => other.1 == rank := by
  induction items generalizing sorted with
  | nil => exact ⟨ordered, fun rank => by simp⟩
  | cons item items ih =>
      obtain ⟨final, levels⟩ := ih (pairwise_insertRanked item ordered)
      refine ⟨final, ?_⟩
      intro rank
      rw [List.foldl_cons, levels, filter_insertRanked item ordered, List.append_assoc,
        ← List.filter_append]
      rfl

/-- Sorting by rank, one insertion after the other, is the stable order of the ranks. -/
theorem stableSort_eq_stablyOrdered (items : List (Nat × α)) :
    stableSort items = stablyOrdered Prod.fst items := by
  obtain ⟨ordered, levels⟩ := insertRanked_foldl items List.Pairwise.nil
  apply eq_of_filter_rank_eq ordered (pairwise_stablyOrdered Prod.fst items)
  intro rank
  rw [filter_stablyOrdered]
  exact levels rank

end RubyBindings
