/-
Module: RubyBindings.Proofs.Library.InheritanceDepth
Purpose: The inheritance depth of an entity is the length of its superclass chain, and an entity has
  none exactly if its chain never ends; a class without one cannot be ranked. Links that were given
  with the declarations themselves always lead back to older entities, so in a library without later
  links every entity has a depth.
Main exports: Library.Call.Adds, Library.descending_afterCalls, Hierarchy.MeasuresChain,
  Library.depths_measure_chains
-/
import RubyBindings.BindingTree.Basic
import RubyBindings.Proofs.Hierarchy.ChainWalk
import RubyBindings.Proofs.Library.History

namespace RubyBindings

namespace Library

variable {library : Library}

/-! ## Libraries without later links -/

/-- A call that adds something, and links nothing that is there already. -/
def Call.Adds : Call → Prop
  | .addHeader _ | .declare _ _ => True
  | .linkSuperclass _ _ => False

/-- Every superclass was declared before the classes that are derived from it. -/
def Descending (library : Library) : Prop :=
  ∀ id superclass, library.hierarchy.superclass id = some superclass → superclass < id

theorem Descending.call (descending : library.Descending) {call : Call} (adds : call.Adds) :
    (library.afterCall call).Descending := by
  cases call with
  | addHeader header => exact descending
  | linkSuperclass id superclass => exact adds.elim
  | declare scope declaration =>
      rw [afterCall]
      split
      · rename_i declared
        obtain ⟨-, added, declares⟩ := declares_of_declare declared
        rw [declares.after_eq]
        intro id superclass link
        rw [Hierarchy.superclass, declaration_append library declares.existing] at link
        split at link
        · rename_i new
          rw [new]
          exact (requireSuperclass_eq_ok.mp (declares.superclass superclass link)).1
        · exact descending id superclass link
      · exact descending

/-- In a library that calls have only added to, every chain leads to older and older entities. -/
theorem descending_afterCalls (name : String) {calls : List Call}
    (adds : ∀ call ∈ calls, call.Adds) : ((empty name).afterCalls calls).Descending := by
  have start : (empty name).Descending := by
    intro id superclass link
    cases id <;> cases link
  have grows : ∀ (calls : List Call) (library : Library), library.Descending →
      (∀ call ∈ calls, call.Adds) → (library.afterCalls calls).Descending := by
    intro calls
    induction calls with
    | nil => exact fun _ descending _ => descending
    | cons call calls ih =>
        intro library descending adds
        obtain ⟨first, later⟩ := List.forall_mem_cons.mp adds
        exact ih (library.afterCall call) (descending.call first) later
  exact grows calls (empty name) start adds

/-- Where links lead back to older entities, a chain has fewer links than there are entities before
its beginning: the root is no class, so it is nobody's superclass. -/
theorem Descending.exists_depth (descending : library.Descending)
    (wellFormed : library.WellFormed) {id : Nat} (notRoot : id ≠ Hierarchy.root) :
    ∃ depth < id, library.hierarchy.EndsAfter depth id := by
  have behindRoot : ∀ id superclass : Nat, library.hierarchy.superclass id = some superclass →
      1 ≤ superclass ∧ superclass < id := by
    intro id superclass link
    refine ⟨Nat.pos_of_ne_zero ?_, descending id superclass link⟩
    rintro rfl
    have isClass := (wellFormed.superclasses id Hierarchy.root link).2
    rw [wellFormed.rootKind] at isClass
    cases isClass
  obtain ⟨depth, few, ends⟩ := Hierarchy.exists_endsAfter_of_descending behindRoot id
    (Nat.pos_of_ne_zero notRoot)
  exact ⟨depth, Nat.lt_of_lt_of_le (Nat.lt_add_of_pos_left Nat.one_pos) few, ends⟩

/-- There is nothing older than the root. -/
theorem Descending.endsAfter_root (descending : library.Descending) :
    library.hierarchy.EndsAfter 0 Hierarchy.root := by
  rw [Hierarchy.endsAfter_zero]
  by_contra linked
  obtain ⟨superclass, link⟩ := Option.ne_none_iff_exists'.mp linked
  exact Nat.not_lt_zero superclass (descending Hierarchy.root superclass link)

end Library

/-! ## Depths and chains -/

variable {hierarchy : Hierarchy}

/-- The rank of a class is its inheritance depth; without one, the error names the class. -/
theorem BindingTree.rank_of_classType {tree : BindingTree hierarchy} {node : NodeId}
    (isClass : (tree.node node).kind = .classType) :
    tree.rank node = (hierarchy.inheritanceDepth? (tree.node node).entity).elim
      (.error (.cyclicHierarchy (hierarchy.qualifiedName (tree.node node).entity))) .ok := by
  simp only [rank, isClass, if_true]
  cases hierarchy.inheritanceDepth? (tree.node node).entity <;> rfl

namespace Hierarchy

/-- What is said about the superclass chain of an entity by its inheritance depth. -/
structure MeasuresChain (hierarchy : Hierarchy) (id : EntityId) : Prop where
  /-- The walk along the chain comes to an end, with the depth and with nothing else. -/
  walk : ∀ length, hierarchy.ChainWalk [id] id length ↔ length = hierarchy.inheritanceDepth? id
  depth : ∀ depth, hierarchy.inheritanceDepth? id = some depth ↔ hierarchy.EndsAfter depth id
  endless : hierarchy.inheritanceDepth? id = none ↔ hierarchy.NeverEnds id
  /-- A chain without an end leads into a cycle, if it does not begin on one. -/
  repeats : hierarchy.NeverEnds id ↔ hierarchy.ChainRepeats id
  /-- An entity is one link further from the end than its superclass, if there is an end. -/
  superclass : ∀ superclass, hierarchy.superclass id = some superclass →
    hierarchy.inheritanceDepth? id = (hierarchy.inheritanceDepth? superclass).map (· + 1)
  /-- Ranking a class gives the length of its chain, or the error about a chain without an end. -/
  rank : ∀ (tree : BindingTree hierarchy) (node : NodeId), (tree.node node).kind = .classType →
    (tree.node node).entity = id →
      (∀ depth, tree.rank node = .ok depth ↔ hierarchy.EndsAfter depth id) ∧
        ∀ error, tree.rank node = .error error ↔
          hierarchy.NeverEnds id ∧ error = .cyclicHierarchy (hierarchy.qualifiedName id)

theorem measuresChain (hierarchy : Hierarchy) (id : EntityId) : hierarchy.MeasuresChain id where
  walk := fun _ => chainWalk_iff
  depth := fun _ => inheritanceDepth?_eq_some_iff
  endless := inheritanceDepth?_eq_none_iff
  repeats := neverEnds_iff_chainRepeats
  superclass := fun _ => inheritanceDepth?_eq_map
  rank := by
    rintro tree node isClass rfl
    simp only [BindingTree.rank_of_classType isClass, ← inheritanceDepth?_eq_some_iff,
      ← inheritanceDepth?_eq_none_iff]
    cases hierarchy.inheritanceDepth? (tree.node node).entity with
    | none => simp [eq_comm]
    | some depth => simp

end Hierarchy

namespace Library

/-- In every hierarchy, inheritance depths are the lengths of superclass chains. In a library that
calls have only added to, the root has depth zero, and every other entity has a depth that is smaller
than its id. -/
theorem depths_measure_chains :
    (∀ (hierarchy : Hierarchy) (id : EntityId), hierarchy.MeasuresChain id) ∧
      ∀ (name : String) (calls : List Call), (∀ call ∈ calls, call.Adds) →
        let hierarchy := ((empty name).afterCalls calls).hierarchy
        hierarchy.inheritanceDepth? Hierarchy.root = some 0 ∧
          ∀ id < hierarchy.size, id ≠ Hierarchy.root →
            ∃ depth < id, hierarchy.inheritanceDepth? id = some depth := by
  refine ⟨Hierarchy.measuresChain, ?_⟩
  intro name calls adds
  have wellFormed := ((Reachable.empty name).afterCalls calls).wellFormed
  have descending := descending_afterCalls name adds
  refine ⟨Hierarchy.inheritanceDepth?_eq_some_iff.mpr descending.endsAfter_root, ?_⟩
  intro id _ notRoot
  obtain ⟨depth, small, ends⟩ := descending.exists_depth wellFormed notRoot
  exact ⟨depth, small, Hierarchy.inheritanceDepth?_eq_some_iff.mpr ends⟩

/-- A class that is its own superclass, and another class that is derived from it. -/
def selfDerived : Hierarchy where
  entities :=
    [{ declaration := { kind := .namespaceScope, name := "lib" }
       parent := none
       children := [1, 2]
       qualifiedName := "" },
     { declaration := { kind := .classType, name := "Loop", superclass := some 1 }
       parent := some Hierarchy.root
       children := []
       qualifiedName := "Loop" },
     { declaration := { kind := .classType, name := "Entry", superclass := some 1 }
       parent := some Hierarchy.root
       children := []
       qualifiedName := "Entry" }]
  headers := []

/-- The declarations of three classes, each but the first derived from the one before. -/
def threeGenerations : List Call :=
  [.declare Hierarchy.root { kind := .classType, name := "Shape" },
    .declare Hierarchy.root { kind := .classType, name := "Round", superclass := some 1 },
    .declare Hierarchy.root { kind := .classType, name := "Circle", superclass := some 2 }]

/-- Both chains of the one hierarchy never end, and the chain of the last of three generations has a
length that is smaller than its id. -/
theorem depths_measure_chains_generations :
    let hierarchy := ((empty "lib").afterCalls threeGenerations).hierarchy
    selfDerived.NeverEnds 1 ∧ selfDerived.NeverEnds 2 ∧ (∀ call ∈ threeGenerations, call.Adds) ∧
      3 < hierarchy.size ∧ ∃ depth < 3, hierarchy.inheritanceDepth? 3 = some depth := by
  obtain ⟨measures, added⟩ := depths_measure_chains
  have adds : ∀ call ∈ threeGenerations, call.Adds := by
    simp [threeGenerations, Call.Adds]
  have existing : 3 < ((empty "lib").afterCalls threeGenerations).hierarchy.size := by decide
  refine ⟨(measures selfDerived 1).endless.mp rfl, (measures selfDerived 2).endless.mp rfl, adds,
    existing, ?_⟩
  exact (added "lib" threeGenerations adds).2 3 existing (by decide)

end Library

end RubyBindings
