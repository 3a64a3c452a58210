/-
Module: RubyBindings.Proofs.BindingTree.Wrapped
Purpose: The nodes of a built tree are the wrapped entities. Whether an entity is wrapped is asked
  upwards, along its scopes; the nodes are made downwards, along the lists of children. In a nested
  hierarchy both come to the same, and so a class is never registered with a superclass that has no
  registration of its own.
Main exports: BindingTree.MatchesWrapped, BindingTree.Complete.matchesWrapped,
  BindingTree.RegistersBase, BindingTree.built_nodes_are_wrapped
-/
import RubyBindings.Proofs.BindingTree.Contents
import RubyBindings.Proofs.Library.History
import RubyBindings.Proofs.Registration.Statement

namespace RubyBindings.BindingTree

open Naming (constantName)

variable {hierarchy : Hierarchy} {tree : BindingTree hierarchy}

/-! ## Nodes and wrapped entities -/

/-- The nodes of a tree stand for the wrapped entities, each for another one, and are nested as
these are. -/
structure MatchesWrapped (tree : BindingTree hierarchy) : Prop where
  entity : ∀ id < tree.size, (tree.node id).entity < hierarchy.size
  wrapped : ∀ entity < hierarchy.size,
    (∃ id < tree.size, (tree.node id).entity = entity) ↔ hierarchy.isWrapped entity = true
  unique : ∀ first < tree.size, ∀ second < tree.size,
    (tree.node first).entity = (tree.node second).entity → first = second
  parent : ∀ id < tree.size,
    (tree.node id).parent.map (fun parent => (tree.node parent).entity) =
      hierarchy.parent (tree.node id).entity
  reached : ∀ id < tree.size, tree.Encloses root id

namespace Complete

variable (complete : tree.Complete) (nested : hierarchy.Nested)
include complete nested

/-- Along the lists of children, entities are nested as the hierarchy says. -/
theorem parent_entity {parent child : NodeId} (member : child ∈ tree.children parent) :
    hierarchy.parent (tree.node child).entity = some (tree.node parent).entity :=
  (nested.childIff _ _).mp (complete.entity_mem member).1

/-- Going down from the root, every node stands for a wrapped entity. -/
theorem isWrapped_entity {id : NodeId} (existing : id < tree.size) :
    hierarchy.isWrapped (tree.node id).entity = true := by
  have encloses := complete.reached id existing
  clear existing
  induction encloses with
  | refl =>
      rw [complete.rootEntity]
      exact nested.isWrapped_root
  | tail _ member ih =>
      have eligible := (complete.entity_mem member).2
      rw [nested.isWrapped_child (complete.parent_entity nested member), eligible, ih]
      rfl

/-- Going up from an entity, every wrapped scope has a node, and so has the entity. -/
theorem exists_node {entity : EntityId} (existing : entity < hierarchy.size)
    (wrapped : hierarchy.isWrapped entity = true) :
    ∃ id < tree.size, (tree.node id).entity = entity := by
  induction entity, existing using nested.induction_on_parent with
  | top => exact ⟨root, complete.coherent.hasRoot, complete.rootEntity⟩
  | step entity existing parent link ih =>
      rw [nested.isWrapped_child link, Bool.and_eq_true] at wrapped
      obtain ⟨above, aboveSmall, rfl⟩ := ih wrapped.2
      have listed : entity ∈ (hierarchy.children (tree.node above).entity).filter
          hierarchy.isEligible :=
        List.mem_filter.mpr ⟨(nested.childIff _ _).mpr link, wrapped.1⟩
      rw [← (complete.faithful above aboveSmall).entities] at listed
      obtain ⟨child, member, same⟩ := List.mem_map.mp listed
      exact ⟨child, (complete.coherent.childLink above child member).1, same⟩

/-- The children of a node stand for different entities. -/
theorem eq_of_entity_eq_of_mem_children {parent first second : NodeId}
    (firstMember : first ∈ tree.children parent) (secondMember : second ∈ tree.children parent)
    (same : (tree.node first).entity = (tree.node second).entity) : first = second := by
  have faithful := complete.faithful parent (lt_size_of_mem_children firstMember)
  have nodup : ((tree.children parent).map fun child => (tree.node child).entity).Nodup := by
    rw [faithful.entities]
    exact ((nested.childrenAscend _).imp fun smaller => Nat.ne_of_lt smaller).filter _
  exact List.inj_on_of_nodup_map nodup firstMember secondMember same

/-- No two nodes stand for one entity. -/
theorem eq_of_entity_eq (first : Nat) : ∀ {second : Nat}, first < tree.size → second < tree.size →
    (tree.node first).entity = (tree.node second).entity → first = second := by
  have descends := nested.descends
  induction first using Nat.strongRecOn with
  | ind first ih =>
      intro second firstSmall secondSmall same
      by_cases firstTop : first = root
      · by_contra different
        have notRoot : second ≠ root := fun secondTop => different (firstTop.trans secondTop.symm)
        have elsewhere := complete.entity_ne_root descends secondSmall notRoot
        rw [← same, firstTop, complete.rootEntity] at elsewhere
        exact elsewhere rfl
      · have secondTop : second ≠ root := by
          rintro rfl
          have elsewhere := complete.entity_ne_root descends firstSmall firstTop
          rw [same, complete.rootEntity] at elsewhere
          exact elsewhere rfl
        obtain ⟨firstParent, firstMember⟩ := complete.exists_parent firstSmall firstTop
        obtain ⟨secondParent, secondMember⟩ := complete.exists_parent secondSmall secondTop
        have parents : (tree.node firstParent).entity = (tree.node secondParent).entity := by
          have firstLink := complete.parent_entity nested firstMember
          rw [same, complete.parent_entity nested secondMember] at firstLink
          exact (Option.some.inj firstLink).symm
        cases ih firstParent (complete.coherent.lt_of_mem_children firstMember)
          (lt_size_of_mem_children firstMember) (lt_size_of_mem_children secondMember) parents
        exact complete.eq_of_entity_eq_of_mem_children nested firstMember secondMember same

theorem matchesWrapped : tree.MatchesWrapped where
  entity := by
    intro id existing
    by_cases top : id = root
    · rw [top, complete.rootEntity]
      exact nested.hasRoot
    · obtain ⟨parent, member⟩ := complete.exists_parent existing top
      exact Hierarchy.lt_size_of_parent (complete.parent_entity nested member)
  wrapped := by
    intro entity existing
    constructor
    · rintro ⟨id, small, rfl⟩
      exact complete.isWrapped_entity nested small
    · exact complete.exists_node nested existing
  unique := fun first firstSmall _ secondSmall same =>
    complete.eq_of_entity_eq nested first firstSmall secondSmall same
  parent := by
    intro id existing
    by_cases top : id = root
    · rw [top, complete.coherent.rootParent, complete.rootEntity, nested.rootParent]
      rfl
    · obtain ⟨parent, member⟩ := complete.exists_parent existing top
      rw [(complete.coherent.childLink parent id member).2, complete.parent_entity nested member]
      rfl
  reached := complete.reached

end Complete

/-! ## Named superclasses -/

/-- The statement that defines a class in a variable. -/
def classStatement (hierarchy : Hierarchy) (id : EntityId) (handle : Handle) : Statement :=
  .defineClass handle ((hierarchy.ownerHandle? id).map Handle.name) (hierarchy.classArguments id)
    (quoted (constantName (hierarchy.name id)))

/-- An entity that can be named as a superclass has a node of its own, which registers a class, and
the registration gets into the unit. -/
structure RegistersBase (session : Session) (built : Workspace hierarchy) (base : EntityId) :
    Prop where
  /-- The registration is the statement that defines the class in a variable of its own. -/
  statement : ∃ handle, hierarchy.handle? base = some handle ∧
    hierarchy.classText base = (classStatement hierarchy base handle).text
  node : ∃ id < built.tree.size, (built.tree.node id).entity = base ∧
    (built.tree.node id).kind = .classType ∧
    (built.tree.node id).fragments.registrations = [hierarchy.classText base]
  inUnit : ∀ sorted processed, Passes session built sorted processed →
    hierarchy.classText base ∈ (processed.node root).fragments.registrations

/-- What a node registers gets into the unit. -/
theorem Passes.mem_registrations {session : Session} {built : Workspace hierarchy}
    {sorted processed : BindingTree hierarchy} (passes : Passes session built sorted processed)
    (descends : hierarchy.Descends) {id : NodeId} (existing : id < built.tree.size) {text : String}
    (registered : text ∈ (built.tree.node id).fragments.registrations) :
    text ∈ (processed.node root).fragments.registrations := by
  have inOrder := passes.inOrder descends
  have coherent := inOrder.coherent
  have listed : id ∈ sorted.preorder root := by
    rw [coherent.mem_preorder coherent.hasRoot, inOrder.forest.encloses_iff]
    exact inOrder.complete.reached id existing
  rw [passes.node_root descends]
  simp only [gathered, Fragments.concat, List.flatMap_map]
  refine List.mem_flatMap.mpr ⟨id, listed, ?_⟩
  rw [inOrder.node id existing, sortedNode]
  exact registered

/-- Every class below the root is registered with a statement. -/
theorem exists_classStatement (nested : hierarchy.Nested) {id : EntityId}
    (existing : id < hierarchy.size) (notTop : id ≠ Hierarchy.root)
    (isClass : hierarchy.kind id = .classType) :
    ∃ handle, hierarchy.handle? id = some handle ∧
      hierarchy.classText id = (classStatement hierarchy id handle).text := by
  obtain ⟨scope, -, link⟩ := nested.parentBefore id existing notTop
  obtain ⟨handle, own⟩ : ∃ handle, hierarchy.handle? id = some handle := by
    rw [Hierarchy.handle?, link, isClass]
    exact ⟨_, rfl⟩
  refine ⟨handle, own, ?_⟩
  have text := hierarchy.text_eq id
  rw [Hierarchy.statement?, isClass, own] at text
  exact text

theorem registersBase {library : Library} (wellFormed : library.WellFormed) {session : Session}
    {built : Workspace library.hierarchy} (complete : built.tree.Complete) {id base : EntityId}
    (named : library.hierarchy.wrappedBase? id = some base) : RegistersBase session built base := by
  obtain ⟨existing, notTop, isClass, wrapped⟩ := wellFormed.wrappedBase_eq_some named
  obtain ⟨other, small, rfl⟩ := complete.exists_node wellFormed.nested existing wrapped
  have notRoot : other ≠ root := by
    rintro rfl
    exact notTop complete.rootEntity
  have kind : (built.tree.node other).kind = .classType := by
    rw [complete.kind_eq small notRoot, isClass]
    rfl
  have registrations : (built.tree.node other).fragments.registrations =
      [library.hierarchy.classText (built.tree.node other).entity] := by
    rw [(complete.faithful other small).registrations, kind]
    rfl
  refine ⟨exists_classStatement wellFormed.nested existing notTop isClass,
    ⟨other, small, rfl, kind, registrations⟩, ?_⟩
  intro sorted processed passes
  apply passes.mem_registrations wellFormed.nested.descends small
  rw [registrations]
  exact List.mem_singleton.mpr rfl

/-- In every library that comes about, a successful build of the root makes one node for each
wrapped entity and none for any other, nested as the entities are, and whatever a class is
registered with as its superclass is registered itself. -/
theorem built_nodes_are_wrapped {library : Library} (reachable : library.Reachable)
    {session : Session} {built : Workspace library.hierarchy}
    (performed : (build root).perform { tree := start library.hierarchy, session } =
      (.ok (), built)) :
    built.tree.MatchesWrapped ∧
      ∀ id < built.tree.size, (built.tree.node id).kind = .classType →
        ∀ base, library.hierarchy.wrappedBase? (built.tree.node id).entity = some base →
          RegistersBase session built base := by
  have wellFormed := reachable.wellFormed
  have complete := complete_build wellFormed.nested.descends performed
  exact ⟨complete.matchesWrapped wellFormed.nested,
    fun _ _ _ _ named => registersBase wellFormed complete named⟩

/-- What building makes of a class whose superclass stands in another scope. -/
def crossScopeBuilt : Workspace Library.crossScope.hierarchy :=
  ((build root).perform { tree := start Library.crossScope.hierarchy, session := .fresh }).2

theorem built_nodes_are_wrapped_crossScope :
    crossScopeBuilt.tree.MatchesWrapped ∧ RegistersBase .fresh crossScopeBuilt 3 := by
  have performed : (build root).perform
      { tree := start Library.crossScope.hierarchy, session := .fresh } =
        (.ok (), crossScopeBuilt) := Prod.ext rfl rfl
  obtain ⟨nodes, bases⟩ := built_nodes_are_wrapped Library.reachable_crossScope performed
  exact ⟨nodes, bases 2 (by decide) rfl 3 rfl⟩

end RubyBindings.BindingTree
