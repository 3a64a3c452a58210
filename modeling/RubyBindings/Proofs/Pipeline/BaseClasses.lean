/-
Module: RubyBindings.Proofs.Pipeline.BaseClasses
Purpose: Where a unit registers a class and where its superclass. Only siblings are ordered by
  inheritance depth, so a superclass in another scope may be registered behind a class that names
  it; the branches in which the two stand decide.
Main exports: BasesPlaced, Pipeline.base_registered_first_iff,
  Pipeline.base_registered_behind_derived
-/
import RubyBindings.Proofs.BindingTree.Wrapped
import RubyBindings.Proofs.Hierarchy.RegistrationOrder
import RubyBindings.Proofs.Pipeline.Generation

namespace RubyBindings

variable {ω : Type} {hierarchy : Hierarchy}

/-- The registrations of a unit, and among them the places of the classes that are named as
superclasses: such a class stands before the derived one exactly if it is a scope around it, or its
branch is the one that comes first where the branches of the two part. In one scope that is so. -/
structure BasesPlaced (layout : UnitLayout) (state : PipelineState hierarchy) : Prop where
  unit : state.unit = some
    { name := hierarchy.name Hierarchy.root
      content := layout.render (hierarchy.name Hierarchy.root) hierarchy.extensionText
        (state.tree.node BindingTree.root).fragments }
  registrations : (state.tree.node BindingTree.root).fragments.registrations =
    hierarchy.registered.map fun id => (hierarchy.kind id).nodeKind.text hierarchy id
  members : ∀ id, id ∈ hierarchy.registered ↔
    id < hierarchy.size ∧ id ≠ Hierarchy.root ∧ hierarchy.isWrapped id = true
  nodup : hierarchy.registered.Nodup
  base : ∀ derived ∈ hierarchy.registered, hierarchy.kind derived = .classType →
    ∀ base, hierarchy.wrappedBase? derived = some base →
      base ∈ hierarchy.registered ∧
        (hierarchy.registered.idxOf base < hierarchy.registered.idxOf derived ↔
          hierarchy.RegisteredBefore base derived) ∧
        (hierarchy.parent base = hierarchy.parent derived →
          hierarchy.registered.idxOf base < hierarchy.registered.idxOf derived)

/-- Every registered class has an inheritance depth once the tree has been sorted. -/
theorem BindingTree.Passes.exists_depth_of_registered {session : Session}
    {built : Workspace hierarchy} {sorted processed : BindingTree hierarchy}
    (passes : Passes session built sorted processed) (nested : hierarchy.Nested) {id : EntityId}
    (registered : id ∈ hierarchy.registered) (isClass : hierarchy.kind id = .classType) :
    ∃ depth, hierarchy.inheritanceDepth? id = some depth := by
  have complete := passes.complete nested.descends
  obtain ⟨existing, notRoot, wrapped⟩ := nested.mem_registered.mp registered
  obtain ⟨node, small, rfl⟩ := complete.exists_node nested existing wrapped
  have below : node ≠ root := by
    rintro rfl
    exact notRoot complete.rootEntity
  apply passes.exists_depth nested.descends small below
  rw [complete.kind_eq small below, isClass]
  rfl

namespace Pipeline

/-- The superclass that a registration names is registered as well, and it stands first exactly if
the branches of the scope tree put it first. -/
theorem base_registered_first_iff {library : Library} (reachable : library.Reachable)
    {pipeline : Pipeline ω library.hierarchy} (undisturbed : pipeline.Undisturbed) {world after : ω}
    {state : PipelineState library.hierarchy}
    (generated : pipeline.generate.perform world = (.ok state, after)) :
    BasesPlaced pipeline.layout state := by
  have wellFormed := reachable.wellFormed
  have nested := wellFormed.nested
  obtain ⟨session, built, sorted, run⟩ :=
    generated_of_generate nested.descends undisturbed generated
  have inOrder := run.passes.inOrder nested.descends
  have registrations := (inOrder.gathered nested.descends inOrder.coherent.hasRoot).2
  rw [inOrder.complete.rootEntity, nested.collect_ownRegistrations] at registrations
  refine ⟨run.unit, ?_, fun _ => nested.mem_registered, nested.nodup_registered, ?_⟩
  · rw [run.passes.node_root nested.descends]
    exact registrations
  · intro derived derivedMember derivedClass base named
    obtain ⟨existing, notRoot, baseClass, wrapped⟩ := wellFormed.wrappedBase_eq_some named
    have baseMember := nested.mem_registered.mpr ⟨existing, notRoot, wrapped⟩
    have places := nested.idxOf_registered_lt baseMember derivedMember
    refine ⟨baseMember, places, fun siblings => places.mpr ?_⟩
    obtain ⟨depth, found⟩ :=
      run.passes.exists_depth_of_registered nested derivedMember derivedClass
    obtain ⟨link, -⟩ := Option.filter_eq_some_iff.mp named
    obtain ⟨scope, -, baseScope⟩ := nested.parentBefore base existing notRoot
    exact Or.inr ⟨scope, base, derived, baseScope, siblings.symm.trans baseScope,
      Hierarchy.comesBefore_of_superclass link baseClass derivedClass found,
      Relation.ReflTransGen.refl, Relation.ReflTransGen.refl⟩

/-- A pipeline that has only its own three phases. -/
def plain (hierarchy : Hierarchy) : Pipeline Unit hierarchy := {}

theorem undisturbed_plain (hierarchy : Hierarchy) : (plain hierarchy).Undisturbed :=
  ⟨fun _ member => absurd member List.not_mem_nil, fun _ member => absurd member List.not_mem_nil,
    fun _ member => absurd member List.not_mem_nil⟩

/-- What a plain pipeline makes of a class whose superclass stands behind its scope. -/
def crossScopeState : PipelineState Library.crossScope.hierarchy :=
  let pipeline := plain Library.crossScope.hierarchy
  ((pipeline.allPhases.forM pipeline.runPhase).perform (.start _, ())).2.1

theorem generate_crossScope :
    (plain Library.crossScope.hierarchy).generate.perform () = (.ok crossScopeState, ()) :=
  rfl

theorem base_registered_first_iff_crossScope :
    (plain Library.crossScope.hierarchy).Undisturbed ∧
      BasesPlaced (plain Library.crossScope.hierarchy).layout crossScopeState :=
  ⟨undisturbed_plain _, base_registered_first_iff Library.reachable_crossScope
    (undisturbed_plain _) generate_crossScope⟩

/-- Across scopes the superclass may come last: `a::D` is registered before `B`, which it names. -/
theorem base_registered_behind_derived :
    let hierarchy := Library.crossScope.hierarchy
    let registrations := (crossScopeState.tree.node BindingTree.root).fragments.registrations
    Library.crossScope.Reachable ∧
      (plain hierarchy).generate.perform () = (.ok crossScopeState, ()) ∧
      hierarchy.wrappedBase? 2 = some 3 ∧
      registrations = [hierarchy.moduleText 1, hierarchy.classText 2, hierarchy.classText 3] ∧
      registrations.idxOf (hierarchy.classText 2) < registrations.idxOf (hierarchy.classText 3) :=
  ⟨Library.reachable_crossScope, generate_crossScope, rfl, rfl, by decide +kernel⟩

end Pipeline

end RubyBindings
