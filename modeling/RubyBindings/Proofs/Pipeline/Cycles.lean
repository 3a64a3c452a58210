/-
Module: RubyBindings.Proofs.Pipeline.Cycles
Purpose: When a superclass chain without an end is fatal. A run without plugins and phases of the
  user's own fails on it exactly if the chain of some wrapped class never ends, through whatever
  entities it leads; it names the first such class that the sort looks at, and the sink is not called.
Main exports: Library.Endless, CyclesAreFatal, cycles_are_fatal
-/
import RubyBindings.Proofs.BindingTree.SortFault
import RubyBindings.Proofs.Library.InheritanceDepth
import RubyBindings.Proofs.Pipeline.ManualPasses

namespace RubyBindings

open Naming (identifierFault?)

/-! ## Wrapped classes with endless chains -/

namespace Library

variable {library : Library}

/-- A wrapped class whose superclass chain never ends. The chain may lead through any entities. -/
structure Endless (library : Library) (id : EntityId) : Prop where
  existing : id < library.hierarchy.size
  wrapped : library.hierarchy.isWrapped id = true
  isClass : library.hierarchy.kind id = .classType
  never : library.hierarchy.NeverEnds id

namespace WellFormed

variable (wellFormed : library.WellFormed)
include wellFormed

/-- What a sort looks at are the wrapped entities other than the root, and the classes with endless
chains among them are what it fails on. -/
theorem depthFault?_eq_some {id : EntityId}
    (listed : id ∈ library.hierarchy.inspectionOrder Hierarchy.root) {error : GenerationError} :
    library.hierarchy.depthFault? id = some error ↔
      library.Endless id ∧ error = .cyclicHierarchy (library.hierarchy.qualifiedName id) := by
  obtain ⟨existing, -, wrapped⟩ := wellFormed.nested.mem_inspectionOrder.mp listed
  have endless : library.hierarchy.inheritanceDepth? id = none ↔ library.hierarchy.NeverEnds id :=
    Hierarchy.inheritanceDepth?_eq_none_iff
  rw [Hierarchy.depthFault?]
  constructor
  · intro found
    split at found
    · rename_i both
      cases found
      exact ⟨⟨existing, wrapped, both.1, endless.mp both.2⟩, rfl⟩
    · cases found
  · rintro ⟨⟨-, -, isClass, never⟩, rfl⟩
    rw [if_pos ⟨isClass, endless.mpr never⟩]

/-- A class with an endless chain is looked at. -/
theorem mem_inspectionOrder_of_endless {id : EntityId} (endless : library.Endless id) :
    id ∈ library.hierarchy.inspectionOrder Hierarchy.root := by
  have notRoot : id ≠ Hierarchy.root := by
    rintro rfl
    have isClass := endless.isClass
    rw [wellFormed.rootKind] at isClass
    cases isClass
  exact wellFormed.nested.mem_inspectionOrder.mpr ⟨endless.existing, notRoot, endless.wrapped⟩

/-- The first class that the sort fails on is one with an endless chain. -/
theorem exists_endless {error : GenerationError}
    (found : (library.hierarchy.inspectionOrder Hierarchy.root).findSome?
      library.hierarchy.depthFault? = some error) :
    ∃ id, library.Endless id ∧ error = .cyclicHierarchy (library.hierarchy.qualifiedName id) := by
  obtain ⟨id, listed, fault⟩ := List.exists_of_findSome?_eq_some found
  exact ⟨id, (wellFormed.depthFault?_eq_some listed).mp fault⟩

/-- A class with an endless chain is what the sort fails on if none before it has one. -/
theorem findSome?_depthFault?_of_first {before later : List EntityId} {id : EntityId}
    (order : library.hierarchy.inspectionOrder Hierarchy.root = before ++ id :: later)
    (endless : library.Endless id) (unaffected : ∀ other ∈ before, ¬ library.Endless other) :
    (library.hierarchy.inspectionOrder Hierarchy.root).findSome? library.hierarchy.depthFault? =
      some (.cyclicHierarchy (library.hierarchy.qualifiedName id)) := by
  have listed := wellFormed.mem_inspectionOrder_of_endless endless
  refine List.findSome?_eq_some_iff.mpr ⟨before, id, later, order,
    (wellFormed.depthFault?_eq_some listed).mpr ⟨endless, rfl⟩, ?_⟩
  intro other member
  have otherListed : other ∈ library.hierarchy.inspectionOrder Hierarchy.root := by
    rw [order]
    exact List.mem_append_left _ member
  by_contra faulty
  obtain ⟨error, fault⟩ := Option.ne_none_iff_exists'.mp faulty
  exact unaffected other member ((wellFormed.depthFault?_eq_some otherListed).mp fault).1

/-- The sort finds nothing to fail on exactly if no class has an endless chain. -/
theorem findSome?_depthFault?_eq_none :
    (library.hierarchy.inspectionOrder Hierarchy.root).findSome? library.hierarchy.depthFault? =
      none ↔ ∀ id, ¬ library.Endless id := by
  constructor
  · intro nothing id endless
    have listed := wellFormed.mem_inspectionOrder_of_endless endless
    have faulty := (wellFormed.depthFault?_eq_some listed).mpr ⟨endless, rfl⟩
    rw [List.findSome?_eq_none_iff.mp nothing id listed] at faulty
    cases faulty
  · intro unaffected
    by_contra faulty
    obtain ⟨error, found⟩ := Option.ne_none_iff_exists'.mp faulty
    obtain ⟨id, endless, -⟩ := wellFormed.exists_endless found
    exact unaffected id endless

end WellFormed

end Library

/-! ## Cycles in a run -/

/-- The failure of a run because the superclasses above a class never end. -/
def Report.endlessChain (name : String) : Report :=
  (Report.ofGeneration (.cyclicHierarchy name)).because "sort phase failed"

/-- What fails in another step fails in another way. -/
theorem Report.because_ne_endlessChain (report : Report) {step : String}
    (another : step ≠ "sort phase failed") (name : String) :
    report.because step ≠ .endlessChain name :=
  fun same => another (List.cons.inj (congrArg Report.steps same)).1

section Runs

variable {ω : Type} (layout : UnitLayout) (sink : UnitSink ω) (world : ω)

namespace Pipeline

variable {hierarchy : Hierarchy} (descends : hierarchy.Descends)

include descends in
/-- A run that fails for an endless chain has met a class without an inheritance depth. -/
theorem depthFault_of_run {name : String}
    (failed : (((bare layout : Pipeline ω hierarchy).run sink).perform world).1 =
      .error (.endlessChain name)) :
    (hierarchy.inspectionOrder Hierarchy.root).findSome? hierarchy.depthFault? =
      some (.cyclicHierarchy name) := by
  rw [perform_run_bare descends] at failed
  rcases builds : (BindingTree.build BindingTree.root).perform
    { tree := BindingTree.start hierarchy, session := .fresh } with ⟨error | done, built⟩
  · rw [builds] at failed
    exact absurd (Except.error.inj failed) (Report.because_ne_endlessChain _ (by decide) name)
  · rw [builds] at failed
    dsimp only at failed
    have result := BindingTree.result_sort (BindingTree.complete_build descends builds) descends
    rcases sorts : (BindingTree.sort BindingTree.root).perform built.tree with ⟨error | done, sorted⟩
    · rw [sorts] at failed result
      cases failed
      exact BindingTree.refusal_eq_error.mp result.symm
    · rw [sorts] at failed
      dsimp only at failed
      rcases renders : (BindingTree.render layout).perform sorted with ⟨error | unit, tree⟩
      · rw [renders] at failed
        exact absurd (Except.error.inj failed) (Report.because_ne_endlessChain _ (by decide) name)
      · rw [renders] at failed
        dsimp only at failed
        rcases handed : (sink unit).perform world with ⟨report | accepted, after⟩
        · rw [handed] at failed
          have another : "failed to write '" ++ unit.name ++ "'" ≠ "sort phase failed" := by
            intro same
            have letters := congrArg (fun text => text.toList.head?) same
            rw [String.toList_append, String.toList_append] at letters
            cases letters
          exact absurd (Except.error.inj failed) (Report.because_ne_endlessChain _ another name)
        · rw [handed] at failed
          cases failed

variable {built : Workspace hierarchy}
  (performed : (BindingTree.build BindingTree.root).perform
    { tree := BindingTree.start hierarchy, session := .fresh } = (.ok (), built))
include descends performed

/-- A class without an inheritance depth ends the run in its sort, before the sink is called. -/
theorem run_of_depthFault {error : GenerationError}
    (found : (hierarchy.inspectionOrder Hierarchy.root).findSome? hierarchy.depthFault? =
      some error) :
    ((bare layout : Pipeline ω hierarchy).run sink).perform world =
        (.error ((Report.ofGeneration error).because "sort phase failed"), world) ∧
      (bare layout : Pipeline ω hierarchy).offered sink world = [] := by
  have complete := BindingTree.complete_build descends performed
  have result := BindingTree.result_sort complete descends
  rw [perform_run_bare descends, offered_eq, perform_moments_bare descends, performed]
  dsimp only
  rcases sorts : (BindingTree.sort BindingTree.root).perform built.tree with ⟨failed | done, tree⟩
  · rw [sorts, found] at result
    cases result
    exact ⟨rfl, rfl⟩
  · rw [sorts, found] at result
    cases result

/-- If there is no such class, the run gets as far as the sink. -/
theorem run_of_no_depthFault
    (none : (hierarchy.inspectionOrder Hierarchy.root).findSome? hierarchy.depthFault? = none)
    (named : identifierFault? (hierarchy.name Hierarchy.root) = .none) :
    ∃ (unit : SourceUnit) (state : PipelineState hierarchy), state.unit = some unit ∧
      (bare layout : Pipeline ω hierarchy).offered sink world = [unit] ∧
        ((bare layout : Pipeline ω hierarchy).run sink).perform world =
          match (sink unit).perform world with
          | (.error report, after) =>
            (.error (report.because ("failed to write '" ++ unit.name ++ "'")), after)
          | (.ok (), after) => (.ok state, after) := by
  have complete := BindingTree.complete_build descends performed
  have result := BindingTree.result_sort complete descends
  rcases sorts : (BindingTree.sort BindingTree.root).perform built.tree with ⟨failed | done, sorted⟩
  · rw [sorts, none] at result
    cases result
  · obtain ⟨processed, passes⟩ := BindingTree.exists_passes_of_sort descends performed sorts
    have unitNamed : sorted.requireUnitName = .ok () := by
      rw [BindingTree.requireUnitName, BindingTree.unitName, named]
    rw [perform_run_bare descends, offered_eq, perform_moments_bare descends, performed]
    dsimp only
    rw [sorts]
    dsimp only
    rw [passes.perform_render descends layout unitNamed]
    exact ⟨_, _, rfl, rfl, rfl⟩

end Pipeline

/-- What endless superclass chains do to a run without plugins and phases of the user's own. -/
structure CyclesAreFatal (library : Library) (layout : UnitLayout) (sink : UnitSink ω) (world : ω) :
    Prop where
  /-- The sort looks at all that is inside the children of a scope before the children themselves,
  and it looks at every class that may be affected. -/
  order : ∀ id, library.hierarchy.inspectionOrder id =
    ((library.hierarchy.children id).filter library.hierarchy.isEligible).flatMap
        library.hierarchy.inspectionOrder ++
      (library.hierarchy.children id).filter library.hierarchy.isEligible
  looksAt : ∀ id, library.Endless id → id ∈ library.hierarchy.inspectionOrder Hierarchy.root
  /-- The run fails for such a chain exactly if some wrapped class has one. -/
  fails : (∃ name, (((Pipeline.bare layout : Pipeline ω library.hierarchy).run sink).perform world).1 =
    .error (.endlessChain name)) ↔ ∃ id, library.Endless id
  /-- The first of these classes is reported, and nothing has happened to the world. -/
  first : ∀ before id later,
    library.hierarchy.inspectionOrder Hierarchy.root = before ++ id :: later →
    library.Endless id → (∀ other ∈ before, ¬ library.Endless other) →
      ((Pipeline.bare layout : Pipeline ω library.hierarchy).run sink).perform world =
          (.error (.endlessChain (library.hierarchy.qualifiedName id)), world) ∧
        (Pipeline.bare layout : Pipeline ω library.hierarchy).offered sink world = []
  /-- In every other case the sink gets one unit, and the run succeeds if it accepts that. -/
  otherwise : (∀ id, ¬ library.Endless id) →
    ∃ (unit : SourceUnit) (state : PipelineState library.hierarchy), state.unit = some unit ∧
      (Pipeline.bare layout : Pipeline ω library.hierarchy).offered sink world = [unit] ∧
        ∀ after, (sink unit).perform world = (.ok (), after) →
          ((Pipeline.bare layout : Pipeline ω library.hierarchy).run sink).perform world =
            (.ok state, after)
  /-- A library to which calls have only added something never fails like that, whether its root can
  be built or not, and whatever its name is. -/
  added : ∀ libraryName calls, (∀ call ∈ calls, call.Adds) → ∀ name,
    (((Pipeline.bare layout :
      Pipeline ω ((Library.empty libraryName).afterCalls calls).hierarchy).run sink).perform world).1 ≠
        .error (.endlessChain name)

variable {library : Library}

/-- In every library that comes about, whose root can be built and whose name can be a unit's, a run
fails for an endless superclass chain exactly if a wrapped class has one. -/
theorem cycles_are_fatal (reachable : library.Reachable) {built : Workspace library.hierarchy}
    (performed : (BindingTree.build BindingTree.root).perform
      { tree := BindingTree.start library.hierarchy, session := .fresh } = (.ok (), built))
    (named : identifierFault? library.name = none) : CyclesAreFatal library layout sink world := by
  have wellFormed := reachable.wellFormed
  have descends := wellFormed.nested.descends
  refine ⟨descends.inspectionOrder_eq, fun _ => wellFormed.mem_inspectionOrder_of_endless, ?_, ?_,
    ?_, ?_⟩
  · constructor
    · rintro ⟨name, failed⟩
      have found := Pipeline.depthFault_of_run layout sink world descends failed
      obtain ⟨id, endless, -⟩ := wellFormed.exists_endless found
      exact ⟨id, endless⟩
    · rintro ⟨id, endless⟩
      cases found : (library.hierarchy.inspectionOrder Hierarchy.root).findSome?
          library.hierarchy.depthFault? with
      | none => exact absurd endless (wellFormed.findSome?_depthFault?_eq_none.mp found id)
      | some error =>
          obtain ⟨first, -, rfl⟩ := wellFormed.exists_endless found
          have ends := Pipeline.run_of_depthFault layout sink world descends performed found
          exact ⟨library.hierarchy.qualifiedName first, by rw [ends.1]; rfl⟩
  · intro before id later order endless unaffected
    have found := wellFormed.findSome?_depthFault?_of_first order endless unaffected
    exact Pipeline.run_of_depthFault layout sink world descends performed found
  · intro unaffected
    have noFault := wellFormed.findSome?_depthFault?_eq_none.mpr unaffected
    obtain ⟨unit, state, rendered, offered, ran⟩ := Pipeline.run_of_no_depthFault layout sink world
      descends performed noFault named
    refine ⟨unit, state, rendered, offered, ?_⟩
    intro after accepts
    rw [ran, accepts]
  · intro libraryName calls adds name failed
    have addedWellFormed := ((Library.Reachable.empty libraryName).afterCalls calls).wellFormed
    have found := Pipeline.depthFault_of_run layout sink world addedWellFormed.nested.descends failed
    obtain ⟨id, endless, -⟩ := addedWellFormed.exists_endless found
    have descending := Library.descending_afterCalls libraryName adds
    exact Hierarchy.not_neverEnds_of_descending descending id endless.never

end Runs

/-- A library with a class that is derived from a hidden class, which is derived from another hidden
class and that one from it. -/
def hiddenLoop : Library where
  hierarchy :=
    { entities :=
        [{ declaration := { kind := .namespaceScope, name := "lib" }
           parent := none
           children := [1, 2, 3]
           qualifiedName := "" },
         { declaration := { kind := .classType, name := "Entry", superclass := some 2 }
           parent := some Hierarchy.root
           children := []
           qualifiedName := "Entry" },
         { declaration :=
             { kind := .classType, name := "Left", superclass := some 3, ignored := true }
           parent := some Hierarchy.root
           children := []
           qualifiedName := "Left" },
         { declaration :=
             { kind := .classType, name := "Right", superclass := some 2, ignored := true }
           parent := some Hierarchy.root
           children := []
           qualifiedName := "Right" }]
      headers := [] }
  index := ⟨[("Entry", 1), ("Left", 2), ("Right", 3)]⟩

theorem cycles_are_fatal_hiddenLoop :
    hiddenLoop.Reachable ∧ hiddenLoop.Endless 1 ∧
      CyclesAreFatal hiddenLoop (UnitStyle.singleFile {}) UnitShelf.accept .empty := by
  have described : Library.ofDescription
      { name := "lib"
        headers := []
        entities :=
          [{ kind := .classType, name := "Entry", superclassName := some "Left" },
            { kind := .classType, name := "Left", ignored := true, superclassName := some "Right" },
            { kind := .classType
              name := "Right"
              ignored := true
              superclassName := some "Left" }] } =
      .ok hiddenLoop := rfl
  have reachable := Library.Reachable.ofDescription described
  have never : hiddenLoop.hierarchy.NeverEnds 1 := Hierarchy.inheritanceDepth?_eq_none_iff.mp rfl
  have performed : (BindingTree.build BindingTree.root).perform
      { tree := BindingTree.start hiddenLoop.hierarchy, session := .fresh } =
        (.ok (), ((BindingTree.build BindingTree.root).perform
          { tree := BindingTree.start hiddenLoop.hierarchy, session := .fresh }).2) :=
    Prod.ext rfl rfl
  exact ⟨reachable, ⟨by decide, by decide, rfl, never⟩,
    cycles_are_fatal _ _ _ reachable performed (by decide)⟩

end RubyBindings
