/-
Module: RubyBindings.Proofs.Pipeline.Concealment
Purpose: A pipeline without plugins and phases of the user's own sees of a library only what looks
  alike. So an ineligible declaration, with all that is declared below it, leaves no trace in the
  result: not in the unit, not in the findings, and not in the error if there is one.
Main exports: PipelineState.recast, Pipeline.perform_run_looksLike,
  Pipeline.ineligible_leaves_no_trace
-/
import RubyBindings.Output.Sink
import RubyBindings.Proofs.BindingTree.Recast
import RubyBindings.Proofs.Library.Ineligible
import RubyBindings.Proofs.Pipeline.StepOrder

namespace RubyBindings

open Attempt (Mirrors)

/-- The same nodes, findings and unit, as the state of a pipeline on another hierarchy. -/
def PipelineState.recast {narrow : Hierarchy} (wide : Hierarchy) (state : PipelineState narrow) :
    PipelineState wide where
  tree := state.tree.recast wide
  session := state.session
  unit := state.unit

section Alike

variable {ω : Type} {narrow wide : Hierarchy} (like : wide.LooksLike narrow)

/-- A step that does the same for both hierarchies, as long as every node stands for an entity. -/
def Step.DoesSame (narrowStep : Step ω narrow) (wideStep : Step ω wide) : Prop :=
  Mirrors (Prod.map (PipelineState.recast wide) id) (fun state => state.1.tree.Grounded) narrowStep
    wideStep

/-! ## The phases -/

namespace Phase

include like

theorem doesSame_build :
    Step.DoesSame (build : Phase ω narrow).run (build : Phase ω wide).run := by
  simp only [Step.DoesSame, build]
  apply ((BindingTree.mirrors_build like BindingTree.root).mapError Report.ofGeneration).within
  · exact fun _ grounded => ⟨grounded, rfl⟩
  · exact fun _ _ grounded _ => ⟨grounded, rfl⟩

theorem doesSame_sort :
    Step.DoesSame (sort : Phase ω narrow).run (sort : Phase ω wide).run := by
  simp only [Step.DoesSame, sort]
  apply ((BindingTree.mirrors_sort like BindingTree.root).mapError Report.ofGeneration).within
  · exact fun _ grounded => ⟨grounded, rfl⟩
  · exact fun _ _ grounded _ => ⟨grounded, rfl⟩

theorem doesSame_emit (layout : UnitLayout) :
    Step.DoesSame (emit layout : Phase ω narrow).run (emit layout : Phase ω wide).run := by
  simp only [Step.DoesSame, emit]
  apply Mirrors.bind
  · apply ((BindingTree.mirrors_render like layout).mapError Report.ofGeneration).within
    · exact fun _ grounded => ⟨grounded, rfl⟩
    · exact fun _ _ grounded _ => ⟨grounded, rfl⟩
  · exact fun unit => .ofModify (fun _ grounded => grounded) fun _ _ => rfl

end Phase

/-! ## The run -/

namespace Pipeline

/-- Without plugins, a phase that does the same is followed by the same check. -/
theorem doesSame_runPhase (layout : UnitLayout) {narrowPhase : Phase ω narrow}
    {widePhase : Phase ω wide} (sameName : widePhase.name = narrowPhase.name)
    (same : Step.DoesSame narrowPhase.run widePhase.run) :
    Step.DoesSame (({ layout } : Pipeline ω narrow).runPhase narrowPhase)
      (({ layout } : Pipeline ω wide).runPhase widePhase) := by
  rw [runPhase, runPhase, sameName]
  refine .bind (.ofPure _) fun _ => .bind (same.mapError _) fun _ => ?_
  refine .bind (.ofPure _) fun _ => .get_bind fun state _ => ?_
  change Mirrors _ _ (if state.1.session.hasErrors = true then _ else _)
    (if state.1.session.hasErrors = true then _ else _)
  split
  · exact .ofThrow _
  · exact .ofPure _

include like

theorem doesSame_allPhases (layout : UnitLayout) :
    Step.DoesSame
      (({ layout } : Pipeline ω narrow).allPhases.forM ({ layout } : Pipeline ω narrow).runPhase)
      (({ layout } : Pipeline ω wide).allPhases.forM ({ layout } : Pipeline ω wide).runPhase) := by
  simp only [Step.DoesSame, allPhases, List.append_nil, List.forM_eq_forM, List.forM_cons,
    List.forM_nil]
  refine .bind (doesSame_runPhase layout rfl (Phase.doesSame_build like)) fun _ => ?_
  refine .bind (doesSame_runPhase layout rfl (Phase.doesSame_sort like)) fun _ => ?_
  refine .bind (doesSame_runPhase layout rfl (Phase.doesSame_emit like layout)) fun _ => ?_
  exact .ofPure _

/-- A pipeline gives the same result for hierarchies that look alike. -/
theorem perform_run_looksLike (layout : UnitLayout) (sink : UnitSink ω) (world : ω) :
    (({ layout } : Pipeline ω wide).run sink).perform world =
      ((({ layout } : Pipeline ω narrow).run sink).perform world).map
        (Except.map (PipelineState.recast wide)) id := by
  have sameMoments := doesSame_allPhases (ω := ω) like layout
  rw [forM_runPhase, forM_runPhase] at sameMoments
  have sameRun : (({ layout } : Pipeline ω wide).moments.forM Moment.step).perform
      (.start wide, world) =
        ((((({ layout } : Pipeline ω narrow).moments.forM Moment.step).perform
            (.start narrow, world)).1),
          Prod.map (PipelineState.recast wide) id
            ((({ layout } : Pipeline ω narrow).moments.forM Moment.step).perform
              (.start narrow, world)).2) :=
    sameMoments.same (.start narrow, world) (.start like.nested.hasRoot)
  rw [perform_run, perform_run, sameRun]
  rcases (({ layout } : Pipeline ω narrow).moments.forM Moment.step).perform (.start narrow, world)
    with ⟨report | success, state, after⟩
  · rfl
  · have sameUnit : (state.recast wide).unit = state.unit := rfl
    have sameName : (state.recast wide).tree.unitName = state.tree.unitName :=
      like.name_eq like.nested.hasRoot
    dsimp only [Prod.map, id]
    rw [sameUnit, sameName]
    cases state.unit with
    | none => rfl
    | some unit =>
        dsimp only
        rcases (sink unit).perform after with ⟨report | accepted, later⟩ <;> rfl

end Pipeline

end Alike

/-! ## Ineligible declarations -/

namespace Pipeline

/-- An ineligible declaration leaves no trace, whatever is declared below it: a run has the same
result, with the same nodes, findings and unit or with the same error, and leaves the same world. -/
theorem ineligible_leaves_no_trace {ω : Type} {library middle after : Library} {scope top : EntityId}
    {declaration : Declaration} (reachable : library.Reachable)
    (declared : library.declare scope declaration = .ok (top, middle))
    (ineligible : declaration.isEligible = false) (below : Library.DeclaredBelow top middle after)
    (layout : UnitLayout) (sink : UnitSink ω) (world : ω) :
    (({ layout } : Pipeline ω after.hierarchy).run sink).perform world =
      ((({ layout } : Pipeline ω library.hierarchy).run sink).perform world).map
        (Except.map (PipelineState.recast after.hierarchy)) id :=
  perform_run_looksLike (below.looksLike reachable declared ineligible) layout sink world

/-- A class that is not public, with a superclass and a header of its own. -/
def hiddenBranch : Declaration where
  kind := .classType
  name := "Hidden"
  superclass := some 3
  header := some "hidden.hpp"
  isPublic := false

/-- A public method with a header of its own. -/
def hiddenMember : Declaration where
  kind := .method
  name := "m"
  header := some "member.hpp"

/-- A library in whose namespace that class is declared. -/
def withHiddenBranch : Library :=
  Library.crossScope.append 1 hiddenBranch "a::Hidden"

/-- The class in that library has that method. -/
def withHiddenMember : Library :=
  withHiddenBranch.append 4 hiddenMember "a::Hidden::m"

/-- Neither the class nor its method, which is public, leaves a trace. -/
theorem hiddenMember_leaves_no_trace :
    Library.crossScope.declare 1 hiddenBranch = .ok (4, withHiddenBranch) ∧
      hiddenBranch.isEligible = false ∧
      Library.DeclaredBelow 4 withHiddenBranch withHiddenMember ∧
      (({} : Pipeline UnitShelf withHiddenMember.hierarchy).run UnitShelf.accept).perform
          UnitShelf.empty =
        ((({} : Pipeline UnitShelf Library.crossScope.hierarchy).run UnitShelf.accept).perform
          UnitShelf.empty).map
            (Except.map (PipelineState.recast withHiddenMember.hierarchy)) id := by
  have declared : Library.crossScope.declare 1 hiddenBranch = .ok (4, withHiddenBranch) := rfl
  have memberDeclared : withHiddenBranch.declare 4 hiddenMember = .ok (5, withHiddenMember) := rfl
  have below : Library.DeclaredBelow 4 withHiddenBranch withHiddenMember :=
    .declare .none .refl memberDeclared
  exact ⟨declared, rfl, below,
    ineligible_leaves_no_trace Library.reachable_crossScope declared rfl below _ _ _⟩

end Pipeline

end RubyBindings
