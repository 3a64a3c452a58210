/-
Module: RubyBindings.Proofs.Output.InitializerName
Purpose: What the name of an initialiser is made of. Variable names put one underscore for each run
  of markers and keep everything else, so they are settled after one substitution, and identifiers
  are settled from the start. A unit is only rendered under an identifier, so its initialiser is
  named after the unit as it is.
Main exports: Naming.CollapsesRuns, Naming.collapsesRuns, BindingTree.unit_of_render,
  BindingTree.NamesInitializer, variable_names_collapse_runs
-/
import RubyBindings.Proofs.BindingTree.Calls
import RubyBindings.Proofs.Naming.MarkerRuns
import RubyBindings.Proofs.Output.UnitText

namespace RubyBindings

open Naming

/-! ## Variable names -/

/-- The variable name of any text: it can be read into markers and plain characters; however it is
read, its plain characters are kept and each run of markers is replaced as a whole; and a second
substitution changes nothing. -/
structure Naming.CollapsesRuns (name : String) : Prop where
  reads : ∃ pieces, Reads name.toList pieces
  collapsed : ∀ pieces, Reads name.toList pieces →
    variableName name = String.ofList ((runs pieces).flatMap runText)
  settled : variableName (variableName name) = variableName name

theorem Naming.collapsesRuns (name : String) : CollapsesRuns name where
  reads := exists_reads name.toList
  collapsed := by
    intro pieces reads
    rw [variableName, variableNameList, reads.variableNameFrom_eq_runs]
  settled := variableName_variableName name

namespace BindingTree

open UnitStyle (sections opening body)

variable {hierarchy : Hierarchy} {tree after : BindingTree hierarchy} {unit : SourceUnit}

/-! ## Rendered units -/

/-- A unit has the name of the tree, and a layout makes its text from the fragments of the root. -/
theorem unit_of_render {layout : UnitLayout}
    (rendered : (render layout).perform tree = (.ok unit, after)) :
    ∃ preamble, after.emit root = .ok preamble ∧
      unit = { name := tree.unitName
               content := layout.render tree.unitName preamble (after.node root).fragments } := by
  obtain ⟨named, processed⟩ := process_of_render rendered
  simp only [render, Attempt.perform_bind, Attempt.perform_get, Attempt.perform_ofExcept,
    Attempt.perform_pure, named, processed] at rendered
  cases emitted : after.emit root with
  | error error =>
      rw [emitted] at rendered
      cases rendered
  | ok preamble =>
      rw [emitted] at rendered
      cases rendered
      exact ⟨preamble, rfl, rfl⟩

theorem isIdentifier_of_requireUnitName (named : tree.requireUnitName = .ok ()) :
    IsIdentifier tree.unitName := by
  apply isIdentifier_iff.mp
  rw [requireUnitName] at named
  cases fault : identifierFault? tree.unitName with
  | none => rfl
  | some fault =>
      rw [fault] at named
      cases named

/-- A unit with an initialiser that is named after it: behind the sections, `Init_` and the name of
the unit itself. -/
def NamesInitializer (tree after : BindingTree hierarchy) (style : UnitStyle)
    (unit : SourceUnit) : Prop :=
  unit.name = tree.unitName ∧ ∃ preamble,
    let fragments := (after.node root).fragments
    unit.content =
      sections style.banner preamble fragments.includes fragments.declarations ++
        opening unit.name ++ body style.unit fragments.registrations ++ "\x7d\n"

theorem namesInitializer {style : UnitStyle}
    (rendered : (render style.singleFile).perform tree = (.ok unit, after)) :
    NamesInitializer tree after style unit := by
  have identifier := isIdentifier_of_requireUnitName (process_of_render rendered).1
  obtain ⟨preamble, -, rfl⟩ := unit_of_render rendered
  refine ⟨rfl, preamble, ?_⟩
  have kept := variableName_identifier identifier
  simp [UnitStyle.singleFile, UnitStyle.render_eq, UnitStyle.head, kept]

end BindingTree

open BindingTree

/-- Variable names collapse runs of markers. So scope operators between identifiers become single
underscores, an identifier is kept, and every rendered unit has an initialiser of its own name. -/
theorem variable_names_collapse_runs :
    (∀ name, CollapsesRuns name) ∧
      (∀ names : List String, names ≠ [] → (∀ name ∈ names, IsIdentifier name) →
        variableName ("::".intercalate names) = "_".intercalate names ∧
          IsIdentifier ("_".intercalate names)) ∧
      (∀ name, IsIdentifier name → variableName name = name) ∧
      (∀ {hierarchy : Hierarchy} (tree after : BindingTree hierarchy) (style : UnitStyle)
        (unit : SourceUnit), (render style.singleFile).perform tree = (.ok unit, after) →
          NamesInitializer tree after style unit) := by
  refine ⟨collapsesRuns, ?_, ?_, ?_⟩
  · exact fun names nonempty identifiers => variableName_intercalate nonempty identifiers
  · exact fun name identifier => variableName_identifier identifier
  · exact fun tree after style unit rendered => namesInitializer rendered

/-- Three colons are a scope operator and a plain colon; brackets and stars share an underscore. -/
example : variableName "A:::B<C**>::d_*" = "A_:B_C_ptr_ptr_d__ptr_" := by decide

/-- A qualified name, and the unit of a library with an overloaded function. -/
theorem variable_names_collapse_runs_overloadedArea :
    (∀ name ∈ ["geo", "Shape"], IsIdentifier name) ∧
      variableName ("::".intercalate ["geo", "Shape"]) = "_".intercalate ["geo", "Shape"] ∧
      ∃ unit after, (render ({} : UnitStyle).singleFile).perform overloadedAreaSorted =
          (.ok unit, after) ∧
        NamesInitializer overloadedAreaSorted after {} unit := by
  have identifiers : ∀ name ∈ ["geo", "Shape"], IsIdentifier name := by
    intro name member
    apply isIdentifier_iff.mp
    revert name
    decide
  have qualified := variable_names_collapse_runs.2.1 ["geo", "Shape"] (by decide) identifiers
  have success : ((render ({} : UnitStyle).singleFile).perform overloadedAreaSorted).1.isOk = true := by
    decide
  rcases rendered : (render ({} : UnitStyle).singleFile).perform overloadedAreaSorted with
    ⟨error | unit, after⟩
  · rw [rendered] at success
    cases success
  · exact ⟨identifiers, qualified.1, unit, after, rfl,
      variable_names_collapse_runs.2.2.2 overloadedAreaSorted after {} unit rendered⟩

end RubyBindings
