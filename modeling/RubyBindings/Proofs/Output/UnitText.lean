/-
Module: RubyBindings.Proofs.Output.UnitText
Purpose: The text of a unit in one file: a head that ends where the initialiser opens, the
  registrations, and the brace that closes it. The head knows neither the registrations nor the
  indentation. Each line of the registrations stands on a line of its own, behind one unit of
  indentation unless it is empty, so that the lines can be read back.
Main exports: UnitStyle.sections, UnitStyle.opening, UnitStyle.head, UnitStyle.body,
  UnitStyle.render_eq, UnitStyle.unplaced, UnitStyle.ReadsBack, UnitStyle.unit_reads_back
-/
import RubyBindings.Output.SourceUnit
import RubyBindings.Proofs.Source.Lines

namespace RubyBindings

open Naming (variableName)
open Source (Indentation SourceText placed)
open Text (unlines IsLine)

namespace Source.SourceText

variable (source : SourceText)

/-- Several texts are written line by line, one text after the other. -/
theorem allLines_eq (texts : List String) :
    source.allLines texts =
      source.append (unlines ((texts.flatMap Text.lines).map (placed source.leading))) := by
  rw [allLines]
  induction texts generalizing source with
  | nil => simp
  | cons text texts ih =>
      rw [List.foldl_cons, ih, lines_eq]
      simp

/-- An empty line stands behind a section that is not empty. -/
theorem closeSection_eq (texts : List String) :
    source.closeSection texts = source.append (if texts.isEmpty then "" else "\n") := by
  rw [closeSection]
  split <;> simp [blank_eq]

theorem leading_empty (indentation : Indentation) : (empty indentation).leading = "" := by
  simp [leading, empty, Indentation.leading_eq]

theorem leading_indent_empty (indentation : Indentation) (text : String) :
    (((empty indentation).append text).indent).leading = String.ofList indentation.unit := by
  simp [leading, indent, append, empty, Indentation.leading_eq]

theorem dedent_append_indent (text : String) :
    (source.indent.append text).dedent = source.append text := rfl

end Source.SourceText

namespace UnitStyle

/-! ## Parts of a unit -/

/-- The text in front of a unit: the lines of the root's own text and an empty line. -/
def bannerText (preamble : String) : String :=
  if preamble = "" then "" else unlines (Text.lines preamble) ++ "\n"

/-- The empty line behind a section. -/
def gap (texts : List String) : String :=
  if texts.isEmpty then "" else "\n"

/-- What stands in front of the initialiser: banner, includes and declarations. -/
def sections (banner : Bool) (preamble : String) (includes declarations : List String) : String :=
  (if banner then bannerText preamble else "") ++
    unlines includes ++ gap includes ++
    unlines (declarations.flatMap Text.lines) ++ gap declarations

/-- The first lines of an initialiser that is named `Init_` and then `name`, up to the brace that
opens it. -/
def opening (name : String) : String :=
  unlines ["extern \"C\"", "void Init_" ++ name ++ "()", "\x7b"]

/-- A unit up to the brace that opens the initialiser. -/
def head (banner : Bool) (unitName preamble : String) (includes declarations : List String) :
    String :=
  sections banner preamble includes declarations ++ opening (variableName unitName)

/-- The inside of the initialiser: the lines of all registrations, each behind `unit`. -/
def body (unit : String) (registrations : List String) : String :=
  unlines ((registrations.flatMap Text.lines).map (placed unit))

/-- One level of indentation as a text. -/
def unit (style : UnitStyle) : String :=
  String.ofList style.indentation.unit

theorem writeBanner_eq (style : UnitStyle) (preamble : String) (indentation : Indentation) :
    style.writeBanner preamble (SourceText.empty indentation) =
      (SourceText.empty indentation).append
        (if style.banner then bannerText preamble else "") := by
  by_cases banner : style.banner = true <;> by_cases nothing : preamble = "" <;>
    simp [writeBanner, bannerText, banner, nothing, SourceText.lines_eq, SourceText.blank_eq,
      SourceText.leading_empty]

/-- A unit is its head, the registrations and a closing brace. -/
theorem render_eq (style : UnitStyle) (unitName preamble : String) (fragments : Fragments) :
    style.render unitName preamble fragments =
      head style.banner unitName preamble fragments.includes fragments.declarations ++
        body style.unit fragments.registrations ++ "\x7d\n" := by
  -- The head is written at depth zero, and the registrations one level deeper.
  simp only [render, writeBanner_eq, SourceText.foldl_line_eq, SourceText.closeSection_eq,
    SourceText.allLines_eq, SourceText.append_append, SourceText.leading_append,
    SourceText.leading_empty]
  simp only [SourceText.line_eq, SourceText.append_append, SourceText.leading_append,
    SourceText.leading_empty, SourceText.leading_indent_empty, SourceText.dedent_append_indent]
  simp [SourceText.append, SourceText.empty, head, sections, opening, body, unit, gap,
    String.append_assoc]

/-! ## Reading a unit back -/

/-- A line without the unit of indentation in front of it; an empty line has none. -/
def unplaced (unit line : String) : String :=
  if line = "" then "" else String.ofList (line.toList.drop unit.toList.length)

theorem unplaced_placed (unit line : String) : unplaced unit (placed unit line) = line := by
  by_cases empty : line = ""
  · simp [placed, unplaced, empty]
  · simp [placed, unplaced, empty]

/-- What the registrations are written as is a line, if they have no carriage returns. -/
theorem isLine_of_placed {style : UnitStyle} {registrations : List String}
    (plain : ∀ text ∈ registrations, '\r' ∉ text.toList) :
    ∀ line ∈ (registrations.flatMap Text.lines).map (placed style.unit), IsLine line.toList := by
  intro line member
  obtain ⟨bare, within, rfl⟩ := List.mem_map.mp member
  obtain ⟨text, registered, within⟩ := List.mem_flatMap.mp within
  obtain ⟨characters, read, rfl⟩ := List.mem_map.mp within
  have noNewline := Text.newline_not_mem_lineList read
  have noReturn : '\r' ∉ characters :=
    fun inside => plain text registered (Text.mem_of_mem_lineList read inside)
  have noneInUnit : '\n' ∉ style.indentation.unit ∧ '\r' ∉ style.indentation.unit := by
    cases style.indentation <;> simp [Indentation.unit, List.mem_replicate]
  apply Text.isLine_of_not_mem <;> rw [placed] <;> split <;>
    simp [unit, noNewline, noReturn, noneInUnit]

/-- A unit that can be read back: between its head and the closing brace stand whole lines, those
of the registrations in order, with one unit of indentation in front of each that is not empty. -/
structure ReadsBack (style : UnitStyle) (unitName preamble : String) (fragments : Fragments)
    (inside : String) : Prop where
  text_eq : style.render unitName preamble fragments =
    head style.banner unitName preamble fragments.includes fragments.declarations ++ inside ++
      "\x7d\n"
  whole : unlines (Text.lines inside) = inside
  indented : ∀ line ∈ Text.lines inside, line ≠ "" → style.unit.toList <+: line.toList
  lines_eq : Text.lines inside =
    (fragments.registrations.flatMap Text.lines).map (placed style.unit)
  readBack : (Text.lines inside).map (unplaced style.unit) =
    fragments.registrations.flatMap Text.lines

/-- Registrations without carriage returns can be read back from the body. -/
theorem readsBack_body (style : UnitStyle) (unitName preamble : String) {fragments : Fragments}
    (plain : ∀ text ∈ fragments.registrations, '\r' ∉ text.toList) :
    style.ReadsBack unitName preamble fragments (body style.unit fragments.registrations) := by
  have lines_eq : Text.lines (body style.unit fragments.registrations) =
      (fragments.registrations.flatMap Text.lines).map (placed style.unit) :=
    Text.lines_unlines (isLine_of_placed plain)
  refine ⟨render_eq style unitName preamble fragments, ?_, ?_, lines_eq, ?_⟩
  · rw [lines_eq]
    rfl
  · intro line member nonempty
    rw [lines_eq] at member
    obtain ⟨bare, -, rfl⟩ := List.mem_map.mp member
    by_cases empty : bare = ""
    · exact absurd (by simp [placed, empty]) nonempty
    · simp [placed, empty]
  · rw [lines_eq, List.map_map]
    simp [Function.comp_def, unplaced_placed]

/-- Every unit can be read back, whatever its style is. Another indentation only changes the unit in
front of the same lines, and a banner is only put in front of the same text. -/
theorem unit_reads_back (style : UnitStyle) (unitName preamble : String) (fragments : Fragments)
    (plain : ∀ text ∈ fragments.registrations, '\r' ∉ text.toList) :
    (∃ inside, style.ReadsBack unitName preamble fragments inside) ∧
      (∀ indentation : Indentation, { style with indentation }.render unitName preamble fragments =
        head style.banner unitName preamble fragments.includes fragments.declarations ++
          unlines ((fragments.registrations.flatMap Text.lines).map
            (placed (String.ofList indentation.unit))) ++ "\x7d\n") ∧
      { style with banner := true }.render unitName preamble fragments =
        bannerText preamble ++
          { style with banner := false }.render unitName preamble fragments := by
  refine ⟨⟨_, style.readsBack_body unitName preamble plain⟩, ?_, ?_⟩
  · intro indentation
    exact render_eq { style with indentation } unitName preamble fragments
  · simp [render_eq, head, sections, unit, String.append_assoc]

/-- Fragments with lines of their own: two texts of two lines each, an empty line, and a line that
is indented already. -/
def indentedFragments : Fragments where
  includes := ["#include <rice/rice.hpp>"]
  declarations := ["typedef int (*f_0_type)(int);"]
  registrations := ["Rice::define_enum<E>(\"E\")\n    .define_value(\"A\", E::A);", "\n\nf();\n"]

/-- The lines of these fragments can be read back behind tabs. -/
theorem unit_reads_back_indented :
    (∀ text ∈ indentedFragments.registrations, '\r' ∉ text.toList) ∧
      ∃ inside, ReadsBack { indentation := .tab } "shapes" "// banner\n" indentedFragments inside ∧
        (Text.lines inside).map (unplaced "\t") =
          ["Rice::define_enum<E>(\"E\")", "    .define_value(\"A\", E::A);", "", "", "f();"] := by
  have plain : ∀ text ∈ indentedFragments.registrations, '\r' ∉ text.toList := by decide
  obtain ⟨⟨inside, readsBack⟩, -, -⟩ :=
    unit_reads_back { indentation := .tab } "shapes" "// banner\n" indentedFragments plain
  exact ⟨plain, inside, readsBack, readsBack.readBack.trans (by decide)⟩

end UnitStyle

end RubyBindings
