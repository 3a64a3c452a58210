/-
Module: RubyBindings.Proofs.Source.Depth
Purpose: The depth of source text under construction. A step back at depth zero is lost, so the depth
  is not the number of steps in minus the number of steps back, but what that count exceeds the least
  value it has had. All text is lines at such depths and empty lines. Steps that never go back
  further than they came can be moved one level in as a whole.
Main exports: Source.netDepth, Source.lowestDepth, Source.SourceText.depth_applyAll,
  Source.WrittenLine, Source.linesFrom, Source.text_afterSteps_append,
  Source.linesFrom_nested, Source.text_follows_depth
-/
import Mathlib.Order.Bounds.Basic
import RubyBindings.Proofs.Source.Lines

namespace RubyBindings.Source

open Text (unlines)

/-! ## Counting steps in and back -/

/-- How a step changes the count of levels, if no step back is ever lost. -/
def Edit.change : Edit → Int
  | .indent => 1
  | .dedent => -1
  | .line _ | .lines _ | .blank => 0

/-- Steps in minus steps back. -/
def netDepth : List Edit → Int
  | [] => 0
  | edit :: edits => edit.change + netDepth edits

/-- The least value that the count of levels takes along the way, which begins at zero. -/
def lowestDepth : List Edit → Int
  | [] => 0
  | edit :: edits => min 0 (edit.change + lowestDepth edits)

/-- The count of levels never falls below where it began. -/
def StaysAbove (edits : List Edit) : Prop :=
  ∀ earlier, earlier <+: edits → 0 ≤ netDepth earlier

@[simp] theorem netDepth_nil : netDepth [] = 0 := rfl

@[simp] theorem netDepth_cons (edit : Edit) (edits : List Edit) :
    netDepth (edit :: edits) = edit.change + netDepth edits := rfl

@[simp] theorem netDepth_append (earlier later : List Edit) :
    netDepth (earlier ++ later) = netDepth earlier + netDepth later := by
  induction earlier with
  | nil => simp
  | cons edit earlier ih => rw [List.cons_append, netDepth_cons, netDepth_cons, ih, Int.add_assoc]

theorem lowestDepth_nonpos (edits : List Edit) : lowestDepth edits ≤ 0 := by
  cases edits with
  | nil => exact Int.le_refl 0
  | cons edit edits => exact Int.min_le_left _ _

theorem lowestDepth_le_of_isPrefix {earlier edits : List Edit} (within : earlier <+: edits) :
    lowestDepth edits ≤ netDepth earlier := by
  induction edits generalizing earlier with
  | nil => rw [List.prefix_nil.mp within, lowestDepth, netDepth_nil]
  | cons edit edits ih =>
      rcases List.prefix_cons_iff.mp within with rfl | ⟨rest, rfl, inside⟩
      · exact lowestDepth_nonpos _
      · have behind := ih inside
        rw [lowestDepth, netDepth_cons]
        omega

theorem exists_netDepth_eq_lowestDepth (edits : List Edit) :
    ∃ earlier, earlier <+: edits ∧ netDepth earlier = lowestDepth edits := by
  induction edits with
  | nil => exact ⟨[], List.prefix_refl [], rfl⟩
  | cons edit edits ih =>
      obtain ⟨earlier, within, lowest⟩ := ih
      by_cases falls : edit.change + lowestDepth edits < 0
      · refine ⟨edit :: earlier, List.prefix_cons_inj edit |>.mpr within, ?_⟩
        rw [netDepth_cons, lowestDepth, lowest]
        omega
      · refine ⟨[], List.nil_prefix, ?_⟩
        rw [netDepth_nil, lowestDepth]
        omega

/-- The lowest depth is the least count that is passed. -/
theorem isLeast_lowestDepth (edits : List Edit) :
    IsLeast {count | ∃ earlier, earlier <+: edits ∧ netDepth earlier = count}
      (lowestDepth edits) := by
  refine ⟨exists_netDepth_eq_lowestDepth edits, ?_⟩
  rintro count ⟨earlier, within, rfl⟩
  exact lowestDepth_le_of_isPrefix within

theorem lowestDepth_le_netDepth (edits : List Edit) : lowestDepth edits ≤ netDepth edits :=
  lowestDepth_le_of_isPrefix (List.prefix_refl edits)

theorem StaysAbove.lowestDepth_eq {edits : List Edit} (above : StaysAbove edits) :
    lowestDepth edits = 0 := by
  obtain ⟨earlier, within, lowest⟩ := exists_netDepth_eq_lowestDepth edits
  have reached := above earlier within
  have below := lowestDepth_nonpos edits
  omega

theorem StaysAbove.of_isPrefix {earlier edits : List Edit} (above : StaysAbove edits)
    (within : earlier <+: edits) : StaysAbove earlier :=
  fun first inside => above first (inside.trans within)

theorem staysAbove_indent : StaysAbove [.indent] := by
  intro earlier within
  rcases List.prefix_cons_iff.mp within with rfl | ⟨rest, rfl, inside⟩
  · exact Int.le_refl 0
  · rw [List.prefix_nil.mp inside]
    decide

/-! ## The depth -/

/-- The depth that a list of steps leads to from the start: what the count of levels exceeds the
least value it has had. -/
def depthAfter (edits : List Edit) : Nat :=
  (netDepth edits - lowestDepth edits).toNat

theorem cast_depthAfter (edits : List Edit) :
    (depthAfter edits : Int) = netDepth edits - lowestDepth edits := by
  have above := lowestDepth_le_netDepth edits
  rw [depthAfter]
  omega

namespace SourceText

/-- From any depth, the count goes up and down from there, or from the depth that keeps it from ever
falling below zero. -/
theorem depth_applyAll (source : SourceText) (edits : List Edit) :
    ((source.applyAll edits).depth : Int) =
      netDepth edits + max (source.depth : Int) (-lowestDepth edits) := by
  induction edits generalizing source with
  | nil => simp [applyAll, lowestDepth]
  | cons edit edits ih =>
      have below := lowestDepth_nonpos edits
      have stepped : ((source.apply edit).depth : Int) = max 0 (source.depth + edit.change) := by
        cases edit with
        | line text | blank => exact (Int.max_eq_right (Int.natCast_nonneg _)).symm
        | lines text =>
            rw [apply, lines_eq]
            exact (Int.max_eq_right (Int.natCast_nonneg _)).symm
        | indent | dedent =>
            simp only [apply, indent, dedent, Edit.change]
            omega
      change (((source.apply edit).applyAll edits).depth : Int) = _
      rw [ih, stepped, netDepth_cons, lowestDepth]
      omega

end SourceText

/-- The source text that a list of steps writes from the start. -/
def afterSteps (indentation : Indentation) (edits : List Edit) : SourceText :=
  (SourceText.empty indentation).applyAll edits

variable (indentation : Indentation)

theorem afterSteps_append (earlier later : List Edit) :
    afterSteps indentation (earlier ++ later) =
      (afterSteps indentation earlier).applyAll later :=
  List.foldl_append

theorem depth_afterSteps (edits : List Edit) :
    (afterSteps indentation edits).depth = depthAfter edits := by
  have reached := (SourceText.empty indentation).depth_applyAll edits
  have start : ((SourceText.empty indentation).depth : Int) = 0 := rfl
  have below := lowestDepth_nonpos edits
  have counted := cast_depthAfter edits
  rw [start] at reached
  rw [afterSteps]
  omega

/-- Behind any other steps, steps that never go back further than they came change the depth by
their count. -/
theorem StaysAbove.depthAfter_append {edits : List Edit} (above : StaysAbove edits)
    (earlier : List Edit) :
    (depthAfter (earlier ++ edits) : Int) = depthAfter earlier + netDepth edits := by
  have reached := (afterSteps .cpp earlier).depth_applyAll edits
  rw [← afterSteps_append, depth_afterSteps, depth_afterSteps, above.lowestDepth_eq] at reached
  omega

/-! ## The lines -/

/-- A line as it is written: a text behind some levels of indentation, or nothing. -/
inductive WrittenLine where
  | filled (depth : Nat) (text : String)
  | blank
deriving DecidableEq, Repr

namespace WrittenLine

/-- The characters of a line, its newline included. -/
def spelling (indentation : Indentation) : WrittenLine → String
  | .filled depth text =>
    String.ofList (List.replicate depth indentation.unit).flatten ++ text ++ "\n"
  | .blank => "\n"

/-- The same line one level further in; an empty line stays empty. -/
def deeper : WrittenLine → WrittenLine
  | .filled depth text => .filled (depth + 1) text
  | .blank => .blank

/-- One level more is one more unit in front of the line. -/
theorem spelling_deeper (line : WrittenLine) :
    line.deeper.spelling indentation =
      match line with
      | .filled _ _ => String.ofList indentation.unit ++ line.spelling indentation
      | .blank => line.spelling indentation := by
  cases line with
  | filled depth text => simp [deeper, spelling, List.replicate_succ, String.append_assoc]
  | blank => rfl

end WrittenLine

/-- The lines that one step writes at a depth. -/
def Edit.linesAt (depth : Nat) : Edit → List WrittenLine
  | .line text => [.filled depth text]
  | .lines text =>
    (Text.lines text).map fun line => if line = "" then .blank else .filled depth line
  | .blank => [.blank]
  | .indent | .dedent => []

/-- The lines that steps write when others have come before them: step by step, each at the depth
that the steps before it lead to. -/
def linesFrom (earlier : List Edit) : List Edit → List WrittenLine
  | [] => []
  | edit :: later => edit.linesAt (depthAfter earlier) ++ linesFrom (earlier ++ [edit]) later

/-- Lines one after the other. -/
def spelled (lines : List WrittenLine) : String :=
  String.join (lines.map (WrittenLine.spelling indentation))

@[simp] theorem spelled_nil : spelled indentation [] = "" := rfl

@[simp] theorem spelled_append (front back : List WrittenLine) :
    spelled indentation (front ++ back) =
      spelled indentation front ++ spelled indentation back := by
  simp [spelled]

theorem linesFrom_append (earlier middle later : List Edit) :
    linesFrom earlier (middle ++ later) =
      linesFrom earlier middle ++ linesFrom (earlier ++ middle) later := by
  induction middle generalizing earlier with
  | nil => simp [linesFrom]
  | cons edit middle ih => simp [linesFrom, ih, List.append_assoc]

/-- One step writes its lines at the end, at the depth reached. -/
theorem SourceText.text_apply (source : SourceText) (edit : Edit) :
    (source.apply edit).text =
      source.text ++ spelled source.indentation (edit.linesAt source.depth) := by
  cases edit with
  | line text =>
      simp [apply, line_eq, append, spelled, Edit.linesAt, WrittenLine.spelling, leading,
        Indentation.leading_eq, String.append_assoc]
  | lines text =>
      have one (line : String) :
          (if line = "" then WrittenLine.blank else .filled source.depth line).spelling
            source.indentation = placed source.leading line ++ "\n" := by
        by_cases empty : line = ""
        · simp [empty, placed, WrittenLine.spelling]
        · simp [empty, placed, WrittenLine.spelling, leading, Indentation.leading_eq]
      simp [apply, lines_eq, append, spelled, Edit.linesAt, unlines, Function.comp_def, one]
  | blank => simp [apply, blank_eq, append, spelled, Edit.linesAt, WrittenLine.spelling]
  | indent | dedent => simp [apply, indent, dedent, Edit.linesAt]

theorem SourceText.indentation_applyAll (source : SourceText) (edits : List Edit) :
    (source.applyAll edits).indentation = source.indentation := by
  induction edits generalizing source with
  | nil => rfl
  | cons edit edits ih =>
      refine (ih (source.apply edit)).trans ?_
      cases edit with
      | lines text => rw [apply, lines_eq, append]
      | line text | blank | indent | dedent => rfl

theorem indentation_afterSteps (edits : List Edit) :
    (afterSteps indentation edits).indentation = indentation :=
  SourceText.indentation_applyAll _ edits

/-- Further steps only add their lines at the end. -/
theorem text_afterSteps_append (earlier later : List Edit) :
    (afterSteps indentation (earlier ++ later)).text =
      (afterSteps indentation earlier).text ++ spelled indentation (linesFrom earlier later) := by
  induction later generalizing earlier with
  | nil => simp [linesFrom]
  | cons edit later ih =>
      have stepped : (afterSteps indentation (earlier ++ [edit])).text =
          (afterSteps indentation earlier).text ++
            spelled indentation (edit.linesAt (depthAfter earlier)) := by
        rw [afterSteps_append]
        refine (SourceText.text_apply _ edit).trans ?_
        rw [indentation_afterSteps, depth_afterSteps]
      rw [List.append_cons, ih, stepped, linesFrom, spelled_append, String.append_assoc]

/-! ## Moving steps one level in -/

/-- Behind a step in, steps that never go back further than they came write the same lines, one
level further in. -/
theorem linesFrom_indent {edits : List Edit} (above : StaysAbove edits) (earlier : List Edit) :
    linesFrom (earlier ++ [.indent]) edits = (linesFrom earlier edits).map WrittenLine.deeper := by
  -- Along the steps: both runs have the same steps behind them, but for the step in.
  have along (rest : List Edit) : ∀ done, StaysAbove (done ++ rest) →
      linesFrom (earlier ++ [.indent] ++ done) rest =
        (linesFrom (earlier ++ done) rest).map WrittenLine.deeper := by
    induction rest with
    | nil => exact fun _ _ => rfl
    | cons edit rest ih =>
        intro done above
        have doneAbove : StaysAbove done := above.of_isPrefix (List.prefix_append _ _)
        have deeper : depthAfter (earlier ++ [.indent] ++ done) = depthAfter (earlier ++ done) + 1 := by
          have inner := doneAbove.depthAfter_append (earlier ++ [.indent])
          have outer := doneAbove.depthAfter_append earlier
          have step := staysAbove_indent.depthAfter_append earlier
          simp only [netDepth_cons, netDepth_nil, Edit.change] at step
          omega
        have first : edit.linesAt (depthAfter (earlier ++ done) + 1) =
            (edit.linesAt (depthAfter (earlier ++ done))).map WrittenLine.deeper := by
          cases edit with
          | lines text =>
              simp only [Edit.linesAt, List.map_map]
              apply List.map_congr_left
              intro line _
              by_cases empty : line = "" <;> simp [empty, WrittenLine.deeper]
          | line text | blank | indent | dedent => rfl
        have behind := ih (done ++ [edit]) (by simpa using above)
        simp only [← List.append_assoc] at behind
        rw [linesFrom, linesFrom, List.map_append, deeper, first, behind]
  simpa using along edits [] above

/-- Steps between a step in and a step back write the same lines, one level further in. -/
theorem linesFrom_nested {edits : List Edit} (above : StaysAbove edits) (earlier : List Edit) :
    linesFrom earlier (.indent :: edits ++ [.dedent]) =
      (linesFrom earlier edits).map WrittenLine.deeper := by
  rw [List.cons_append, linesFrom, linesFrom_append, linesFrom_indent above earlier]
  simp [linesFrom, Edit.linesAt]

/-- The step back leads to the depth without either of the two. -/
theorem depthAfter_nested {edits : List Edit} (above : StaysAbove edits) (earlier : List Edit) :
    depthAfter (earlier ++ (.indent :: edits ++ [.dedent])) = depthAfter (earlier ++ edits) := by
  have whole : StaysAbove (.indent :: edits ++ [.dedent]) := by
    intro front within
    rcases List.prefix_concat_iff.mp within with rfl | inside
    · have ends := above edits (List.prefix_refl edits)
      simp only [List.cons_append, netDepth_cons, netDepth_append, netDepth_nil, Edit.change]
      omega
    · rcases List.prefix_cons_iff.mp inside with rfl | ⟨rest, rfl, behind⟩
      · exact Int.le_refl 0
      · have reached := above rest behind
        simp only [netDepth_cons, Edit.change]
        omega
  have wrapped := whole.depthAfter_append earlier
  have plain := above.depthAfter_append earlier
  simp only [List.cons_append, netDepth_cons, netDepth_append, netDepth_nil, Edit.change] at wrapped
  simp only [List.cons_append]
  omega

/-! ## All of it -/

/-- How source text comes from the steps that write it. -/
structure FollowsDepth (edits : List Edit) : Prop where
  /-- In front of a line stands one unit for each level, -/
  leading : ∀ depth,
    indentation.leading depth = (List.replicate depth indentation.unit).flatten
  /-- which is a number of spaces or a tab. -/
  spaces : ∀ width, indentation = .spaces width → indentation.unit = List.replicate width ' '
  tab : indentation = .tab → indentation.unit = ['\t']
  /-- The least count of levels that has been passed, which is never above zero. -/
  lowest : lowestDepth edits ≤ 0 ∧
    IsLeast {count | ∃ earlier, earlier <+: edits ∧ netDepth earlier = count} (lowestDepth edits)
  /-- The depth is what the count exceeds its least value. -/
  depth : ((afterSteps indentation edits).depth : Int) = netDepth edits - lowestDepth edits
  /-- The text is the lines of all steps in order, each at the depth of the steps before it. -/
  text : (afterSteps indentation edits).text = spelled indentation (linesFrom [] edits)
  /-- Every intermediate text is how the whole text begins. -/
  grows : ∀ earlier, earlier <+: edits →
    (afterSteps indentation earlier).text.toList <+: (afterSteps indentation edits).text.toList
  /-- Between a step in and a step back, further steps add the same lines one level further in, and
  end at the same depth. -/
  nested : ∀ inner, StaysAbove inner →
    (afterSteps indentation (edits ++ inner)).text =
        (afterSteps indentation edits).text ++ spelled indentation (linesFrom edits inner) ∧
      (afterSteps indentation (edits ++ (.indent :: inner ++ [.dedent]))).text =
        (afterSteps indentation edits).text ++
          spelled indentation ((linesFrom edits inner).map WrittenLine.deeper) ∧
      (afterSteps indentation (edits ++ (.indent :: inner ++ [.dedent]))).depth =
        (afterSteps indentation (edits ++ inner)).depth
  /-- One level further in is one more unit in front of a line, and nothing in front of an empty
  one. -/
  unit : ∀ line : WrittenLine, line.deeper.spelling indentation =
    match line with
    | .filled _ _ => String.ofList indentation.unit ++ line.spelling indentation
    | .blank => line.spelling indentation

/-- Whatever steps are made, and however many steps back are lost, the text follows the depth. -/
theorem text_follows_depth (edits : List Edit) : FollowsDepth indentation edits where
  leading := indentation.leading_eq
  spaces := by
    rintro width rfl
    rfl
  tab := by
    rintro rfl
    rfl
  lowest := ⟨lowestDepth_nonpos edits, isLeast_lowestDepth edits⟩
  depth := by rw [depth_afterSteps, cast_depthAfter]
  text := by
    have written := text_afterSteps_append indentation [] edits
    simpa [afterSteps, SourceText.applyAll, SourceText.empty] using written
  grows := by
    rintro earlier ⟨later, rfl⟩
    rw [text_afterSteps_append, String.toList_append]
    exact List.prefix_append _ _
  nested := by
    intro inner above
    refine ⟨text_afterSteps_append indentation edits inner, ?_, ?_⟩
    · rw [text_afterSteps_append, linesFrom_nested above]
    · rw [depth_afterSteps, depth_afterSteps, depthAfter_nested above]
  unit := WrittenLine.spelling_deeper indentation

/-- Two of three steps back are lost, and the line stands one level in. -/
example :
    afterSteps .compact [.dedent, .indent, .dedent, .dedent, .indent, .lines "a\n\nb"] =
      { indentation := .compact, depth := 1, text := "  a\n\n  b\n" } := by decide

end RubyBindings.Source
