/-
Module: RubyBindings.Proofs.Source.Lines
Purpose: The lines of a text, and source text as what is written line by line. Lines that are put
  together with newlines can be told apart again. Every way of writing source text adds whole lines
  at the end and changes nothing else, each line behind the indentation of the current depth.
Main exports: Text.unlines, Text.lines_unlines, Source.Indentation.unit,
  Source.Indentation.leading_eq, Source.placed, Source.SourceText.append, Source.SourceText.lines_eq,
  Source.SourceText.foldl_line_eq
-/
import RubyBindings.Source.SourceText

namespace RubyBindings.Text

/-! ## Reading lines -/

/-- A line that a text can show as it is: no newline is in it, and no carriage return ends it. -/
def IsLine (line : List Char) : Prop :=
  '\n' ∉ line ∧ line.getLast? ≠ some '\r'

theorem IsLine.tail {character : Char} {line : List Char} (isLine : IsLine (character :: line)) :
    IsLine line := by
  obtain ⟨noNewline, noReturn⟩ := isLine
  refine ⟨fun member => noNewline (List.mem_cons_of_mem _ member), ?_⟩
  intro last
  apply noReturn
  rw [List.getLast?_cons, last]
  rfl

/-- A line without line ends in it is one, also if a carriage return could not be read back. -/
theorem isLine_of_not_mem {line : List Char} (noNewline : '\n' ∉ line) (noReturn : '\r' ∉ line) :
    IsLine line :=
  ⟨noNewline, fun last => noReturn (List.mem_of_getLast? last)⟩

/-- A character that ends no line is read into the line that follows. -/
theorem lineList_cons {character : Char} {rest line : List Char} {more : List (List Char)}
    (notNewline : character ≠ '\n') (notReturn : character = '\r' → rest.head? ≠ some '\n')
    (follows : lineList rest = line :: more) :
    lineList (character :: rest) = (character :: line) :: more := by
  rw [lineList]
  · rw [follows]
  · exact notNewline
  · rintro tail rfl rfl
    exact notReturn rfl rfl

/-- A line is read up to its newline. -/
theorem lineList_append {line : List Char} (isLine : IsLine line) (rest : List Char) :
    lineList (line ++ '\n' :: rest) = line :: lineList rest := by
  induction line with
  | nil => simp [lineList]
  | cons character line ih =>
      apply lineList_cons _ _ (ih isLine.tail)
      · rintro rfl
        exact isLine.1 List.mem_cons_self
      · rintro rfl newline
        cases line with
        | nil => exact isLine.2 rfl
        | cons other line =>
            cases newline
            exact isLine.1 (List.mem_cons_of_mem _ List.mem_cons_self)

/-- What is read into lines was there before. -/
theorem mem_of_mem_lineList {text line : List Char} (member : line ∈ lineList text)
    {character : Char} (within : character ∈ line) : character ∈ text := by
  induction text using lineList.induct generalizing line with
  | case1 => cases member
  | case2 rest ih =>
      rcases List.mem_cons.mp member with rfl | behind
      · cases within
      · exact List.mem_cons_of_mem _ (ih behind within)
  | case3 rest ih =>
      rcases List.mem_cons.mp member with rfl | behind
      · cases within
      · exact List.mem_cons_of_mem _ (List.mem_cons_of_mem _ (ih behind within))
  | case4 first rest notNewline notReturn nothing ih =>
      rw [lineList, nothing] at member
      · cases List.mem_singleton.mp member
        cases List.mem_singleton.mp within
        exact List.mem_cons_self
      · exact notNewline
      · exact notReturn
  | case5 first rest notNewline notReturn front more follows ih =>
      rw [lineList, follows] at member
      · rcases List.mem_cons.mp member with rfl | behind
        · rcases List.mem_cons.mp within with rfl | inside
          · exact List.mem_cons_self
          · exact List.mem_cons_of_mem _ (ih (follows ▸ List.mem_cons_self) inside)
        · exact List.mem_cons_of_mem _ (ih (follows ▸ List.mem_cons_of_mem _ behind) within)
      · exact notNewline
      · exact notReturn

/-- No newline is left in a line. -/
theorem newline_not_mem_lineList {text line : List Char} (member : line ∈ lineList text) :
    '\n' ∉ line := by
  induction text using lineList.induct generalizing line with
  | case1 => cases member
  | case2 rest ih | case3 rest ih =>
      rcases List.mem_cons.mp member with rfl | behind
      · exact List.not_mem_nil
      · exact ih behind
  | case4 first rest notNewline notReturn nothing ih =>
      rw [lineList, nothing] at member
      · cases List.mem_singleton.mp member
        simpa using fun same => notNewline same.symm
      · exact notNewline
      · exact notReturn
  | case5 first rest notNewline notReturn front more follows ih =>
      rw [lineList, follows] at member
      · rcases List.mem_cons.mp member with rfl | behind
        · simp only [List.mem_cons, not_or]
          exact ⟨fun same => notNewline same.symm, ih (follows ▸ List.mem_cons_self)⟩
        · exact ih (follows ▸ List.mem_cons_of_mem _ behind)
      · exact notNewline
      · exact notReturn

/-! ## Putting lines together -/

/-- Lines put together to a text, each with its newline. -/
def unlines (lines : List String) : String :=
  String.join (lines.map (· ++ "\n"))

@[simp] theorem unlines_nil : unlines [] = "" := rfl

@[simp] theorem unlines_cons (line : String) (lines : List String) :
    unlines (line :: lines) = line ++ "\n" ++ unlines lines := by
  simp [unlines]

@[simp] theorem unlines_append (front back : List String) :
    unlines (front ++ back) = unlines front ++ unlines back := by
  simp [unlines]

/-- Lines can be told apart in a text that they are put together to. -/
theorem lines_unlines {texts : List String} (isLine : ∀ text ∈ texts, IsLine text.toList) :
    lines (unlines texts) = texts := by
  induction texts with
  | nil => rfl
  | cons text texts ih =>
      obtain ⟨own, others⟩ := List.forall_mem_cons.mp isLine
      have split : (text ++ "\n" ++ unlines texts).toList =
          text.toList ++ '\n' :: (unlines texts).toList := by simp
      have behind := ih others
      rw [lines] at behind
      rw [lines, unlines_cons, split, lineList_append own, List.map_cons, behind,
        String.ofList_toList]

end RubyBindings.Text

namespace RubyBindings.Source

open Text (unlines unlines_nil unlines_cons)

/-! ## Writing lines -/

/-- A line of a longer text as it is written behind some indentation; an empty line stays empty. -/
def placed (leading line : String) : String :=
  if line = "" then "" else leading ++ line

/-- Behind no indentation a line is written as it is. -/
@[simp] theorem placed_nothing : placed "" = id := by
  funext line
  by_cases empty : line = "" <;> simp [placed, empty]

/-- What one level is written with: a number of spaces, or a tab. -/
def Indentation.unit : Indentation → List Char
  | .spaces width => List.replicate width ' '
  | .tab => ['\t']

/-- In front of a line stands one unit for each level. -/
theorem Indentation.leading_eq (indentation : Indentation) (depth : Nat) :
    indentation.leading depth = (List.replicate depth indentation.unit).flatten := by
  cases indentation with
  | spaces width => simp [leading, unit, Nat.mul_comm]
  | tab => simp [leading, unit]

namespace SourceText

/-- Put text at the end. -/
def append (source : SourceText) (text : String) : SourceText :=
  { source with text := source.text ++ text }

variable (source : SourceText)

@[simp] theorem append_append (first second : String) :
    (source.append first).append second = source.append (first ++ second) := by
  simp [append, String.append_assoc]

@[simp] theorem append_nothing : source.append "" = source := by
  simp [append]

@[simp] theorem leading_append (text : String) :
    (source.append text).leading = source.leading := rfl

theorem line_eq (text : String) :
    source.line text = source.append (source.leading ++ text ++ "\n") := by
  simp [line, append, String.append_assoc]

theorem blank_eq : source.blank = source.append "\n" := rfl

theorem lineOrBlank_eq (text : String) :
    source.lineOrBlank text = source.append (placed source.leading text ++ "\n") := by
  by_cases empty : text = "" <;> simp [lineOrBlank, placed, empty, line_eq, blank_eq]

/-- Each line of a longer text is written behind the indentation, unless it is empty. -/
theorem lines_eq (text : String) :
    source.lines text =
      source.append (unlines ((Text.lines text).map (placed source.leading))) := by
  have written (texts : List String) : texts.foldl lineOrBlank source =
      source.append (unlines (texts.map (placed source.leading))) := by
    induction texts generalizing source with
    | nil => simp
    | cons text texts ih => simp [lineOrBlank_eq, ih]
  exact written (Text.lines text)

/-- Texts that are written as one line each. -/
theorem foldl_line_eq (texts : List String) :
    texts.foldl (fun source text => source.line text) source =
      source.append (unlines (texts.map (source.leading ++ ·))) := by
  induction texts generalizing source with
  | nil => simp
  | cons text texts ih =>
      rw [List.foldl_cons, ih, line_eq]
      simp

end SourceText

end RubyBindings.Source
