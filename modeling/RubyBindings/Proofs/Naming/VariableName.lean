/-
Module: RubyBindings.Proofs.Naming.VariableName
Purpose: Identifiers and the variable names that are made from them. An identifier holds no marker,
  so it is its own variable name, and a scope operator in front of it becomes one underscore.
Main exports: Naming.IsIdentifier, Naming.Declarable, Naming.variableName_identifier,
  Naming.variableName_scoped, Naming.append_cons_inj
-/
import RubyBindings.Naming.Identifier
import RubyBindings.Naming.VariableName
import Mathlib.Data.List.Basic

namespace RubyBindings.Naming

/-! ## Identifiers -/

/-- A name that is spelled as an identifier: a letter or underscore, and then letters, digits and
underscores. -/
structure IsIdentifier (name : String) : Prop where
  start : ∃ first rest, name.toList = first :: rest ∧ startsIdentifier first = true
  continues : ∀ character ∈ name.toList, continuesIdentifier character = true

theorem continuesIdentifier_of_starts {character : Char}
    (starts : startsIdentifier character = true) : continuesIdentifier character = true := by
  simp only [startsIdentifier, continuesIdentifier, Char.isAlphanum, Bool.or_eq_true] at starts ⊢
  exact starts.imp_left Or.inl

theorem isIdentifier_iff {name : String} : identifierFault? name = none ↔ IsIdentifier name := by
  rw [identifierFault?]
  cases spelled : name.toList with
  | nil =>
      refine iff_of_false nofun fun identifier => ?_
      obtain ⟨first, rest, shape, -⟩ := identifier.start
      rw [spelled] at shape
      cases shape
  | cons first rest =>
      rw [identifierListFault?]
      constructor
      · intro sound
        split at sound
        · rename_i starts
          split at sound
          · rename_i continues
            refine ⟨⟨first, rest, spelled, starts⟩, ?_⟩
            rw [spelled, List.forall_mem_cons]
            exact ⟨continuesIdentifier_of_starts starts, List.all_eq_true.mp continues⟩
          · cases sound
        · cases sound
      · intro identifier
        obtain ⟨other, tail, shape, starts⟩ := identifier.start
        have continues := identifier.continues
        rw [spelled] at shape continues
        cases shape
        rw [if_pos starts, if_pos (List.all_eq_true.mpr (List.forall_mem_cons.mp continues).2)]

/-- A name that may be declared: an identifier that is no word of the language. -/
def Declarable (name : String) : Prop :=
  IsIdentifier name ∧ name ∉ reservedWords

theorem declarable_iff {name : String} : declaredNameFault? name = none ↔ Declarable name := by
  rw [declaredNameFault?, Declarable, ← isIdentifier_iff]
  by_cases reserved : name ∈ reservedWords <;> simp [reserved]

/-! ## Markers -/

/-- A character that is read as itself, whatever stands around it. -/
def isPlain (character : Char) : Bool :=
  character != ':' && character != '<' && character != '>' && character != '*'

theorem isPlain_of_continues {character : Char}
    (continues : continuesIdentifier character = true) : isPlain character = true := by
  rw [isPlain, Bool.and_eq_true, Bool.and_eq_true, Bool.and_eq_true]
  simp only [bne_iff_ne]
  refine ⟨⟨⟨?_, ?_⟩, ?_⟩, ?_⟩ <;>
    · rintro rfl
      exact absurd continues (by decide)

theorem IsIdentifier.isPlain {name : String} (identifier : IsIdentifier name) :
    ∀ character ∈ name.toList, isPlain character = true :=
  fun character member => isPlain_of_continues (identifier.continues character member)

theorem IsIdentifier.colon_not_mem {name : String} (identifier : IsIdentifier name) :
    ':' ∉ name.toList :=
  fun member => absurd (identifier.isPlain ':' member) (by decide)

theorem variableNameFrom_plain {character : Char} (plain : isPlain character = true)
    (joined : Bool) (rest : List Char) :
    variableNameFrom joined (character :: rest) = character :: variableNameFrom false rest := by
  rw [variableNameFrom]
  · rintro - rfl
    exact absurd plain (by decide)
  all_goals
    rintro rfl
    exact absurd plain (by decide)

/-- A name without markers is kept. -/
theorem variableNameFrom_of_plain {name : List Char}
    (plain : ∀ character ∈ name, isPlain character = true) (joined : Bool) :
    variableNameFrom joined name = name := by
  induction name generalizing joined with
  | nil => rw [variableNameFrom]
  | cons character rest ih =>
      obtain ⟨own, others⟩ := List.forall_mem_cons.mp plain
      rw [variableNameFrom_plain own, ih others]

/-- No marker reaches across a plain character. -/
theorem variableNameFrom_append_cons {character : Char} (plain : isPlain character = true)
    (joined : Bool) (front rest : List Char) :
    variableNameFrom joined (front ++ character :: rest) =
      variableNameFrom joined (front ++ [character]) ++ variableNameFrom false rest := by
  induction joined, front using variableNameFrom.induct with
  | case1 joined =>
      rw [List.nil_append, List.nil_append, variableNameFrom_plain plain,
        variableNameFrom_plain plain]
      rfl
  | case2 joined front ih => simp [variableNameFrom, ih]
  | case3 joined front ih => simp [variableNameFrom, ih]
  | case4 joined front ih => simp [variableNameFrom, ih]
  | case5 joined front ih => simp [variableNameFrom, ih]
  | case6 joined first front notScope notOpen notClose notStar ih =>
      -- What follows `first` begins as before, or with the plain character.
      have apart : ∀ tail others, first = ':' → front ++ character :: tail = ':' :: others →
          False := by
        intro tail others colon starts
        cases front with
        | nil =>
            cases starts
            exact absurd plain (by decide)
        | cons second front =>
            cases starts
            exact notScope front colon rfl
      rw [List.cons_append, List.cons_append, variableNameFrom, variableNameFrom, ih,
        List.cons_append]
      all_goals first | assumption | exact apart _

/-! ## Qualified names -/

/-- A name whose last character is no part of a marker, as it is for every qualified name. -/
def EndsPlain (name : String) : Prop :=
  ∃ front last, name.toList = front ++ [last] ∧ isPlain last = true

theorem IsIdentifier.endsPlain {name : String} (identifier : IsIdentifier name) :
    EndsPlain name := by
  obtain ⟨first, rest, spelled, -⟩ := identifier.start
  have nonempty : name.toList ≠ [] := by
    rw [spelled]
    exact List.cons_ne_nil first rest
  refine ⟨name.toList.dropLast, name.toList.getLast nonempty, ?_, ?_⟩
  · exact (List.dropLast_append_getLast nonempty).symm
  · exact identifier.isPlain _ (List.getLast_mem nonempty)

theorem EndsPlain.append {name : String} (ends : EndsPlain name) (front : String) :
    EndsPlain (front ++ name) := by
  obtain ⟨before, last, spelled, plain⟩ := ends
  refine ⟨front.toList ++ before, last, ?_, plain⟩
  rw [String.toList_append, spelled, List.append_assoc]

/-- An identifier is its own variable name. -/
theorem variableName_identifier {name : String} (identifier : IsIdentifier name) :
    variableName name = name := by
  rw [variableName, variableNameList, variableNameFrom_of_plain identifier.isPlain,
    String.ofList_toList]

/-- A scope operator in front of an identifier becomes one underscore. -/
theorem variableName_scoped {scope name : String} (ends : EndsPlain scope)
    (identifier : IsIdentifier name) :
    variableName (scope ++ "::" ++ name) = variableName scope ++ "_" ++ name := by
  obtain ⟨front, last, spelled, plain⟩ := ends
  have split : (scope ++ "::" ++ name).toList = front ++ last :: ':' :: ':' :: name.toList := by
    simp [spelled]
  have behind : variableNameFrom false (':' :: ':' :: name.toList) = '_' :: name.toList := by
    rw [variableNameFrom, variableNameFrom_of_plain identifier.isPlain]
    rfl
  apply String.toList_injective
  simp only [variableName, variableNameList, split, String.toList_ofList, String.toList_append]
  rw [variableNameFrom_append_cons plain, behind, ← spelled]
  simp

/-! ## Last separators -/

/-- Where a separator stands in neither of two endings, it tells both endings from what is before
them. -/
theorem append_cons_inj {separator : Char} {front other ending otherEnding : List Char}
    (apart : separator ∉ ending) (otherApart : separator ∉ otherEnding)
    (same : front ++ separator :: ending = other ++ separator :: otherEnding) :
    front = other ∧ ending = otherEnding := by
  rcases List.append_eq_append_iff.mp same with ⟨middle, rfl, rest⟩ | ⟨middle, rfl, rest⟩
  · cases middle with
    | nil =>
        cases rest
        exact ⟨(List.append_nil front).symm, rfl⟩
    | cons first middle =>
        cases rest
        exact absurd (List.mem_append_right _ List.mem_cons_self) apart
  · cases middle with
    | nil =>
        cases rest
        exact ⟨List.append_nil other, rfl⟩
    | cons first middle =>
        cases rest
        exact absurd (List.mem_append_right _ List.mem_cons_self) otherApart

/-- A qualified name determines the scope and the name. -/
theorem scoped_inj {scope other name otherName : String} (identifier : IsIdentifier name)
    (otherIdentifier : IsIdentifier otherName)
    (same : scope ++ "::" ++ name = other ++ "::" ++ otherName) :
    scope = other ∧ name = otherName := by
  have lists : (scope.toList ++ [':']) ++ ':' :: name.toList =
      (other.toList ++ [':']) ++ ':' :: otherName.toList := by
    simpa using congrArg String.toList same
  obtain ⟨fronts, endings⟩ :=
    append_cons_inj identifier.colon_not_mem otherIdentifier.colon_not_mem lists
  exact ⟨String.toList_injective (List.append_cancel_right fronts), String.toList_injective endings⟩

/-- What stands behind the last underscore determines both parts of a text. -/
theorem underscored_inj {front other ending otherEnding : String} (apart : '_' ∉ ending.toList)
    (otherApart : '_' ∉ otherEnding.toList)
    (same : front ++ "_" ++ ending = other ++ "_" ++ otherEnding) :
    front = other ∧ ending = otherEnding := by
  have lists : front.toList ++ '_' :: ending.toList =
      other.toList ++ '_' :: otherEnding.toList := by
    simpa using congrArg String.toList same
  obtain ⟨fronts, endings⟩ := append_cons_inj apart otherApart lists
  exact ⟨String.toList_injective fronts, String.toList_injective endings⟩

end RubyBindings.Naming
