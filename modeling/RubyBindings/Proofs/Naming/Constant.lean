/-
Module: RubyBindings.Proofs.Naming.Constant
Purpose: Ruby constants made from identifiers. Both ways to make one put the first letter of a
  spelling in upper case: that of a module is its name in camel case, and that of a type is its name
  without the underscores around it. What comes out is a constant only if the name has a letter in
  front of its digits, and it tells all of the spelling but the case of its first letter.
Main exports: Naming.camelCaseList, Naming.bareLetters, Naming.Capitalizes,
  Naming.capitalizes_pascalCase, Naming.capitalizes_constantName, Naming.IsConstant,
  Naming.isLetterFirst, Naming.AlikeButFirst, Naming.Capitalizes.isConstant_iff,
  Naming.Capitalizes.eq_iff, Naming.Capitalizes.bareLetters_eq
-/
import Mathlib
import RubyBindings.Naming.CaseStyle
import RubyBindings.Proofs.Naming.VariableName

namespace RubyBindings.Naming

open RubyBindings.Text (uppercase asciiLimit)

/-! ## Characters -/

section Characters

variable {character : Char} (continues : continuesIdentifier character = true)
include continues

/-- Identifiers are spelled in ASCII. -/
theorem toNat_lt_of_continues : character.toNat < asciiLimit := by
  simp only [continuesIdentifier, Char.isAlphanum, Char.isAlpha, Char.isUpper, Char.isLower,
    Char.isDigit, Bool.or_eq_true, Bool.and_eq_true, decide_eq_true_eq, beq_iff_eq, ge_iff_le,
    UInt32.le_iff_toNat_le] at continues
  change character.val.toNat < 128
  rcases continues with ((⟨-, capital⟩ | ⟨-, small⟩) | ⟨-, digit⟩) | rfl
  · exact Nat.lt_of_le_of_lt capital (by decide)
  · exact Nat.lt_of_le_of_lt small (by decide)
  · exact Nat.lt_of_le_of_lt digit (by decide)
  · decide

theorem uppercase_of_continues : uppercase character = [character.toUpper] :=
  if_pos (toNat_lt_of_continues continues)

theorem continuesIdentifier_toUpper : continuesIdentifier character.toUpper = true := by
  by_cases letter : character.isAlpha = true
  · simp [continuesIdentifier, Char.isAlphanum, letter]
  · have kept : character.toUpper = character := by
      apply Char.toUpper_eq_of_not_isLower
      intro lower
      exact letter (by simp [Char.isAlpha, lower])
    rw [kept]
    exact continues

end Characters

/-! ## Letters -/

/-- Camel case of a name: no underscores, and the first letter of every part but the first is a
capital. -/
def camelCaseList (name : List Char) : List Char :=
  pascalCaseFrom false (name.dropWhile (· == '_'))

/-- The letters and digits of a name, all in lower case. -/
def bareLetters (name : List Char) : List Char :=
  (name.map Char.toLower).filter (· != '_')

theorem bareLetters_cons (first : Char) (rest : List Char) :
    bareLetters (first :: rest) = bareLetters [first] ++ bareLetters rest := by
  rw [bareLetters, bareLetters, bareLetters, ← List.filter_append, ← List.map_append,
    List.singleton_append]

theorem bareLetters_underscore (rest : List Char) :
    bareLetters ('_' :: rest) = bareLetters rest := rfl

theorem bareLetters_toUpper (character : Char) :
    bareLetters [character.toUpper] = bareLetters [character] := by
  simp only [bareLetters, List.map_cons, Char.toLower_toUpper_eq_toLower]

theorem bareLetters_reverse (name : List Char) :
    bareLetters name.reverse = (bareLetters name).reverse := by
  rw [bareLetters, bareLetters, List.map_reverse, List.filter_reverse]

theorem bareLetters_dropWhile (name : List Char) :
    bareLetters (name.dropWhile (· == '_')) = bareLetters name := by
  induction name with
  | nil => rfl
  | cons first rest ih =>
      by_cases underscore : first = '_'
      · rw [underscore, bareLetters_underscore]
        exact ih
      · rw [List.dropWhile_cons_of_neg (by simpa using underscore)]

theorem bareLetters_trimUnderscores (name : List Char) :
    bareLetters (trimUnderscores name) = bareLetters name := by
  rw [trimUnderscores, bareLetters_reverse, bareLetters_dropWhile, bareLetters_reverse,
    List.reverse_reverse, bareLetters_dropWhile]

theorem bareLetters_pascalCaseFrom {name : List Char}
    (continues : ∀ character ∈ name, continuesIdentifier character = true) (starting : Bool) :
    bareLetters (pascalCaseFrom starting name) = bareLetters name := by
  induction name generalizing starting with
  | nil => rfl
  | cons first rest ih =>
      obtain ⟨own, others⟩ := List.forall_mem_cons.mp continues
      rw [pascalCaseFrom]
      split
      · rename_i underscore
        rw [ih others, underscore, bareLetters_underscore]
      · rw [bareLetters_cons first rest, ← ih others false]
        cases starting with
        | false => exact bareLetters_cons first _
        | true =>
            rw [if_pos rfl, uppercase_of_continues own, ← bareLetters_toUpper first]
            exact bareLetters_cons first.toUpper _

theorem bareLetters_camelCaseList {name : List Char}
    (continues : ∀ character ∈ name, continuesIdentifier character = true) :
    bareLetters (camelCaseList name) = bareLetters name := by
  rw [camelCaseList, bareLetters_pascalCaseFrom, bareLetters_dropWhile]
  exact fun character member => continues character ((List.dropWhile_sublist _).mem member)

/-! ## Spellings -/

/-- A text is a spelling of a name with its first letter in upper case. A spelling begins where the
underscores in front of the name end. -/
structure Capitalizes (name : String) (spelling : List Char) (text : String) : Prop where
  text_eq : text = String.ofList (capitalizeList spelling)
  head? : spelling.head? = name.toList.find? (· != '_')
  continues : ∀ character ∈ spelling, continuesIdentifier character = true
  letters : bareLetters spelling = bareLetters name.toList

/-- Pascal case of an identifier is spelled in the characters of identifiers. -/
theorem continues_pascalCaseFrom {name : List Char}
    (continues : ∀ character ∈ name, continuesIdentifier character = true) (starting : Bool) :
    ∀ character ∈ pascalCaseFrom starting name, continuesIdentifier character = true := by
  induction name generalizing starting with
  | nil => exact nofun
  | cons first rest ih =>
      obtain ⟨own, others⟩ := List.forall_mem_cons.mp continues
      rw [pascalCaseFrom]
      split
      · exact ih others true
      · intro character member
        rcases List.mem_append.mp member with here | behind
        · cases starting with
          | false =>
              cases List.mem_singleton.mp here
              exact own
          | true =>
              rw [if_pos rfl, uppercase_of_continues own] at here
              cases List.mem_singleton.mp here
              exact continuesIdentifier_toUpper own
        · exact ih others false character behind

/-- Pascal case is camel case with a capital in front. -/
theorem pascalCaseFrom_true (name : List Char) :
    pascalCaseFrom true name = capitalizeList (camelCaseList name) := by
  induction name with
  | nil => rfl
  | cons first rest ih =>
      rw [pascalCaseFrom]
      split
      · rename_i underscore
        rw [ih, underscore]
        rfl
      · rename_i other
        rw [camelCaseList, List.dropWhile_cons_of_neg (by simpa using other), pascalCaseFrom,
          if_neg other]
        rfl

theorem head?_camelCaseList (name : List Char) :
    (camelCaseList name).head? = name.find? (· != '_') := by
  induction name with
  | nil => rfl
  | cons first rest ih =>
      by_cases underscore : first = '_'
      · rw [underscore]
        exact ih
      · rw [camelCaseList, List.dropWhile_cons_of_neg (by simpa using underscore), pascalCaseFrom,
          if_neg underscore, List.find?_cons_of_pos (by simpa using underscore)]
        rfl

theorem trimUnderscores_eq (name : List Char) :
    trimUnderscores name = (name.dropWhile (· == '_')).rdropWhile (· == '_') := rfl

theorem head?_trimUnderscores (name : List Char) :
    (trimUnderscores name).head? = name.find? (· != '_') := by
  have found : name.find? (· != '_') = (name.dropWhile (· == '_')).head? :=
    List.find?_not_eq_head?_dropWhile (· == '_') name
  rw [found, trimUnderscores_eq]
  cases dropped : name.dropWhile (· == '_') with
  | nil => rfl
  | cons first rest =>
      -- The first character is none that is dropped, so something is left behind it as well.
      have kept : first ∈ first :: rest := List.mem_cons_self
      have other : ¬ (first == '_') = true := by
        have head := List.head?_dropWhile_not (· == '_') name
        rw [dropped] at head
        simpa using head
      have left : (first :: rest).rdropWhile (· == '_') ≠ [] := fun nothing =>
        other (List.rdropWhile_eq_nil_iff.mp nothing first kept)
      have front := List.rdropWhile_prefix (· == '_') (first :: rest)
      cases shape : (first :: rest).rdropWhile (· == '_') with
      | nil => exact absurd shape left
      | cons same others =>
          rw [shape] at front
          rw [(List.cons_prefix_cons.mp front).1]
          rfl

/-- The constant of a module is the camel case of its name, with a capital. -/
theorem capitalizes_pascalCase {name : String} (identifier : IsIdentifier name) :
    Capitalizes name (camelCaseList name.toList) (pascalCase name) where
  text_eq := by rw [pascalCase, pascalCaseFrom_true]
  head? := head?_camelCaseList name.toList
  continues := continues_pascalCaseFrom
    (fun character member =>
      identifier.continues character ((List.dropWhile_sublist _).mem member)) false
  letters := bareLetters_camelCaseList identifier.continues

/-- The constant of a type is its name without the underscores around it, with a capital. -/
theorem capitalizes_constantName {name : String} (identifier : IsIdentifier name) :
    Capitalizes name (trimUnderscores name.toList) (constantName name) where
  text_eq := by
    rw [constantName, variableNameList, variableNameFrom_of_plain identifier.isPlain]
  head? := head?_trimUnderscores name.toList
  continues := fun character member =>
    identifier.continues character ((List.dropWhile_sublist _).mem
      ((List.rdropWhile_prefix (· == '_') _).subset member))
  letters := bareLetters_trimUnderscores name.toList

/-! ## Constants -/

/-- A name that Ruby takes for a constant: an ASCII capital, and then ASCII letters, ASCII digits
and underscores. -/
structure IsConstant (name : String) : Prop where
  start : ∃ first rest, name.toList = first :: rest ∧ first.isUpper = true
  continues : ∀ character ∈ name.toList, continuesIdentifier character = true

/-- Does a letter come first in a name, apart from underscores? -/
def isLetterFirst (name : String) : Bool :=
  (name.toList.find? (· != '_')).any Char.isAlpha

/-- Two spellings are the same but for the case of their first letters. -/
structure AlikeButFirst (first second : List Char) : Prop where
  head? : first.head?.map Char.toUpper = second.head?.map Char.toUpper
  tail : first.tail = second.tail

/-- Spellings that differ in the case of the first letter have the same letters. -/
theorem AlikeButFirst.bareLetters_eq {first second : List Char}
    (alike : AlikeButFirst first second) :
    bareLetters first = bareLetters second := by
  obtain ⟨heads, tails⟩ := alike
  cases first with
  | nil =>
      cases second with
      | nil => rfl
      | cons => cases heads
  | cons capital rest =>
      cases second with
      | nil => cases heads
      | cons other others =>
          cases tails
          rw [bareLetters_cons capital, bareLetters_cons other, ← bareLetters_toUpper capital,
            ← bareLetters_toUpper other, Option.some.inj heads]

theorem capitalizeList_cons {first : Char} (continues : continuesIdentifier first = true)
    (rest : List Char) : capitalizeList (first :: rest) = first.toUpper :: rest := by
  rw [capitalizeList, uppercase_of_continues continues]
  rfl

namespace Capitalizes

variable {name text : String} {spelling : List Char} (capitalizes : Capitalizes name spelling text)
include capitalizes

/-- What begins with a capital is a constant exactly if there was a letter to begin with. -/
theorem isConstant_iff : IsConstant text ↔ isLetterFirst name = true := by
  rw [isLetterFirst, ← capitalizes.head?, capitalizes.text_eq]
  have continues := capitalizes.continues
  cases spelling with
  | nil =>
      refine iff_of_false ?_ nofun
      rintro ⟨⟨first, rest, spelled, -⟩, -⟩
      cases spelled
  | cons first rest =>
      obtain ⟨own, others⟩ := List.forall_mem_cons.mp continues
      rw [capitalizeList_cons own, List.head?_cons, Option.any_some]
      constructor
      · rintro ⟨⟨capital, behind, spelled, isUpper⟩, -⟩
        rw [String.toList_ofList] at spelled
        cases spelled
        rwa [Char.isUpper_toUpper_eq_isAlpha] at isUpper
      · intro isAlpha
        refine ⟨⟨first.toUpper, rest, String.toList_ofList, ?_⟩, ?_⟩
        · rw [Char.isUpper_toUpper_eq_isAlpha, isAlpha]
        · rw [String.toList_ofList, List.forall_mem_cons]
          exact ⟨continuesIdentifier_toUpper own, others⟩

/-- Two constants are the same exactly if their spellings are, but for the case of the first
letters. -/
theorem eq_iff {otherName otherText : String} {otherSpelling : List Char}
    (other : Capitalizes otherName otherSpelling otherText) :
    text = otherText ↔ AlikeButFirst spelling otherSpelling := by
  rw [capitalizes.text_eq, other.text_eq, String.ofList_inj]
  have continues := capitalizes.continues
  have otherContinues := other.continues
  cases spelling with
  | nil =>
      cases otherSpelling with
      | nil => exact iff_of_true rfl ⟨rfl, rfl⟩
      | cons first rest =>
          rw [capitalizeList_cons (List.forall_mem_cons.mp otherContinues).1]
          exact iff_of_false nofun fun alike => nomatch alike.head?
  | cons first rest =>
      rw [capitalizeList_cons (List.forall_mem_cons.mp continues).1]
      cases otherSpelling with
      | nil => exact iff_of_false nofun fun alike => nomatch alike.head?
      | cons otherFirst otherRest =>
          rw [capitalizeList_cons (List.forall_mem_cons.mp otherContinues).1, List.cons_eq_cons]
          constructor
          · rintro ⟨capital, behind⟩
            exact ⟨congrArg some capital, behind⟩
          · intro alike
            exact ⟨Option.some.inj alike.head?, alike.tail⟩

/-- A constant tells the letters and digits of the name. -/
theorem bareLetters_eq {otherName : String} {otherSpelling : List Char}
    (other : Capitalizes otherName otherSpelling text) :
    bareLetters name.toList = bareLetters otherName.toList := by
  rw [← capitalizes.letters, ← other.letters]
  exact ((capitalizes.eq_iff other).mp rfl).bareLetters_eq

end Capitalizes

end RubyBindings.Naming
