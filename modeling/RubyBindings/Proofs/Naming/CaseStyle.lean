/-
Module: RubyBindings.Proofs.Naming.CaseStyle
Purpose: Snake case and Pascal case of ASCII names. Both keep the letters and digits in order, both
  are normal forms, and snake case only puts an underscore where a capital begins a word. So words
  of two and more small letters can be read back from their Pascal case.
Main exports: Naming.IsAscii, Naming.isSeparator, Naming.SnakeSpelled, Naming.PascalSpelled,
  Naming.IsSmallWord, Naming.case_styles_are_normal_forms
-/
import Mathlib
import RubyBindings.Naming.CaseStyle

namespace RubyBindings.Naming

open RubyBindings.Text (isUppercase isLowercase uppercase lowercase asciiLimit)

/-! ## ASCII characters -/

/-- Are all characters of a name ASCII? -/
def IsAscii (name : List Char) : Prop :=
  ∀ character ∈ name, character.toNat < asciiLimit

/-- An underscore or a hyphen, which stand between words. -/
def isSeparator (character : Char) : Bool :=
  character == '_' || character == '-'

theorem toNat_lt_of_isLower {character : Char} (small : character.isLower = true) :
    character.toNat < asciiLimit := by
  simp only [Char.isLower, Bool.and_eq_true, decide_eq_true_eq, ge_iff_le,
    UInt32.le_iff_toNat_le] at small
  exact Nat.lt_of_le_of_lt small.2 (by decide)

section Ascii

variable {character : Char} (ascii : character.toNat < asciiLimit)
include ascii

theorem isUppercase_of_ascii : isUppercase character = character.isUpper := if_pos ascii

theorem isLowercase_of_ascii : isLowercase character = character.isLower := if_pos ascii

theorem uppercase_of_ascii : uppercase character = [character.toUpper] := if_pos ascii

theorem toNat_toLower_lt : character.toLower.toNat < asciiLimit := by
  by_cases capital : character.isUpper = true
  · apply toNat_lt_of_isLower
    simp [Char.isLower_toLower_eq_isAlpha, Char.isAlpha, capital]
  · rwa [Char.toLower_eq_of_not_isUpper capital]

theorem toNat_toUpper_lt : character.toUpper.toNat < asciiLimit := by
  by_cases small : character.isLower = true
  · have capital : character.toUpper.isUpper = true := by
      simp [Char.isUpper_toUpper_eq_isAlpha, Char.isAlpha, small]
    simp only [Char.isUpper, decide_eq_true_eq, ge_iff_le, UInt32.le_iff_toNat_le] at capital
    exact Nat.lt_of_le_of_lt capital.2 (by decide)
  · rwa [Char.toUpper_eq_of_not_isLower small]

end Ascii

/-- Only the character itself has a small letter that is none. -/
theorem toLower_eq_iff {character other : Char} (noLetter : other.isAlpha = false) :
    character.toLower = other ↔ character = other := by
  constructor
  · rintro rfl
    rw [Char.isAlpha_toLower_eq_isAlpha, Char.isAlpha, Bool.or_eq_false_iff] at noLetter
    rw [Char.toLower_eq_of_not_isUpper (by simp [noLetter.1])]
  · rintro rfl
    rw [Char.isAlpha, Bool.or_eq_false_iff] at noLetter
    rw [Char.toLower_eq_of_not_isUpper (by simp [noLetter.1])]

theorem toUpper_eq_iff {character other : Char} (noLetter : other.isAlpha = false) :
    character.toUpper = other ↔ character = other := by
  constructor
  · rintro rfl
    rw [Char.isAlpha_toUpper_eq_isAlpha, Char.isAlpha, Bool.or_eq_false_iff] at noLetter
    rw [Char.toUpper_eq_of_not_isLower (by simp [noLetter.2])]
  · rintro rfl
    rw [Char.isAlpha, Bool.or_eq_false_iff] at noLetter
    rw [Char.toUpper_eq_of_not_isLower (by simp [noLetter.2])]

/-! ## Snake case of one character -/

/-- The snake case of an ASCII character. -/
def snakeLetter (character : Char) : Char :=
  if character = '-' then '_' else character.toLower

theorem snakeLetters_of_ascii {character : Char} (ascii : character.toNat < asciiLimit) :
    snakeLetters character = [snakeLetter character] := by
  have hyphen : character.toLower = '-' ↔ character = '-' := toLower_eq_iff (by decide)
  simp [snakeLetters, lowercase, ascii, snakeLetter, hyphen]

theorem snakeLetter_eq_underscore {character : Char} :
    snakeLetter character = '_' ↔ isSeparator character = true := by
  have underscore : character.toLower = '_' ↔ character = '_' := toLower_eq_iff (by decide)
  by_cases hyphen : character = '-' <;> simp [snakeLetter, isSeparator, hyphen, underscore]

/-- A character that snake case leaves alone. -/
structure IsSnakeCharacter (character : Char) : Prop where
  ascii : character.toNat < asciiLimit
  notCapital : character.isUpper = false
  notHyphen : character ≠ '-'

theorem isSnakeCharacter_underscore : IsSnakeCharacter '_' := ⟨by decide, by decide, by decide⟩

theorem isSnakeCharacter_snakeLetter {character : Char} (ascii : character.toNat < asciiLimit) :
    IsSnakeCharacter (snakeLetter character) := by
  by_cases hyphen : character = '-'
  · rw [snakeLetter, if_pos hyphen]
    exact isSnakeCharacter_underscore
  · rw [snakeLetter, if_neg hyphen]
    refine ⟨toNat_toLower_lt ascii, Char.isUpper_toLower_eq_false character, ?_⟩
    rwa [ne_eq, toLower_eq_iff (by decide)]

theorem IsSnakeCharacter.snakeLetter {character : Char} (snake : IsSnakeCharacter character) :
    snakeLetter character = character := by
  rw [Naming.snakeLetter, if_neg snake.notHyphen, Char.toLower_eq_of_not_isUpper]
  simp [snake.notCapital]

/-- A word begins at a capital, and behind no separator. -/
theorem wordBegins_of_ascii {previous current : Char} {next : Option Char}
    (asciiBefore : previous.toNat < asciiLimit) (ascii : current.toNat < asciiLimit)
    (begins : wordBegins previous current next = true) :
    current.isUpper = true ∧ isSeparator previous = false := by
  simp only [wordBegins, isUppercase_of_ascii ascii, isUppercase_of_ascii asciiBefore,
    isLowercase_of_ascii asciiBefore, Bool.and_eq_true, Bool.or_eq_true] at begins
  obtain ⟨capital, before⟩ := begins
  refine ⟨capital, ?_⟩
  rw [isSeparator, Bool.or_eq_false_iff, beq_eq_false_iff_ne, beq_eq_false_iff_ne]
  constructor <;>
    · rintro rfl
      revert before
      simp [Char.isLower, Char.isDigit, Char.isUpper]

/-! ## Snake case -/

theorem snakeCaseList_cons {first : Char} (ascii : first.toNat < asciiLimit) (rest : List Char) :
    snakeCaseList (first :: rest) = snakeLetter first :: snakeCaseAfter first rest := by
  rw [snakeCaseList, snakeLetters_of_ascii ascii]
  rfl

/-- Behind a character comes the next one, with an underscore in front if it begins a word. -/
theorem snakeCaseAfter_cons (previous : Char) {current : Char}
    (ascii : current.toNat < asciiLimit) (rest : List Char) :
    snakeCaseAfter previous (current :: rest) =
      (if wordBegins previous current rest.head? then ['_'] else []) ++
        snakeLetter current :: snakeCaseAfter current rest := by
  rw [snakeCaseAfter, snakeLetters_of_ascii ascii, List.append_assoc]
  rfl

theorem isSnakeCharacter_snakeCaseAfter (previous : Char) {name : List Char}
    (ascii : IsAscii name) : ∀ character ∈ snakeCaseAfter previous name,
      IsSnakeCharacter character := by
  induction name generalizing previous with
  | nil => exact nofun
  | cons current rest ih =>
      obtain ⟨own, others⟩ := List.forall_mem_cons.mp ascii
      rw [snakeCaseAfter_cons previous own]
      intro character member
      rcases List.mem_append.mp member with between | behind
      · split at between
        · cases List.mem_singleton.mp between
          exact isSnakeCharacter_underscore
        · cases between
      · rcases List.mem_cons.mp behind with rfl | behind
        · exact isSnakeCharacter_snakeLetter own
        · exact ih current others character behind

theorem isSnakeCharacter_snakeCaseList {name : List Char} (ascii : IsAscii name) :
    ∀ character ∈ snakeCaseList name, IsSnakeCharacter character := by
  cases name with
  | nil => exact nofun
  | cons first rest =>
      obtain ⟨own, others⟩ := List.forall_mem_cons.mp ascii
      rw [snakeCaseList_cons own, List.forall_mem_cons]
      exact ⟨isSnakeCharacter_snakeLetter own, isSnakeCharacter_snakeCaseAfter first others⟩

/-- No word begins where there are no capitals. -/
theorem snakeCaseAfter_of_snake (previous : Char) {name : List Char}
    (snake : ∀ character ∈ name, IsSnakeCharacter character) :
    snakeCaseAfter previous name = name := by
  induction name generalizing previous with
  | nil => rfl
  | cons current rest ih =>
      obtain ⟨own, others⟩ := List.forall_mem_cons.mp snake
      have noWord : wordBegins previous current rest.head? = false := by
        simp [wordBegins, isUppercase_of_ascii own.ascii, own.notCapital]
      simp [snakeCaseAfter_cons previous own.ascii, noWord, own.snakeLetter, ih current others]

theorem snakeCaseList_of_snake {name : List Char}
    (snake : ∀ character ∈ name, IsSnakeCharacter character) : snakeCaseList name = name := by
  cases name with
  | nil => rfl
  | cons first rest =>
      obtain ⟨own, others⟩ := List.forall_mem_cons.mp snake
      rw [snakeCaseList_cons own.ascii, own.snakeLetter, snakeCaseAfter_of_snake first others]

/-- Without separators, a name and its snake case have the same letters. -/
theorem filter_snakeLetter (character : Char) :
    [snakeLetter character].filter (· != '_') =
      [character.toLower].filter fun letter => !isSeparator letter := by
  have hyphen : character.toLower = '-' ↔ character = '-' := toLower_eq_iff (by decide)
  by_cases same : character = '-'
  · rw [same]
    rfl
  · simp [snakeLetter, same, isSeparator, hyphen, List.filter_cons, bne]

theorem filter_snakeCaseAfter (previous : Char) {name : List Char} (ascii : IsAscii name) :
    (snakeCaseAfter previous name).filter (· != '_') =
      (name.map Char.toLower).filter fun letter => !isSeparator letter := by
  induction name generalizing previous with
  | nil => rfl
  | cons current rest ih =>
      obtain ⟨own, others⟩ := List.forall_mem_cons.mp ascii
      have between : (if wordBegins previous current rest.head? then ['_'] else []).filter
          (· != '_') = [] := by
        split <;> rfl
      rw [snakeCaseAfter_cons previous own, List.filter_append, between, List.nil_append,
        ← List.singleton_append, List.filter_append, filter_snakeLetter, ih current others,
        ← List.filter_append]
      rfl

theorem filter_snakeCaseList {name : List Char} (ascii : IsAscii name) :
    (snakeCaseList name).filter (· != '_') =
      (name.map Char.toLower).filter fun letter => !isSeparator letter := by
  cases name with
  | nil => rfl
  | cons first rest =>
      obtain ⟨own, others⟩ := List.forall_mem_cons.mp ascii
      rw [snakeCaseList_cons own, ← List.singleton_append, List.filter_append, filter_snakeLetter,
        filter_snakeCaseAfter first others, ← List.filter_append]
      rfl

/-- Two separators next to each other. -/
def HasDoubleSeparator (name : List Char) : Prop :=
  ∃ first second, isSeparator first = true ∧ isSeparator second = true ∧ [first, second] <:+: name

theorem HasDoubleSeparator.cons {name : List Char} (double : HasDoubleSeparator name)
    (character : Char) : HasDoubleSeparator (character :: name) := by
  obtain ⟨first, second, one, other, within⟩ := double
  exact ⟨first, second, one, other, within.trans (List.suffix_cons character name).isInfix⟩

theorem hasDoubleSeparator_of_underscores {previous : Char} {name : List Char}
    (ascii : IsAscii (previous :: name))
    (underscores : ['_', '_'] <:+: snakeLetter previous :: snakeCaseAfter previous name) :
    HasDoubleSeparator (previous :: name) := by
  induction name generalizing previous with
  | nil =>
      have short := underscores.length_le
      simp [snakeCaseAfter] at short
  | cons current rest ih =>
      obtain ⟨before, later⟩ := List.forall_mem_cons.mp ascii
      obtain ⟨own, -⟩ := List.forall_mem_cons.mp later
      rw [snakeCaseAfter_cons previous own] at underscores
      split at underscores
      · -- The new underscore stands between two letters.
        rename_i begins
        obtain ⟨capital, noSeparator⟩ := wordBegins_of_ascii before own begins
        have notFirst : snakeLetter previous ≠ '_' := by
          rw [ne_eq, snakeLetter_eq_underscore, noSeparator]
          decide
        have notSecond : snakeLetter current ≠ '_' := by
          rw [ne_eq, snakeLetter_eq_underscore]
          intro separator
          rw [isSeparator, Bool.or_eq_true, beq_iff_eq, beq_iff_eq] at separator
          rcases separator with rfl | rfl <;> exact absurd capital (by decide)
        rcases List.infix_cons_iff.mp underscores with here | behind
        · exact absurd (List.cons_prefix_cons.mp here).1.symm notFirst
        · rcases List.infix_cons_iff.mp behind with here | behind
          · have second := (List.cons_prefix_cons.mp here).2
            exact absurd (List.cons_prefix_cons.mp second).1.symm notSecond
          · exact (ih later behind).cons previous
      · rcases List.infix_cons_iff.mp underscores with here | behind
        · obtain ⟨first, second⟩ := List.cons_prefix_cons.mp here
          have second := (List.cons_prefix_cons.mp second).1
          refine ⟨previous, current, snakeLetter_eq_underscore.mp first.symm,
            snakeLetter_eq_underscore.mp second.symm, ?_⟩
          exact ⟨[], rest, rfl⟩
        · exact (ih later behind).cons previous

/-- What snake case makes of an ASCII name: there are no capitals and no hyphens; apart from
separators the small letters are the same; and underscores at the start or next to each other come
from separators of the name. -/
structure SnakeSpelled (name text : List Char) : Prop where
  noCapital : ∀ character ∈ text, isUppercase character = false
  noHyphen : '-' ∉ text
  letters : text.filter (· != '_') =
    (name.map Char.toLower).filter fun letter => !isSeparator letter
  start : text.head? = some '_' → ∃ first, name.head? = some first ∧ isSeparator first = true
  adjacent : ['_', '_'] <:+: text → HasDoubleSeparator name

theorem snakeSpelled_snakeCaseList {name : List Char} (ascii : IsAscii name) :
    SnakeSpelled name (snakeCaseList name) where
  noCapital := by
    intro character member
    have snake := isSnakeCharacter_snakeCaseList ascii character member
    rw [isUppercase_of_ascii snake.ascii, snake.notCapital]
  noHyphen := fun member => (isSnakeCharacter_snakeCaseList ascii '-' member).notHyphen rfl
  letters := filter_snakeCaseList ascii
  start := by
    intro start
    cases name with
    | nil => cases start
    | cons first rest =>
        rw [snakeCaseList_cons (List.forall_mem_cons.mp ascii).1] at start
        exact ⟨first, rfl, snakeLetter_eq_underscore.mp (Option.some.inj start)⟩
  adjacent := by
    intro underscores
    cases name with
    | nil => exact absurd underscores.length_le (by simp [snakeCaseList])
    | cons first rest =>
        rw [snakeCaseList_cons (List.forall_mem_cons.mp ascii).1] at underscores
        exact hasDoubleSeparator_of_underscores ascii underscores

/-! ## Pascal case -/

/-- What Pascal case makes of an ASCII name: the underscores are gone, and the rest is the same but
for the case of letters. -/
structure PascalSpelled (name text : List Char) : Prop where
  noUnderscore : '_' ∉ text
  letters : text.map Char.toLower = (name.filter (· != '_')).map Char.toLower

theorem pascalSpelled_pascalCaseFrom (starting : Bool) {name : List Char}
    (ascii : IsAscii name) : PascalSpelled name (pascalCaseFrom starting name) := by
  induction name generalizing starting with
  | nil => exact ⟨nofun, rfl⟩
  | cons current rest ih =>
      obtain ⟨own, others⟩ := List.forall_mem_cons.mp ascii
      rw [pascalCaseFrom]
      by_cases underscore : current = '_'
      · obtain ⟨noUnderscore, letters⟩ := ih true others
        rw [if_pos underscore]
        exact ⟨noUnderscore, by simpa [underscore] using letters⟩
      · obtain ⟨noUnderscore, letters⟩ := ih false others
        have upper : current.toUpper ≠ '_' := by
          rwa [ne_eq, toUpper_eq_iff (by decide)]
        rw [if_neg underscore]
        cases starting with
        | false => constructor <;> simp [underscore, Ne.symm underscore, noUnderscore, letters]
        | true =>
            constructor <;> simp [uppercase_of_ascii own, underscore, Ne.symm upper, noUnderscore,
              letters, Char.toLower_toUpper_eq_toLower]

theorem pascalCaseFrom_false {name : List Char} (noUnderscore : '_' ∉ name) :
    pascalCaseFrom false name = name := by
  induction name with
  | nil => rfl
  | cons current rest ih =>
      have other : current ≠ '_' := fun same => noUnderscore (same ▸ List.mem_cons_self)
      have behind := ih fun member => noUnderscore (List.mem_cons_of_mem _ member)
      simp [pascalCaseFrom, other, behind]

/-- Pascal case begins with a capital, if it begins with a letter. -/
theorem toUpper_head_pascalCaseFrom {name : List Char} (ascii : IsAscii name) :
    ∀ first ∈ (pascalCaseFrom true name).head?,
      first.toNat < asciiLimit ∧ first.toUpper = first := by
  induction name with
  | nil => exact nofun
  | cons current rest ih =>
      obtain ⟨own, others⟩ := List.forall_mem_cons.mp ascii
      rw [pascalCaseFrom]
      by_cases underscore : current = '_'
      · rw [if_pos underscore]
        exact ih others
      · rw [if_neg underscore, if_pos rfl, uppercase_of_ascii own]
        intro first head
        cases head
        exact ⟨toNat_toUpper_lt own, Char.toUpper_toUpper_eq_toUpper current⟩

/-- Pascal case is settled after one time. -/
theorem pascalCaseFrom_pascalCaseFrom {name : List Char} (ascii : IsAscii name) :
    pascalCaseFrom true (pascalCaseFrom true name) = pascalCaseFrom true name := by
  have noUnderscore := (pascalSpelled_pascalCaseFrom true ascii).noUnderscore
  have capital := toUpper_head_pascalCaseFrom ascii
  cases pascal : pascalCaseFrom true name with
  | nil => rfl
  | cons first rest =>
      rw [pascal] at noUnderscore capital
      obtain ⟨own, same⟩ := capital first rfl
      have other : first ≠ '_' := fun underscore => noUnderscore (underscore ▸ List.mem_cons_self)
      have behind : pascalCaseFrom false rest = rest :=
        pascalCaseFrom_false fun member => noUnderscore (List.mem_cons_of_mem _ member)
      simp [pascalCaseFrom, other, uppercase_of_ascii own, same, behind]

/-! ## Words -/

/-- A word of two or more small letters. -/
structure IsSmallWord (word : List Char) : Prop where
  long : 2 ≤ word.length
  small : ∀ character ∈ word, character.isLower = true

theorem intercalate_eq_flatMap (separator : Char) (word : List Char) (words : List (List Char)) :
    [separator].intercalate (word :: words) = word ++ words.flatMap (separator :: ·) := by
  induction words generalizing word with
  | nil => simp
  | cons next words ih => simp [List.intercalate_cons_cons, ih]

section SmallLetter

variable {character : Char} (small : character.isLower = true)
include small

theorem ne_underscore_of_isLower : character ≠ '_' := by
  rintro rfl
  exact absurd small (by decide)

theorem isSnakeCharacter_of_isLower : IsSnakeCharacter character where
  ascii := toNat_lt_of_isLower small
  notCapital := by simpa using Char.not_isUpper_of_isLower small
  notHyphen := by
    rintro rfl
    exact absurd small (by decide)

theorem snakeLetter_toUpper : snakeLetter character.toUpper = character := by
  have snake := isSnakeCharacter_of_isLower small
  have notHyphen : character.toUpper ≠ '-' := by
    rw [ne_eq, toUpper_eq_iff (by decide)]
    exact snake.notHyphen
  rw [snakeLetter, if_neg notHyphen, Char.toLower_toUpper_eq_toLower]
  have kept := snake.snakeLetter
  rwa [snakeLetter, if_neg snake.notHyphen] at kept

/-- A word begins where a capital stands behind a small letter. -/
theorem wordBegins_toUpper {previous : Char} (smallBefore : previous.isLower = true)
    (next : Option Char) : wordBegins previous character.toUpper next = true := by
  have ascii := toNat_toUpper_lt (toNat_lt_of_isLower small)
  have asciiBefore := toNat_lt_of_isLower smallBefore
  simp [wordBegins, isUppercase_of_ascii ascii, isLowercase_of_ascii asciiBefore, smallBefore,
    Char.isUpper_toUpper_eq_isAlpha, Char.isAlpha, small]

end SmallLetter

/-- Small letters are kept up to the last one, behind which a capital begins a word. -/
theorem snakeCaseAfter_append {letters : List Char} (nonempty : letters ≠ [])
    (small : ∀ character ∈ letters, character.isLower = true) (previous : Char) :
    ∃ last : Char, last.isLower = true ∧
      ∀ rest, snakeCaseAfter previous (letters ++ rest) = letters ++ snakeCaseAfter last rest := by
  induction letters generalizing previous with
  | nil => exact absurd rfl nonempty
  | cons current letters ih =>
      obtain ⟨own, others⟩ := List.forall_mem_cons.mp small
      have snake := isSnakeCharacter_of_isLower own
      have kept (rest : List Char) : snakeCaseAfter previous (current :: rest) =
          current :: snakeCaseAfter current rest := by
        have noWord : wordBegins previous current rest.head? = false := by
          simp [wordBegins, isUppercase_of_ascii snake.ascii, snake.notCapital]
        simp [snakeCaseAfter_cons previous snake.ascii, noWord, snake.snakeLetter]
      by_cases more : letters = []
      · exact ⟨current, own, fun rest => by simp [more, kept]⟩
      · obtain ⟨last, isLower, behind⟩ := ih more others current
        exact ⟨last, isLower, fun rest => by simp [kept, behind]⟩

namespace IsSmallWord

variable {word : List Char} (isWord : IsSmallWord word)
include isWord

/-- A word has a first letter, and letters behind it. -/
theorem exists_cons : ∃ first letters, word = first :: letters ∧ letters ≠ [] ∧
    first.isLower = true ∧ ∀ character ∈ letters, character.isLower = true := by
  obtain ⟨long, small⟩ := isWord
  cases word with
  | nil => exact absurd long (by decide)
  | cons first letters =>
      obtain ⟨own, others⟩ := List.forall_mem_cons.mp small
      refine ⟨first, letters, rfl, ?_, own, others⟩
      rintro rfl
      exact absurd long (by simp)

/-- In Pascal case a word is written with a capital. -/
theorem pascalCaseFrom_append (rest : List Char) :
    pascalCaseFrom true (word ++ rest) = capitalizeList word ++ pascalCaseFrom false rest := by
  obtain ⟨first, letters, rfl, -, own, others⟩ := isWord.exists_cons
  have kept : pascalCaseFrom false (letters ++ rest) = letters ++ pascalCaseFrom false rest := by
    clear isWord
    induction letters with
    | nil => rfl
    | cons current letters ih =>
        obtain ⟨small, more⟩ := List.forall_mem_cons.mp others
        simp [pascalCaseFrom, ne_underscore_of_isLower small, ih more]
  simp [pascalCaseFrom, ne_underscore_of_isLower own, capitalizeList, kept]

/-- A word with a capital is read back; what stands behind it is read behind a small letter. -/
theorem snakeCaseList_capitalizeList : ∃ last : Char, last.isLower = true ∧
    (∀ rest, snakeCaseList (capitalizeList word ++ rest) = word ++ snakeCaseAfter last rest) ∧
    ∀ previous : Char, previous.isLower = true → ∀ rest,
      snakeCaseAfter previous (capitalizeList word ++ rest) =
        '_' :: word ++ snakeCaseAfter last rest := by
  obtain ⟨first, letters, rfl, nonempty, own, others⟩ := isWord.exists_cons
  obtain ⟨last, small, behind⟩ := snakeCaseAfter_append nonempty others first.toUpper
  have ascii := toNat_toUpper_lt (toNat_lt_of_isLower own)
  refine ⟨last, small, ?_, ?_⟩
  · intro rest
    simp [capitalizeList, uppercase_of_ascii (toNat_lt_of_isLower own), snakeCaseList_cons ascii,
      snakeLetter_toUpper own, behind]
  · intro previous smallBefore rest
    simp [capitalizeList, uppercase_of_ascii (toNat_lt_of_isLower own),
      snakeCaseAfter_cons previous ascii, wordBegins_toUpper own smallBefore,
      snakeLetter_toUpper own, behind]

end IsSmallWord

/-- In Pascal case, words stand one behind the other. -/
theorem pascalCaseFrom_words {words : List (List Char)} (small : ∀ word ∈ words, IsSmallWord word) :
    pascalCaseFrom false (words.flatMap ('_' :: ·)) = words.flatMap capitalizeList := by
  induction words with
  | nil => rfl
  | cons word words ih =>
      obtain ⟨isWord, others⟩ := List.forall_mem_cons.mp small
      rw [List.flatMap_cons, List.flatMap_cons, List.cons_append, pascalCaseFrom, if_pos rfl,
        isWord.pascalCaseFrom_append, ih others]

/-- Words with capitals are told apart behind a small letter. -/
theorem snakeCaseAfter_words {words : List (List Char)} (small : ∀ word ∈ words, IsSmallWord word)
    {previous : Char} (smallBefore : previous.isLower = true) :
    snakeCaseAfter previous (words.flatMap capitalizeList) = words.flatMap ('_' :: ·) := by
  induction words generalizing previous with
  | nil => rfl
  | cons word words ih =>
      obtain ⟨isWord, others⟩ := List.forall_mem_cons.mp small
      obtain ⟨last, smallLast, -, behind⟩ := isWord.snakeCaseList_capitalizeList
      simp [behind previous smallBefore, ih others smallLast]

/-- Words joined by single underscores are read back from their Pascal case. -/
theorem snakeCaseList_pascalCaseFrom {words : List (List Char)} (nonempty : words ≠ [])
    (small : ∀ word ∈ words, IsSmallWord word) :
    snakeCaseList (pascalCaseFrom true (['_'].intercalate words)) = ['_'].intercalate words := by
  cases words with
  | nil => exact absurd rfl nonempty
  | cons word words =>
      obtain ⟨isWord, others⟩ := List.forall_mem_cons.mp small
      obtain ⟨last, smallLast, behind, -⟩ := isWord.snakeCaseList_capitalizeList
      rw [intercalate_eq_flatMap, isWord.pascalCaseFrom_append, pascalCaseFrom_words others, behind,
        snakeCaseAfter_words others smallLast]

/-! ## Both styles -/

/-- Snake case and Pascal case are normal forms of ASCII names with the letters of the name, and
small words joined by underscores are read back from their Pascal case. -/
theorem case_styles_are_normal_forms :
    (∀ name : String, IsAscii name.toList →
      SnakeSpelled name.toList (snakeCase name).toList ∧
        snakeCase (snakeCase name) = snakeCase name ∧
        PascalSpelled name.toList (pascalCase name).toList ∧
        pascalCase (pascalCase name) = pascalCase name) ∧
      ∀ words : List String, words ≠ [] → (∀ word ∈ words, IsSmallWord word.toList) →
        snakeCase (pascalCase ("_".intercalate words)) = "_".intercalate words := by
  constructor
  · intro name ascii
    have snake := snakeSpelled_snakeCaseList ascii
    have pascal := pascalSpelled_pascalCaseFrom true ascii
    refine ⟨by simpa [snakeCase] using snake, ?_, by simpa [pascalCase] using pascal, ?_⟩
    · simp [snakeCase, snakeCaseList_of_snake (isSnakeCharacter_snakeCaseList ascii)]
    · simp [pascalCase, pascalCaseFrom_pascalCaseFrom ascii]
  · intro words nonempty small
    have some : words.map String.toList ≠ [] := by simpa using nonempty
    have joined := snakeCaseList_pascalCaseFrom some (by simpa using small)
    apply String.toList_injective
    simpa [snakeCase, pascalCase] using joined

/-- A name with a separator in front, a run of capitals and a digit, and a name of two words. -/
theorem case_styles_are_normal_forms_mixed :
    IsAscii "-toHTMLPage__2D".toList ∧ (∀ word ∈ ["get", "area"], IsSmallWord word.toList) ∧
      SnakeSpelled "-toHTMLPage__2D".toList "_to_html_page__2_d".toList ∧
      PascalSpelled "-toHTMLPage__2D".toList "-toHTMLPage2D".toList ∧
      snakeCase (pascalCase "get_area") = "get_area" := by
  have ascii : IsAscii "-toHTMLPage__2D".toList := by simp [IsAscii, asciiLimit]
  have small : ∀ word ∈ ["get", "area"], IsSmallWord word.toList := by
    simp only [List.forall_mem_cons]
    refine ⟨⟨by decide, by simp [Char.isLower]⟩, ⟨by decide, by simp [Char.isLower]⟩, nofun⟩
  obtain ⟨snake, -, pascal, -⟩ := case_styles_are_normal_forms.1 "-toHTMLPage__2D" ascii
  have snakeText : snakeCase "-toHTMLPage__2D" = "_to_html_page__2_d" := by decide +kernel
  have pascalText : pascalCase "-toHTMLPage__2D" = "-toHTMLPage2D" := by decide +kernel
  rw [snakeText] at snake
  rw [pascalText] at pascal
  have words := case_styles_are_normal_forms.2 ["get", "area"] (by decide) small
  exact ⟨ascii, small, snake, pascal, words⟩

end RubyBindings.Naming
