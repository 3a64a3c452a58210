/-
Module: RubyBindings.Proofs.Library.FirstRefusal
Purpose: A description is refused for the first name in its text that may not be used: the name of
  the library comes first, and then, entity by entity, its own name, its enumerators and the names
  of the entities nested in it. The error says which name that is, what it names and what is wrong
  with it.
Main exports: Naming.MatchesIdentifier, NameUse, NameUse.Allowed, EntityDescription.nameUses,
  LibraryDescription.nameUses, LibraryDescription.refusedName?_eq_findSome?,
  LibraryDescription.refusedName?_eq_some, LibraryDescription.first_offender_reported
-/
import Mathlib
import RubyBindings.Proofs.Library.NameChecks

namespace RubyBindings

/-! ## The pattern of identifiers -/

namespace Naming

/-- An ASCII letter. -/
def IsLetter (character : Char) : Prop :=
  'A' ≤ character ∧ character ≤ 'Z' ∨ 'a' ≤ character ∧ character ≤ 'z'

/-- An ASCII digit. -/
def IsDecimal (character : Char) : Prop :=
  '0' ≤ character ∧ character ≤ '9'

/-- The pattern `[A-Za-z_][A-Za-z0-9_]*`. -/
def MatchesIdentifier (name : String) : Prop :=
  ∃ first rest, name.toList = first :: rest ∧ (IsLetter first ∨ first = '_') ∧
    ∀ character ∈ rest, IsLetter character ∨ IsDecimal character ∨ character = '_'

theorem isAlpha_iff {character : Char} : character.isAlpha = true ↔ IsLetter character := by
  simp [Char.isAlpha, Char.isUpper, Char.isLower, IsLetter, Char.le_def]

theorem isDigit_iff {character : Char} : character.isDigit = true ↔ IsDecimal character := by
  simp [Char.isDigit, IsDecimal, Char.le_def]

theorem startsIdentifier_iff {character : Char} :
    startsIdentifier character = true ↔ IsLetter character ∨ character = '_' := by
  simp [startsIdentifier, isAlpha_iff]

theorem continuesIdentifier_iff {character : Char} :
    continuesIdentifier character = true ↔
      IsLetter character ∨ IsDecimal character ∨ character = '_' := by
  simp [continuesIdentifier, Char.isAlphanum, isAlpha_iff, isDigit_iff, or_assoc]

/-- A name has no fault exactly if it matches the pattern. -/
theorem identifierFault?_eq_none {name : String} :
    identifierFault? name = none ↔ MatchesIdentifier name := by
  cases spelled : name.toList with
  | nil => simp [identifierFault?, identifierListFault?, MatchesIdentifier, spelled]
  | cons first rest =>
      have pattern : MatchesIdentifier name ↔ startsIdentifier first = true ∧
          ∀ character ∈ rest, continuesIdentifier character = true := by
        simp [MatchesIdentifier, spelled, startsIdentifier_iff, continuesIdentifier_iff]
      rw [pattern, identifierFault?, spelled, identifierListFault?]
      by_cases starts : startsIdentifier first = true
      · simp [starts]
      · simp [starts]

theorem declaredNameFault?_eq_none {name : String} :
    declaredNameFault? name = none ↔ MatchesIdentifier name ∧ name ∉ reservedWords := by
  by_cases reserved : name ∈ reservedWords <;>
    simp [declaredNameFault?, reserved, identifierFault?_eq_none]

end Naming

open Naming

/-! ## The names of a description -/

/-- A name that a description uses, and what it names. -/
structure NameUse where
  role : NameRole
  name : String
deriving DecidableEq, Repr

namespace NameUse

/-- May a name be used for what it names? It has to match the pattern of identifiers, and all names
but that of the library must not be reserved. A constructor may go without a name. -/
def Allowed : NameUse → Prop
  | ⟨.library, name⟩ => MatchesIdentifier name
  | ⟨.declaration kind, name⟩ =>
    kind = .constructor ∧ name = "" ∨ MatchesIdentifier name ∧ name ∉ reservedWords
  | ⟨.enumerator, name⟩ => MatchesIdentifier name ∧ name ∉ reservedWords

/-- What is wrong with the spelling of a name. -/
def fault? : NameUse → Option IdentifierFault
  | ⟨.library, name⟩ => identifierFault? name
  | ⟨.declaration _, name⟩ | ⟨.enumerator, name⟩ => declaredNameFault? name

end NameUse

/-- The names of one entity: its own name, and then its enumerators. -/
def EntityDescription.ownNameUses (description : EntityDescription) : List NameUse :=
  ⟨.declaration description.kind, description.name⟩ ::
    description.values.map fun value => ⟨.enumerator, value⟩

mutual

/-- The names of an entity, and then those of the entities nested in it. -/
def EntityDescription.nameUses : EntityDescription → List NameUse
  | description@{ children, .. } =>
    description.ownNameUses ++ EntityDescription.nameUsesAll children

/-- The names of a list of entities, one entity after the other. -/
def EntityDescription.nameUsesAll : List EntityDescription → List NameUse
  | [] => []
  | description :: descriptions =>
    description.nameUses ++ EntityDescription.nameUsesAll descriptions

end

/-- The names of a description in the order of its text: that of the library, and then those of its
entities. -/
def LibraryDescription.nameUses (description : LibraryDescription) : List NameUse :=
  ⟨.library, description.name⟩ :: EntityDescription.nameUsesAll description.entities

/-! ## The check of one name -/

namespace NameUse

/-- The refusal of a name, if it may not be used. -/
def refusal? (use : NameUse) : Option RefusedName :=
  if use.role = .declaration .constructor ∧ use.name = "" then none
  else use.fault?.map fun fault => { role := use.role, name := use.name, fault }

theorem refusal?_eq_none {use : NameUse} : use.refusal? = none ↔ use.Allowed := by
  obtain ⟨role, name⟩ := use
  cases role with
  | library => simp [refusal?, fault?, Allowed, identifierFault?_eq_none]
  | declaration kind =>
      by_cases unnamed : kind = .constructor ∧ name = ""
      · simp [refusal?, Allowed, unnamed]
      · simp [refusal?, fault?, Allowed, unnamed, declaredNameFault?_eq_none]
  | enumerator => simp [refusal?, fault?, Allowed, declaredNameFault?_eq_none]

/-- A refusal repeats the name and what it names, and says what is wrong with it. -/
theorem refusal?_eq_some {use : NameUse} {refused : RefusedName} :
    use.refusal? = some refused ↔
      ¬ use.Allowed ∧ ∃ fault, use.fault? = some fault ∧ refused = ⟨use.role, use.name, fault⟩ := by
  rw [← refusal?_eq_none, refusal?]
  split
  · simp
  · cases use.fault? <;> simp [eq_comm]

end NameUse

/-! ## The check of a description -/

/-- The name of an entity is looked at first, and then its enumerators in order. -/
theorem EntityDescription.ownRefusedName?_eq_findSome? (description : EntityDescription) :
    description.ownRefusedName? = description.ownNameUses.findSome? NameUse.refusal? := by
  have own : (if description.kind = .constructor ∧ description.name = "" then none
      else RefusedName.ofDeclared? (.declaration description.kind) description.name) =
      NameUse.refusal? ⟨.declaration description.kind, description.name⟩ := by
    simp [NameUse.refusal?, NameUse.fault?, RefusedName.ofDeclared?]
  have values : description.values.findSome? (RefusedName.ofDeclared? .enumerator) =
      (description.values.map fun value => (⟨.enumerator, value⟩ : NameUse)).findSome?
        NameUse.refusal? := by
    rw [List.findSome?_map]
    rfl
  rw [ownRefusedName?, own, values, ownNameUses, List.findSome?_cons]
  cases NameUse.refusal? ⟨.declaration description.kind, description.name⟩ <;> rfl

mutual

theorem EntityDescription.refusedName?_eq_findSome?_nameUses :
    ∀ description : EntityDescription,
      description.refusedName? = description.nameUses.findSome? NameUse.refusal?
  | { children, .. } => by
      simp [EntityDescription.refusedName?, EntityDescription.nameUses, List.findSome?_append,
        EntityDescription.ownRefusedName?_eq_findSome?,
        EntityDescription.firstRefusedName?_eq_findSome?_nameUses children]

theorem EntityDescription.firstRefusedName?_eq_findSome?_nameUses :
    ∀ descriptions : List EntityDescription, EntityDescription.firstRefusedName? descriptions =
      (EntityDescription.nameUsesAll descriptions).findSome? NameUse.refusal?
  | [] => by simp [EntityDescription.firstRefusedName?, EntityDescription.nameUsesAll]
  | description :: descriptions => by
      simp [EntityDescription.firstRefusedName?, EntityDescription.nameUsesAll,
        List.findSome?_append, description.refusedName?_eq_findSome?_nameUses,
        EntityDescription.firstRefusedName?_eq_findSome?_nameUses descriptions]

end

namespace LibraryDescription

/-- The names of a description are looked at in order, up to the first that is refused. -/
theorem refusedName?_eq_findSome? (description : LibraryDescription) :
    description.refusedName? = description.nameUses.findSome? NameUse.refusal? := by
  have own : (identifierFault? description.name).map
        (fun fault => ({ role := .library, name := description.name, fault } : RefusedName)) =
      NameUse.refusal? ⟨.library, description.name⟩ := by
    simp [NameUse.refusal?, NameUse.fault?]
  rw [refusedName?, own, EntityDescription.firstRefusedName?_eq_findSome?_nameUses, nameUses,
    List.findSome?_cons]
  cases NameUse.refusal? ⟨.library, description.name⟩ <;> rfl

/-- No name is refused if every name may be used. -/
theorem refusedName?_eq_none {description : LibraryDescription} :
    description.refusedName? = none ↔ ∀ use ∈ description.nameUses, use.Allowed := by
  simp [refusedName?_eq_findSome?, NameUse.refusal?_eq_none]

/-- The refused name is the first that may not be used, with what is wrong with it. -/
theorem refusedName?_eq_some {description : LibraryDescription} {refused : RefusedName} :
    description.refusedName? = some refused ↔
      ∃ (before : List NameUse) (offender : NameUse) (after : List NameUse)
        (fault : IdentifierFault), description.nameUses = before ++ offender :: after ∧
        (∀ use ∈ before, use.Allowed) ∧ ¬ offender.Allowed ∧ offender.fault? = some fault ∧
        refused = ⟨offender.role, offender.name, fault⟩ := by
  simp only [refusedName?_eq_findSome?, List.findSome?_eq_some_iff, NameUse.refusal?_eq_some,
    NameUse.refusal?_eq_none]
  constructor
  · rintro ⟨before, offender, after, split, ⟨notAllowed, fault, wrong, same⟩, allowed⟩
    exact ⟨before, offender, after, fault, split, allowed, notAllowed, wrong, same⟩
  · rintro ⟨before, offender, after, fault, split, allowed, notAllowed, wrong, same⟩
    exact ⟨before, offender, after, split, ⟨notAllowed, fault, wrong, same⟩, allowed⟩

/-- The error of a check is that of the refused name, and the place where the text shows it. -/
theorem check_eq_error {description : LibraryDescription} {text source : String}
    {error : LibraryError} :
    description.check text source = .error error ↔
      ∃ refused, description.refusedName? = some refused ∧
        error = .invalidIdentifier source (TextSpan.ofName? text refused.name) refused.role
          refused.name refused.fault := by
  rw [check]
  cases description.refusedName? <;> simp [eq_comm]

/-- What the check of a description answers: it is passed exactly if every name may be used, and it
fails exactly with the error of the first name that may not. -/
structure ReportsFirst (description : LibraryDescription) (text source : String) : Prop where
  accepted : description.check text source = .ok () ↔
    ∀ use ∈ description.nameUses, use.Allowed
  refused : ∀ error, description.check text source = .error error ↔
    ∃ before offender after fault, description.nameUses = before ++ offender :: after ∧
      (∀ use ∈ before, use.Allowed) ∧ ¬ offender.Allowed ∧ offender.fault? = some fault ∧
      error = .invalidIdentifier source (TextSpan.ofName? text offender.name) offender.role
        offender.name fault

/-- Every description is checked up to its first offender, whatever the nesting. -/
theorem first_offender_reported (description : LibraryDescription) (text source : String) :
    description.ReportsFirst text source := by
  constructor
  · rw [← refusedName?_eq_none, check]
    cases description.refusedName? <;> simp
  · intro error
    rw [check_eq_error]
    constructor
    · rintro ⟨refused, found, rfl⟩
      obtain ⟨before, offender, after, fault, split, allowed, notAllowed, wrong, rfl⟩ :=
        refusedName?_eq_some.mp found
      exact ⟨before, offender, after, fault, split, allowed, notAllowed, wrong, rfl⟩
    · rintro ⟨before, offender, after, fault, split, allowed, notAllowed, wrong, rfl⟩
      have found := refusedName?_eq_some.mpr
        ⟨before, offender, after, fault, split, allowed, notAllowed, wrong, rfl⟩
      exact ⟨_, found, rfl⟩

/-- The name of a method inside the first class comes before the enumerator behind it. -/
example :
    check
        { name := "lib"
          headers := []
          entities :=
            [{ kind := .classType
               name := "Shape"
               children :=
                 [{ kind := .method, name := "get-area" }] },
              { kind := .enumType, name := "Mode", values := ["default"] }] }
        "name = \"get-area\"" "lib.toml" =
      .error (.invalidIdentifier "lib.toml" (some ⟨7, 10⟩) (.declaration .method) "get-area"
        .badCharacter) := by
  decide

end LibraryDescription

end RubyBindings
