/-
Module: RubyBindings.Proofs.Pipeline.RubyConstants
Purpose: The Ruby constants of a library. A name gives a constant that Ruby takes exactly if it has a
  letter in front of its digits; and two names give the same constant exactly if their spellings
  differ in the case of the first letter alone.
Main exports: Hierarchy.spelling, Library.capitalizes_constant, Library.constants_valid_iff,
  Pipeline.constant_without_letter, Hierarchy.TellsSpellings, Library.constants_tell_spellings,
  Pipeline.constant_repeated
-/
import RubyBindings.Proofs.Library.Names
import RubyBindings.Proofs.Naming.Constant
import RubyBindings.Proofs.Pipeline.DeclaredFirst
import RubyBindings.Proofs.Registration.Constant

namespace RubyBindings

open Naming

/-! ## Spellings -/

namespace Hierarchy

/-- How a name is spelled in its constant, before the first letter is put in upper case. -/
def spelling (hierarchy : Hierarchy) (id : EntityId) : List Char :=
  match hierarchy.kind id with
  | .namespaceScope => camelCaseList (hierarchy.name id).toList
  | .classType | .enumType | .constructor | .method | .function =>
    trimUnderscores (hierarchy.name id).toList

/-- Everything that is wrapped in a scope and registered under constants is registered under
constants that Ruby takes. -/
def NamesConstants (hierarchy : Hierarchy) : Prop :=
  ∀ scope id, hierarchy.parent id = some scope → hierarchy.isWrapped id = true →
    (hierarchy.kind id).isType = true →
      ∀ named ∈ hierarchy.constantNames id, IsConstant named.2

end Hierarchy

namespace Library

variable {library : Library} (reachable : library.Reachable) {scope id : EntityId}
include reachable

theorem capitalizes_constant (link : library.hierarchy.parent id = some scope) :
    Capitalizes (library.hierarchy.name id) (library.hierarchy.spelling id)
      (library.hierarchy.constant id) := by
  have identifier := reachable.wellNamed.isIdentifier reachable.wellFormed.nested link
  rw [Hierarchy.spelling, Hierarchy.constant]
  cases library.hierarchy.kind id with
  | namespaceScope => exact capitalizes_pascalCase identifier
  | classType | enumType | constructor | method | function =>
      exact capitalizes_constantName identifier

theorem capitalizes_enumerator (link : library.hierarchy.parent id = some scope) :
    ∀ value ∈ library.hierarchy.enumerators id,
      Capitalizes value (trimUnderscores value.toList) (constantName value) := by
  have nested := reachable.wellFormed.nested
  intro value member
  have listed : value ∈ (library.hierarchy.declaration id).values := by
    rw [Hierarchy.enumerators] at member
    split at member
    · exact member
    all_goals cases member
  have sound := reachable.wellNamed.introduced id (Hierarchy.lt_size_of_parent link)
    (Nat.ne_zero_of_lt (nested.parent_lt link)) (.enumerator, value)
    (List.mem_cons_of_mem _ (List.mem_map_of_mem listed))
  exact capitalizes_constantName (declarable_iff.mp sound).1

/-- A namespace, class or enumeration is registered under constants, and so is every enumerator.
Ruby takes one for a constant exactly if there is a letter in its C++ name, and no digit in front of
it. -/
theorem constants_valid_iff (link : library.hierarchy.parent id = some scope)
    (isType : (library.hierarchy.kind id).isType = true) :
    library.hierarchy.Registers id ((library.hierarchy.constantNames id).map Prod.snd) ∧
      ∀ named ∈ library.hierarchy.constantNames id,
        IsConstant named.2 ↔ isLetterFirst named.1 = true := by
  refine ⟨Hierarchy.registers_constantNames link isType, ?_⟩
  rw [Hierarchy.constantNames, List.forall_mem_cons, List.forall_mem_map]
  exact ⟨(capitalizes_constant reachable link).isConstant_iff, fun value member =>
    (capitalizes_enumerator reachable link value member).isConstant_iff⟩

omit reachable

/-- A class that is named with a digit, and an enumeration with such an enumerator. -/
def digitNames : Library where
  hierarchy :=
    { entities :=
        [{ declaration := { kind := .namespaceScope, name := "lib" }
           parent := none
           children := [1, 2]
           qualifiedName := "" },
         { declaration := { kind := .classType, name := "_1" }
           parent := some Hierarchy.root
           children := []
           qualifiedName := "_1" },
         { declaration := { kind := .enumType, name := "_hue", values := ["red", "_2nd"] }
           parent := some Hierarchy.root
           children := []
           qualifiedName := "_hue" }]
      headers := [] }
  index := ⟨[("_1", 1), ("_hue", 2)]⟩

theorem reachable_digitNames : digitNames.Reachable := by
  have described : ofDescription
      { name := "lib"
        headers := []
        entities :=
          [{ kind := .classType, name := "_1" },
            { kind := .enumType, name := "_hue", values := ["red", "_2nd"] }] } =
        .ok digitNames := rfl
  exact .ofDescription described

/-- Of the constants of an enumeration, only one is none that Ruby takes. -/
theorem constants_valid_iff_digitNames :
    digitNames.hierarchy.Registers 2 ["Hue", "Red", "2nd"] ∧
      IsConstant "Hue" ∧ IsConstant "Red" ∧ ¬ IsConstant "2nd" := by
  obtain ⟨registers, valid⟩ := constants_valid_iff reachable_digitNames
    (rfl : digitNames.hierarchy.parent 2 = some Hierarchy.root) rfl
  have names : digitNames.hierarchy.constantNames 2 =
      [("_hue", "Hue"), ("red", "Red"), ("_2nd", "2nd")] := by cbv
  rw [names] at registers valid
  simp only [List.forall_mem_cons] at valid
  obtain ⟨own, red, second, -⟩ := valid
  exact ⟨registers, own.mpr (by decide), red.mpr (by decide),
    fun taken => absurd (second.mp taken) (by decide)⟩

end Library

namespace Pipeline

/-- A class whose name has no letter is registered under a constant that Ruby does not take, and
generation succeeds. -/
theorem constant_without_letter :
    let hierarchy := Library.digitNames.hierarchy
    Library.digitNames.Reachable ∧
      (plain hierarchy).generate.perform () = (.ok (plainState hierarchy), ()) ∧
      hierarchy.classText 1 = "Rice::Data_Type<_1> rb_c_1 = Rice::define_class<_1>(\"1\");" ∧
      ¬ hierarchy.NamesConstants := by
  have generated := generate_plain Library.digitNames.hierarchy (by decide +kernel)
  refine ⟨Library.reachable_digitNames, generated, by cbv, ?_⟩
  intro named
  have names : Library.digitNames.hierarchy.constantNames 1 = [("_1", "1")] := by cbv
  have taken := named Hierarchy.root 1 rfl (by decide) rfl ("_1", "1")
    (names ▸ List.mem_singleton_self _)
  obtain ⟨first, rest, spelled, capital⟩ := taken.start
  cases spelled
  exact absurd capital (by decide)

end Pipeline

/-! ## Collisions -/

namespace Hierarchy

/-- Wrapped namespaces, classes and enumerations of one scope that have different names are
registered under different constants, and so are different values of one enumeration. -/
structure NamesTypesApart (hierarchy : Hierarchy) : Prop where
  types : ∀ scope first second, hierarchy.parent first = some scope →
    hierarchy.parent second = some scope → hierarchy.isWrapped first = true →
      hierarchy.isWrapped second = true → (hierarchy.kind first).isType = true →
        (hierarchy.kind second).isType = true → hierarchy.name first ≠ hierarchy.name second →
          hierarchy.constant first ≠ hierarchy.constant second
  enumerators : ∀ id, hierarchy.isWrapped id = true → ∀ first ∈ hierarchy.enumerators id,
    ∀ second ∈ hierarchy.enumerators id, first ≠ second → constantName first ≠ constantName second

/-- The constants that entities are registered under tell their spellings, but for the case of the
first letter. Names that are more than that apart are registered under different constants, and
names with different letters always are. -/
structure TellsSpellings (hierarchy : Hierarchy) : Prop where
  registers : ∀ scope id, hierarchy.parent id = some scope → (hierarchy.kind id).isType = true →
    hierarchy.Registers id
      (hierarchy.constant id :: (hierarchy.enumerators id).map constantName)
  types : ∀ scope first second, hierarchy.parent first = some scope →
    hierarchy.parent second = some scope →
      (hierarchy.constant first = hierarchy.constant second ↔
        AlikeButFirst (hierarchy.spelling first) (hierarchy.spelling second))
  typeLetters : ∀ scope first second, hierarchy.parent first = some scope →
    hierarchy.parent second = some scope →
      bareLetters (hierarchy.name first).toList ≠ bareLetters (hierarchy.name second).toList →
        hierarchy.constant first ≠ hierarchy.constant second
  enumerators : ∀ scope id, hierarchy.parent id = some scope →
    ∀ first ∈ hierarchy.enumerators id, ∀ second ∈ hierarchy.enumerators id,
      (constantName first = constantName second ↔
        AlikeButFirst (trimUnderscores first.toList) (trimUnderscores second.toList))

end Hierarchy

namespace Library

/-- Every constant of a library tells the spelling that it is made from. -/
theorem constants_tell_spellings {library : Library} (reachable : library.Reachable) :
    library.hierarchy.TellsSpellings where
  registers := by
    intro scope id link isType
    have registered := Hierarchy.registers_constantNames link isType
    rw [Hierarchy.constantNames, List.map_cons, List.map_map] at registered
    exact registered
  types := fun _ _ _ firstLink secondLink =>
    (capitalizes_constant reachable firstLink).eq_iff (capitalizes_constant reachable secondLink)
  typeLetters := by
    intro scope first second firstLink secondLink apart same
    have capitalizes := capitalizes_constant reachable firstLink
    rw [same] at capitalizes
    exact apart (capitalizes.bareLetters_eq (capitalizes_constant reachable secondLink))
  enumerators := fun _ _ link first member second otherMember =>
    (capitalizes_enumerator reachable link first member).eq_iff
      (capitalizes_enumerator reachable link second otherMember)

/-- Two classes whose names differ in the case of the first letter, an enumeration with two such
values, and a namespace and a class whose names differ in an underscore at the end. -/
def respelledTypes : Library where
  hierarchy :=
    { entities :=
        [{ declaration := { kind := .namespaceScope, name := "lib" }
           parent := none
           children := [1, 2, 3, 4, 5]
           qualifiedName := "" },
         { declaration := { kind := .classType, name := "shape" }
           parent := some Hierarchy.root
           children := []
           qualifiedName := "shape" },
         { declaration := { kind := .classType, name := "Shape" }
           parent := some Hierarchy.root
           children := []
           qualifiedName := "Shape" },
         { declaration := { kind := .enumType, name := "Hue", values := ["red", "Red"] }
           parent := some Hierarchy.root
           children := []
           qualifiedName := "Hue" },
         { declaration := { kind := .namespaceScope, name := "net_io" }
           parent := some Hierarchy.root
           children := []
           qualifiedName := "net_io" },
         { declaration := { kind := .classType, name := "net_io_" }
           parent := some Hierarchy.root
           children := []
           qualifiedName := "net_io_" }]
      headers := [] }
  index := ⟨[("shape", 1), ("Shape", 2), ("Hue", 3), ("net_io", 4), ("net_io_", 5)]⟩

theorem reachable_respelledTypes : respelledTypes.Reachable := by
  have described : ofDescription
      { name := "lib"
        headers := []
        entities :=
          [{ kind := .classType, name := "shape" },
            { kind := .classType, name := "Shape" },
            { kind := .enumType, name := "Hue", values := ["red", "Red"] },
            { kind := .namespaceScope, name := "net_io" },
            { kind := .classType, name := "net_io_" }] } = .ok respelledTypes := rfl
  exact .ofDescription described

/-- The classes and the values are spelled alike but for the first letter. The namespace comes to
one word and the class keeps two, so they have different constants. -/
theorem constants_tell_spellings_respelledTypes :
    let hierarchy := respelledTypes.hierarchy
    hierarchy.constant 1 = hierarchy.constant 2 ∧
      constantName "red" = constantName "Red" ∧
      hierarchy.constant 4 ≠ hierarchy.constant 5 := by
  obtain ⟨-, types, -, enumerators⟩ := constants_tell_spellings reachable_respelledTypes
  refine ⟨?_, ?_, ?_⟩
  · exact (types Hierarchy.root 1 2 rfl rfl).mpr ⟨by decide, by decide⟩
  · have listed : respelledTypes.hierarchy.enumerators 3 = ["red", "Red"] := rfl
    exact (enumerators Hierarchy.root 3 rfl "red" (by simp [listed]) "Red" (by simp [listed])).mpr
      ⟨by decide, by decide⟩
  · intro same
    exact absurd ((types Hierarchy.root 4 5 rfl rfl).mp same).tail (by decide)

end Library

namespace Pipeline

open Hierarchy

/-- Two classes, and two values of an enumeration, are registered under one constant when their C++
names differ in the case of the first letter, and generation succeeds. -/
theorem constant_repeated :
    let hierarchy := Library.respelledTypes.hierarchy
    Library.respelledTypes.Reachable ∧
      (plain hierarchy).generate.perform () = (.ok (plainState hierarchy), ()) ∧
      hierarchy.classText 1 =
        "Rice::Data_Type<shape> rb_cshape = Rice::define_class<shape>(\"Shape\");" ∧
      hierarchy.classText 2 =
        "Rice::Data_Type<Shape> rb_cShape = Rice::define_class<Shape>(\"Shape\");" ∧
      hierarchy.Registers 3 ["Hue", "Red", "Red"] ∧
      ¬ hierarchy.NamesTypesApart := by
  have generated := generate_plain Library.respelledTypes.hierarchy (by decide +kernel)
  have registers := registers_constantNames
    (rfl : Library.respelledTypes.hierarchy.parent 3 = some Hierarchy.root) rfl
  have names : (Library.respelledTypes.hierarchy.constantNames 3).map Prod.snd =
      ["Hue", "Red", "Red"] := by cbv
  rw [names] at registers
  refine ⟨Library.reachable_respelledTypes, generated, by cbv, by cbv, registers, ?_⟩
  intro apart
  exact apart.types Hierarchy.root 1 2 rfl rfl (by decide) (by decide) rfl rfl (by decide)
    (by cbv)

end Pipeline

end RubyBindings
