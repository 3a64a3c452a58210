/-
Module: RubyBindings.Proofs.Library.NameChecks
Purpose: The names of a description are checked twice, as they stand in the text and once more when
  their entities are declared. What passes the first check is refused by the second for one name
  only: that of the library, where it is reserved and a constructor at the top level takes it.
Main exports: EntityDescription.firstRefusedName?_eq_findSome?, LibraryDescription.check_eq_ok,
  EntityDescription.LeavesName, Library.Reachable.declareDescriptions_of_clean,
  Library.ChecksAgree, Library.checks_agree, Library.library_name_refused
-/
import RubyBindings.Proofs.Library.Superclasses

namespace RubyBindings

open Naming

/-! ## The check of the text -/

theorem RefusedName.ofDeclared?_eq_none {role : NameRole} {name : String} :
    RefusedName.ofDeclared? role name = none ↔ declaredNameFault? name = none := by
  rw [RefusedName.ofDeclared?, Option.map_eq_none_iff]

namespace EntityDescription

/-- A constructor that leaves its name to what is around it. -/
def LeavesName (description : EntityDescription) : Prop :=
  description.kind = .constructor ∧ description.name = ""

instance (description : EntityDescription) : Decidable description.LeavesName :=
  inferInstanceAs (Decidable (description.kind = .constructor ∧ description.name = ""))

/-- An entity is not refused if its name and its enumerators may be declared. An unnamed constructor
has no name to be refused. -/
theorem ownRefusedName?_eq_none {description : EntityDescription} :
    description.ownRefusedName? = none ↔
      (description.LeavesName ∨ declaredNameFault? description.name = none) ∧
        ∀ value ∈ description.values, declaredNameFault? value = none := by
  have values : description.values.findSome? (RefusedName.ofDeclared? .enumerator) = none ↔
      ∀ value ∈ description.values, declaredNameFault? value = none := by
    simp only [List.findSome?_eq_none_iff, RefusedName.ofDeclared?_eq_none]
  simp only [ownRefusedName?, LeavesName, Option.or_eq_none_iff, values]
  split <;> simp_all [RefusedName.ofDeclared?_eq_none]

mutual

/-- The names of a description are looked at in the order in which its entities are numbered. -/
theorem refusedName?_eq_findSome? (scope first : Nat) :
    ∀ description : EntityDescription, description.refusedName? =
      (description.places scope first).findSome? fun place =>
        place.described.ownRefusedName?
  | { children, .. } => by
      rw [refusedName?, places, List.findSome?_cons,
        firstRefusedName?_eq_findSome? first (first + 1) children]
      cases ownRefusedName? _ <;> rfl

theorem firstRefusedName?_eq_findSome? (scope first : Nat) :
    ∀ descriptions : List EntityDescription, firstRefusedName? descriptions =
      (placesAll scope first descriptions).findSome? fun place =>
        place.described.ownRefusedName?
  | [] => by simp [firstRefusedName?, placesAll]
  | description :: descriptions => by
      rw [firstRefusedName?, placesAll, List.findSome?_append,
        refusedName?_eq_findSome? scope first description,
        firstRefusedName?_eq_findSome? scope (first + description.count) descriptions]

end

/-- The names of descriptions one after another are looked at one after another. -/
theorem firstRefusedName?_append (front back : List EntityDescription) :
    firstRefusedName? (front ++ back) = (firstRefusedName? front).or (firstRefusedName? back) := by
  rw [firstRefusedName?_eq_findSome? Hierarchy.root 1, placesAll_append, List.findSome?_append,
    ← firstRefusedName?_eq_findSome?, ← firstRefusedName?_eq_findSome?]

end EntityDescription

namespace LibraryDescription

/-- A constructor at the top level takes the name of the library, which is reserved. -/
def TakesReservedName (description : LibraryDescription) : Prop :=
  description.name ∈ reservedWords ∧
    ∃ entity ∈ description.entities, entity.LeavesName

instance (description : LibraryDescription) : Decidable description.TakesReservedName :=
  inferInstanceAs (Decidable (description.name ∈ reservedWords ∧
    ∃ entity ∈ description.entities, entity.LeavesName))

theorem check_eq_ok {description : LibraryDescription} {text source : String} :
    description.check text source = .ok () ↔
      identifierFault? description.name = none ∧
        EntityDescription.firstRefusedName? description.entities = none := by
  have refused : description.refusedName? = none ↔ identifierFault? description.name = none ∧
      EntityDescription.firstRefusedName? description.entities = none := by
    simp [refusedName?]
  rw [← refused, check]
  cases description.refusedName? <;> simp

end LibraryDescription

/-- An error that says nothing about the spelling of names or about ids: two entities share a name,
or a superclass name leads to no class. -/
def LibraryError.IsConflict : LibraryError → Prop
  | .duplicateName .. | .unknownSuperclass .. | .invalidSuperclass .. => True
  | .unreadable .. | .malformed .. | .invalidIdentifier .. | .unknownEntity .. | .unnamed ..
  | .invalidName .. => False

namespace Library

variable {library after declared : Library} {scope : EntityId}

open EntityDescription (firstRefusedName? placesAll)

/-! ## The check of a declaration -/

/-- An entity that the first check lets pass also passes the second one, but for a repeated name of
a type, if whatever name it takes from its scope may be declared. -/
theorem declare_of_clean {description : EntityDescription} (existing : scope < library.size)
    (clean : description.ownRefusedName? = none)
    (taken : description.LeavesName →
      declaredNameFault? (library.hierarchy.name scope) = none) :
    (∃ added after, Declares library scope description.toDeclaration added after ∧
        library.declare scope description.toDeclaration = .ok (library.size, after) ∧
        declaredNameFault? added.name = none) ∨
      ∃ kind name, library.declare scope description.toDeclaration =
        .error (.duplicateName kind name) := by
  obtain ⟨ownName, values⟩ := EntityDescription.ownRefusedName?_eq_none.mp clean
  obtain ⟨added, named, sound, sameValues, unlinked⟩ : ∃ added,
      library.named scope description.toDeclaration = .ok added ∧
        declaredNameFault? added.name = none ∧ added.values = description.values ∧
        added.superclass = none := by
    rcases ownName with leavesName | sound
    · have isConstructor : description.toDeclaration.kind = .constructor := leavesName.1
      have unnamed : description.toDeclaration.name = "" := leavesName.2
      refine ⟨{ description.toDeclaration with name := library.hierarchy.name scope }, ?_,
        taken leavesName, rfl, rfl⟩
      rw [Library.named, if_pos unnamed, if_pos isConstructor]
    · have hasName : description.toDeclaration.name ≠ "" := by
        intro unnamed
        change description.name = "" at unnamed
        rw [unnamed] at sound
        exact absurd sound (by decide)
      exact ⟨description.toDeclaration, by rw [Library.named, if_neg hasName], sound, rfl, rfl⟩
  have checked : Checked library scope description.toDeclaration added := by
    refine ⟨existing, named, ?_, ?_⟩
    · apply requireNames_eq_ok.mpr
      simp only [introducedNames, sameValues, List.forall_mem_cons, List.forall_mem_map]
      exact ⟨sound, values⟩
    · intro superclass link
      rw [unlinked] at link
      cases link
  have declared := declare_of_checked checked
  split at declared
  · exact Or.inr ⟨_, _, declared⟩
  · obtain ⟨-, other, declares⟩ := declares_of_declare declared
    obtain rfl : added = other := Except.ok.inj (named.symm.trans declares.named)
    exact Or.inl ⟨added, _, declares, declared, sound⟩

/-! ## The check of descriptions -/

mutual

/-- What is described with clean names is refused only for a repeated name of a type. -/
theorem Reachable.declareDescription_of_clean {library : Library} (reachable : library.Reachable)
    {scope : EntityId} (existing : scope < library.size) :
    ∀ (description : EntityDescription), description.refusedName? = none →
      (description.LeavesName → declaredNameFault? (library.hierarchy.name scope) = none) →
        (∃ after links,
            Library.declareDescription scope description library = .ok (after, links)) ∨
          ∃ kind name, Library.declareDescription scope description library =
            .error (.duplicateName kind name)
  | { children, .. }, clean, taken => by
    rw [EntityDescription.refusedName?, Option.or_eq_none_iff] at clean
    rcases declare_of_clean existing clean.1 taken with
      ⟨added, middle, declares, declared, sound⟩ | ⟨kind, name, refused⟩
    · -- The entity has a name that may be declared, which a constructor inside may take.
      have inside : library.size < middle.size := by
        rw [size, size, declares.size_eq]
        exact Nat.lt_succ_self _
      have newName : middle.hierarchy.name library.size = added.name := by
        rw [Hierarchy.name, Hierarchy.declaration, size, declares.entity_self]
      rw [Library.declareDescription, declared]
      rcases Reachable.declareDescriptions_of_clean (.step reachable (.declare declared)) inside
        children clean.2 (fun _ _ _ => newName ▸ sound) with ⟨after, links, nested⟩ |
        ⟨kind, name, refused⟩
      · left
        simp [nested, bind, Except.bind, pure, Except.pure]
      · exact Or.inr ⟨kind, name, by simp [refused, bind, Except.bind]⟩
    · exact Or.inr ⟨kind, name, by rw [Library.declareDescription, refused]; rfl⟩

theorem Reachable.declareDescriptions_of_clean {library : Library} (reachable : library.Reachable)
    {scope : EntityId} (existing : scope < library.size) :
    ∀ (descriptions : List EntityDescription), firstRefusedName? descriptions = none →
      (∀ description ∈ descriptions, description.LeavesName →
        declaredNameFault? (library.hierarchy.name scope) = none) →
        (∃ after links,
            Library.declareDescriptions scope descriptions library = .ok (after, links)) ∨
          ∃ kind name, Library.declareDescriptions scope descriptions library =
            .error (.duplicateName kind name)
  | [], _, _ => Or.inl ⟨library, [], rfl⟩
  | description :: descriptions, clean, taken => by
    rw [EntityDescription.firstRefusedName?, Option.or_eq_none_iff] at clean
    obtain ⟨takenFirst, takenLater⟩ := List.forall_mem_cons.mp taken
    rw [Library.declareDescriptions]
    rcases Reachable.declareDescription_of_clean reachable existing description clean.1 takenFirst
      with ⟨middle, first, one⟩ | ⟨kind, name, refused⟩
    · have flattened := reachable.flattened scope description one
      have between := reachable.declareDescription scope description one
      have still : scope < middle.size := by
        rw [size, flattened.size]
        exact Nat.lt_add_right _ existing
      have sameName : middle.hierarchy.name scope = library.hierarchy.name scope :=
        flattened.read_old (fun entity => entity.declaration.name) (fun _ _ => rfl) existing
      rcases Reachable.declareDescriptions_of_clean between still descriptions clean.2
        (sameName.symm ▸ takenLater) with ⟨after, others, rest⟩ | ⟨kind, name, refused⟩
      · left
        simp [one, rest, bind, Except.bind, pure, Except.pure]
      · exact Or.inr ⟨kind, name, by simp [one, refused, bind, Except.bind]⟩
    · exact Or.inr ⟨kind, name, by rw [refused]; rfl⟩

end

/-- A list of descriptions is declared up to any place in it, and then the rest. -/
theorem declareDescriptions_append (scope : EntityId) (front back : List EntityDescription)
    (library : Library) :
    declareDescriptions scope (front ++ back) library =
      (declareDescriptions scope front library >>= fun (middle, first) =>
        declareDescriptions scope back middle >>= fun (after, others) =>
          pure (after, first ++ others)) := by
  induction front generalizing library with
  | nil =>
      cases back : declareDescriptions scope back library <;>
        simp [declareDescriptions, back, bind, Except.bind, pure, Except.pure]
  | cons description front ih =>
      simp only [List.cons_append, declareDescriptions, ih, bind_assoc, pure_bind,
        List.append_assoc]

theorem declareDescription_eq (scope : EntityId) (description : EntityDescription)
    (library : Library) :
    declareDescription scope description library =
      (library.declare scope description.toDeclaration >>= fun (id, middle) =>
        declareDescriptions id description.children middle >>= fun (after, nested) =>
          pure (after,
            (description.superclassName.map (PendingLink.mk id)).toList ++ nested)) := by
  cases description
  rfl

/-- A constructor that takes a reserved name from the root is refused under that name. -/
theorem declareDescription_refused {description : EntityDescription}
    (leavesName : description.LeavesName) (root : library.hierarchy.parent Hierarchy.root = none)
    (hasRoot : Hierarchy.root < library.size) (reserved : library.name ∈ reservedWords) :
    declareDescription Hierarchy.root description library =
      .error (.invalidName (.declaration .constructor) library.name library.name .reserved) := by
  have isConstructor : description.toDeclaration.kind = .constructor := leavesName.1
  have unnamed : description.toDeclaration.name = "" := leavesName.2
  have fault : declaredNameFault? library.name = some .reserved := by
    rw [declaredNameFault?, if_pos reserved]
  have refused : library.declare Hierarchy.root description.toDeclaration =
      .error (.invalidName (.declaration .constructor) library.name library.name .reserved) := by
    rw [Library.name] at fault ⊢
    rw [declare, requireEntity_eq_ok.mpr hasRoot]
    simp [named, isConstructor, unnamed, requireNames, introducedNames, fault, displayName, root,
      bind, Except.bind]
  rw [declareDescription_eq, refused]
  rfl

/-! ## The start and the end of a description -/

theorem name_start (description : LibraryDescription) :
    (start description).name = description.name := by
  rw [start, addHeaders_eq]
  rfl

/-- A description that is accepted declares names that may be declared. -/
theorem DeclaredAll.clean {description : LibraryDescription} {links : List PendingLink}
    (all : DeclaredAll description declared links) :
    firstRefusedName? description.entities = none := by
  rw [EntityDescription.firstRefusedName?_eq_findSome? Hierarchy.root 1, List.findSome?_eq_none_iff]
  intro place member
  obtain ⟨number, found⟩ := List.mem_iff_getElem?.mp member
  obtain ⟨inside, -⟩ := List.getElem?_eq_some_iff.mp found
  rw [EntityDescription.length_placesAll] at inside
  have realizes : declared.Realizes (1 + number) place := by
    have atStart := all.flattened.new number place
    simp only [size_start] at atStart
    exact (atStart found).1
  have existing : 1 + number < declared.hierarchy.size := by
    have size := all.size
    rw [Library.size] at size
    rw [size]
    exact Nat.add_lt_add_left inside 1
  have sound := all.reachable.wellNamed.introduced _ existing
    (Nat.ne_of_gt (Nat.lt_add_right number Nat.one_pos))
  rw [realizes.declaration] at sound
  simp only [introducedNames, List.forall_mem_cons, List.forall_mem_map] at sound
  obtain ⟨ownName, values⟩ := sound
  refine EntityDescription.ownRefusedName?_eq_none.mpr ⟨?_, values⟩
  by_cases leavesName : place.described.kind = .constructor ∧ place.described.name = ""
  · exact Or.inl leavesName
  · rw [if_neg leavesName] at ownName
    exact Or.inr ownName

/-- Where a superclass name leads is no matter of how names are spelled. -/
theorem isConflict_of_linkError? {link : PendingLink} {error : LibraryError}
    (refused : library.linkError? link = some error) : error.IsConflict := by
  rw [linkError?] at refused
  split at refused
  · cases refused
    trivial
  · split at refused
    · cases refused
    · cases refused
      trivial

/-- Once all entities are declared, a description can only be refused for a conflict. -/
theorem DeclaredAll.isConflict {description : LibraryDescription} {links : List PendingLink}
    (all : DeclaredAll description declared links)
    (accepted : declareAll description = .ok (declared, links)) {error : LibraryError}
    (failed : ofDescription description = .error error) : error.IsConflict := by
  have outcome := all.outcome accepted
  cases linkError : links.findSome? declared.linkError? with
  | none =>
      rw [linkError] at outcome
      obtain ⟨library, described⟩ := outcome
      cases described.symm.trans failed
  | some other =>
      rw [linkError] at outcome
      cases outcome.symm.trans failed
      obtain ⟨link, -, refused⟩ := List.exists_of_findSome?_eq_some linkError
      exact isConflict_of_linkError? refused

/-! ## Both checks -/

/-- The check of a description as a text and the checks when it is made into a library agree but
for the name of the library. -/
structure ChecksAgree (description : LibraryDescription) (text source : String) : Prop where
  /-- What is made into a library has passed the check of the text, if the library's name is an
  identifier. -/
  complete : identifierFault? description.name = none →
    ∀ library, ofDescription description = .ok library → description.check text source = .ok ()
  /-- What has passed it is later refused only for a conflict, -/
  sound : description.check text source = .ok () → ¬ description.TakesReservedName →
    ∀ error, ofDescription description = .error error → error.IsConflict
  /-- or for the first constructor that takes a reserved name of the library, unless there is a
  conflict before it. -/
  reserved : description.check text source = .ok () → description.name ∈ reservedWords →
    ∀ front entity back, description.entities = front ++ entity :: back →
      (∀ other ∈ front, ¬ other.LeavesName) → entity.LeavesName →
        match declareDescriptions Hierarchy.root front (start description) with
        | .ok _ => ofDescription description =
            .error (.invalidName (.declaration .constructor) description.name description.name
              .reserved)
        | .error error => ofDescription description = .error error ∧ error.IsConflict

/-- The checks of names agree for every description. -/
theorem checks_agree (description : LibraryDescription) (text source : String) :
    ChecksAgree description text source where
  complete := by
    intro identifier library described
    rw [ofDescription_eq] at described
    obtain ⟨⟨declared, links⟩, accepted, -⟩ := bind_eq_ok.mp described
    apply LibraryDescription.check_eq_ok.mpr
    exact ⟨identifier, (declaredAll_of_declareAll accepted).clean⟩
  sound := by
    intro checked notTaken error failed
    obtain ⟨identifier, clean⟩ := LibraryDescription.check_eq_ok.mp checked
    have taken : ∀ entity ∈ description.entities, entity.LeavesName →
        declaredNameFault? (start description).name = none := by
      intro entity member leavesName
      have plain : description.name ∉ reservedWords :=
        fun reserved => notTaken ⟨reserved, entity, member, leavesName⟩
      rw [name_start, declaredNameFault?, if_neg plain, identifier]
    have hasRoot := (reachable_start description).wellFormed.nested.hasRoot
    rcases (reachable_start description).declareDescriptions_of_clean hasRoot _ clean taken with
      ⟨declared, links, accepted⟩ | ⟨kind, name, refused⟩
    · exact (declaredAll_of_declareAll accepted).isConflict accepted failed
    · rw [ofDescription_eq, declareAll, refused] at failed
      cases failed
      trivial
  reserved := by
    intro checked reserved front entity back split named leavesName
    obtain ⟨-, clean⟩ := LibraryDescription.check_eq_ok.mp checked
    have frontClean : firstRefusedName? front = none := by
      rw [split, EntityDescription.firstRefusedName?_append, Option.or_eq_none_iff] at clean
      exact clean.1
    -- No constructor in front takes the library's name, so only a conflict can end it earlier.
    have start := reachable_start description
    have hasRoot := start.wellFormed.nested.hasRoot
    rcases start.declareDescriptions_of_clean hasRoot front frontClean
      (fun other member leaves => absurd leaves (named other member)) with
      ⟨middle, links, accepted⟩ | ⟨kind, name, refused⟩
    · have flattened := start.flattenedAll hasRoot front accepted
      have sameName : middle.name = description.name :=
        (flattened.read_old (fun entity => entity.declaration.name) (fun _ _ => rfl) hasRoot).trans
          (name_start description)
      have between := (start.declareDescriptions _ _ accepted).wellFormed.nested
      have last := declareDescription_refused leavesName between.rootParent between.hasRoot
        (sameName ▸ reserved)
      rw [sameName] at last
      simp [accepted, ofDescription_eq, declareAll, split, declareDescriptions_append,
        declareDescriptions, last, bind, Except.bind]
    · simp [refused, ofDescription_eq, declareAll, split, declareDescriptions_append, bind,
        Except.bind, LibraryError.IsConflict]

/-- A library with a reserved name, which its constructor at the top level takes. -/
def reservedLibrary : LibraryDescription where
  name := "class"
  headers := []
  entities := [{ kind := .constructor }]

/-- The description is accepted as a text, but refused as a library for the spelling of a name. -/
theorem library_name_refused :
    reservedLibrary.check "name = \"class\"\n\n[[entities]]\nkind = \"constructor\"\n"
        "library.toml" = .ok () ∧
      reservedLibrary.TakesReservedName ∧
      ofDescription reservedLibrary =
        .error (.invalidName (.declaration .constructor) "class" "class" .reserved) :=
  ⟨rfl, by decide, rfl⟩

end Library

end RubyBindings
