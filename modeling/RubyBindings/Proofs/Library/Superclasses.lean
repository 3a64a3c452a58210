/-
Module: RubyBindings.Proofs.Library.Superclasses
Purpose: Where the superclass names of a description lead. They are looked up once every entity is
  declared, so a class may name one that comes after it. A name leads to the first entity that has
  it; a method, function or constructor that was declared before a class of its name hides it.
Main exports: Library.First, Library.LeadsToClass, Library.declareAll, Library.linkError?,
  Library.resolveLinks_eq, Library.SuperclassesResolved, Library.superclasses_resolved,
  Library.hidden_class_refused
-/
import RubyBindings.Proofs.Library.Flattening
import RubyBindings.Proofs.Library.TypeNames

namespace RubyBindings

open EntityDescription (Scoped countAll placesAll superclassNames)

/-- The description with this number names a superclass. -/
def LibraryDescription.NamesSuperclass (description : LibraryDescription) (number : Nat)
    (name : String) : Prop :=
  ∃ place : Scoped, (placesAll Hierarchy.root 1 description.entities)[number]? = some place ∧
    place.described.superclassName = some name

/-- The superclass name of one description stands behind those of the descriptions before it. -/
theorem EntityDescription.superclassNames_split (first : Nat) {places : List Scoped} {number : Nat}
    {place : Scoped} {name : String} (found : places[number]? = some place)
    (named : place.described.superclassName = some name) :
    ∃ rest, superclassNames first places =
      superclassNames first (places.take number) ++ ⟨first + number, name⟩ :: rest := by
  obtain ⟨inside, same⟩ := List.getElem?_eq_some_iff.mp found
  refine ⟨superclassNames (first + number + 1) (places.drop (number + 1)), ?_⟩
  calc superclassNames first places
      = superclassNames first (places.take number ++ place :: places.drop (number + 1)) := by
        rw [← same, ← List.drop_eq_getElem_cons inside, List.take_append_drop]
    _ = _ := by
        rw [superclassNames_append, List.length_take_of_le (Nat.le_of_lt inside)]
        simp [superclassNames, List.zipIdx_cons, named]

namespace Library

variable {library after declared : Library} {description : LibraryDescription}
  {links : List PendingLink}

/-! ## Where a name leads -/

/-- The first entity of a name. The root has no name that it could be found by. -/
def First (library : Library) (name : String) (id : EntityId) : Prop :=
  IsLeast {other | other < library.size ∧ other ≠ Hierarchy.root ∧
    library.hierarchy.qualifiedName other = name} id

/-- The first entity of a name is a class. -/
def LeadsToClass (library : Library) (name : String) : Prop :=
  ∃ id, library.First name id ∧ library.hierarchy.kind id = .classType

theorem Reachable.find?_eq_some_iff_first (reachable : library.Reachable) {name : String}
    {id : EntityId} : library.find? name = some id ↔ library.First name id :=
  reachable.represented.find?_eq_some name id

/-- Whatever is found is an entity of the library. -/
theorem Reachable.lt_size_of_find? (reachable : library.Reachable) {name : String} {id : EntityId}
    (found : library.find? name = some id) : id < library.size :=
  (reachable.find?_eq_some_iff_first.mp found).1.1

/-- A class is hidden only by a callable: a second type of its name would have been refused. -/
theorem Reachable.hidden_behind_callable (reachable : library.Reachable) {id : EntityId}
    (existing : id < library.size) (isClass : library.hierarchy.kind id = .classType)
    (hidden : ¬ library.LeadsToClass (library.hierarchy.qualifiedName id)) :
    ∃ callable < id, library.First (library.hierarchy.qualifiedName id) callable ∧
      (library.hierarchy.kind callable).isType = false := by
  have notRoot : id ≠ Hierarchy.root := by
    rintro rfl
    simp [reachable.wellFormed.rootKind] at isClass
  obtain ⟨scope, -, link⟩ := reachable.wellFormed.nested.parentBefore id existing notRoot
  have named := reachable.wellNamed.qualifiedName_ne_empty reachable.wellFormed.nested link
  obtain ⟨first, notAfter, found⟩ := reachable.exists_first existing named
  have isFirst := reachable.find?_eq_some_iff_first.mp found
  have notClass : library.hierarchy.kind first ≠ .classType :=
    fun same => hidden ⟨first, isFirst, same⟩
  have smaller : first < id := by
    apply Nat.lt_of_le_of_ne notAfter
    rintro rfl
    exact notClass isClass
  refine ⟨first, smaller, isFirst, ?_⟩
  cases isType : (library.hierarchy.kind first).isType with
  | false => rfl
  | true =>
      -- Two types of one name have a callable before them, but nothing is before the first one.
      have otherIsType : (library.hierarchy.kind id).isType = true := by simp [isClass,
        DeclarationKind.isType]
      obtain ⟨callable, before, calledFirst, -⟩ :=
        reachable.behindCallable smaller existing isType otherIsType isFirst.1.2.2
      rw [isFirst.1.2.2, found] at calledFirst
      cases calledFirst
      exact absurd before (Nat.lt_irrefl _)

/-! ## One name after the other -/

/-- The error for a superclass name that does not lead to a class. -/
def linkError? (library : Library) (link : PendingLink) : Option LibraryError :=
  match library.find? link.superclassName with
  | none =>
    some (.unknownSuperclass (library.hierarchy.qualifiedName link.derived) link.superclassName)
  | some superclass =>
    if library.hierarchy.kind superclass = .classType then none
    else
      some (.invalidSuperclass (library.hierarchy.qualifiedName link.derived)
        (library.displayName superclass) (library.hierarchy.kind superclass))

/-- A name that leads to no class is refused, and any other is linked. -/
theorem Reachable.resolveLink_eq (reachable : library.Reachable) {link : PendingLink}
    (existing : link.derived < library.size) :
    match library.linkError? link with
    | some error => library.resolveLink link = .error error
    | none => ∃ superclass after, Links library link.derived superclass after ∧
        library.resolveLink link = .ok after := by
  simp only [linkError?, Library.resolveLink]
  cases found : library.find? link.superclassName with
  | none => rfl
  | some superclass =>
      have derivedFound := requireEntity_eq_ok.mpr existing
      have targetFound := requireEntity_eq_ok.mpr (reachable.lt_size_of_find? found)
      by_cases isClass : library.hierarchy.kind superclass = .classType
      · simp only [isClass, if_true]
        have linked : ∃ after, library.linkSuperclass link.derived superclass = .ok after := by
          simp [linkSuperclass, requireSuperclass, derivedFound, targetFound, isClass, bind,
            Except.bind, pure, Except.pure]
        obtain ⟨after, linked⟩ := linked
        exact ⟨superclass, after, links_of_linkSuperclass linked, linked⟩
      · simp only [isClass, if_false]
        simp [linkSuperclass, requireSuperclass, derivedFound, targetFound, isClass, bind,
          Except.bind]

/-- A superclass link does not change which names lead to a class. -/
theorem Links.linkError?_eq {id superclass : EntityId} (links : Links library id superclass after)
    (link : PendingLink) : after.linkError? link = library.linkError? link := by
  simp only [linkError?, displayName, links.find?_eq, links.kind, links.parent, links.name,
    links.qualifiedName]

/-- Names are resolved in their order, up to the first one that leads to no class. -/
theorem resolveLinks_eq (links : List PendingLink) :
    ∀ {library : Library}, library.Reachable → (∀ link ∈ links, link.derived < library.size) →
      match links.findSome? library.linkError? with
      | some error => links.foldlM resolveLink library = .error error
      | none => ∃ after, links.foldlM resolveLink library = .ok after := by
  induction links with
  | nil => exact fun _ _ => ⟨_, rfl⟩
  | cons link links ih =>
      intro library reachable existing
      obtain ⟨linkExists, othersExist⟩ := List.forall_mem_cons.mp existing
      have first := reachable.resolveLink_eq linkExists
      rw [List.findSome?_cons, List.foldlM_cons]
      cases refused : library.linkError? link with
      | some error =>
          rw [refused] at first
          dsimp only at first ⊢
          rw [first]
          rfl
      | none =>
          rw [refused] at first
          obtain ⟨superclass, middle, linked, resolved⟩ := first
          have inMiddle : ∀ other ∈ links, other.derived < middle.size := by
            intro other member
            rw [size, linked.size]
            exact othersExist other member
          have rest := ih (reachable.resolveLink resolved) inMiddle
          have same : middle.linkError? = library.linkError? := funext linked.linkError?_eq
          rw [same] at rest
          rw [resolved]
          exact rest

/-! ## Whole descriptions -/

/-- The library of a description before its entities are declared. -/
def start (description : LibraryDescription) : Library :=
  description.headers.foldl addHeader (empty description.name)

@[simp]
theorem size_start (description : LibraryDescription) :
    (start description).hierarchy.size = 1 := by
  rw [start, addHeaders_eq]
  rfl

theorem reachable_start (description : LibraryDescription) : (start description).Reachable :=
  Reachable.addHeaders (.empty description.name) description.headers

/-- Every entity of a description, declared in the order of the text; the superclass names are left
to be resolved. -/
def declareAll (description : LibraryDescription) :
    Except LibraryError (Library × List PendingLink) :=
  declareDescriptions Hierarchy.root description.entities (start description)

/-- A described library is declared first and linked afterwards. -/
theorem ofDescription_eq (description : LibraryDescription) :
    ofDescription description =
      (declareAll description >>= fun (library, links) => links.foldlM resolveLink library) :=
  rfl

/-- What declaring a description leaves: the described entities behind the root, and the superclass
names with the numbers of their entities. -/
structure DeclaredAll (description : LibraryDescription) (declared : Library)
    (links : List PendingLink) : Prop where
  reachable : declared.Reachable
  flattened : Flattened (start description) Hierarchy.root description.entities declared links

theorem declaredAll_of_declareAll (accepted : declareAll description = .ok (declared, links)) :
    DeclaredAll description declared links where
  reachable := (reachable_start description).declareDescriptions _ _ accepted
  flattened :=
    (reachable_start description).flattenedAll
      (reachable_start description).wellFormed.nested.hasRoot _ accepted

namespace DeclaredAll

variable (all : DeclaredAll description declared links)
include all

theorem size : declared.size = 1 + countAll description.entities := by
  rw [Library.size, all.flattened.size, size_start]

theorem links_eq : links = superclassNames 1 (placesAll Hierarchy.root 1 description.entities) := by
  rw [all.flattened.links, size_start]

/-- Superclass names wait for the entities whose descriptions give them. -/
theorem mem_links {link : PendingLink} :
    link ∈ links ↔ ∃ number, description.NamesSuperclass number link.superclassName ∧
      link.derived = 1 + number := by
  rw [all.links_eq, EntityDescription.mem_superclassNames]
  constructor
  · rintro ⟨number, place, found, named, derived⟩
    exact ⟨number, ⟨place, found, named⟩, derived⟩
  · rintro ⟨number, ⟨place, found, named⟩, derived⟩
    exact ⟨number, place, found, named, derived⟩

theorem derived_lt {link : PendingLink} (member : link ∈ links) : link.derived < declared.size := by
  obtain ⟨number, ⟨place, found, -⟩, derived⟩ := all.mem_links.mp member
  obtain ⟨inside, -⟩ := List.getElem?_eq_some_iff.mp found
  rw [EntityDescription.length_placesAll] at inside
  rw [derived, all.size]
  exact Nat.add_lt_add_left inside 1

/-- Once the names are resolved, each entity has the class that its description names. -/
theorem superclass_eq (accepted : declareAll description = .ok (declared, links))
    (described : ofDescription description = .ok library) {number : Nat} {place : Scoped}
    (found : (placesAll Hierarchy.root 1 description.entities)[number]? = some place) :
    (library.hierarchy.superclass (1 + number)).isSome = place.described.superclassName.isSome ∧
      library.hierarchy.superclass (1 + number) =
        place.described.superclassName.bind library.find? := by
  rw [ofDescription_eq, accepted] at described
  have resolved := Resolved.of_resolveLinks links described
  rw [← size_start description] at found ⊢
  exact all.flattened.superclass_eq resolved found

/-- A name is refused exactly if it leads to no class. -/
theorem linkError?_eq_none {link : PendingLink} :
    declared.linkError? link = none ↔ declared.LeadsToClass link.superclassName := by
  simp only [linkError?, LeadsToClass, ← all.reachable.find?_eq_some_iff_first]
  cases declared.find? link.superclassName with
  | none => simp
  | some superclass => simp

/-- The first name that is refused decides how linking ends. -/
theorem outcome (accepted : declareAll description = .ok (declared, links)) :
    match links.findSome? declared.linkError? with
    | some error => ofDescription description = .error error
    | none => ∃ library, ofDescription description = .ok library := by
  have resolved := resolveLinks_eq links all.reachable fun _ member => all.derived_lt member
  simp only [ofDescription_eq, accepted]
  exact resolved

theorem exists_ofDescription (accepted : declareAll description = .ok (declared, links)) :
    (∃ library, ofDescription description = .ok library) ↔
      links.findSome? declared.linkError? = none := by
  have outcome := all.outcome accepted
  cases refused : links.findSome? declared.linkError? with
  | none =>
      rw [refused] at outcome
      exact iff_of_true outcome rfl
  | some error =>
      rw [refused] at outcome
      apply iff_of_false
      · rintro ⟨library, success⟩
        cases outcome.symm.trans success
      · exact nofun

end DeclaredAll

/-- This description is the first one whose superclass name does not lead to a class. -/
structure FirstUnresolved (description : LibraryDescription) (declared : Library) (number : Nat)
    (name : String) : Prop where
  named : description.NamesSuperclass number name
  unresolved : ¬ declared.LeadsToClass name
  earlier : ∀ before < number, ∀ other, description.NamesSuperclass before other →
    declared.LeadsToClass other

/-- The superclass names of a description have been resolved as far as they lead to classes. -/
structure SuperclassesResolved (description : LibraryDescription) (declared : Library) : Prop where
  /-- The library is made exactly if every superclass name leads to a class. -/
  succeeds : (∃ library, ofDescription description = .ok library) ↔
    ∀ number name, description.NamesSuperclass number name → declared.LeadsToClass name
  /-- Then each described entity derives from the class that its name leads to. -/
  linked : ∀ library, ofDescription description = .ok library →
    ∀ number name, description.NamesSuperclass number name →
      ∃ superclass, library.hierarchy.superclass (1 + number) = some superclass ∧
        library.First name superclass ∧ library.hierarchy.kind superclass = .classType
  /-- Otherwise the first name that leads to no class is refused, because no entity has it -/
  unknown : ∀ number name, FirstUnresolved description declared number name →
    (∀ id < declared.size, id ≠ Hierarchy.root → declared.hierarchy.qualifiedName id ≠ name) →
      ofDescription description =
        .error (.unknownSuperclass (declared.hierarchy.qualifiedName (1 + number)) name)
  /-- or because the first entity that has it is no class. -/
  invalid : ∀ number name, FirstUnresolved description declared number name →
    ∀ first, declared.First name first →
      ofDescription description =
        .error (.invalidSuperclass (declared.hierarchy.qualifiedName (1 + number)) name
          (declared.hierarchy.kind first))
  /-- A class whose own name does not lead to a class stands behind a callable of that name. -/
  hidden : ∀ id < declared.size, declared.hierarchy.kind id = .classType →
    ¬ declared.LeadsToClass (declared.hierarchy.qualifiedName id) →
      ∃ callable < id, declared.First (declared.hierarchy.qualifiedName id) callable ∧
        (declared.hierarchy.kind callable).isType = false

/-- The names before the first one that leads to no class are not refused. -/
theorem FirstUnresolved.findSome?_linkError? {number : Nat} {name : String}
    (first : FirstUnresolved description declared number name)
    (all : DeclaredAll description declared links) :
    ∃ error, links.findSome? declared.linkError? = some error ∧
      declared.linkError? ⟨1 + number, name⟩ = some error := by
  obtain ⟨place, found, named⟩ := first.named
  obtain ⟨error, refused⟩ : ∃ error, declared.linkError? ⟨1 + number, name⟩ = some error := by
    apply Option.ne_none_iff_exists'.mp
    intro accepted
    exact first.unresolved (all.linkError?_eq_none.mp accepted)
  obtain ⟨rest, split⟩ := EntityDescription.superclassNames_split 1 found named
  have front : (superclassNames 1 ((placesAll Hierarchy.root 1 description.entities).take
      number)).findSome? declared.linkError? = none := by
    rw [List.findSome?_eq_none_iff]
    intro link member
    obtain ⟨before, other, otherFound, otherNamed, -⟩ :=
      EntityDescription.mem_superclassNames.mp member
    rw [List.getElem?_take] at otherFound
    split at otherFound
    · rename_i smaller
      apply all.linkError?_eq_none.mpr
      exact first.earlier before smaller _ ⟨other, otherFound, otherNamed⟩
    · cases otherFound
  refine ⟨error, ?_, refused⟩
  simp [all.links_eq, split, front, refused]

/-- The library is refused for the first name that leads to no class. -/
theorem FirstUnresolved.refused {number : Nat} {name : String}
    (first : FirstUnresolved description declared number name)
    (all : DeclaredAll description declared links)
    (accepted : declareAll description = .ok (declared, links)) :
    ∃ error, ofDescription description = .error error ∧
      declared.linkError? ⟨1 + number, name⟩ = some error := by
  obtain ⟨error, isFirst, refused⟩ := first.findSome?_linkError? all
  have outcome := all.outcome accepted
  rw [isFirst] at outcome
  exact ⟨error, outcome, refused⟩

/-- Superclass names lead to classes wherever these are declared, unless a callable of the name is
declared first. Where one leads to no class, the first such name is refused. -/
theorem superclasses_resolved (accepted : declareAll description = .ok (declared, links)) :
    SuperclassesResolved description declared := by
  have all := declaredAll_of_declareAll accepted
  constructor
  case succeeds =>
    rw [all.exists_ofDescription accepted, List.findSome?_eq_none_iff]
    constructor
    · intro accepts number name named
      have member : ⟨1 + number, name⟩ ∈ links := all.mem_links.mpr ⟨number, named, rfl⟩
      exact all.linkError?_eq_none.mp (accepts _ member)
    · intro leads link member
      obtain ⟨number, named, -⟩ := all.mem_links.mp member
      exact all.linkError?_eq_none.mpr (leads number _ named)
  case linked =>
    intro library described number name ⟨place, found, named⟩
    have reachable := Reachable.ofDescription described
    obtain ⟨linked, target⟩ := all.superclass_eq accepted described found
    rw [named] at linked target
    obtain ⟨superclass, link⟩ := Option.isSome_iff_exists.mp linked
    rw [link] at target
    refine ⟨superclass, link, reachable.find?_eq_some_iff_first.mp target.symm, ?_⟩
    exact (reachable.wellFormed.superclasses _ _ link).2
  case unknown =>
    intro number name first absent
    obtain ⟨error, outcome, refused⟩ := first.refused all accepted
    have missing := (all.reachable.represented.find?_eq_none name).mpr absent
    simp only [linkError?, missing, Option.some.injEq] at refused
    rw [outcome, ← refused]
  case invalid =>
    intro number name first other otherFirst
    obtain ⟨error, outcome, refused⟩ := first.refused all accepted
    have found := all.reachable.find?_eq_some_iff_first.mpr otherFirst
    have notClass : declared.hierarchy.kind other ≠ .classType :=
      fun isClass => first.unresolved ⟨other, otherFirst, isClass⟩
    obtain ⟨scope, link⟩ := Option.isSome_iff_exists.mp
      (all.reachable.isSome_parent_iff.mpr ⟨otherFirst.1.1, otherFirst.1.2.1⟩)
    simp only [linkError?, found, notClass, if_false, Option.some.injEq, displayName, link,
      otherFirst.1.2.2] at refused
    rw [outcome, ← refused]
  case hidden =>
    exact fun id existing isClass hidden =>
      all.reachable.hidden_behind_callable existing isClass hidden

/-! ## A class behind a callable -/

/-- The namespace and the two classes of a forward reference, with all but the link between them. -/
theorem superclasses_resolved_forward :
    ∃ declared links, declareAll forwardDescription = .ok (declared, links) ∧
      SuperclassesResolved forwardDescription declared ∧
      forwardDescription.NamesSuperclass 1 "B" ∧ declared.LeadsToClass "B" := by
  obtain ⟨⟨declared, links⟩, accepted⟩ : ∃ result, declareAll forwardDescription = .ok result :=
    ⟨_, rfl⟩
  have resolved := superclasses_resolved accepted
  have named : forwardDescription.NamesSuperclass 1 "B" := ⟨_, rfl, rfl⟩
  exact ⟨declared, links, accepted, resolved, named,
    resolved.succeeds.mp ⟨forwardLibrary, rfl⟩ 1 "B" named⟩

/-- A class that has the name of a function before it, and a class that derives from it. -/
def hiddenSuperclass : LibraryDescription where
  name := "lib"
  headers := []
  entities :=
    [{ kind := .function, name := "f" },
      { kind := .classType, name := "f" },
      { kind := .classType, name := "D", superclassName := some "f" }]

/-- Every entity is accepted and every superclass name is that of a class, but the function of that
name comes first, and so the description is refused. -/
theorem hidden_class_refused :
    ∃ declared links, declareAll hiddenSuperclass = .ok (declared, links) ∧
      (∀ number name, hiddenSuperclass.NamesSuperclass number name →
        ∃ id < declared.size, declared.hierarchy.kind id = .classType ∧
          declared.hierarchy.qualifiedName id = name) ∧
      ofDescription hiddenSuperclass = .error (.invalidSuperclass "D" "f" .function) := by
  refine ⟨_, _, rfl, ?_, rfl⟩
  rintro number name ⟨place, found, named⟩
  have only : name = "f" := by
    match number, found with
    | 0, rfl => cases named
    | 1, rfl => cases named
    | 2, rfl => exact (Option.some.inj named).symm
  subst only
  exact ⟨2, by decide, rfl, rfl⟩

end Library

end RubyBindings
