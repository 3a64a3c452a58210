/-
Module: RubyBindings.Proofs.Library.Flattening
Purpose: A described library is its description, flattened. The entities are numbered in the order
  of the text, which is pre-order; each one is declared as it is described, in the entity of the
  description around it, and gets a superclass exactly if one is named.
Main exports: EntityDescription.countAll, EntityDescription.placesAll,
  EntityDescription.siblingIds, Library.Flattened, Library.Resolved, Library.Describes,
  Library.describes_of_ofDescription
-/
import RubyBindings.Proofs.Library.Representation

namespace RubyBindings

/-! ## Numbers in a description -/

/-- A description is its declaration, the name of its superclass and what is nested in it. -/
theorem EntityDescription.eq_iff_toDeclaration {description other : EntityDescription} :
    description = other ↔
      description.toDeclaration = other.toDeclaration ∧
        description.superclassName = other.superclassName ∧
          description.children = other.children := by
  cases description
  cases other
  simp only [toDeclaration, EntityDescription.mk.injEq, Declaration.mk.injEq]
  tauto

/-- A description in its scope: the number of the one around it, and what is described. -/
structure EntityDescription.Scoped where
  scope : EntityId
  described : EntityDescription

namespace EntityDescription

mutual

/-- The number of entities that are described: the outermost one and all nested in it. -/
def count : EntityDescription → Nat
  | { children, .. } => 1 + countAll children

/-- The number of entities in a list of descriptions. -/
def countAll : List EntityDescription → Nat
  | [] => 0
  | description :: descriptions => description.count + countAll descriptions

end

mutual

/-- A description and all that is nested in it, in the order of the text, numbered from `first`
on. -/
def places (scope first : Nat) : EntityDescription → List Scoped
  | description@{ children, .. } =>
    ⟨scope, description⟩ :: placesAll first (first + 1) children

/-- The descriptions in a list and all that is nested in them, numbered from `first` on. -/
def placesAll (scope first : Nat) : List EntityDescription → List Scoped
  | [] => []
  | description :: descriptions =>
    description.places scope first ++ placesAll scope (first + description.count) descriptions

end

/-- The numbers of the descriptions in a list: between two of them is what is nested in the
first. -/
def siblingIds (first : Nat) : List EntityDescription → List EntityId
  | [] => []
  | description :: descriptions =>
    first :: siblingIds (first + description.count) descriptions

theorem count_eq (description : EntityDescription) :
    description.count = 1 + countAll description.children := by
  cases description
  rw [count]

theorem places_eq (scope first : Nat) (description : EntityDescription) :
    description.places scope first =
      ⟨scope, description⟩ :: placesAll first (first + 1) description.children := by
  cases description
  rw [places]

mutual

theorem length_places (scope first : Nat) :
    ∀ description : EntityDescription, (description.places scope first).length = description.count
  | { children, .. } => by
      simp [places, count, length_placesAll first (first + 1) children, Nat.add_comm]

theorem length_placesAll (scope first : Nat) :
    ∀ descriptions : List EntityDescription,
      (placesAll scope first descriptions).length = countAll descriptions
  | [] => by simp [placesAll, countAll]
  | description :: descriptions => by
      simp [placesAll, countAll, length_places scope first description,
        length_placesAll scope (first + description.count) descriptions]

end

theorem countAll_append (front back : List EntityDescription) :
    countAll (front ++ back) = countAll front + countAll back := by
  induction front with
  | nil => simp [countAll]
  | cons description front ih => simp [countAll, ih, Nat.add_assoc]

theorem placesAll_append (scope first : Nat) (front back : List EntityDescription) :
    placesAll scope first (front ++ back) =
      placesAll scope first front ++ placesAll scope (first + countAll front) back := by
  induction front generalizing first with
  | nil => simp [placesAll, countAll]
  | cons description front ih => simp [placesAll, countAll, ih, Nat.add_assoc]

theorem siblingIds_append (first : Nat) (front back : List EntityDescription) :
    siblingIds first (front ++ back) =
      siblingIds first front ++ siblingIds (first + countAll front) back := by
  induction front generalizing first with
  | nil => simp [siblingIds, countAll]
  | cons description front ih => simp [siblingIds, countAll, ih, Nat.add_assoc]

/-- The superclass names in a list of numbered descriptions, each with the number that it is for. -/
def superclassNames (first : Nat) (places : List Scoped) : List Library.PendingLink :=
  (places.zipIdx first).filterMap fun (place, id) =>
    place.described.superclassName.map (Library.PendingLink.mk id)

theorem superclassNames_append (first : Nat) (front back : List Scoped) :
    superclassNames first (front ++ back) =
      superclassNames first front ++ superclassNames (first + front.length) back := by
  simp [superclassNames, List.zipIdx_append]

/-- A superclass name is for the number of the description that has it. -/
theorem mem_superclassNames {first : Nat} {places : List Scoped} {link : Library.PendingLink} :
    link ∈ superclassNames first places ↔
      ∃ (number : Nat) (place : Scoped), places[number]? = some place ∧
        place.described.superclassName = some link.superclassName ∧
        link.derived = first + number := by
  simp only [superclassNames, List.mem_filterMap, Prod.exists,
    List.mk_mem_zipIdx_iff_le_and_getElem?_sub, Option.map_eq_some_iff]
  constructor
  · rintro ⟨place, id, ⟨behind, found⟩, name, named, rfl⟩
    exact ⟨id - first, place, found, named, (Nat.add_sub_cancel' behind).symm⟩
  · rintro ⟨number, place, found, named, derived⟩
    refine ⟨place, first + number, ⟨Nat.le_add_right first number, ?_⟩, _, named, ?_⟩
    · rw [Nat.add_sub_cancel_left, found]
    · rw [← derived]

end EntityDescription

namespace Library

variable {library middle after : Library} {scope : EntityId}

open EntityDescription (Scoped countAll placesAll siblingIds superclassNames)

/-! ## Declaring descriptions -/

/-- An entity is declared as it is described, where it is described; its superclass is left open. An
unnamed constructor has the name of the entity around it. -/
structure Realizes (library : Library) (id : EntityId) (place : Scoped) : Prop where
  parent : library.hierarchy.parent id = some place.scope
  declaration : library.hierarchy.declaration id =
    { kind := place.described.kind
      name :=
        if place.described.kind = .constructor ∧ place.described.name = "" then
          library.hierarchy.name place.scope
        else place.described.name
      superclass := library.hierarchy.superclass id
      returns := place.described.returns
      parameters := place.described.parameters
      isStatic := place.described.isStatic
      values := place.described.values
      header := place.described.header
      ignored := place.described.ignored
      moved := place.described.moved
      isPublic := place.described.isPublic }
  children : library.hierarchy.children id = siblingIds (id + 1) place.described.children

/-- Descriptions have been declared in a scope: what was there before has only got them as further
children of the scope, and what is new are the described entities in the order of the text. -/
structure Flattened (library : Library) (scope : EntityId) (descriptions : List EntityDescription)
    (after : Library) (links : List PendingLink) : Prop where
  headers : after.hierarchy.headers = library.hierarchy.headers
  size : after.hierarchy.size = library.hierarchy.size + countAll descriptions
  old : ∀ id < library.hierarchy.size, after.hierarchy.entity id =
    if id = scope then
      { library.hierarchy.entity scope with
        children := library.hierarchy.children scope ++
          siblingIds library.hierarchy.size descriptions }
    else library.hierarchy.entity id
  new : ∀ (number : Nat) (place : Scoped),
    (placesAll scope library.hierarchy.size descriptions)[number]? = some place →
      after.Realizes (library.hierarchy.size + number) place ∧
        after.hierarchy.superclass (library.hierarchy.size + number) = none
  links : links =
    superclassNames library.hierarchy.size (placesAll scope library.hierarchy.size descriptions)

/-- What an entity realizes is read from the entity and the name of its scope. -/
theorem Realizes.of_same {id : EntityId} {place : Scoped} (realizes : library.Realizes id place)
    (same : after.hierarchy.entity id = library.hierarchy.entity id)
    (scopeName : after.hierarchy.name place.scope = library.hierarchy.name place.scope) :
    after.Realizes id place := by
  obtain ⟨parent, declaration, children⟩ := realizes
  simp only [Hierarchy.parent, Hierarchy.declaration, Hierarchy.superclass, Hierarchy.children]
    at parent declaration children
  constructor
  · simpa only [Hierarchy.parent, same] using parent
  · simpa only [Hierarchy.declaration, Hierarchy.superclass, same, scopeName] using declaration
  · simpa only [Hierarchy.children, same] using children

namespace Flattened

theorem nil (library : Library) (scope : EntityId) : Flattened library scope [] library [] where
  headers := rfl
  size := rfl
  old := by
    intro id existing
    split
    · rename_i self
      simp [self, siblingIds, Hierarchy.children]
    · rfl
  new := by simp [placesAll]
  links := by simp [placesAll, superclassNames]

/-- What has nothing to do with children is as before for every old entity. -/
theorem read_old {descriptions : List EntityDescription} {links : List PendingLink}
    (flattened : Flattened library scope descriptions after links) {α : Type} (read : Entity → α)
    (apart : ∀ entity children, read { entity with children } = read entity) {id : EntityId}
    (existing : id < library.hierarchy.size) :
    read (after.hierarchy.entity id) = read (library.hierarchy.entity id) := by
  rw [flattened.old id existing]
  split
  · rename_i self
    rw [self, apart]
  · rfl

/-- What is declared as it is described stays so, outside of the scope of the new descriptions. -/
theorem keeps {descriptions : List EntityDescription} {links : List PendingLink}
    (flattened : Flattened library scope descriptions after links)
    (nested : library.hierarchy.Nested) {id : EntityId} (existing : id < library.hierarchy.size)
    (apart : id ≠ scope) {place : Scoped} (realizes : library.Realizes id place) :
    after.Realizes id place ∧ after.hierarchy.superclass id = library.hierarchy.superclass id := by
  have same : after.hierarchy.entity id = library.hierarchy.entity id := by
    rw [flattened.old id existing, if_neg apart]
  have scopeName : after.hierarchy.name place.scope = library.hierarchy.name place.scope :=
    flattened.read_old (fun entity => entity.declaration.name) (fun _ _ => rfl)
      (Nat.lt_trans (nested.parent_lt realizes.parent) existing)
  refine ⟨realizes.of_same same scopeName, ?_⟩
  rw [Hierarchy.superclass, Hierarchy.declaration, same]
  rfl

/-- Descriptions that are declared one after the other are declared as one list. -/
theorem append {front back : List EntityDescription} {first others : List PendingLink}
    (one : Flattened library scope front middle first)
    (rest : Flattened middle scope back after others) (nested : middle.hierarchy.Nested)
    (existing : scope < library.hierarchy.size) :
    Flattened library scope (front ++ back) after (first ++ others) where
  headers := rest.headers.trans one.headers
  size := by rw [rest.size, one.size, EntityDescription.countAll_append, Nat.add_assoc]
  old := by
    intro id small
    have inMiddle : id < middle.hierarchy.size := by
      rw [one.size]
      exact Nat.lt_add_right _ small
    rw [rest.old id inMiddle]
    by_cases self : id = scope
    · subst self
      have own := one.old id small
      simp only [if_true] at own ⊢
      simp [own, Hierarchy.children, one.size, EntityDescription.siblingIds_append]
    · simp [self, one.old id small]
  new := by
    intro number place found
    rw [EntityDescription.placesAll_append, List.getElem?_append,
      EntityDescription.length_placesAll, ← one.size] at found
    split at found
    · rename_i early
      obtain ⟨realizes, unlinked⟩ := one.new number place found
      have inMiddle : library.hierarchy.size + number < middle.hierarchy.size := by
        rw [one.size]
        exact Nat.add_lt_add_left early _
      have apart : library.hierarchy.size + number ≠ scope :=
        Nat.ne_of_gt (Nat.lt_add_right _ existing)
      obtain ⟨kept, sameSuperclass⟩ := rest.keeps nested inMiddle apart realizes
      exact ⟨kept, sameSuperclass.trans unlinked⟩
    · rename_i late
      have shifted := rest.new _ place found
      rw [one.size, Nat.add_assoc, Nat.add_sub_cancel' (Nat.le_of_not_lt late)] at shifted
      exact shifted
  links := by
    rw [EntityDescription.placesAll_append, EntityDescription.superclassNames_append,
      EntityDescription.length_placesAll, one.links, rest.links, one.size]

end Flattened

/-- A declaration is accepted as it is, but for the name that a constructor takes from its scope. -/
theorem named_eq_ok {declaration added : Declaration}
    (named : library.named scope declaration = .ok added) :
    added = { declaration with
      name :=
        if declaration.kind = .constructor ∧ declaration.name = "" then library.hierarchy.name scope
        else declaration.name } := by
  rw [Library.named] at named
  split at named
  · rename_i unnamed
    split at named
    · rename_i isConstructor
      cases named
      simp [unnamed, isConstructor]
    · cases named
  · rename_i hasName
    cases named
    simp [hasName]

namespace Flattened

section Nest

variable {description : EntityDescription} {added : Declaration} {links : List PendingLink}
  (declares : Declares library scope description.toDeclaration added middle)
  (inside : Flattened middle library.hierarchy.size description.children after links)
include declares inside

/-- An entity is declared as it is described once what is nested in it is declared too. -/
theorem realizes_self :
    after.Realizes library.hierarchy.size ⟨scope, description⟩ ∧
      after.hierarchy.superclass library.hierarchy.size = none := by
  have existing : scope < library.hierarchy.size := declares.existing
  have small : library.hierarchy.size < middle.hierarchy.size := by
    rw [declares.size_eq]
    exact Nat.lt_succ_self _
  have finished := inside.old library.hierarchy.size small
  rw [if_pos rfl, declares.entity_self] at finished
  have scopeName : after.hierarchy.name scope = library.hierarchy.name scope := by
    have kept : after.hierarchy.name scope = middle.hierarchy.name scope :=
      inside.read_old (fun entity => entity.declaration.name) (fun _ _ => rfl)
        (Nat.lt_trans existing small)
    rw [kept, declares.after_eq, name_append library existing, if_neg (Nat.ne_of_lt existing)]
  have added_eq := named_eq_ok declares.named
  have unlinked : after.hierarchy.superclass library.hierarchy.size = none := by
    rw [Hierarchy.superclass, Hierarchy.declaration, finished, added_eq]
    rfl
  refine ⟨⟨?_, ?_, ?_⟩, unlinked⟩
  · rw [Hierarchy.parent, finished]
  · rw [unlinked, scopeName, Hierarchy.declaration, finished, added_eq]
    rfl
  · rw [Hierarchy.children, finished, ← declares.size_eq, Hierarchy.children,
      declares.entity_self]
    rfl

/-- A description is declared once its own entity is, and in that entity all that is nested in the
description. -/
theorem nest :
    Flattened library scope [description] after
      ((description.superclassName.map (PendingLink.mk library.hierarchy.size)).toList ++
        links) where
  headers := by
    rw [inside.headers, declares.after_eq]
    rfl
  size := by
    rw [inside.size, declares.size_eq]
    simp [countAll, EntityDescription.count_eq, Nat.add_assoc]
  old := by
    intro id small
    have notNew : id ≠ library.hierarchy.size := Nat.ne_of_lt small
    have inMiddle : id < middle.hierarchy.size := by
      rw [declares.size_eq]
      exact Nat.lt_succ_of_lt small
    rw [inside.old id inMiddle, if_neg notNew, declares.after_eq,
      entity_append library declares.existing, if_neg notNew]
    rfl
  new := by
    intro number place found
    simp only [placesAll, EntityDescription.places_eq, List.append_nil] at found
    cases number with
    | zero =>
        cases Option.some.inj found
        exact inside.realizes_self declares
    | succ number =>
        rw [List.getElem?_cons_succ, ← declares.size_eq] at found
        have shifted := inside.new number place found
        rw [declares.size_eq, Nat.add_assoc, Nat.add_comm 1 number] at shifted
        exact shifted
  links := by
    rw [inside.links, declares.size_eq]
    cases named : description.superclassName <;>
      simp [placesAll, EntityDescription.places_eq, superclassNames, List.zipIdx_cons, named]

end Nest

end Flattened

mutual

/-- A description that is declared with success is flattened behind what was there before. -/
theorem Reachable.flattened {library after : Library} (reachable : library.Reachable)
    (scope : EntityId) :
    ∀ (description : EntityDescription) {links : List PendingLink},
      Library.declareDescription scope description library = .ok (after, links) →
        Flattened library scope [description] after links
  | { children, .. }, _, declared => by
    rw [Library.declareDescription] at declared
    obtain ⟨⟨id, middle⟩, own, declared⟩ := bind_eq_ok.mp declared
    obtain ⟨⟨last, nested⟩, inside, declared⟩ := bind_eq_ok.mp declared
    cases declared
    obtain ⟨rfl, added, declares⟩ := declares_of_declare own
    have small : library.hierarchy.size < middle.hierarchy.size := by
      rw [declares.size_eq]
      exact Nat.lt_succ_self _
    exact .nest declares
      (Reachable.flattenedAll (.step reachable (.declare own)) small children inside)

/-- So is a list of descriptions, one behind the other. -/
theorem Reachable.flattenedAll {library after : Library} (reachable : library.Reachable)
    {scope : EntityId} (existing : scope < library.hierarchy.size) :
    ∀ (descriptions : List EntityDescription) {links : List PendingLink},
      Library.declareDescriptions scope descriptions library = .ok (after, links) →
        Flattened library scope descriptions after links
  | [], _, declared => by
    cases declared
    exact .nil library scope
  | description :: descriptions, _, declared => by
    rw [Library.declareDescriptions] at declared
    obtain ⟨⟨middle, first⟩, one, declared⟩ := bind_eq_ok.mp declared
    obtain ⟨⟨last, others⟩, rest, declared⟩ := bind_eq_ok.mp declared
    cases declared
    have front := Reachable.flattened reachable scope description one
    have between := Reachable.declareDescription reachable scope description one
    have still : scope < middle.hierarchy.size := by
      rw [front.size]
      exact Nat.lt_add_right _ existing
    exact front.append (Reachable.flattenedAll between still descriptions rest)
      between.wellFormed.nested existing

end

/-! ## Resolving superclass names -/

/-- Superclass names have been resolved: nothing but superclasses has changed, and those only of the
entities that a name was for. -/
structure Resolved (library : Library) (links : List PendingLink) (after : Library) : Prop where
  headers : after.hierarchy.headers = library.hierarchy.headers
  size : after.hierarchy.size = library.hierarchy.size
  entity : ∀ id, after.hierarchy.entity id =
    { library.hierarchy.entity id with
      declaration :=
        { library.hierarchy.declaration id with superclass := after.hierarchy.superclass id } }
  find? : ∀ qualifiedName, after.find? qualifiedName = library.find? qualifiedName
  unnamed : ∀ id, (∀ link ∈ links, link.derived ≠ id) →
    after.hierarchy.superclass id = library.hierarchy.superclass id
  named : ∀ link ∈ links,
    (∀ other ∈ links, other.derived = link.derived → other.superclassName = link.superclassName) →
      ∃ superclass, library.find? link.superclassName = some superclass ∧
        after.hierarchy.superclass link.derived = some superclass

namespace Resolved

theorem nil (library : Library) : Resolved library [] library where
  headers := rfl
  size := rfl
  entity := fun _ => rfl
  find? := fun _ => rfl
  unnamed := fun _ _ => rfl
  named := nofun

/-- The first name is resolved before the others; it counts where no other is for its entity. -/
theorem cons {link : PendingLink} {links : List PendingLink} {superclass : EntityId}
    (found : library.find? link.superclassName = some superclass)
    (first : Links library link.derived superclass middle) (rest : Resolved middle links after) :
    Resolved library (link :: links) after where
  headers := rest.headers.trans first.headers
  size := rest.size.trans first.size
  entity := by
    intro id
    rw [rest.entity, Hierarchy.declaration, first.entity]
    split
    · rename_i self
      rw [self]
    · rfl
  find? := by
    intro qualifiedName
    rw [rest.find?, first.find?_eq]
  unnamed := by
    intro id others
    obtain ⟨apart, others⟩ := List.forall_mem_cons.mp others
    rw [rest.unnamed id others, first.superclass_eq, if_neg (Ne.symm apart)]
  named := by
    intro named member alike
    by_cases again : ∃ other ∈ links, other.derived = named.derived
    · obtain ⟨other, otherMember, same⟩ := again
      have sameName := alike other (List.mem_cons_of_mem _ otherMember) same
      obtain ⟨target, targetFound, linked⟩ := rest.named other otherMember (by
        intro third thirdMember thirdSame
        rw [sameName]
        exact alike third (List.mem_cons_of_mem _ thirdMember) (thirdSame.trans same))
      rw [first.find?_eq, sameName] at targetFound
      rw [same] at linked
      exact ⟨target, targetFound, linked⟩
    · have last : ∀ other ∈ links, other.derived ≠ named.derived :=
        fun other otherMember same => again ⟨other, otherMember, same⟩
      have self : named = link :=
        (List.mem_cons.mp member).resolve_right fun later => last named later rfl
      subst self
      refine ⟨superclass, found, ?_⟩
      rw [rest.unnamed _ last, first.superclass_eq, if_pos rfl]

/-- Names that are resolved one after the other without a failure are resolved. -/
theorem of_resolveLinks (links : List PendingLink) :
    ∀ {library : Library}, links.foldlM resolveLink library = .ok after →
      Resolved library links after := by
  induction links with
  | nil =>
      intro library resolved
      cases resolved
      exact .nil _
  | cons link links ih =>
      intro library resolved
      rw [List.foldlM_cons] at resolved
      obtain ⟨middle, first, rest⟩ := bind_eq_ok.mp resolved
      rw [resolveLink] at first
      split at first
      · rename_i superclass found
        exact .cons found (links_of_linkSuperclass first) (ih rest)
      · cases first

/-- An entity is declared as it is described whatever superclass it gets. -/
theorem realizes {links : List PendingLink} (resolved : Resolved library links after)
    {id : EntityId} {place : Scoped} (realizes : library.Realizes id place) :
    after.Realizes id place where
  parent := by
    rw [Hierarchy.parent, resolved.entity]
    exact realizes.parent
  declaration := by
    have scopeName : after.hierarchy.name place.scope = library.hierarchy.name place.scope := by
      rw [Hierarchy.name, Hierarchy.declaration, resolved.entity]
      rfl
    rw [Hierarchy.declaration, resolved.entity, realizes.declaration, scopeName]
  children := by
    rw [Hierarchy.children, resolved.entity]
    exact realizes.children

end Resolved

/-! ## Whole libraries -/

/-- A library is as it is described: its entities are those of the description in the order of the
text, each nested and declared as in the description, with the class that a superclass name
names. -/
structure Describes (library : Library) (description : LibraryDescription) : Prop where
  /-- Names are found by the index, which has the first entity of each. -/
  index : library.Indexed
  name : library.name = description.name
  headers : library.hierarchy.headers = description.headers
  size : library.size = 1 + countAll description.entities
  top : library.hierarchy.children Hierarchy.root = siblingIds 1 description.entities
  entity : ∀ (number : Nat) (place : Scoped),
    (placesAll Hierarchy.root 1 description.entities)[number]? = some place →
      library.Realizes (1 + number) place
  superclass : ∀ (number : Nat) (place : Scoped),
    (placesAll Hierarchy.root 1 description.entities)[number]? = some place →
      (library.hierarchy.superclass (1 + number)).isSome = place.described.superclassName.isSome ∧
        library.hierarchy.superclass (1 + number) =
          place.described.superclassName.bind library.find?

/-- Every entity has got the class that its description names, and none if it names none. -/
theorem Flattened.superclass_eq {declared : Library} {descriptions : List EntityDescription}
    {links : List PendingLink} (flattened : Flattened library scope descriptions declared links)
    (resolved : Resolved declared links after) {number : Nat} {place : Scoped}
    (found : (placesAll scope library.hierarchy.size descriptions)[number]? = some place) :
    (after.hierarchy.superclass (library.hierarchy.size + number)).isSome =
        place.described.superclassName.isSome ∧
      after.hierarchy.superclass (library.hierarchy.size + number) =
        place.described.superclassName.bind after.find? := by
  -- A number has one place, so at most one name is for it.
  have ownName : ∀ link ∈ links, link.derived = library.hierarchy.size + number →
      place.described.superclassName = some link.superclassName := by
    intro link member derived
    rw [flattened.links] at member
    obtain ⟨other, otherPlace, otherFound, named, otherDerived⟩ :=
      EntityDescription.mem_superclassNames.mp member
    have same : other = number := Nat.add_left_cancel (otherDerived.symm.trans derived)
    rw [same, found] at otherFound
    cases otherFound
    exact named
  cases superclassName : place.described.superclassName with
  | none =>
      have others : ∀ link ∈ links, link.derived ≠ library.hierarchy.size + number := by
        intro link member derived
        cases superclassName.symm.trans (ownName link member derived)
      rw [resolved.unnamed _ others, (flattened.new number place found).2]
      exact ⟨rfl, rfl⟩
  | some name =>
      have member : PendingLink.mk (library.hierarchy.size + number) name ∈ links := by
        rw [flattened.links]
        exact EntityDescription.mem_superclassNames.mpr
          ⟨number, place, found, superclassName, rfl⟩
      obtain ⟨superclass, target, linked⟩ := resolved.named _ member (by
        intro other otherMember derived
        exact Option.some.inj ((ownName other otherMember derived).symm.trans superclassName))
      rw [linked]
      refine ⟨rfl, ?_⟩
      rw [Option.bind_some, resolved.find?, target]

/-- Headers are added one by one, and nothing else is changed. -/
theorem addHeaders_eq (headers : List String) (library : Library) :
    headers.foldl addHeader library =
      { library with
        hierarchy :=
          { library.hierarchy with headers := library.hierarchy.headers ++ headers } } := by
  induction headers generalizing library with
  | nil => simp
  | cons header headers ih => simp [ih, addHeader]

/-- Every library that is made of a description is the description, flattened. -/
theorem describes_of_ofDescription {description : LibraryDescription}
    (described : ofDescription description = .ok library) : library.Describes description := by
  rw [ofDescription] at described
  obtain ⟨⟨declared, links⟩, declares, resolves⟩ := bind_eq_ok.mp described
  have start := Reachable.addHeaders (.empty description.name) description.headers
  rw [addHeaders_eq] at declares start
  have flattened := start.flattenedAll start.wellFormed.nested.hasRoot _ declares
  have resolved := Resolved.of_resolveLinks links resolves
  have root := flattened.old Hierarchy.root start.wellFormed.nested.hasRoot
  rw [if_pos rfl] at root
  refine ⟨(Reachable.ofDescription described).indexed, ?_, ?_, ?_, ?_, ?_, ?_⟩
  · rw [Library.name, Hierarchy.name, Hierarchy.declaration, resolved.entity,
      Hierarchy.declaration, root]
    rfl
  · rw [resolved.headers, flattened.headers]
    rfl
  · rw [Library.size, resolved.size, flattened.size]
    rfl
  · rw [Hierarchy.children, resolved.entity, root]
    rfl
  · intro number place found
    exact resolved.realizes (flattened.new number place found).1
  · intro number place found
    exact flattened.superclass_eq resolved found

/-- A namespace with a class in it, whose constructor is not named and whose superclass comes after
the namespace. -/
def forwardDescription : LibraryDescription where
  name := "lib"
  headers := ["<lib.hpp>"]
  entities :=
    [{ kind := .namespaceScope
       name := "a"
       children :=
        [{ kind := .classType
           name := "D"
           superclassName := some "B"
           children := [{ kind := .constructor }] }] },
      { kind := .classType, name := "B" }]

/-- The library of that description. -/
def forwardLibrary : Library where
  hierarchy :=
    { entities :=
        [{ declaration := { kind := .namespaceScope, name := "lib" }
           parent := none
           children := [1, 4]
           qualifiedName := "" },
         { declaration := { kind := .namespaceScope, name := "a" }
           parent := some Hierarchy.root
           children := [2]
           qualifiedName := "a" },
         { declaration := { kind := .classType, name := "D", superclass := some 4 }
           parent := some 1
           children := [3]
           qualifiedName := "a::D" },
         { declaration := { kind := .constructor, name := "D" }
           parent := some 2
           children := []
           qualifiedName := "a::D::D" },
         { declaration := { kind := .classType, name := "B" }
           parent := some Hierarchy.root
           children := []
           qualifiedName := "B" }]
      headers := ["<lib.hpp>"] }
  index := ⟨[("a", 1), ("a::D", 2), ("a::D::D", 3), ("B", 4)]⟩

/-- Numbers, parents, the constructor's name and the superclass are as the description has them. -/
theorem describes_forwardLibrary :
    ofDescription forwardDescription = .ok forwardLibrary ∧
      forwardLibrary.Describes forwardDescription :=
  ⟨rfl, describes_of_ofDescription rfl⟩

end Library

end RubyBindings
