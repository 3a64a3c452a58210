/-
Module: RubyBindings.Proofs.Library.History
Purpose: The libraries that can come about. A library grows by headers, declarations and superclass
  links, one successful change at a time; each change keeps parents, children and superclasses
  fitting together, and so every library does.
Main exports: Library.Declares, Library.declares_of_declare, Library.Change, Library.Reachable,
  Library.WellFormed, Library.Reachable.wellFormed, Library.Call, Library.Reachable.afterCalls,
  Library.Reachable.ofDescription
-/
import RubyBindings.Library.Description
import RubyBindings.Proofs.Attempt
import RubyBindings.Proofs.Hierarchy.Nesting
import RubyBindings.Registration.Scope

namespace RubyBindings.Library

variable {library after : Library} {scope : EntityId} {declaration added : Declaration}

/-! ## What a declaration does -/

/-- A declaration has been accepted as `added`: every check has passed, and it stands at the end. -/
structure Declares (library : Library) (scope : EntityId) (declaration added : Declaration)
    (after : Library) : Prop where
  existing : scope < library.size
  named : library.named scope declaration = .ok added
  names : library.requireNames scope added = .ok ()
  superclass : ∀ superclass, added.superclass = some superclass →
    library.requireSuperclass (library.qualify scope added.name) superclass = .ok ()
  unique : library.isRepeatedType added.kind (library.qualify scope added.name) = false
  after_eq : after = library.append scope added (library.qualify scope added.name)

theorem requireEntity_eq_ok {id : EntityId} :
    library.requireEntity id = .ok () ↔ id < library.size := by
  rw [requireEntity]
  split <;> simp_all

/-- A declaration that is accepted gets the next id. -/
theorem declares_of_declare {id : EntityId}
    (declared : library.declare scope declaration = .ok (id, after)) :
    id = library.size ∧ ∃ added, Declares library scope declaration added after := by
  rw [declare] at declared
  obtain ⟨found, existing, declared⟩ := bind_eq_ok.mp declared
  obtain ⟨added, named, declared⟩ := bind_eq_ok.mp declared
  obtain ⟨passed, names, declared⟩ := bind_eq_ok.mp declared
  dsimp only at declared
  have finish : (if library.isRepeatedType added.kind (library.qualify scope added.name) = true then
        throw (.duplicateName added.kind (library.qualify scope added.name))
      else pure (library.size,
        library.append scope added (library.qualify scope added.name)) :
        Except LibraryError (EntityId × Library)) = .ok (id, after) →
      library.isRepeatedType added.kind (library.qualify scope added.name) = false ∧
        id = library.size ∧
        after = library.append scope added (library.qualify scope added.name) := by
    intro finished
    split at finished
    · cases finished
    · rename_i unique
      cases finished
      exact ⟨by simpa using unique, rfl, rfl⟩
  cases link : added.superclass with
  | none =>
      rw [link] at declared
      obtain ⟨unique, sameId, sameAfter⟩ := finish declared
      refine ⟨sameId, added, requireEntity_eq_ok.mp existing, named, names, ?_, unique, sameAfter⟩
      rw [link]
      exact nofun
  | some superclass =>
      rw [link] at declared
      obtain ⟨allowed, isClass, declared⟩ := bind_eq_ok.mp declared
      obtain ⟨unique, sameId, sameAfter⟩ := finish declared
      refine ⟨sameId, added, requireEntity_eq_ok.mp existing, named, names, ?_, unique, sameAfter⟩
      rintro other same
      cases link.symm.trans same
      exact isClass

/-- A superclass has to be a class of the library. -/
theorem requireSuperclass_eq_ok {derived : String} {superclass : EntityId} :
    library.requireSuperclass derived superclass = .ok () ↔
      superclass < library.size ∧ library.hierarchy.kind superclass = .classType := by
  rw [requireSuperclass, bind_eq_ok]
  constructor
  · rintro ⟨found, existing, isClass⟩
    refine ⟨requireEntity_eq_ok.mp existing, ?_⟩
    simpa using isClass
  · rintro ⟨existing, isClass⟩
    exact ⟨(), requireEntity_eq_ok.mpr existing, if_pos isClass⟩

/-! ## The entities after a change -/

section Append

variable (library : Library) {scope : EntityId} (existing : scope < library.hierarchy.size)
  (declaration : Declaration) (qualifiedName : String)

@[simp] theorem size_append (scope : EntityId) :
    (library.append scope declaration qualifiedName).hierarchy.size =
      library.hierarchy.size + 1 := by
  simp [append, Hierarchy.size]

include existing

/-- A declaration adds one entity at the end, and that to the children of its scope. -/
theorem entity_append (id : EntityId) :
    (library.append scope declaration qualifiedName).hierarchy.entity id =
      if id = library.hierarchy.size then
        { declaration, parent := some scope, children := [], qualifiedName }
      else if id = scope then
        { library.hierarchy.entity scope with
          children := library.hierarchy.children scope ++ [library.hierarchy.size] }
      else library.hierarchy.entity id := by
  rw [Hierarchy.size] at existing
  simp only [append, size, Hierarchy.size, Hierarchy.entity, Hierarchy.children,
    List.getD_eq_getElem?_getD]
  by_cases new : id = library.hierarchy.entities.length
  · simp [new]
  · rw [if_neg new]
    by_cases small : id < library.hierarchy.entities.length
    · rw [List.getElem?_append_left (by simpa using small), List.getElem?_modify]
      by_cases self : id = scope
      · simp [self, existing]
      · simp [self, Ne.symm self]
    · have large : library.hierarchy.entities.length < id :=
        Nat.lt_of_le_of_ne (Nat.le_of_not_lt small) (Ne.symm new)
      have different : id ≠ scope := Nat.ne_of_gt (Nat.lt_trans existing large)
      rw [if_neg different, List.getElem?_eq_none (by simpa [Nat.succ_le_iff] using large),
        List.getElem?_eq_none (Nat.le_of_lt large)]

/-- What has nothing to do with children is as before for every old entity. -/
theorem read_append {α : Type} (read : Entity → α)
    (apart : ∀ entity children, read { entity with children } = read entity) (id : EntityId) :
    read ((library.append scope declaration qualifiedName).hierarchy.entity id) =
      if id = library.hierarchy.size then
        read { declaration, parent := some scope, children := [], qualifiedName }
      else read (library.hierarchy.entity id) := by
  rw [library.entity_append existing]
  split
  · rfl
  · split
    · rename_i self
      rw [self, apart]
    · rfl

theorem parent_append (id : EntityId) :
    (library.append scope declaration qualifiedName).hierarchy.parent id =
      if id = library.hierarchy.size then some scope else library.hierarchy.parent id :=
  library.read_append existing declaration qualifiedName Entity.parent (fun _ _ => rfl) id

theorem children_append (id : EntityId) :
    (library.append scope declaration qualifiedName).hierarchy.children id =
      if id = scope then library.hierarchy.children scope ++ [library.hierarchy.size]
      else library.hierarchy.children id := by
  rw [Hierarchy.children, library.entity_append existing]
  by_cases new : id = library.hierarchy.size
  · have different : id ≠ scope := new ▸ Nat.ne_of_gt existing
    rw [if_pos new, if_neg different, Hierarchy.children,
      Hierarchy.entity_of_size_le (Nat.le_of_eq new.symm)]
    rfl
  · rw [if_neg new]
    split <;> rfl

theorem declaration_append (id : EntityId) :
    (library.append scope declaration qualifiedName).hierarchy.declaration id =
      if id = library.hierarchy.size then declaration else library.hierarchy.declaration id :=
  library.read_append existing declaration qualifiedName Entity.declaration (fun _ _ => rfl) id

theorem kind_append (id : EntityId) :
    (library.append scope declaration qualifiedName).hierarchy.kind id =
      if id = library.hierarchy.size then declaration.kind else library.hierarchy.kind id :=
  library.read_append existing declaration qualifiedName (fun entity => entity.declaration.kind)
    (fun _ _ => rfl) id

theorem name_append (id : EntityId) :
    (library.append scope declaration qualifiedName).hierarchy.name id =
      if id = library.hierarchy.size then declaration.name else library.hierarchy.name id :=
  library.read_append existing declaration qualifiedName (fun entity => entity.declaration.name)
    (fun _ _ => rfl) id

theorem qualifiedName_append (id : EntityId) :
    (library.append scope declaration qualifiedName).hierarchy.qualifiedName id =
      if id = library.hierarchy.size then qualifiedName else library.hierarchy.qualifiedName id :=
  library.read_append existing declaration qualifiedName Entity.qualifiedName (fun _ _ => rfl) id

/-- Links that fit together still do once one more entity has been declared. -/
theorem nested_append (nested : library.hierarchy.Nested) :
    (library.append scope declaration qualifiedName).hierarchy.Nested where
  hasRoot := by
    rw [size_append]
    exact Nat.succ_pos _
  rootParent := by
    rw [library.parent_append existing, if_neg (Nat.ne_of_lt nested.hasRoot), nested.rootParent]
  parentBefore := by
    intro id small notRoot
    rw [size_append] at small
    rw [library.parent_append existing]
    split
    · rename_i new
      exact ⟨scope, new ▸ existing, rfl⟩
    · rename_i old
      exact nested.parentBefore id (Nat.lt_of_le_of_ne (Nat.le_of_lt_succ small) old) notRoot
  childIff := by
    intro parent child
    rw [library.children_append existing, library.parent_append existing]
    have fresh : library.hierarchy.size ∉ library.hierarchy.children parent := fun member =>
      Nat.lt_irrefl _ (Hierarchy.lt_size_of_parent ((nested.childIff parent _).mp member))
    by_cases new : child = library.hierarchy.size
    · subst new
      by_cases self : parent = scope
      · simp [self]
      · simp [self, fresh, Ne.symm self]
    · rw [if_neg new, ← nested.childIff parent child]
      by_cases self : parent = scope
      · simp [self, new]
      · rw [if_neg self]
  childrenAscend := by
    intro parent
    rw [library.children_append existing]
    split
    · rw [List.pairwise_append]
      refine ⟨nested.childrenAscend scope, List.pairwise_singleton _ _, ?_⟩
      intro old oldMember new newMember
      cases List.mem_singleton.mp newMember
      exact Hierarchy.lt_size_of_parent ((nested.childIff scope old).mp oldMember)
    · exact nested.childrenAscend parent

end Append

theorem Declares.size_eq (declares : Declares library scope declaration added after) :
    after.hierarchy.size = library.hierarchy.size + 1 := by
  rw [declares.after_eq, size_append]

/-- The entity of an accepted declaration has no children yet. -/
theorem Declares.entity_self (declares : Declares library scope declaration added after) :
    after.hierarchy.entity library.hierarchy.size =
      { declaration := added, parent := some scope, children := []
        qualifiedName := library.qualify scope added.name } := by
  rw [declares.after_eq, entity_append library declares.existing, if_pos rfl]

/-- A superclass link has been accepted: nothing but the superclass of one entity has changed. -/
structure Links (library : Library) (id superclass : EntityId) (after : Library) : Prop where
  existing : id < library.size
  target : superclass < library.size
  isClass : library.hierarchy.kind superclass = .classType
  headers : after.hierarchy.headers = library.hierarchy.headers
  size : after.hierarchy.size = library.hierarchy.size
  index : after.index = library.index
  entity : ∀ other, after.hierarchy.entity other =
    if other = id then
      { library.hierarchy.entity id with
        declaration := { library.hierarchy.declaration id with superclass := some superclass } }
    else library.hierarchy.entity other

theorem links_of_linkSuperclass {id superclass : EntityId}
    (linked : library.linkSuperclass id superclass = .ok after) :
    Links library id superclass after := by
  rw [linkSuperclass] at linked
  obtain ⟨found, existing, linked⟩ := bind_eq_ok.mp linked
  obtain ⟨allowed, isClass, linked⟩ := bind_eq_ok.mp linked
  have existing := requireEntity_eq_ok.mp existing
  obtain ⟨target, isClass⟩ := requireSuperclass_eq_ok.mp isClass
  cases linked
  refine ⟨existing, target, isClass, rfl, by simp [Hierarchy.size], rfl, ?_⟩
  intro other
  rw [Library.size, Hierarchy.size] at existing
  simp only [Hierarchy.entity, Hierarchy.declaration, List.getD_eq_getElem?_getD,
    List.getElem?_modify]
  by_cases self : other = id
  · simp [self, existing]
  · simp [self, Ne.symm self]

namespace Links

variable {id superclass : EntityId} (links : Links library id superclass after)
include links

/-- What has nothing to do with superclasses is as before. -/
theorem read_eq {α : Type} (read : Entity → α)
    (apart : ∀ entity superclass,
      read { entity with declaration := { entity.declaration with superclass } } = read entity)
    (other : EntityId) :
    read (after.hierarchy.entity other) = read (library.hierarchy.entity other) := by
  rw [links.entity]
  split
  · rename_i self
    rw [self]
    exact apart (library.hierarchy.entity id) (some superclass)
  · rfl

theorem parent (other : EntityId) :
    after.hierarchy.parent other = library.hierarchy.parent other :=
  links.read_eq Entity.parent (fun _ _ => rfl) other

theorem children (other : EntityId) :
    after.hierarchy.children other = library.hierarchy.children other :=
  links.read_eq Entity.children (fun _ _ => rfl) other

theorem kind (other : EntityId) :
    after.hierarchy.kind other = library.hierarchy.kind other :=
  links.read_eq (fun entity => entity.declaration.kind) (fun _ _ => rfl) other

theorem name (other : EntityId) :
    after.hierarchy.name other = library.hierarchy.name other :=
  links.read_eq (fun entity => entity.declaration.name) (fun _ _ => rfl) other

theorem qualifiedName (other : EntityId) :
    after.hierarchy.qualifiedName other = library.hierarchy.qualifiedName other :=
  links.read_eq Entity.qualifiedName (fun _ _ => rfl) other

theorem superclass_eq (other : EntityId) :
    after.hierarchy.superclass other =
      if other = id then some superclass else library.hierarchy.superclass other := by
  rw [Hierarchy.superclass, Hierarchy.declaration, links.entity]
  split <;> rfl

theorem nested (nested : library.hierarchy.Nested) : after.hierarchy.Nested where
  hasRoot := links.size ▸ nested.hasRoot
  rootParent := (links.parent _).trans nested.rootParent
  parentBefore := by
    intro other small notRoot
    rw [links.parent]
    exact nested.parentBefore other (links.size ▸ small) notRoot
  childIff := by
    intro parent child
    rw [links.children, links.parent]
    exact nested.childIff parent child
  childrenAscend := by
    intro parent
    rw [links.children]
    exact nested.childrenAscend parent

end Links

/-! ## Every library -/

/-- A library whose links all fit together: the entities are nested in a namespace, and every
superclass is a class of the library. -/
structure WellFormed (library : Library) : Prop where
  nested : library.hierarchy.Nested
  rootKind : library.hierarchy.kind Hierarchy.root = .namespaceScope
  superclasses : ∀ id superclass, library.hierarchy.superclass id = some superclass →
    superclass < library.hierarchy.size ∧ library.hierarchy.kind superclass = .classType

/-- One successful change of a library. A change that is refused gives no library. -/
inductive Change : Library → Library → Prop
  | addHeader (library : Library) (header : String) : Change library (library.addHeader header)
  | declare {library after : Library} {scope id : EntityId} {declaration : Declaration}
      (declared : library.declare scope declaration = .ok (id, after)) : Change library after
  | linkSuperclass {library after : Library} {id superclass : EntityId}
      (linked : library.linkSuperclass id superclass = .ok after) : Change library after

/-- The libraries that come about from an empty one, change by change. -/
inductive Reachable : Library → Prop
  | empty (name : String) : Reachable (empty name)
  | step {library after : Library} (reachable : Reachable library) (change : Change library after) :
      Reachable after

namespace WellFormed

theorem empty (name : String) : (empty name).WellFormed where
  nested :=
    { hasRoot := Nat.zero_lt_one
      rootParent := rfl
      parentBefore := fun _ small notRoot => absurd (Nat.lt_one_iff.mp small) notRoot
      childIff := by
        intro parent child
        cases parent <;> cases child <;> exact ⟨nofun, nofun⟩
      childrenAscend := by
        intro parent
        cases parent <;> exact List.Pairwise.nil }
  rootKind := rfl
  superclasses := by
    intro id superclass link
    cases id <;> cases link

theorem declares (wellFormed : library.WellFormed)
    (declares : Declares library scope declaration added after) : after.WellFormed := by
  have existing : scope < library.hierarchy.size := declares.existing
  rw [declares.after_eq]
  refine ⟨nested_append library existing _ _ wellFormed.nested, ?_, ?_⟩
  · rw [kind_append library existing, if_neg (Nat.ne_of_lt wellFormed.nested.hasRoot)]
    exact wellFormed.rootKind
  intro id superclass link
  rw [Hierarchy.superclass, declaration_append library existing] at link
  have found : superclass < library.hierarchy.size ∧
      library.hierarchy.kind superclass = .classType := by
    split at link
    · exact requireSuperclass_eq_ok.mp (declares.superclass superclass link)
    · exact wellFormed.superclasses id superclass link
  rw [size_append, kind_append library existing, if_neg (Nat.ne_of_lt found.1)]
  exact ⟨Nat.lt_succ_of_lt found.1, found.2⟩

theorem links (wellFormed : library.WellFormed) {id superclass : EntityId}
    (links : Links library id superclass after) : after.WellFormed where
  nested := links.nested wellFormed.nested
  rootKind := (links.kind _).trans wellFormed.rootKind
  superclasses := by
    intro other above link
    rw [links.superclass_eq] at link
    rw [links.size, links.kind]
    split at link
    · cases link
      exact ⟨links.target, links.isClass⟩
    · exact wellFormed.superclasses other above link

/-- The wrapped superclass of an entity is a wrapped class, and not the root. -/
theorem wrappedBase_eq_some (wellFormed : library.WellFormed) {id base : EntityId}
    (named : library.hierarchy.wrappedBase? id = some base) :
    base < library.hierarchy.size ∧ base ≠ Hierarchy.root ∧
      library.hierarchy.kind base = .classType ∧ library.hierarchy.isWrapped base = true := by
  obtain ⟨link, wrapped⟩ := Option.filter_eq_some_iff.mp named
  obtain ⟨existing, isClass⟩ := wellFormed.superclasses id base link
  have notRoot : base ≠ Hierarchy.root := by
    rintro rfl
    rw [wellFormed.rootKind] at isClass
    cases isClass
  exact ⟨existing, notRoot, isClass, wrapped⟩

/-- One change keeps a library well formed. -/
theorem change (wellFormed : library.WellFormed) (change : Change library after) :
    after.WellFormed := by
  cases change with
  | addHeader header =>
      have nested := wellFormed.nested
      exact
        { nested :=
            { hasRoot := nested.hasRoot
              rootParent := nested.rootParent
              parentBefore := nested.parentBefore
              childIff := nested.childIff
              childrenAscend := nested.childrenAscend }
          rootKind := wellFormed.rootKind
          superclasses := wellFormed.superclasses }
  | declare declared =>
      obtain ⟨-, added, declares⟩ := declares_of_declare declared
      exact wellFormed.declares declares
  | linkSuperclass linked => exact wellFormed.links (links_of_linkSuperclass linked)

end WellFormed

/-- Every library that comes about is well formed. -/
theorem Reachable.wellFormed (reachable : library.Reachable) : library.WellFormed := by
  induction reachable with
  | empty name => exact .empty name
  | step _ change ih => exact ih.change change

/-- The root stays the namespace that it was made as; it may only get children and a superclass. -/
theorem Reachable.entity_root (reachable : library.Reachable) :
    ∃ name superclass children, library.hierarchy.entity Hierarchy.root =
      { declaration := { kind := .namespaceScope, name, superclass }
        parent := none
        children
        qualifiedName := "" } := by
  induction reachable with
  | empty name => exact ⟨name, none, [], rfl⟩
  | step before change ih =>
      obtain ⟨name, superclass, children, same⟩ := ih
      have hasRoot := before.wellFormed.nested.hasRoot
      cases change with
      | addHeader header => exact ⟨name, superclass, children, same⟩
      | declare declared =>
          obtain ⟨-, added, declares⟩ := declares_of_declare declared
          rw [declares.after_eq, entity_append _ declares.existing, if_neg (Nat.ne_of_lt hasRoot)]
          split
          · rename_i self
            rw [← self, same]
            exact ⟨name, superclass, _, rfl⟩
          · exact ⟨name, superclass, children, same⟩
      | linkSuperclass linked =>
          rw [(links_of_linkSuperclass linked).entity]
          split
          · rename_i self
            rw [← self, Hierarchy.declaration, same]
            exact ⟨name, _, children, rfl⟩
          · exact ⟨name, superclass, children, same⟩

/-! ## Runs of calls -/

/-- A call on a library. -/
inductive Call where
  | addHeader (header : String)
  | declare (scope : EntityId) (declaration : Declaration)
  | linkSuperclass (id superclass : EntityId)

/-- The library after a call; a call that is refused leaves it as it is. -/
def afterCall (library : Library) : Call → Library
  | .addHeader header => library.addHeader header
  | .declare scope declaration =>
    match library.declare scope declaration with
    | .ok (_, after) => after
    | .error _ => library
  | .linkSuperclass id superclass =>
    match library.linkSuperclass id superclass with
    | .ok after => after
    | .error _ => library

/-- The library after some calls, each made on what the one before has left. -/
def afterCalls (library : Library) (calls : List Call) : Library :=
  calls.foldl afterCall library

theorem Reachable.call (reachable : library.Reachable) (call : Call) :
    (library.afterCall call).Reachable := by
  cases call with
  | addHeader header => exact .step reachable (.addHeader library header)
  | declare scope declaration =>
      rw [afterCall]
      split
      · rename_i declared
        exact .step reachable (.declare declared)
      · exact reachable
  | linkSuperclass id superclass =>
      rw [afterCall]
      split
      · rename_i linked
        exact .step reachable (.linkSuperclass linked)
      · exact reachable

/-- Whatever is called on an empty library, and however much of that is refused, every library on
the way comes about. -/
theorem Reachable.afterCalls (reachable : library.Reachable) (calls : List Call) :
    (library.afterCalls calls).Reachable := by
  induction calls generalizing library with
  | nil => exact reachable
  | cons call calls ih => exact ih (reachable.call call)

/-! ## Libraries from descriptions -/

theorem Reachable.addHeaders (reachable : library.Reachable) (headers : List String) :
    (headers.foldl addHeader library).Reachable := by
  induction headers generalizing library with
  | nil => exact reachable
  | cons header headers ih => exact ih (.step reachable (.addHeader library header))

mutual

theorem Reachable.declareDescription {library after : Library} (reachable : library.Reachable)
    (scope : EntityId) :
    ∀ (description : EntityDescription) {links : List PendingLink},
      Library.declareDescription scope description library = .ok (after, links) → after.Reachable
  | { children, .. }, _, declared => by
    rw [Library.declareDescription] at declared
    obtain ⟨⟨id, middle⟩, own, declared⟩ := bind_eq_ok.mp declared
    obtain ⟨⟨last, nested⟩, inside, declared⟩ := bind_eq_ok.mp declared
    cases declared
    exact Reachable.declareDescriptions (.step reachable (.declare own)) id children inside

theorem Reachable.declareDescriptions {library after : Library} (reachable : library.Reachable)
    (scope : EntityId) :
    ∀ (descriptions : List EntityDescription) {links : List PendingLink},
      Library.declareDescriptions scope descriptions library = .ok (after, links) → after.Reachable
  | [], _, declared => by
    cases declared
    exact reachable
  | description :: descriptions, _, declared => by
    rw [Library.declareDescriptions] at declared
    obtain ⟨⟨middle, first⟩, one, declared⟩ := bind_eq_ok.mp declared
    obtain ⟨⟨last, others⟩, rest, declared⟩ := bind_eq_ok.mp declared
    cases declared
    exact Reachable.declareDescriptions
      (Reachable.declareDescription reachable scope description one) scope descriptions rest

end

theorem Reachable.resolveLink (reachable : library.Reachable) {link : PendingLink}
    (resolved : library.resolveLink link = .ok after) : after.Reachable := by
  rw [Library.resolveLink] at resolved
  split at resolved
  · exact .step reachable (.linkSuperclass resolved)
  · cases resolved

theorem Reachable.resolveLinks (links : List PendingLink) :
    ∀ {library : Library}, library.Reachable →
      links.foldlM Library.resolveLink library = .ok after → after.Reachable := by
  induction links with
  | nil =>
      intro library reachable resolved
      cases resolved
      exact reachable
  | cons link links ih =>
      intro library reachable resolved
      rw [List.foldlM_cons] at resolved
      obtain ⟨middle, first, resolved⟩ := bind_eq_ok.mp resolved
      exact ih (reachable.resolveLink first) resolved

/-- A described library comes about change by change. -/
theorem Reachable.ofDescription {description : LibraryDescription}
    (described : Library.ofDescription description = .ok library) : library.Reachable := by
  rw [Library.ofDescription] at described
  obtain ⟨⟨declared, links⟩, flattened, described⟩ := bind_eq_ok.mp described
  have start := Reachable.addHeaders (.empty description.name) description.headers
  exact .resolveLinks links (start.declareDescriptions _ _ flattened) described

/-- A library with a class in a namespace, and behind the namespace the superclass of that class. -/
def crossScope : Library where
  hierarchy :=
    { entities :=
        [{ declaration := { kind := .namespaceScope, name := "lib" }
           parent := none
           children := [1, 3]
           qualifiedName := "" },
         { declaration := { kind := .namespaceScope, name := "a" }
           parent := some Hierarchy.root
           children := [2]
           qualifiedName := "a" },
         { declaration := { kind := .classType, name := "D", superclass := some 3 }
           parent := some 1
           children := []
           qualifiedName := "a::D" },
         { declaration := { kind := .classType, name := "B" }
           parent := some Hierarchy.root
           children := []
           qualifiedName := "B" }]
      headers := [] }
  index := ⟨[("a", 1), ("a::D", 2), ("B", 3)]⟩

theorem reachable_crossScope : crossScope.Reachable := by
  have described : ofDescription
      { name := "lib"
        headers := []
        entities :=
          [{ kind := .namespaceScope
             name := "a"
             children :=
               [{ kind := .classType, name := "D", superclassName := some "B" }] },
            { kind := .classType, name := "B" }] } = .ok crossScope := rfl
  exact .ofDescription described

end RubyBindings.Library
