/-
Module: RubyBindings.Proofs.Library.AppendOnly
Purpose: The history of a library is append-only. Whoever holds an id may go on using it: whatever
  is called later, the entity stays where it is under the name it has, its children are only added
  to, and only a superclass link that names it changes what it declares. A new declaration changes
  nothing but its own entry, the children of its scope and the search for its own name, and a call
  that is refused changes nothing at all.
Main exports: Library.answer, Library.Call.attempt, Library.perform_attempt, Library.Adds,
  Library.Extends, Library.AppendOnly, Library.append_only
-/
import RubyBindings.Proofs.Library.Representation

namespace RubyBindings.Library

variable {library before middle after : Library}

/-- What a call answers: the id of a new entity, nothing, or why the call is refused. -/
def answer (library : Library) : Call → Except LibraryError (Option EntityId)
  | .addHeader _ => .ok none
  | .declare scope declaration => (library.declare scope declaration).map fun (id, _) => some id
  | .linkSuperclass id superclass => (library.linkSuperclass id superclass).map fun _ => none

/-! ## Calls in place -/

/-- Enter a qualified name in the index, for an entity that is not there yet. -/
def enterName (qualifiedName : String) (id : EntityId) (library : Library) : Library :=
  { library with index := library.index.enter qualifiedName id }

/-- Put an entity at the end, which its scope does not know of yet. -/
def pushEntity (entity : Entity) (library : Library) : Library :=
  { library with
    hierarchy :=
      { library.hierarchy with entities := library.hierarchy.entities ++ [entity] } }

/-- Put an entity at the end of the children of a scope. -/
def pushChild (scope child : EntityId) (library : Library) : Library :=
  { library with
    hierarchy :=
      { library.hierarchy with
        entities := library.hierarchy.entities.modify scope fun entity =>
          { entity with children := entity.children ++ [child] } } }

/-- Name the superclass of an entity. -/
def setSuperclass (id superclass : EntityId) (library : Library) : Library :=
  { library with
    hierarchy :=
      { library.hierarchy with
        entities := library.hierarchy.entities.modify id fun entity =>
          { entity with
            declaration := { entity.declaration with superclass := some superclass } } } }

/-- Enter a declaration that has passed all checks but the last: its qualified name has to be free
for it. -/
def Call.enter (library : Library) (scope : EntityId) (added : Declaration) :
    Attempt Library LibraryError (Option EntityId) :=
  let qualifiedName := library.qualify scope added.name
  if library.isRepeatedType added.kind qualifiedName then
    throw (.duplicateName added.kind qualifiedName)
  else do
    modify (enterName qualifiedName library.size)
    modify (pushEntity
      { declaration := added, parent := some scope, children := [], qualifiedName })
    modify (pushChild scope library.size)
    return some library.size

/-- A call on a library that is changed in place, one part after the other. What has been changed
when a check fails stays changed. -/
def Call.attempt : Call → Attempt Library LibraryError (Option EntityId)
  | .addHeader header => do
    modify fun library => library.addHeader header
    return none
  | .declare scope declaration => do
    let library ← get
    Attempt.ofExcept (library.requireEntity scope)
    let added ← Attempt.ofExcept (library.named scope declaration)
    Attempt.ofExcept (library.requireNames scope added)
    if let some superclass := added.superclass then
      Attempt.ofExcept
        (library.requireSuperclass (library.qualify scope added.name) superclass)
    Call.enter library scope added
  | .linkSuperclass id superclass => do
    let library ← get
    Attempt.ofExcept (library.requireEntity id)
    Attempt.ofExcept (library.requireSuperclass (library.hierarchy.qualifiedName id) superclass)
    modify (setSuperclass id superclass)
    return none

/-- An entity may be put at the end after its name has been entered, and before its scope is told of
it. -/
theorem pushChild_pushEntity {scope : EntityId} (existing : scope < library.size)
    (declaration : Declaration) (qualifiedName : String) :
    pushChild scope library.size (pushEntity
        { declaration, parent := some scope, children := [], qualifiedName }
        (enterName qualifiedName library.size library)) =
      library.append scope declaration qualifiedName := by
  rw [size, Hierarchy.size] at existing
  have left (entity : Entity) (change : Entity → Entity) :
      (library.hierarchy.entities ++ [entity]).modify scope change =
        library.hierarchy.entities.modify scope change ++ [entity] := by
    rw [List.modify_eq_take_drop, List.modify_eq_take_drop,
      List.take_append_of_le_length existing.le, List.drop_append_of_le_length existing.le,
      List.drop_eq_getElem_cons existing]
    simp only [List.cons_append, List.modifyHead_cons, List.append_assoc]
  simp only [pushChild, pushEntity, enterName, append, left]

theorem perform_enter {scope : EntityId} (existing : scope < library.size) (added : Declaration) :
    (Call.enter library scope added).perform library =
      if library.isRepeatedType added.kind (library.qualify scope added.name) then
        (.error (.duplicateName added.kind (library.qualify scope added.name)), library)
      else
        (.ok (some library.size),
          library.append scope added (library.qualify scope added.name)) := by
  rw [Call.enter]
  split
  · rfl
  · rw [← pushChild_pushEntity existing]
    rfl

/-- In place, all checks of a call come before its first change: what is refused has changed
nothing, and what is accepted has become the library that the call describes. -/
theorem perform_attempt (library : Library) (call : Call) :
    call.attempt.perform library = (library.answer call, library.afterCall call) := by
  cases call with
  | addHeader header => rfl
  | declare scope declaration =>
      simp only [Call.attempt, answer, afterCall, declare, Attempt.perform_bind,
        Attempt.perform_get, Attempt.perform_ofExcept]
      cases existing : library.requireEntity scope with
      | error error => rfl
      | ok passed =>
          have entered := perform_enter (requireEntity_eq_ok.mp existing)
          cases library.named scope declaration with
          | error error => rfl
          | ok added =>
              dsimp only [bind, Except.bind]
              cases library.requireNames scope added with
              | error error => rfl
              | ok passed =>
                  cases added.superclass with
                  | none =>
                      refine (entered added).trans ?_
                      dsimp only
                      split <;> rfl
                  | some superclass =>
                      refine (Attempt.perform_bind _ _ library).trans ?_
                      dsimp only [Attempt.perform_ofExcept]
                      cases library.requireSuperclass (library.qualify scope added.name)
                          superclass with
                      | error error => rfl
                      | ok isClass =>
                          refine (entered added).trans ?_
                          dsimp only
                          split <;> rfl
  | linkSuperclass id superclass =>
      simp only [Call.attempt, answer, afterCall, linkSuperclass, Attempt.perform_bind,
        Attempt.perform_get, Attempt.perform_ofExcept]
      cases library.requireEntity id with
      | error error => rfl
      | ok passed =>
          cases library.requireSuperclass (library.hierarchy.qualifiedName id) superclass with
          | error error => rfl
          | ok isClass => rfl

/-! ## One call -/

/-- A declaration has become the entity `id` of a scope, with the name that it gets there. Nothing
else has changed but the children of the scope, which end with it, and the search for its own
name, which finds it if nothing was found before. -/
structure Adds (before : Library) (scope : EntityId) (declaration : Declaration) (id : EntityId)
    (after : Library) : Prop where
  id_eq : id = before.size
  size : after.size = before.size + 1
  headers : after.hierarchy.headers = before.hierarchy.headers
  new : ∃ added, before.named scope declaration = .ok added ∧
    after.hierarchy.entity id =
      { declaration := added, parent := some scope, children := []
        qualifiedName := before.qualify scope added.name }
  existing : scope < before.size
  grown : after.hierarchy.entity scope =
    { before.hierarchy.entity scope with children := before.hierarchy.children scope ++ [id] }
  others : ∀ other, other ≠ id → other ≠ scope →
    after.hierarchy.entity other = before.hierarchy.entity other
  find?_own : after.find? (after.hierarchy.qualifiedName id) =
    (before.find? (after.hierarchy.qualifiedName id)).or (some id)
  find?_other : ∀ name, name ≠ after.hierarchy.qualifiedName id →
    after.find? name = before.find? name

theorem Declares.adds {scope : EntityId} {declaration added : Declaration}
    (declares : Declares before scope declaration added after) :
    Adds before scope declaration before.size after := by
  have existing : scope < before.hierarchy.size := declares.existing
  have own : after.hierarchy.qualifiedName before.size = before.qualify scope added.name :=
    congrArg Entity.qualifiedName declares.entity_self
  have entity := before.entity_append existing added (before.qualify scope added.name)
  have found : ∀ name, (before.append scope added (before.qualify scope added.name)).find? name =
      (before.find? name).or
        (if before.qualify scope added.name = name then some before.size else none) :=
    find?_append scope added (before.qualify scope added.name)
  rw [← declares.after_eq] at entity found
  exact
    { id_eq := rfl
      size := declares.size_eq
      headers := congrArg (fun library => library.hierarchy.headers) declares.after_eq
      new := ⟨added, declares.named, declares.entity_self⟩
      existing
      grown := by
        rw [entity, if_neg (Nat.ne_of_lt existing), if_pos rfl]
        rfl
      others := by
        intro other notNew notScope
        change other ≠ before.hierarchy.size at notNew
        rw [entity, if_neg notNew, if_neg notScope]
      find?_own := by rw [own, found, if_pos rfl]
      find?_other := by
        intro name different
        rw [own] at different
        rw [found, if_neg (Ne.symm different), Option.or_none] }

/-- A declaration that is answered with an id has been added under it. -/
theorem adds_of_answer {scope : EntityId} {declaration : Declaration} {told : Option EntityId}
    (answered : library.answer (.declare scope declaration) = .ok told) :
    ∃ id, told = some id ∧
      Adds library scope declaration id (library.afterCall (.declare scope declaration)) := by
  rw [answer] at answered
  simp only [afterCall]
  cases declared : library.declare scope declaration with
  | error error =>
      rw [declared] at answered
      cases answered
  | ok made =>
      obtain ⟨id, after⟩ := made
      rw [declared] at answered
      cases answered
      obtain ⟨rfl, added, declares⟩ := declares_of_declare declared
      exact ⟨library.size, rfl, declares.adds⟩

/-- A superclass link that is not refused has been made. -/
theorem links_of_answer {id superclass : EntityId} {told : Option EntityId}
    (answered : library.answer (.linkSuperclass id superclass) = .ok told) :
    Links library id superclass (library.afterCall (.linkSuperclass id superclass)) := by
  rw [answer] at answered
  simp only [afterCall]
  cases linked : library.linkSuperclass id superclass with
  | error error =>
      rw [linked] at answered
      cases answered
  | ok after => exact links_of_linkSuperclass linked

/-- A call that is refused leaves the library as it is. -/
theorem afterCall_of_answer_error {call : Call} {error : LibraryError}
    (refused : library.answer call = .error error) : library.afterCall call = library := by
  cases call with
  | addHeader header => cases refused
  | declare scope declaration =>
      rw [answer] at refused
      simp only [afterCall]
      cases declared : library.declare scope declaration with
      | error error => rfl
      | ok made =>
          rw [declared] at refused
          cases refused
  | linkSuperclass id superclass =>
      rw [answer] at refused
      simp only [afterCall]
      cases linked : library.linkSuperclass id superclass with
      | error error => rfl
      | ok after =>
          rw [linked] at refused
          cases refused

/-! ## Any number of calls -/

/-- One library has come about from another by calls: every id goes on meaning what it meant. Only
superclasses may be others, children and headers may have been added at the end, and names may be
found that were not found before. -/
structure Extends (before after : Library) : Prop where
  size : before.size ≤ after.size
  parent : ∀ id < before.size, after.hierarchy.parent id = before.hierarchy.parent id
  qualifiedName : ∀ id < before.size,
    after.hierarchy.qualifiedName id = before.hierarchy.qualifiedName id
  declaration : ∀ id < before.size, after.hierarchy.declaration id =
    { before.hierarchy.declaration id with superclass := after.hierarchy.superclass id }
  /-- What is added to the children are entities that were not there. -/
  children : ∀ id < before.size, ∃ new, (∀ child ∈ new, before.size ≤ child) ∧
    after.hierarchy.children id = before.hierarchy.children id ++ new
  find? : ∀ name id, before.find? name = some id → after.find? name = some id
  headers : before.hierarchy.headers <+: after.hierarchy.headers

namespace Extends

theorem refl (library : Library) : Extends library library where
  size := Nat.le_refl _
  parent := fun _ _ => rfl
  qualifiedName := fun _ _ => rfl
  declaration := fun _ _ => rfl
  children := fun _ _ => ⟨[], by simp⟩
  find? := fun _ _ found => found
  headers := List.prefix_refl _

theorem trans (first : Extends before middle) (second : Extends middle after) :
    Extends before after where
  size := Nat.le_trans first.size second.size
  parent := fun id small =>
    (second.parent id (Nat.lt_of_lt_of_le small first.size)).trans (first.parent id small)
  qualifiedName := fun id small =>
    (second.qualifiedName id (Nat.lt_of_lt_of_le small first.size)).trans
      (first.qualifiedName id small)
  declaration := by
    intro id small
    rw [second.declaration id (Nat.lt_of_lt_of_le small first.size), first.declaration id small]
  children := by
    intro id small
    obtain ⟨early, earlyNew, atFirst⟩ := first.children id small
    obtain ⟨late, lateNew, atLast⟩ := second.children id (Nat.lt_of_lt_of_le small first.size)
    refine ⟨early ++ late, ?_, by rw [atLast, atFirst, List.append_assoc]⟩
    intro child member
    rcases List.mem_append.mp member with old | new
    · exact earlyNew child old
    · exact Nat.le_trans first.size (lateNew child new)
  find? := fun name id found => second.find? name id (first.find? name id found)
  headers := first.headers.trans second.headers

end Extends

theorem extends_addHeader (library : Library) (header : String) :
    Extends library (library.addHeader header) where
  size := Nat.le_refl _
  parent := fun _ _ => rfl
  qualifiedName := fun _ _ => rfl
  declaration := fun _ _ => rfl
  children := fun _ _ => ⟨[], by simp [addHeader, Hierarchy.children, Hierarchy.entity]⟩
  find? := fun _ _ found => found
  headers := List.prefix_append _ [header]

theorem Adds.extends {scope id : EntityId} {declaration : Declaration}
    (adds : Adds before scope declaration id after) : Extends before after := by
  have notNew : ∀ other < before.size, other ≠ id := fun other small => by
    rw [adds.id_eq]
    exact Nat.ne_of_lt small
  -- All that is read of an old entity is as before, unless it is the children of the scope.
  have read : ∀ {α : Type} (read : Entity → α),
      (∀ entity children, read { entity with children } = read entity) → ∀ other < before.size,
        read (after.hierarchy.entity other) = read (before.hierarchy.entity other) := by
    intro α read apart other small
    by_cases self : other = scope
    · rw [self, adds.grown, apart]
    · rw [adds.others other (notNew other small) self]
  exact
    { size := by
        rw [adds.size]
        exact Nat.le_succ _
      parent := read Entity.parent fun _ _ => rfl
      qualifiedName := read Entity.qualifiedName fun _ _ => rfl
      declaration := by
        intro other small
        rw [Hierarchy.superclass, Hierarchy.declaration, Hierarchy.declaration,
          read Entity.declaration (fun _ _ => rfl) other small]
      children := by
        intro other small
        by_cases self : other = scope
        · refine ⟨[id], by simp [adds.id_eq], ?_⟩
          rw [self, Hierarchy.children, adds.grown]
        · refine ⟨[], by simp, ?_⟩
          rw [Hierarchy.children, adds.others other (notNew other small) self, List.append_nil]
          rfl
      find? := by
        intro name other found
        by_cases own : name = after.hierarchy.qualifiedName id
        · rw [own] at found
          rw [own, adds.find?_own, found, Option.some_or]
        · rw [adds.find?_other name own, found]
      headers := adds.headers ▸ List.prefix_refl _ }

theorem Links.extends {id superclass : EntityId} (links : Links before id superclass after) :
    Extends before after where
  size := Nat.le_of_eq links.size.symm
  parent := fun other _ => links.parent other
  qualifiedName := fun other _ => links.qualifiedName other
  declaration := by
    intro other _
    rw [links.superclass_eq, Hierarchy.declaration, links.entity]
    split
    · rename_i self
      rw [self]
    · rfl
  children := fun other _ => ⟨[], by simp, by rw [links.children, List.append_nil]⟩
  find? := fun name other found => by rw [links.find?_eq, found]
  headers := links.headers ▸ List.prefix_refl _

/-- Every call only adds to a library, apart from superclasses. -/
theorem extends_afterCall (library : Library) (call : Call) :
    Extends library (library.afterCall call) := by
  cases answered : library.answer call with
  | error error =>
      rw [afterCall_of_answer_error answered]
      exact .refl library
  | ok told =>
      cases call with
      | addHeader header => exact extends_addHeader library header
      | declare scope declaration =>
          obtain ⟨id, -, adds⟩ := adds_of_answer answered
          exact adds.extends
      | linkSuperclass id superclass => exact (links_of_answer answered).extends

theorem extends_afterCalls (library : Library) (calls : List Call) :
    Extends library (library.afterCalls calls) := by
  induction calls generalizing library with
  | nil => exact .refl library
  | cons call calls ih => exact (extends_afterCall library call).trans (ih (library.afterCall call))

/-- Only a superclass link from an entity gives that entity another superclass. -/
theorem superclass_afterCall {call : Call} {id : EntityId} (existing : id < library.size)
    (spared : ∀ superclass, call ≠ .linkSuperclass id superclass) :
    (library.afterCall call).hierarchy.superclass id = library.hierarchy.superclass id := by
  cases answered : library.answer call with
  | error error => rw [afterCall_of_answer_error answered]
  | ok told =>
      cases call with
      | addHeader header => rfl
      | declare scope declaration =>
          obtain ⟨new, -, adds⟩ := adds_of_answer answered
          have notNew : id ≠ new := adds.id_eq ▸ Nat.ne_of_lt existing
          rw [Hierarchy.superclass, Hierarchy.declaration]
          by_cases self : id = scope
          · rw [self, adds.grown]
            rfl
          · rw [adds.others id notNew self]
            rfl
      | linkSuperclass derived superclass =>
          have different : id ≠ derived := fun self => spared superclass (by rw [self])
          rw [(links_of_answer answered).superclass_eq, if_neg different]

theorem superclass_afterCalls {calls : List Call} {id : EntityId} (existing : id < library.size)
    (spared : ∀ superclass, .linkSuperclass id superclass ∉ calls) :
    (library.afterCalls calls).hierarchy.superclass id = library.hierarchy.superclass id := by
  induction calls generalizing library with
  | nil => rfl
  | cons call calls ih =>
      have sparedHere : ∀ superclass, call ≠ .linkSuperclass id superclass :=
        fun superclass same => spared superclass (same ▸ List.mem_cons_self)
      have first := superclass_afterCall existing sparedHere
      have stays := Nat.lt_of_lt_of_le existing (extends_afterCall library call).size
      exact (ih stays fun superclass member =>
        spared superclass (List.mem_cons_of_mem call member)).trans first

/-! ## The history as a whole -/

/-- From some point on, the history of a library is append-only. -/
structure AppendOnly (library : Library) : Prop where
  /-- What a call answers and leaves behind is what it comes to when it is made in place. -/
  inPlace : ∀ call : Call,
    call.attempt.perform library = (library.answer call, library.afterCall call)
  /-- Whatever is called later, ids stay valid and go on meaning what they meant. -/
  stays : ∀ calls, Extends library (library.afterCalls calls)
  /-- What an entity declares changes only by a superclass link from it. -/
  declaration : ∀ calls, ∀ id < library.size,
    (∀ superclass, .linkSuperclass id superclass ∉ calls) →
      (library.afterCalls calls).hierarchy.declaration id = library.hierarchy.declaration id
  addsHeader : ∀ header, library.answer (.addHeader header) = .ok none ∧
    (library.afterCall (.addHeader header)).hierarchy.entities = library.hierarchy.entities ∧
    (library.afterCall (.addHeader header)).hierarchy.headers =
      library.hierarchy.headers ++ [header]
  declares : ∀ scope declaration told, library.answer (.declare scope declaration) = .ok told →
    ∃ id, told = some id ∧
      Adds library scope declaration id (library.afterCall (.declare scope declaration))
  links : ∀ id superclass told, library.answer (.linkSuperclass id superclass) = .ok told →
    Links library id superclass (library.afterCall (.linkSuperclass id superclass)) ∧
      ∀ name, (library.afterCall (.linkSuperclass id superclass)).find? name = library.find? name
  refused : ∀ call error, library.answer call = .error error → library.afterCall call = library

/-- At every point of its history, a library is only added to from then on, but for superclass
links, and calls that are refused leave no trace. -/
theorem append_only (library : Library) : library.AppendOnly where
  inPlace := perform_attempt library
  stays := extends_afterCalls library
  declaration := by
    intro calls id existing spared
    rw [(extends_afterCalls library calls).declaration id existing,
      superclass_afterCalls existing spared]
    rfl
  addsHeader := fun _ => ⟨rfl, rfl, rfl⟩
  declares := fun _ _ _ answered => adds_of_answer answered
  links := by
    intro id superclass told answered
    have links := links_of_answer answered
    exact ⟨links, links.find?_eq⟩
  refused := fun _ _ refused => afterCall_of_answer_error refused

end RubyBindings.Library
