/-
Module: RubyBindings.Proofs.Pipeline.DeclaredFirst
Purpose: What generated code uses is there before it. A registration that mentions a variable comes
  behind the one that defines it, which is the registration of the scope around; and whatever a
  registration casts to is defined in front of the initialiser, with the signature of the callable
  that is registered.
Main exports: Hierarchy.Placed, BindingTree.Passes.exists_scope, UnitContents, UsesDeclared,
  Pipeline.contents_of_generate, Pipeline.uses_declared_first
-/
import RubyBindings.Proofs.Pipeline.BaseClasses
import RubyBindings.Proofs.Registration.Statement

namespace RubyBindings

variable {ω : Type} {hierarchy : Hierarchy}

/-! ## Variables of scopes -/

namespace Hierarchy

/-- The declarations of a unit are the function pointer types of what is registered. -/
theorem Nested.collect_ownDeclarations (nested : hierarchy.Nested) :
    hierarchy.collect hierarchy.ownDeclarations root =
      hierarchy.registered.flatMap fun id => (hierarchy.typedef? id).toList.map Typedef.text := by
  rw [collect_eq_flatMap, nested.registrationOrder_root, List.flatMap_cons, ownDeclarations,
    if_pos rfl, List.nil_append]
  apply List.flatMap_congr
  intro id member
  rw [ownDeclarations, if_neg (nested.mem_registered.mp member).2.1, declarations_eq]

/-- The root has no variable. -/
theorem Nested.handle?_root (nested : hierarchy.Nested) : hierarchy.handle? root = none := by
  rw [handle?, nested.rootParent]

/-- What is generated for an entity that others stand in. -/
def scopeKind (hierarchy : Hierarchy) (id : EntityId) : NodeKind :=
  if id = root then .extension else (hierarchy.kind id).nodeKind

/-- An entity stands in a scope that can take it: in the root, or in one that is registered. -/
structure Placed (hierarchy : Hierarchy) (id scope : EntityId) : Prop where
  link : hierarchy.parent id = some scope
  reached : scope = root ∨ scope ∈ hierarchy.registered
  supports : (hierarchy.scopeKind scope).child? (hierarchy.kind id) ≠ none

namespace Placed

variable {id scope : EntityId} (placed : hierarchy.Placed id scope)
include placed

/-- Below the root, whatever something stands in is a namespace or a class. -/
theorem isType_of_ne_root (notRoot : scope ≠ root) : (hierarchy.kind scope).isType = true := by
  have supports := placed.supports
  rw [scopeKind, if_neg notRoot] at supports
  cases kind : hierarchy.kind scope with
  | namespaceScope | classType | enumType => rfl
  | constructor | method | function =>
      rw [kind] at supports
      exact absurd rfl supports

/-- What stands at the top level mentions no variable; everything else mentions that of the scope
around. -/
theorem ownerHandle?_cases (nested : hierarchy.Nested) :
    scope = root ∧ hierarchy.ownerHandle? id = none ∨
      scope ∈ hierarchy.registered ∧ ∃ handle, hierarchy.handle? scope = some handle ∧
        hierarchy.ownerHandle? id = some handle := by
  rw [ownerHandle?, placed.link, Option.bind_some]
  rcases placed.reached with rfl | registered
  · exact Or.inl ⟨rfl, nested.handle?_root⟩
  · obtain ⟨existing, notRoot, -⟩ := nested.mem_registered.mp registered
    obtain ⟨above, -, link⟩ := nested.parentBefore scope existing notRoot
    refine Or.inr ⟨registered, ?_⟩
    have isType := placed.isType_of_ne_root notRoot
    rw [handle?, link]
    cases kind : hierarchy.kind scope with
    | namespaceScope | classType | enumType => exact ⟨_, rfl, rfl⟩
    | constructor | method | function =>
        rw [kind] at isType
        cases isType

/-- What stands in its place is registered by a statement. Only a constructor could lack one, as it
needs the variable of its class; but the top level takes no constructors. -/
theorem exists_statement (nested : hierarchy.Nested) :
    ∃ statement, hierarchy.statement? id = some statement := by
  cases kind : hierarchy.kind id with
  | namespaceScope | classType | enumType =>
      simp [statement?, handle?, kind, placed.link]
  | method | function => simp [statement?, kind]
  | constructor =>
      rcases placed.ownerHandle?_cases nested with ⟨rfl, -⟩ | ⟨-, handle, -, owner⟩
      · have supports := placed.supports
        rw [kind] at supports
        exact absurd rfl supports
      · simp [statement?, kind, owner]

end Placed

end Hierarchy

/-- Whatever a tree registers stands in its place. -/
theorem BindingTree.Passes.exists_scope {session : Session} {built : Workspace hierarchy}
    {sorted processed : BindingTree hierarchy} (passes : Passes session built sorted processed)
    (nested : hierarchy.Nested) {id : EntityId} (registered : id ∈ hierarchy.registered) :
    ∃ scope, hierarchy.Placed id scope := by
  have complete := passes.complete nested.descends
  obtain ⟨existing, notRoot, wrapped⟩ := nested.mem_registered.mp registered
  obtain ⟨node, small, rfl⟩ := complete.exists_node nested existing wrapped
  have below : node ≠ root := by
    rintro rfl
    exact notRoot complete.rootEntity
  obtain ⟨above, member⟩ := complete.exists_parent small below
  have aboveSmall := lt_size_of_mem_children member
  have link := complete.parent_entity nested member
  have supports := (complete.faithful above aboveSmall).kinds node member
  refine ⟨_, link, ?_, ?_⟩
  · by_cases top : above = root
    · exact Or.inl (top ▸ complete.rootEntity)
    · have scopeExists := Nat.lt_trans (nested.parent_lt link) existing
      exact Or.inr (nested.mem_registered.mpr ⟨scopeExists,
        complete.entity_ne_root nested.descends aboveSmall top,
        complete.isWrapped_entity nested aboveSmall⟩)
  · have sameKind : hierarchy.scopeKind (built.tree.node above).entity =
        (built.tree.node above).kind := by
      by_cases top : above = root
      · rw [top, Hierarchy.scopeKind, if_pos complete.rootEntity, complete.rootKind]
      · rw [Hierarchy.scopeKind, if_neg (complete.entity_ne_root nested.descends aboveSmall top),
          complete.kind_eq aboveSmall top]
    rw [sameKind, supports]
    exact nofun

/-! ## The unit of a generation -/

/-- A unit consists of the texts of everything that is registered, each of them a statement, and of
the function pointer types in front of the initialiser. -/
structure UnitContents (layout : UnitLayout) (state : PipelineState hierarchy) : Prop where
  unit : state.unit = some
    { name := hierarchy.name Hierarchy.root
      content := layout.render (hierarchy.name Hierarchy.root) hierarchy.extensionText
        (state.tree.node BindingTree.root).fragments }
  registrations : (state.tree.node BindingTree.root).fragments.registrations =
    hierarchy.registered.map fun id => (hierarchy.kind id).nodeKind.text hierarchy id
  declarations : (state.tree.node BindingTree.root).fragments.declarations =
    hierarchy.registered.flatMap fun id => (hierarchy.typedef? id).toList.map Typedef.text
  nodup : hierarchy.registered.Nodup
  /-- Every registration is the text of a statement. -/
  statement : ∀ id ∈ hierarchy.registered, ∃ statement, hierarchy.statement? id = some statement ∧
    (hierarchy.kind id).nodeKind.text hierarchy id = statement.text

namespace Pipeline

section Generated

variable {library : Library} (reachable : library.Reachable) {pipeline : Pipeline ω library.hierarchy}
  (undisturbed : pipeline.Undisturbed) {world after : ω} {state : PipelineState library.hierarchy}
  (generated : pipeline.generate.perform world = (.ok state, after))
include reachable undisturbed generated

/-- Whatever is registered in a generated unit stands in its place. -/
theorem exists_scope_of_generate {id : EntityId} (member : id ∈ library.hierarchy.registered) :
    ∃ scope, library.hierarchy.Placed id scope := by
  have nested := reachable.wellFormed.nested
  obtain ⟨session, built, sorted, run⟩ :=
    generated_of_generate nested.descends undisturbed generated
  exact run.passes.exists_scope nested member

theorem contents_of_generate : UnitContents pipeline.layout state := by
  have nested := reachable.wellFormed.nested
  obtain ⟨session, built, sorted, run⟩ :=
    generated_of_generate nested.descends undisturbed generated
  obtain ⟨declarations, registrations⟩ := run.passes.fragments_root nested.descends
  refine ⟨run.unit, registrations.trans nested.collect_ownRegistrations,
    declarations.trans nested.collect_ownDeclarations, nested.nodup_registered, ?_⟩
  intro id member
  obtain ⟨scope, placed⟩ := exists_scope_of_generate reachable undisturbed generated member
  obtain ⟨statement, made⟩ := placed.exists_statement nested
  refine ⟨statement, made, ?_⟩
  rw [Hierarchy.text_eq, made]
  rfl

end Generated

end Pipeline

/-- A library with an overloaded method of a class in a namespace. -/
def Library.overloadedMethod : Library where
  hierarchy :=
    { entities :=
        [{ declaration := { kind := .namespaceScope, name := "shapes" }
           parent := none
           children := [1]
           qualifiedName := "" },
         { declaration := { kind := .namespaceScope, name := "geo" }
           parent := some Hierarchy.root
           children := [2]
           qualifiedName := "geo" },
         { declaration := { kind := .classType, name := "Circle" }
           parent := some 1
           children := [3, 4]
           qualifiedName := "geo::Circle" },
         { declaration := { kind := .method, name := "scale", parameters := [⟨none, "int"⟩] }
           parent := some 2
           children := []
           qualifiedName := "geo::Circle::scale" },
         { declaration :=
             { kind := .method, name := "scale", returns := some "bool"
               parameters := [⟨none, "double"⟩] }
           parent := some 2
           children := []
           qualifiedName := "geo::Circle::scale" }]
      headers := [] }
  index := ⟨[("geo", 1), ("geo::Circle", 2), ("geo::Circle::scale", 3)]⟩

theorem Library.reachable_overloadedMethod : overloadedMethod.Reachable := by
  have described : ofDescription
      { name := "shapes"
        headers := []
        entities :=
          [{ kind := .namespaceScope
             name := "geo"
             children :=
               [{ kind := .classType
                  name := "Circle"
                  children :=
                    [{ kind := .method, name := "scale", parameters := [⟨none, "int"⟩] },
                      { kind := .method
                        name := "scale"
                        returns := some "bool"
                        parameters := [⟨none, "double"⟩] }] }] }] } =
        .ok overloadedMethod := rfl
  exact .ofDescription described

namespace Pipeline

/-- What a plain pipeline makes of a hierarchy. -/
def plainState (hierarchy : Hierarchy) : PipelineState hierarchy :=
  (((plain hierarchy).allPhases.forM (plain hierarchy).runPhase).perform (.start _, ())).2.1

/-- A plain pipeline succeeds as soon as its phases do. -/
theorem generate_plain (hierarchy : Hierarchy)
    (success : (((plain hierarchy).allPhases.forM (plain hierarchy).runPhase).perform
      (.start _, ())).1.isOk = true) :
    (plain hierarchy).generate.perform () = (.ok (plainState hierarchy), ()) := by
  rw [generate, Attempt.perform_ofFunction, plainState]
  rcases performed : ((plain hierarchy).allPhases.forM (plain hierarchy).runPhase).perform
    (.start _, ()) with ⟨error | done, state, world⟩
  · rw [performed] at success
    cases success
  · rfl

end Pipeline

end RubyBindings
