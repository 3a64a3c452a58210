/-
Module: RubyBindings.Proofs.BindingTree.Warnings
Purpose: What a build reports. It reports no errors, and for a library one warning for each wrapped
  class whose superclass is not wrapped, in the order of the declarations. Exactly the classes without
  a warning are registered with the superclass that they have.
Main exports: Hierarchy.unwrappedLinks, BindingTree.Complete.entities_preorder,
  BindingTree.hasErrors_of_build, BindingTree.WarnsExactly, BindingTree.warnings_are_exact
-/
import RubyBindings.Proofs.BindingTree.Contributions
import RubyBindings.Proofs.BindingTree.Wrapped
import RubyBindings.Proofs.Hierarchy.Traversal
import RubyBindings.Proofs.Registration.Statement

namespace RubyBindings

variable {hierarchy : Hierarchy}

/-! ## Superclass links that are left out -/

namespace Hierarchy

variable (hierarchy)

/-- A class with its superclass, if that is not wrapped. -/
def unwrappedLink? (id : EntityId) : Option (EntityId × EntityId) :=
  if hierarchy.kind id = .classType then
    (hierarchy.unwrappedBase? id).map fun superclass => (id, superclass)
  else none

/-- The wrapped classes whose superclasses are not wrapped, each with its superclass, in the order of
the declarations. -/
def unwrappedLinks : List (EntityId × EntityId) :=
  (hierarchy.declarationOrder root).filterMap hierarchy.unwrappedLink?

variable {hierarchy}

theorem unwrappedLink?_eq_some {id : EntityId} {link : EntityId × EntityId} :
    hierarchy.unwrappedLink? id = some link ↔
      link.1 = id ∧ hierarchy.kind id = .classType ∧ hierarchy.superclass id = some link.2 ∧
        hierarchy.isWrapped link.2 = false := by
  obtain ⟨derived, superclass⟩ := link
  rw [unwrappedLink?]
  split
  · rename_i isClass
    simp only [unwrappedBase?, Option.map_eq_some_iff, Option.filter_eq_some_iff, Prod.mk.injEq,
      Bool.not_eq_true']
    constructor
    · rintro ⟨above, ⟨named, unwrapped⟩, rfl, rfl⟩
      exact ⟨rfl, isClass, named, unwrapped⟩
    · rintro ⟨rfl, -, named, unwrapped⟩
      exact ⟨superclass, ⟨named, unwrapped⟩, rfl, rfl⟩
  · rename_i notClass
    simp [notClass]

theorem Nested.mem_unwrappedLinks (nested : hierarchy.Nested) {id superclass : EntityId} :
    (id, superclass) ∈ hierarchy.unwrappedLinks ↔
      id < hierarchy.size ∧ hierarchy.isWrapped id = true ∧ hierarchy.kind id = .classType ∧
        hierarchy.superclass id = some superclass ∧ hierarchy.isWrapped superclass = false := by
  simp only [unwrappedLinks, List.mem_filterMap, unwrappedLink?_eq_some,
    nested.mem_declarationOrder]
  constructor
  · rintro ⟨listed, ⟨existing, wrapped⟩, rfl, isClass, named, unwrapped⟩
    exact ⟨existing, wrapped, isClass, named, unwrapped⟩
  · rintro ⟨existing, wrapped, isClass, named, unwrapped⟩
    exact ⟨id, ⟨existing, wrapped⟩, rfl, isClass, named, unwrapped⟩

/-- The classes stand in the order of the declarations. -/
theorem map_fst_unwrappedLinks (hierarchy : Hierarchy) :
    hierarchy.unwrappedLinks.map Prod.fst =
      (hierarchy.declarationOrder root).filter fun id => (hierarchy.unwrappedLink? id).isSome := by
  rw [unwrappedLinks]
  induction hierarchy.declarationOrder root with
  | nil => rfl
  | cons id ids ih =>
      cases found : hierarchy.unwrappedLink? id with
      | none =>
          rw [List.filterMap_cons_none found, List.filter_cons_of_neg (by simp [found]), ih]
      | some link =>
          rw [List.filterMap_cons_some found, List.filter_cons_of_pos (by simp [found]),
            List.map_cons, ih, (unwrappedLink?_eq_some.mp found).1]

end Hierarchy

/-! ## What a build reports -/

/-- Every finding is a warning. -/
theorem NodeKind.isError_of_mem_findings {kind : NodeKind} {id : EntityId} {finding : Diagnostic}
    (member : finding ∈ kind.findings hierarchy id) : finding.severity.isError = false := by
  cases kind with
  | classType =>
      obtain ⟨superclass, -, rfl⟩ := List.mem_map.mp member
      rfl
  | extension | moduleScope | constructor | method | function | enumType =>
      exact absurd member List.not_mem_nil

namespace BindingTree

variable {tree : BindingTree hierarchy}

/-- A complete tree lists the entities of a subtree in the order of their declarations. -/
theorem Complete.entities_preorder (complete : tree.Complete) (descends : hierarchy.Descends)
    {id : NodeId} (existing : id < tree.size) :
    (tree.preorder id).map (fun below => (tree.node below).entity) =
      hierarchy.declarationOrder (tree.node id).entity := by
  have coherent := complete.coherent
  induction id, existing using coherent.induction_on_children with
  | step id existing ih =>
      rw [coherent.preorder_eq existing, List.map_cons, List.map_flatMap,
        descends.declarationOrder_eq, Hierarchy.eligibleChildren,
        ← (complete.faithful id existing).entities, List.flatMap_map]
      congr 1
      apply List.flatMap_congr
      exact fun child member => ih child member

/-- The findings of a build are those of its nodes, in the order of the tree. -/
theorem diagnostics_of_build (descends : hierarchy.Descends) {session : Session}
    {built : Workspace hierarchy}
    (performed : (build root).perform { tree := start hierarchy, session } = (.ok (), built)) :
    built.session.diagnostics = session.diagnostics ++ (built.tree.preorder root).flatMap fun id =>
      (built.tree.node id).kind.findings hierarchy (built.tree.node id).entity := by
  rw [(recorded_of_build descends performed).session, Session.diagnostics_afterAll, contributors,
    preorder_root_of_build descends performed, List.flatMap_map]

/-- A successful build in a fresh session reports no errors, whatever the hierarchy. -/
theorem hasErrors_of_build (descends : hierarchy.Descends) {built : Workspace hierarchy}
    (performed : (build root).perform { tree := start hierarchy, session := .fresh } =
      (.ok (), built)) : built.session.hasErrors = false := by
  rw [Session.hasErrors, diagnostics_of_build descends performed, List.any_eq_false]
  intro finding member
  obtain ⟨id, -, found⟩ := List.mem_flatMap.mp ((List.nil_append _).symm ▸ member)
  rw [NodeKind.isError_of_mem_findings found]
  exact Bool.false_ne_true

/-! ## The warnings of a library -/

/-- The template arguments that a class is registered with name its superclass as its base exactly if
it has one and there is no warning about that; otherwise they name the class alone. -/
structure NamesBaseExactly (hierarchy : Hierarchy) (id : EntityId) (arguments : String) : Prop where
  base : ∀ superclass, hierarchy.superclass id = some superclass →
    (arguments = hierarchy.qualifiedName id ++ ", " ++ hierarchy.qualifiedName superclass ↔
      (id, superclass) ∉ hierarchy.unwrappedLinks)
  alone : (∀ superclass, hierarchy.superclass id = some superclass →
    (id, superclass) ∈ hierarchy.unwrappedLinks) → arguments = hierarchy.qualifiedName id

/-- What a build says about superclasses: one warning for each wrapped class with a superclass that is
not wrapped, in the order of the declarations, and nothing else. A wrapped class has one registration,
and its arguments fit the warnings. -/
structure WarnsExactly (hierarchy : Hierarchy) (built : Workspace hierarchy) : Prop where
  /-- In the order of the declarations, an entity stands before the eligible ones inside it. -/
  order : ∀ id, hierarchy.declarationOrder id =
    id :: ((hierarchy.children id).filter hierarchy.isEligible).flatMap hierarchy.declarationOrder
  mem : ∀ id superclass, (id, superclass) ∈ hierarchy.unwrappedLinks ↔
    id < hierarchy.size ∧ hierarchy.isWrapped id = true ∧ hierarchy.kind id = .classType ∧
      hierarchy.superclass id = some superclass ∧ hierarchy.isWrapped superclass = false
  nodup : (hierarchy.unwrappedLinks.map Prod.fst).Nodup
  inOrder : (hierarchy.unwrappedLinks.map Prod.fst).Sublist (hierarchy.declarationOrder Hierarchy.root)
  diagnostics : built.session.diagnostics =
    hierarchy.unwrappedLinks.map fun (id, superclass) =>
      { severity := .warning
        phase := "build"
        message := "superclass '" ++ hierarchy.qualifiedName superclass ++
          "' is not wrapped, registering without a base class"
        location := some (hierarchy.qualifiedName id) }
  noErrors : built.session.hasErrors = false
  registration : ∀ id < hierarchy.size, hierarchy.isWrapped id = true →
    hierarchy.kind id = .classType →
      ∃ node < built.tree.size, (built.tree.node node).entity = id ∧
        ∃ handle owner arguments constant, (built.tree.node node).fragments.registrations =
            [(Statement.defineClass handle owner arguments constant).text] ∧
          NamesBaseExactly hierarchy id arguments

/-- The arguments of a wrapped class fit the warnings. -/
theorem namesBaseExactly_classArguments (nested : hierarchy.Nested) {id : EntityId}
    (existing : id < hierarchy.size) (wrapped : hierarchy.isWrapped id = true)
    (isClass : hierarchy.kind id = .classType) :
    NamesBaseExactly hierarchy id (hierarchy.classArguments id) := by
  have warned : ∀ superclass, hierarchy.superclass id = some superclass →
      ((id, superclass) ∈ hierarchy.unwrappedLinks ↔ hierarchy.isWrapped superclass = false) := by
    intro superclass named
    rw [nested.mem_unwrappedLinks]
    exact ⟨fun listed => listed.2.2.2.2, fun unwrapped => ⟨existing, wrapped, isClass, named,
      unwrapped⟩⟩
  constructor
  · intro superclass named
    rw [warned superclass named, Hierarchy.classArguments, Hierarchy.wrappedBase?, named]
    cases baseWrapped : hierarchy.isWrapped superclass with
    | true => simp [Option.filter, baseWrapped]
    | false =>
        -- A class with a base has longer arguments than the class alone.
        have longer : hierarchy.qualifiedName id ≠
            hierarchy.qualifiedName id ++ ", " ++ hierarchy.qualifiedName superclass := by
          intro same
          have lengths := congrArg String.length same
          rw [String.length_append, String.length_append] at lengths
          have separator : (", " : String).length = 2 := rfl
          omega
        simpa [Option.filter, baseWrapped] using longer
  · intro all
    rw [Hierarchy.classArguments, Hierarchy.wrappedBase?]
    cases named : hierarchy.superclass id with
    | none => rfl
    | some superclass =>
        have unwrapped := (warned superclass named).mp (all superclass named)
        simp [Option.filter, unwrapped]

/-- A wrapped class is registered by the definition of a class. -/
theorem Complete.registers_class {library : Library} (wellFormed : library.WellFormed)
    {tree : BindingTree library.hierarchy} (complete : tree.Complete) {id : EntityId}
    (existing : id < library.hierarchy.size) (wrapped : library.hierarchy.isWrapped id = true)
    (isClass : library.hierarchy.kind id = .classType) :
    ∃ node < tree.size, (tree.node node).entity = id ∧ ∃ handle owner constant,
      (tree.node node).fragments.registrations =
        [(Statement.defineClass handle owner (library.hierarchy.classArguments id)
          constant).text] := by
  have notRootEntity : id ≠ Hierarchy.root := by
    rintro rfl
    rw [wellFormed.rootKind] at isClass
    cases isClass
  obtain ⟨node, small, rfl⟩ := complete.exists_node wellFormed.nested existing wrapped
  have notRoot : node ≠ root := by
    rintro rfl
    exact notRootEntity complete.rootEntity
  obtain ⟨scope, -, link⟩ := wellFormed.nested.parentBefore _ existing notRootEntity
  obtain ⟨handle, hasHandle⟩ : ∃ handle,
      library.hierarchy.handle? (tree.node node).entity = some handle := by
    simp only [Hierarchy.handle?, link, isClass]
    exact ⟨_, rfl⟩
  obtain ⟨owner, constant, statement⟩ : ∃ owner constant,
      library.hierarchy.statement? (tree.node node).entity =
        some (.defineClass handle owner (library.hierarchy.classArguments (tree.node node).entity)
          constant) := by
    rw [Hierarchy.statement?, isClass, hasHandle]
    exact ⟨_, _, rfl⟩
  have text := library.hierarchy.text_eq (tree.node node).entity
  rw [statement, Option.map_some, Option.getD_some] at text
  refine ⟨node, small, rfl, handle, owner, constant, ?_⟩
  rw [(complete.faithful node small).registrations, complete.kind_eq small notRoot, ← text, isClass]
  rfl

/-- What a node finds is the warning about its entity, if that is a class with such a superclass. -/
theorem Complete.findings_eq (complete : tree.Complete)
    (rootKind : hierarchy.kind Hierarchy.root ≠ .classType) {id : NodeId} (existing : id < tree.size) :
    (tree.node id).kind.findings hierarchy (tree.node id).entity =
      ((hierarchy.unwrappedLink? (tree.node id).entity).map fun link =>
        unwrappedBaseWarning hierarchy link.1 link.2).toList := by
  by_cases top : id = root
  · rw [top, complete.rootKind, complete.rootEntity, Hierarchy.unwrappedLink?, if_neg rootKind]
    rfl
  · rw [complete.kind_eq existing top, Hierarchy.unwrappedLink?]
    split
    · rename_i isClass
      rw [isClass, Option.map_map]
      simp only [DeclarationKind.nodeKind, NodeKind.findings]
      cases hierarchy.unwrappedBase? (tree.node id).entity <;> rfl
    · rename_i notClass
      cases kind : hierarchy.kind (tree.node id).entity with
      | classType => exact absurd kind notClass
      | namespaceScope | constructor | method | function | enumType => rfl

/-- In every library that comes about, a successful build of the root warns about exactly the wrapped
classes whose superclasses are not wrapped. -/
theorem warnings_are_exact {library : Library} (reachable : library.Reachable)
    {built : Workspace library.hierarchy}
    (performed : (build root).perform { tree := start library.hierarchy, session := .fresh } =
      (.ok (), built)) : WarnsExactly library.hierarchy built := by
  have wellFormed := reachable.wellFormed
  have nested := wellFormed.nested
  have descends := nested.descends
  have complete := complete_build descends performed
  have positive := complete.coherent.hasRoot
  have rootKind : library.hierarchy.kind Hierarchy.root ≠ .classType := by
    rw [wellFormed.rootKind]
    exact nofun
  have inOrder : (library.hierarchy.unwrappedLinks.map Prod.fst).Sublist
      (library.hierarchy.declarationOrder Hierarchy.root) := by
    rw [Hierarchy.map_fst_unwrappedLinks]
    exact List.filter_sublist
  refine ⟨descends.declarationOrder_eq, fun id superclass => nested.mem_unwrappedLinks,
    nested.nodup_declarationOrder.sublist inOrder, inOrder, ?_, hasErrors_of_build descends performed,
    ?_⟩
  · have entities := complete.entities_preorder descends positive
    rw [complete.rootEntity] at entities
    calc built.session.diagnostics
        = (built.tree.preorder root).flatMap fun id =>
            (built.tree.node id).kind.findings library.hierarchy (built.tree.node id).entity :=
          diagnostics_of_build descends performed
      _ = (built.tree.preorder root).flatMap fun id =>
            ((library.hierarchy.unwrappedLink? (built.tree.node id).entity).map fun link =>
              unwrappedBaseWarning library.hierarchy link.1 link.2).toList := by
          apply List.flatMap_congr
          exact fun id listed => complete.findings_eq rootKind
            (complete.coherent.mem_preorder_lt_size positive listed)
      _ = (library.hierarchy.declarationOrder Hierarchy.root).filterMap fun id =>
            (library.hierarchy.unwrappedLink? id).map fun link =>
              unwrappedBaseWarning library.hierarchy link.1 link.2 := by
          rw [← entities, List.filterMap_map, List.filterMap_eq_flatMap_toList]
          rfl
      _ = library.hierarchy.unwrappedLinks.map fun link =>
            unwrappedBaseWarning library.hierarchy link.1 link.2 := by
          rw [Hierarchy.unwrappedLinks, List.map_filterMap]
  · intro id existing wrapped isClass
    obtain ⟨node, small, entity, handle, owner, constant, registrations⟩ :=
      complete.registers_class wellFormed existing wrapped isClass
    exact ⟨node, small, entity, handle, owner, _, constant, registrations,
      namesBaseExactly_classArguments nested existing wrapped isClass⟩

/-- A library with a public class inside of a hidden scope, a class derived from it, and a class
derived from that one. -/
def hiddenBase : Library where
  hierarchy :=
    { entities :=
        [{ declaration := { kind := .namespaceScope, name := "lib" }
           parent := none
           children := [1, 3, 4]
           qualifiedName := "" },
         { declaration := { kind := .namespaceScope, name := "detail", ignored := true }
           parent := some Hierarchy.root
           children := [2]
           qualifiedName := "detail" },
         { declaration := { kind := .classType, name := "Base" }
           parent := some 1
           children := []
           qualifiedName := "detail::Base" },
         { declaration := { kind := .classType, name := "Middle", superclass := some 2 }
           parent := some Hierarchy.root
           children := []
           qualifiedName := "Middle" },
         { declaration := { kind := .classType, name := "Last", superclass := some 3 }
           parent := some Hierarchy.root
           children := []
           qualifiedName := "Last" }]
      headers := [] }
  index := ⟨[("detail", 1), ("detail::Base", 2), ("Middle", 3), ("Last", 4)]⟩

theorem warnings_are_exact_hiddenBase :
    hiddenBase.Reachable ∧ ∃ built,
      (build root).perform { tree := start hiddenBase.hierarchy, session := .fresh } =
        (.ok (), built) ∧ WarnsExactly hiddenBase.hierarchy built := by
  have described : Library.ofDescription
      { name := "lib"
        headers := []
        entities :=
          [{ kind := .namespaceScope
             name := "detail"
             ignored := true
             children :=
               [{ kind := .classType, name := "Base" }] },
            { kind := .classType, name := "Middle", superclassName := some "detail::Base" },
            { kind := .classType, name := "Last", superclassName := some "Middle" }] } = .ok hiddenBase := rfl
  have reachable := Library.Reachable.ofDescription described
  have performed : (build root).perform
      { tree := start hiddenBase.hierarchy, session := .fresh } =
        (.ok (), ((build root).perform
          { tree := start hiddenBase.hierarchy, session := .fresh }).2) := Prod.ext rfl rfl
  exact ⟨reachable, _, performed, warnings_are_exact reachable performed⟩

end BindingTree

end RubyBindings
