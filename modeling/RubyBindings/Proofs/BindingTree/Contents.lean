/-
Module: RubyBindings.Proofs.BindingTree.Contents
Purpose: What the root of a tree holds in the end. Building makes the nodes, sorting orders them,
  and processing moves their fragments; together these come to one recursion over the hierarchy.
Main exports: BindingTree.Complete.kind_eq, BindingTree.InOrder, BindingTree.InOrder.entities,
  BindingTree.root_holds_collection
-/
import RubyBindings.Proofs.BindingTree.Calls
import RubyBindings.Proofs.Hierarchy.Collection

namespace RubyBindings.BindingTree

variable {hierarchy : Hierarchy} {tree : BindingTree hierarchy}

/-! ## The nodes of a complete tree -/

namespace Complete

variable (complete : tree.Complete)
include complete

theorem exists_parent {id : NodeId} (existing : id < tree.size) (notRoot : id ≠ root) :
    ∃ parent, id ∈ tree.children parent := by
  have encloses := complete.reached id existing
  rcases Relation.ReflTransGen.cases_tail encloses with top | ⟨parent, _, link⟩
  · exact absurd top notRoot
  · exact ⟨parent, link⟩

/-- Every node but the root stands for an entity nested in the entity of its parent. -/
theorem entity_mem {parent child : NodeId} (member : child ∈ tree.children parent) :
    (tree.node child).entity ∈ hierarchy.children (tree.node parent).entity ∧
      hierarchy.isEligible (tree.node child).entity = true := by
  have faithful := complete.faithful parent (lt_size_of_mem_children member)
  have listed : (tree.node child).entity ∈
      (tree.children parent).map fun child => (tree.node child).entity :=
    List.mem_map_of_mem member
  rw [faithful.entities] at listed
  exact List.mem_filter.mp listed

/-- The entity of a node decides on its kind. -/
theorem kind_eq {id : NodeId} (existing : id < tree.size) (notRoot : id ≠ root) :
    (tree.node id).kind = (hierarchy.kind (tree.node id).entity).nodeKind := by
  obtain ⟨parent, member⟩ := complete.exists_parent existing notRoot
  have faithful := complete.faithful parent (lt_size_of_mem_children member)
  exact NodeKind.eq_nodeKind_of_child? (faithful.kinds id member)

theorem entity_ne_root (descends : hierarchy.Descends) {id : NodeId} (existing : id < tree.size)
    (notRoot : id ≠ root) : (tree.node id).entity ≠ Hierarchy.root := by
  obtain ⟨parent, member⟩ := complete.exists_parent existing notRoot
  have larger := (descends.lt_of_mem_children (complete.entity_mem member).1).1
  exact Nat.ne_of_gt (Nat.lt_of_le_of_lt (Nat.zero_le _) larger)

/-- The rank of a node below the root is the key of its entity. -/
theorem rankOf_eq {id : NodeId} (existing : id < tree.size) (notRoot : id ≠ root) :
    tree.rankOf id = hierarchy.sortKey (tree.node id).entity := by
  rw [rankOf, Hierarchy.sortKey]
  simp only [complete.kind_eq existing notRoot, DeclarationKind.nodeKind_eq_classType]

/-- What a node declares and registers is the share of its entity. -/
theorem fragments_eq (descends : hierarchy.Descends) {id : NodeId} (existing : id < tree.size) :
    (tree.node id).fragments.declarations =
        hierarchy.ownDeclarations (tree.node id).entity ∧
      (tree.node id).fragments.registrations =
        hierarchy.ownRegistrations (tree.node id).entity := by
  have faithful := complete.faithful id existing
  rw [faithful.declarations, faithful.registrations, Hierarchy.ownDeclarations,
    Hierarchy.ownRegistrations]
  by_cases top : id = root
  · rw [top, complete.rootKind, complete.rootEntity]
    exact ⟨rfl, rfl⟩
  · have notRoot := complete.entity_ne_root descends existing top
    rw [if_neg notRoot, if_neg notRoot, complete.kind_eq existing top]
    cases hierarchy.kind (tree.node id).entity <;> exact ⟨rfl, rfl⟩

/-- What the entity of a node below the root registers is the text that the node emits. -/
theorem emit_eq (descends : hierarchy.Descends) {id : NodeId} (existing : id < tree.size)
    (notRoot : id ≠ root) :
    ∃ text, tree.emit id = .ok text ∧
      hierarchy.ownRegistrations (tree.node id).entity = [text] := by
  have allowed : tree.requireStage .emit [.built, .sorted, .processed] .built id = .ok () :=
    requireStage_eq_ok.mpr (by rw [(complete.faithful id existing).stage]; decide)
  refine ⟨(tree.node id).kind.text hierarchy (tree.node id).entity, ?_, ?_⟩
  · rw [emit, allowed]
    rfl
  · rw [Hierarchy.ownRegistrations, if_neg (complete.entity_ne_root descends existing notRoot),
      complete.kind_eq existing notRoot]

end Complete

/-! ## The nodes in order -/

/-- A complete tree in which every node has its children in stable order of their ranks. -/
structure InOrder (built sorted : BindingTree hierarchy) : Prop where
  complete : built.Complete
  size : sorted.size = built.size
  node : ∀ id < built.size, sorted.node id = built.sortedNode id

theorem FullySorted.inOrder {built sorted : BindingTree hierarchy}
    (full : FullySorted built sorted [root]) (complete : built.Complete) :
    InOrder built sorted where
  complete := complete
  size := full.size
  node := fun id existing =>
    full.inside root (List.mem_singleton.mpr rfl) id (complete.reached id existing)

namespace InOrder

variable {built sorted : BindingTree hierarchy} (inOrder : InOrder built sorted)
include inOrder

theorem forest : SameForest built sorted where
  size := inOrder.size
  parent := by
    intro id
    by_cases existing : id < built.size
    · rw [inOrder.node id existing, sortedNode]
    · have missing := Nat.le_of_not_lt existing
      rw [node_of_size_le missing, node_of_size_le (inOrder.size ▸ missing)]
  children := by
    intro id
    by_cases existing : id < built.size
    · rw [children, inOrder.node id existing]
      exact stablyOrdered_perm built.rankOf (built.children id)
    · have missing := Nat.le_of_not_lt existing
      rw [children_of_size_le missing, children_of_size_le (inOrder.size ▸ missing)]

theorem coherent : sorted.Coherent :=
  inOrder.forest.coherent inOrder.complete.coherent

/-- The children of a node stand for the ordered children of its entity. -/
theorem children_entities {id : NodeId} (existing : id < built.size) :
    (sorted.children id).map (fun child => (built.node child).entity) =
      hierarchy.orderedChildren (built.node id).entity := by
  have coherent := inOrder.complete.coherent
  rw [children, inOrder.node id existing, sortedNode, Hierarchy.orderedChildren,
    ← (inOrder.complete.faithful id existing).entities]
  apply map_stablyOrdered
  intro child member
  exact inOrder.complete.rankOf_eq (coherent.childLink id child member).1
    (coherent.ne_root_of_mem_children member)

/-- A subtree in recursive order stands for the entities in the order of their registration. -/
theorem entities (descends : hierarchy.Descends) {id : NodeId} (existing : id < sorted.size) :
    (sorted.preorder id).map (fun below => (built.node below).entity) =
      hierarchy.registrationOrder (built.node id).entity := by
  induction id, existing using inOrder.coherent.induction_on_children with
  | step id existing ih =>
      rw [inOrder.coherent.preorder_eq existing, List.map_cons, List.map_flatMap,
        Hierarchy.registrationOrder, Hierarchy.collect_eq descends,
        ← inOrder.children_entities (inOrder.size ▸ existing), List.flatMap_map,
        List.singleton_append]
      congr 1
      apply List.flatMap_congr
      exact fun child member => ih child member

/-- A subtree gathers what the hierarchy comes to below its entity. -/
theorem gathered (descends : hierarchy.Descends) {id : NodeId} (existing : id < sorted.size) :
    (sorted.gathered id).declarations =
        hierarchy.collect hierarchy.ownDeclarations (built.node id).entity ∧
      (sorted.gathered id).registrations =
        hierarchy.collect hierarchy.ownRegistrations (built.node id).entity := by
  have own : ∀ below ∈ sorted.preorder id,
      (sorted.node below).fragments.declarations =
          hierarchy.ownDeclarations (built.node below).entity ∧
        (sorted.node below).fragments.registrations =
          hierarchy.ownRegistrations (built.node below).entity := by
    intro below listed
    have small : below < built.size :=
      inOrder.size ▸ inOrder.coherent.mem_preorder_lt_size existing listed
    rw [inOrder.node below small]
    exact inOrder.complete.fragments_eq descends small
  simp only [Hierarchy.collect_eq_flatMap, ← inOrder.entities descends existing,
    BindingTree.gathered, Fragments.concat, List.flatMap_map]
  constructor
  · apply List.flatMap_congr
    exact fun below listed => (own below listed).1
  · apply List.flatMap_congr
    exact fun below listed => (own below listed).2

end InOrder

/-! ## From the start to the processed root -/

/-- The three passes over a new tree, all of them successful: build, sort and process. -/
structure Passes (session : Session) (built : Workspace hierarchy)
    (sorted processed : BindingTree hierarchy) : Prop where
  build : (build root).perform { tree := start hierarchy, session } = (.ok (), built)
  sort : (sort root).perform built.tree = (.ok (), sorted)
  process : (process root).perform sorted = (.ok (), processed)

namespace Passes

variable {session : Session} {built : Workspace hierarchy}
  {sorted processed : BindingTree hierarchy}

theorem complete (passes : Passes session built sorted processed) (descends : hierarchy.Descends) :
    built.tree.Complete :=
  complete_build descends passes.build

theorem fullySorted (passes : Passes session built sorted processed)
    (descends : hierarchy.Descends) : FullySorted built.tree sorted [root] := by
  have coherent := (passes.complete descends).coherent
  have effect := sortEffect_sort coherent coherent.hasRoot
  rw [passes.sort] at effect
  exact effect.fully rfl

theorem inOrder (passes : Passes session built sorted processed) (descends : hierarchy.Descends) :
    InOrder built.tree sorted :=
  (passes.fullySorted descends).inOrder (passes.complete descends)

/-- Every class below the root has an inheritance depth; otherwise the sort had failed. -/
theorem exists_depth (passes : Passes session built sorted processed)
    (descends : hierarchy.Descends) {id : NodeId} (existing : id < built.tree.size)
    (notRoot : id ≠ root) (isClass : (built.tree.node id).kind = .classType) :
    ∃ depth, hierarchy.inheritanceDepth? (built.tree.node id).entity = some depth := by
  have complete := passes.complete descends
  obtain ⟨parent, member⟩ := complete.exists_parent existing notRoot
  have ranked := (passes.fullySorted descends).ranked root (List.mem_singleton.mpr rfl) parent
    (complete.reached parent (lt_size_of_mem_children member)) id member
  simp only [rank, isClass, if_true] at ranked
  split at ranked
  · rename_i depth found
    exact ⟨depth, found⟩
  · cases ranked

theorem handedUp (passes : Passes session built sorted processed) (descends : hierarchy.Descends) :
    HandedUp sorted processed root := by
  have coherent := (passes.inOrder descends).coherent
  have performed := passes.process
  rw [perform_process] at performed
  cases allowed : sorted.requireSorted root with
  | error error =>
      rw [allowed] at performed
      cases performed
  | ok passed =>
      rw [allowed] at performed
      cases performed
      exact handedUp_aggregate coherent coherent.hasRoot

/-- In the end the root is processed and holds what its whole tree gathers. -/
theorem node_root (passes : Passes session built sorted processed) (descends : hierarchy.Descends) :
    processed.node root =
      { sorted.node root with stage := .processed, fragments := sorted.gathered root } := by
  have coherent := (passes.inOrder descends).coherent
  exact ((passes.handedUp descends).fragmentsMoved coherent coherent.hasRoot).root rfl

/-- In the end the root declares and registers what the whole hierarchy comes to. -/
theorem fragments_root (passes : Passes session built sorted processed)
    (descends : hierarchy.Descends) :
    (processed.node root).fragments.declarations =
        hierarchy.collect hierarchy.ownDeclarations Hierarchy.root ∧
      (processed.node root).fragments.registrations =
        hierarchy.collect hierarchy.ownRegistrations Hierarchy.root := by
  have inOrder := passes.inOrder descends
  have gathered := inOrder.gathered descends inOrder.coherent.hasRoot
  rw [inOrder.complete.rootEntity] at gathered
  rw [passes.node_root descends]
  exact gathered

/-- What a layout gets to see: the root's own text, and what the root holds after processing. -/
theorem perform_render (passes : Passes session built sorted processed)
    (descends : hierarchy.Descends) (layout : UnitLayout)
    (named : sorted.requireUnitName = .ok ()) :
    (render layout).perform sorted =
      (.ok
        { name := sorted.unitName
          content := layout.render sorted.unitName hierarchy.extensionText
            (processed.node root).fragments },
        processed) := by
  have inOrder := passes.inOrder descends
  have isProcessed : (processed.node root).stage = .processed := by
    rw [passes.node_root descends]
  have isExtension : (processed.node root).kind = .extension := by
    rw [passes.node_root descends, inOrder.node root inOrder.complete.coherent.hasRoot]
    exact inOrder.complete.rootKind
  have emitted : processed.emit root = .ok hierarchy.extensionText := by
    have allowed : processed.requireStage .emit [.built, .sorted, .processed] .built root =
        .ok () := requireStage_eq_ok.mpr (by rw [isProcessed]; decide)
    rw [emit, allowed, isExtension]
    rfl
  simp only [render, Attempt.perform_bind, Attempt.perform_get, Attempt.perform_ofExcept, named,
    passes.process, emitted]
  rfl

end Passes

/-- The root holds what one recursion over the hierarchy comes to: the share of an entity, and then
what each eligible child comes to, in stable order of inheritance depths. Each node below the root
registers its own text, each overloaded method or function has one typedef, and the layout of the
unit gets just that. -/
structure HoldsCollection (built sorted processed : BindingTree hierarchy) : Prop where
  recursion : ∀ (own : EntityId → List String) (id : EntityId), hierarchy.collect own id =
    own id ++ (hierarchy.orderedChildren id).flatMap (hierarchy.collect own)
  texts : ∀ id < built.size, id ≠ root → ∃ text, built.emit id = .ok text ∧
    hierarchy.ownRegistrations (built.node id).entity = [text]
  typedefs : ∀ id, (hierarchy.ownDeclarations id).length =
    if id ≠ Hierarchy.root ∧ hierarchy.isCallable id = true ∧ 1 < (hierarchy.overload id).count
    then 1 else 0
  declarations : (processed.node root).fragments.declarations =
    hierarchy.collect hierarchy.ownDeclarations Hierarchy.root
  registrations : (processed.node root).fragments.registrations =
    hierarchy.collect hierarchy.ownRegistrations Hierarchy.root
  layout : ∀ layout : UnitLayout, sorted.requireUnitName = .ok () →
    (render layout).perform sorted =
      (.ok
        { name := sorted.unitName
          content := layout.render sorted.unitName hierarchy.extensionText
            (processed.node root).fragments },
        processed)

/-- Build, sort and process bring to the root what the recursion over the hierarchy comes to. -/
theorem root_holds_collection (descends : hierarchy.Descends) {session : Session}
    {built : Workspace hierarchy} {sorted processed : BindingTree hierarchy}
    (passes : Passes session built sorted processed) :
    HoldsCollection built.tree sorted processed := by
  have inOrder := passes.inOrder descends
  have gathered := inOrder.gathered descends inOrder.coherent.hasRoot
  rw [inOrder.complete.rootEntity] at gathered
  have holds : (processed.node root).fragments = sorted.gathered root := by
    rw [passes.node_root descends]
  constructor
  · exact Hierarchy.collect_eq descends
  · exact fun _ existing notRoot => inOrder.complete.emit_eq descends existing notRoot
  · exact Hierarchy.length_ownDeclarations
  · rw [holds, gathered.1]
  · rw [holds, gathered.2]
  · exact passes.perform_render descends

/-- The base comes before the class that is derived from it, and both overloads have a type. -/
theorem root_holds_collection_overloadedArea :
    overloadedArea.Descends ∧ ∃ built processed, Passes .fresh built overloadedAreaSorted processed ∧
      HoldsCollection built.tree overloadedAreaSorted processed ∧
      overloadedAreaSorted.preorder root = [0, 1, 3, 4, 5, 2] ∧
      (processed.node root).fragments.declarations =
        ["typedef void (*geo_area_0_type)(int);", "typedef void (*geo_area_1_type)(double);"] := by
  have descends : overloadedArea.Descends := by decide
  have passes : Passes .fresh
      ((build root).perform { tree := start overloadedArea, session := .fresh }).2
      overloadedAreaSorted ((process root).perform overloadedAreaSorted).2 :=
    ⟨Prod.ext rfl rfl, Prod.ext rfl rfl, Prod.ext rfl rfl⟩
  exact ⟨descends, _, _, passes, root_holds_collection descends passes, by decide, rfl⟩

end RubyBindings.BindingTree
