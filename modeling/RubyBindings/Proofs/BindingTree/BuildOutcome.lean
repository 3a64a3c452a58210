/-
Module: RubyBindings.Proofs.BindingTree.BuildOutcome
Purpose: How the build of a new tree ends, told from the hierarchy alone. It is refused exactly if
  some eligible entity is misplaced, for the first such entity that it meets; otherwise the tree has
  one node for each meeting, numbered in that order.
Main exports: BindingTree.KindsFit, BindingTree.kindsFit_build,
  BindingTree.Complete.nestings_preorder, BindingTree.BuiltInOrder, BindingTree.BuildOutcome,
  BindingTree.build_outcome
-/
import RubyBindings.Proofs.BindingTree.BuildRun
import RubyBindings.Proofs.BindingTree.Contents
import RubyBindings.Proofs.BindingTree.Growth
import RubyBindings.Proofs.Hierarchy.Placement

namespace RubyBindings.BindingTree

variable {hierarchy : Hierarchy} {tree : BindingTree hierarchy}

/-! ## Kinds of nodes, however a build ends -/

/-- Every node is of the kind that its entity becomes. -/
def KindsFit (tree : BindingTree hierarchy) : Prop :=
  ∀ id, (tree.node id).kind = hierarchy.nodeKindOf (tree.node id).entity

theorem kindsFit_start (hierarchy : Hierarchy) : (start hierarchy).KindsFit := by
  intro id
  cases id <;> rfl

namespace KindsFit

variable (fit : tree.KindsFit)
include fit

/-- Changes of what a node holds do not matter. -/
theorem update {change : BindingNode → BindingNode}
    (entity : ∀ node, (change node).entity = node.entity)
    (kind : ∀ node, (change node).kind = node.kind) (id : NodeId) :
    (tree.update id change).KindsFit := by
  intro other
  rw [read_update BindingNode.kind kind, read_update BindingNode.entity entity]
  exact fit other

theorem append {entity : EntityId} {kind : NodeKind} {parent : NodeId}
    (own : kind = hierarchy.nodeKindOf entity) :
    (tree.append (.fresh entity kind (some parent))).KindsFit := by
  intro other
  rcases Nat.lt_trichotomy other tree.size with old | rfl | missing
  · rw [node_append_of_lt old]
    exact fit other
  · rw [node_append_size]
    exact own
  · rw [node_of_size_le (by rw [size_append]; exact missing)]
    rfl

end KindsFit

/-- No step of a build makes a node of another kind. -/
theorem buildLaw_kindsFit (descends : hierarchy.Descends) :
    BuildLaw fun _ (workspace : Workspace hierarchy) ended =>
      workspace.tree.KindsFit → ended.2.tree.KindsFit := by
  have new : ∀ {parent : NodeId} {workspace : Workspace hierarchy} {scope entity : EntityId}
      {kind childKind : NodeKind}, entity ∈ hierarchy.children scope →
        kind.child? (hierarchy.kind entity) = some childKind → workspace.tree.KindsFit →
          (workspace.addNode entity childKind parent).tree.KindsFit := by
    intro parent workspace scope entity kind childKind inside supported fit
    apply fit.append
    rw [descends.nodeKindOf_child inside]
    exact NodeKind.eq_nodeKind_of_child? supported
  exact
    { idle := fun _ fit => fit
      contribute := fun below fit => below (fit.update (by intro _; rfl) (by intro _; rfl) _)
      finish := fun below fit => (below fit).update (by intro _; rfl) (by intro _; rfl) _
      leave := fun inside supported below fit => below (new inside supported fit)
      make := fun inside supported first rest fit =>
        rest ((first (new inside supported fit)).update (by intro _; rfl) (by intro _; rfl) _) }

/-- A build leaves nodes of fitting kinds behind, whether it succeeds or fails. -/
theorem kindsFit_build (descends : hierarchy.Descends) {workspace : Workspace hierarchy}
    (fit : workspace.tree.KindsFit) (id : NodeId) :
    ((build id).perform workspace).2.tree.KindsFit :=
  (buildLaw_kindsFit descends).build id workspace fit

/-! ## The numbering of a built tree -/

/-- The entity of a node, with the entity of its parent. -/
def nesting (tree : BindingTree hierarchy) (id : NodeId) : EntityId × EntityId :=
  ((tree.node ((tree.node id).parent.getD root)).entity, (tree.node id).entity)

namespace Complete

variable (complete : tree.Complete)
include complete

theorem nesting_child {parent child : NodeId} (member : child ∈ tree.children parent) :
    tree.nesting child = ((tree.node parent).entity, (tree.node child).entity) := by
  simp [nesting, (complete.coherent.childLink parent child member).2]

/-- In a complete tree, the nodes below one come in the order in which a build meets their
entities. -/
theorem nestings_preorder (descends : hierarchy.Descends) {id : NodeId} (existing : id < tree.size) :
    (tree.preorder id).tail.map tree.nesting = hierarchy.nestings (tree.node id).entity := by
  have coherent := complete.coherent
  induction id, existing using coherent.induction_on_children with
  | step id existing ih =>
      have entities : hierarchy.eligibleChildren (tree.node id).entity =
          (tree.children id).map fun child => (tree.node child).entity :=
        (complete.faithful id existing).entities.symm
      rw [coherent.preorder_eq existing, descends.nestings_eq, entities, List.tail_cons,
        List.map_flatMap, List.flatMap_map]
      apply List.flatMap_congr
      intro child member
      have small := (coherent.childLink id child member).1
      rw [← ih child member, ← complete.nesting_child member, coherent.preorder_eq small]
      rfl

/-- The node above another one takes it as the kind that it is of. -/
theorem child?_kind {id parent : NodeId} (existing : id < tree.size)
    (link : (tree.node id).parent = some parent) :
    (tree.node parent).kind.child? (hierarchy.kind (tree.node id).entity) =
      some (tree.node id).kind := by
  have coherent := complete.coherent
  have notRoot : id ≠ root := by
    rintro rfl
    cases link.symm.trans coherent.rootParent
  obtain ⟨above, member⟩ := complete.exists_parent existing notRoot
  cases link.symm.trans (coherent.childLink above id member).2
  exact (complete.faithful parent (lt_size_of_mem_children member)).kinds id member

end Complete

/-- A tree with one node for each meeting of an eligible entity. -/
structure BuiltInOrder (tree : BindingTree hierarchy) : Prop where
  rootEntity : (tree.node root).entity = Hierarchy.root
  rootKind : (tree.node root).kind = .extension
  size : tree.size = (hierarchy.nestings Hierarchy.root).length + 1
  /-- Behind the root, nodes are numbered in the order in which their entities are met. -/
  numbered : ∀ position scope entity,
    (hierarchy.nestings Hierarchy.root)[position]? = some (scope, entity) →
      (tree.node (position + 1)).entity = entity ∧
        ∃ parent, (tree.node (position + 1)).parent = some parent ∧
          (tree.node parent).entity = scope
  preorder : tree.preorder root = List.range tree.size
  kind : ∀ id parent, id < tree.size → (tree.node id).parent = some parent →
    (tree.node parent).kind.child? (hierarchy.kind (tree.node id).entity) =
      some (tree.node id).kind
  stage : ∀ id < tree.size, (tree.node id).stage = .built
  children : ∀ id < tree.size, (tree.children id).map (fun child => (tree.node child).entity) =
    hierarchy.eligibleChildren (tree.node id).entity

theorem Complete.builtInOrder (complete : tree.Complete) (descends : hierarchy.Descends)
    (ordered : tree.preorder root = List.range tree.size) : tree.BuiltInOrder := by
  have coherent := complete.coherent
  have listed : (List.range' 1 (tree.size - 1)).map tree.nesting =
      hierarchy.nestings Hierarchy.root := by
    rw [← complete.rootEntity, ← complete.nestings_preorder descends coherent.hasRoot, ordered,
      List.range_eq_range', List.tail_range']
  exact
    { rootEntity := complete.rootEntity
      rootKind := complete.rootKind
      size := by
        have positive : 0 < tree.size := coherent.hasRoot
        simp only [← listed, List.length_map, List.length_range']
        omega
      numbered := by
        intro position scope entity found
        simp only [← listed, List.getElem?_map, Option.map_eq_some_iff,
          List.getElem?_eq_some_iff, List.getElem_range', List.length_range'] at found
        obtain ⟨id, ⟨bound, rfl⟩, meeting⟩ := found
        have existing : position + 1 < tree.size := Nat.add_lt_of_lt_sub bound
        obtain ⟨parent, -, link⟩ :=
          coherent.parentBefore (position + 1) existing (Nat.succ_ne_zero position)
        rw [Nat.one_mul, Nat.add_comm, nesting, link] at meeting
        cases meeting
        exact ⟨rfl, parent, link, rfl⟩
      preorder := ordered
      kind := fun id parent => complete.child?_kind
      stage := fun id existing => (complete.faithful id existing).stage
      children := fun id existing => (complete.faithful id existing).entities }

/-! ## How a build ends -/

/-- What is said about the end of the build of a new tree. -/
structure BuildOutcome (hierarchy : Hierarchy)
    (ended : Except GenerationError Unit × Workspace hierarchy) : Prop where
  /-- Entities are met scopes first, children in the order of the hierarchy. -/
  order : ∀ id, hierarchy.nestings id = (hierarchy.eligibleChildren id).flatMap fun child =>
    (id, child) :: hierarchy.nestings child
  /-- Behind the root, this is the order of the declarations. -/
  declared : Hierarchy.root :: (hierarchy.nestings Hierarchy.root).map Prod.snd =
    hierarchy.declarationOrder Hierarchy.root
  met : ∀ scope entity, (scope, entity) ∈ hierarchy.nestings Hierarchy.root ↔
    hierarchy.Leads Hierarchy.root scope ∧ entity ∈ hierarchy.eligibleChildren scope
  refused : (∃ error, ended.1 = .error error) ↔ ∃ scope entity,
    hierarchy.Leads Hierarchy.root scope ∧ entity ∈ hierarchy.eligibleChildren scope ∧
      hierarchy.IsMisplaced scope entity
  /-- The error is about the first misplaced entity that is met. -/
  first : ∀ before scope entity later,
    hierarchy.nestings Hierarchy.root = before ++ (scope, entity) :: later →
      (∀ nesting ∈ before, ¬hierarchy.IsMisplaced nesting.1 nesting.2) →
        hierarchy.IsMisplaced scope entity →
          ended.1 = .error (.unsupportedEntity (hierarchy.kind entity)
            (hierarchy.qualifiedName entity) (hierarchy.nodeKindOf scope))
  kinds : ended.2.tree.KindsFit
  success : ended.1 = .ok () → ended.2.tree.BuiltInOrder

/-- What a build of a new tree is refused for is the first misplaced entity. -/
theorem result_build_start (descends : hierarchy.Descends) (session : Session) :
    ((build root).perform { tree := start hierarchy, session }).1 =
      refusal ((hierarchy.nestings Hierarchy.root).findSome? hierarchy.placementFault?) := by
  rw [← descends.firstUnsupported?_eq_findSome?]
  exact result_build { tree := start hierarchy, session } rfl

theorem exists_error_iff {error : Option GenerationError} :
    (∃ found, refusal error = .error found) ↔ error ≠ none := by
  simp [refusal_eq_error, Option.ne_none_iff_exists']

/-- The hierarchy decides how the build of a new tree ends. The session has no say in it. -/
theorem build_outcome (descends : hierarchy.Descends) (session : Session) :
    BuildOutcome hierarchy ((build root).perform { tree := start hierarchy, session }) where
  order := descends.nestings_eq
  declared := descends.cons_map_snd_nestings Hierarchy.root
  met := fun _ _ => descends.mem_nestings
  refused := by
    rw [result_build_start descends, exists_error_iff, Ne, List.findSome?_eq_none_iff]
    simp only [Prod.forall, Hierarchy.placementFault?_eq_none, descends.mem_nestings, not_forall,
      not_not, exists_prop, and_assoc]
  first := by
    intro before scope entity later split fine misplaced
    have passed : before.findSome? hierarchy.placementFault? = none :=
      List.findSome?_eq_none_iff.mpr fun nesting member =>
        Hierarchy.placementFault?_eq_none.mpr (fine nesting member)
    rw [result_build_start descends, split, List.findSome?_append, passed, Option.none_or,
      List.findSome?_cons, Hierarchy.placementFault?_of_misplaced misplaced]
    rfl
  kinds := kindsFit_build descends (kindsFit_start hierarchy) root
  success := by
    intro succeeded
    rcases performed : (build root).perform { tree := start hierarchy, session } with ⟨result, built⟩
    rw [performed] at succeeded
    cases succeeded
    exact (complete_build descends performed).builtInOrder descends
      (preorder_root_of_build descends performed)

/-- A function inside a class, behind a method inside a namespace that is left out. -/
def strayFunction : Hierarchy where
  entities :=
    [{ declaration := { kind := .namespaceScope, name := "lib" }
       parent := none
       children := [1, 3]
       qualifiedName := "" },
     { declaration := { kind := .namespaceScope, name := "detail", ignored := true }
       parent := some Hierarchy.root
       children := [2]
       qualifiedName := "detail" },
     { declaration := { kind := .method, name := "stray" }
       parent := some 1
       children := []
       qualifiedName := "detail::stray" },
     { declaration := { kind := .classType, name := "Shape" }
       parent := some Hierarchy.root
       children := [4, 5]
       qualifiedName := "Shape" },
     { declaration := { kind := .enumType, name := "Color" }
       parent := some 3
       children := []
       qualifiedName := "Shape::Color" },
     { declaration := { kind := .function, name := "area" }
       parent := some 3
       children := []
       qualifiedName := "Shape::area" }]
  headers := []

/-- A namespace with a class inside, listed twice. -/
def listedTwice : Hierarchy where
  entities :=
    [{ declaration := { kind := .namespaceScope, name := "lib" }
       parent := none
       children := [1, 1]
       qualifiedName := "" },
     { declaration := { kind := .namespaceScope, name := "geo" }
       parent := some Hierarchy.root
       children := [2]
       qualifiedName := "geo" },
     { declaration := { kind := .classType, name := "Shape" }
       parent := some 1
       children := []
       qualifiedName := "geo::Shape" }]
  headers := []

/-- The method is never met, so the build is refused for the function. What is listed twice gets two
nodes, and so does what is inside. -/
theorem build_outcome_strayFunction :
    strayFunction.Descends ∧
      ((build root).perform { tree := start strayFunction, session := .fresh }).1 =
        .error (.unsupportedEntity .function "Shape::area" .classType) ∧
      listedTwice.Descends ∧
      ((build root).perform { tree := start listedTwice, session := .fresh }).2.tree.size = 5 := by
  have strayDescends : strayFunction.Descends := by decide
  have twiceDescends : listedTwice.Descends := by decide
  have misplaced : strayFunction.IsMisplaced 3 5 := by decide
  have split : strayFunction.nestings Hierarchy.root = [(0, 3), (3, 4)] ++ (3, 5) :: [] := by decide
  have succeeded : ((build root).perform { tree := start listedTwice, session := .fresh }).1 =
      .ok () := rfl
  refine ⟨strayDescends, ?_, twiceDescends, ?_⟩
  · exact (build_outcome strayDescends .fresh).first _ 3 5 [] split (by decide) misplaced
  · exact ((build_outcome twiceDescends .fresh).success succeeded).size

end RubyBindings.BindingTree
