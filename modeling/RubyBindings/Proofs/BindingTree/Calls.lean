/-
Module: RubyBindings.Proofs.BindingTree.Calls
Purpose: Runs of calls on one tree. Building, sorting, emitting, processing, rendering and writing
  may come in any order and may fail; whatever they have done, the links of the tree fit together,
  and so a subtree hands its fragments up whole or not at all.
Main exports: TreeCall, BindingTree.Reachable, BindingTree.Reachable.coherent,
  BindingTree.FragmentsMoved, BindingTree.process_moves_fragments
-/
import RubyBindings.Output.Emission
import RubyBindings.Proofs.BindingTree.Aggregation
import RubyBindings.Proofs.BindingTree.Building
import RubyBindings.Proofs.BindingTree.Sorting

namespace RubyBindings

variable {hierarchy : Hierarchy}

namespace BindingTree

/-! ## Processing, rendering and writing -/

/-- Processing looks at the whole subtree first, and then moves its fragments. -/
theorem perform_process (id : NodeId) (tree : BindingTree hierarchy) :
    (process id).perform tree =
      match tree.requireSorted id with
      | .error error => (.error error, tree)
      | .ok () => (.ok (), tree.aggregate id) := by
  simp only [process, Attempt.perform_bind, Attempt.perform_get, Attempt.perform_ofExcept,
    Attempt.perform_modify]
  cases tree.requireSorted id <;> rfl

/-- Rendering changes a tree only by processing its root. -/
theorem tree_render (layout : UnitLayout) (tree : BindingTree hierarchy) :
    ((render layout).perform tree).2 = tree ∨
      ((render layout).perform tree).2 = ((process root).perform tree).2 := by
  simp only [render, Attempt.perform_bind, Attempt.perform_get, Attempt.perform_ofExcept,
    Attempt.perform_pure]
  cases tree.requireUnitName with
  | error error => exact Or.inl rfl
  | ok named =>
      dsimp only
      rcases (process root).perform tree with ⟨error | done, after⟩
      · exact Or.inr rfl
      · dsimp only
        cases after.emit root <;> exact Or.inr rfl

/-- A unit is rendered only under a usable name, and once the root is processed. -/
theorem process_of_render {layout : UnitLayout} {tree after : BindingTree hierarchy}
    {unit : SourceUnit} (rendered : (render layout).perform tree = (.ok unit, after)) :
    tree.requireUnitName = .ok () ∧ (process root).perform tree = (.ok (), after) := by
  simp only [render, Attempt.perform_bind, Attempt.perform_get, Attempt.perform_ofExcept,
    Attempt.perform_pure] at rendered
  cases named : tree.requireUnitName with
  | error error =>
      rw [named] at rendered
      cases rendered
  | ok passed =>
      refine ⟨rfl, ?_⟩
      rw [named] at rendered
      dsimp only at rendered
      rcases performed : (process root).perform tree with ⟨error | done, middle⟩
      · rw [performed] at rendered
        cases rendered
      · rw [performed] at rendered
        dsimp only at rendered
        cases emitted : middle.emit root with
        | error error =>
            rw [emitted] at rendered
            cases rendered
        | ok text =>
            rw [emitted] at rendered
            cases rendered
            rfl

/-- Writing changes a tree only by rendering it; the sink never sees the tree. -/
theorem tree_write {σ : Type} (layout : UnitLayout) (sink : UnitSink σ)
    (tree : BindingTree hierarchy) (world : σ) :
    ((write layout sink).perform (tree, world)).2.1 = ((render layout).perform tree).2 := by
  simp only [write, Attempt.perform_bind, Attempt.perform_get, Attempt.perform_mapError,
    Attempt.perform_within, Attempt.perform_pure]
  rcases (render layout).perform tree with ⟨error | unit, after⟩
  · rfl
  · dsimp only [Except.mapError]
    rcases (sink unit).perform world with ⟨error | done, later⟩ <;> rfl

/-! ## Runs of calls -/

end BindingTree

/-- A call on a tree, with all that the caller brings along: the session of a build, the layout of a
unit, and the sink for it with the world that the sink works on. -/
inductive TreeCall where
  | build (id : NodeId) (session : Session)
  | sort (id : NodeId)
  | emit (id : NodeId)
  | process (id : NodeId)
  | render (layout : UnitLayout)
  | write (σ : Type) (layout : UnitLayout) (sink : UnitSink σ) (world : σ)

namespace TreeCall

/-- The node that a call names is one of the tree. -/
def NamesNodeOf (tree : BindingTree hierarchy) : TreeCall → Prop
  | .build id _ | .sort id | .emit id | .process id => id < tree.size
  | .render _ | .write .. => True

instance (tree : BindingTree hierarchy) (call : TreeCall) : Decidable (call.NamesNodeOf tree) :=
  match call with
  | .build id _ | .sort id | .emit id | .process id => inferInstanceAs (Decidable (id < tree.size))
  | .render _ | .write .. => .isTrue trivial

/-- The tree after a call, whether it succeeds or fails. -/
def after (tree : BindingTree hierarchy) : TreeCall → BindingTree hierarchy
  | .build id session => ((BindingTree.build id).perform { tree, session }).2.tree
  | .sort id => ((BindingTree.sort id).perform tree).2
  | .emit _ => tree
  | .process id => ((BindingTree.process id).perform tree).2
  | .render layout => ((BindingTree.render layout).perform tree).2
  | .write _ layout sink world => ((BindingTree.write layout sink).perform (tree, world)).2.1

end TreeCall

namespace BindingTree

variable {tree : BindingTree hierarchy}

/-- The trees that calls on existing nodes lead to, failed calls included. -/
inductive Reachable : BindingTree hierarchy → Prop
  | start : Reachable (start hierarchy)
  | call {tree : BindingTree hierarchy} (reachable : Reachable tree) (call : TreeCall)
      (named : call.NamesNodeOf tree) : Reachable (call.after tree)

theorem Coherent.process (coherent : tree.Coherent) {id : NodeId} (existing : id < tree.size) :
    ((process id).perform tree).2.Coherent := by
  rw [perform_process]
  cases tree.requireSorted id with
  | error error => exact coherent
  | ok passed => exact (handedUp_aggregate coherent existing).forest.coherent coherent

theorem Coherent.render (coherent : tree.Coherent) (layout : UnitLayout) :
    ((render layout).perform tree).2.Coherent := by
  rcases tree_render layout tree with same | processed
  · rw [same]
    exact coherent
  · rw [processed]
    exact coherent.process coherent.hasRoot

/-- One call keeps the links of a tree in shape. -/
theorem Coherent.call (coherent : tree.Coherent) (call : TreeCall) (named : call.NamesNodeOf tree) :
    (call.after tree).Coherent := by
  cases call with
  | build id session =>
      have extended := @extended_build hierarchy { tree, session } coherent id named
      exact extended.coherent
  | sort id => exact (sortEffect_sort coherent named).partly.forest.coherent coherent
  | emit id => exact coherent
  | process id => exact coherent.process named
  | render layout => exact coherent.render layout
  | write σ layout sink world =>
      rw [TreeCall.after, tree_write]
      exact coherent.render layout

/-- Every tree that calls lead to has its links in shape. -/
theorem Reachable.coherent (reachable : tree.Reachable) : tree.Coherent := by
  induction reachable with
  | start => exact coherent_start hierarchy
  | call _ call named ih => exact ih.call call named

/-! ## What processing a node does -/

theorem requireStage_eq_ok {operation : TreeOperation} {allowed : List NodeStage}
    {expected : NodeStage} {id : NodeId} :
    tree.requireStage operation allowed expected id = .ok () ↔ (tree.node id).stage ∈ allowed := by
  simp only [requireStage]
  split <;> simp_all

/-- A subtree may be processed when each of its nodes is sorted and not processed yet. -/
theorem Coherent.requireSorted_eq_ok (coherent : tree.Coherent) {id : NodeId}
    (existing : id < tree.size) :
    tree.requireSorted id = .ok () ↔
      ∀ below, tree.Encloses id below → (tree.node below).stage = .sorted := by
  rw [requireSorted, coherent.descendants_eq_preorder existing, forM_eq_ok]
  simp only [requireStage_eq_ok, List.mem_singleton, coherent.mem_preorder existing]

/-- The fragments of a subtree have moved to the node above it, or to its top if that is the root.
Nothing is lost on the way, nothing is doubled, and the recursive order is kept. -/
structure FragmentsMoved (before after : BindingTree hierarchy) (id : NodeId) : Prop where
  size : after.size = before.size
  root : id = root → after.node id =
    { before.node id with stage := .processed, fragments := before.gathered id }
  receiver : ∀ parent, (before.node id).parent = some parent → after.node parent =
    { before.node parent with
      fragments := (before.node parent).fragments.append (before.gathered id) }
  inside : ∀ below, before.Encloses id below → below ≠ BindingTree.root → after.node below =
    { before.node below with stage := .processed, fragments := .empty }
  outside : ∀ other, ¬ before.Encloses id other → (before.node id).parent ≠ some other →
    after.node other = before.node other

/-- A subtree that has handed its fragments up has moved them. -/
theorem HandedUp.fragmentsMoved {before after : BindingTree hierarchy} {id : NodeId}
    (handed : HandedUp before after id) (coherent : before.Coherent)
    (existing : id < before.size) : FragmentsMoved before after id where
  size := handed.size
  root := by
    rintro rfl
    have listed : BindingTree.root ∈ before.preorder BindingTree.root :=
      (coherent.mem_preorder existing).mpr (.refl before _)
    rw [handed.node, aggregatedNode, if_pos listed, if_pos coherent.rootParent]
  receiver := by
    intro parent link
    have notListed : parent ∉ before.preorder id := fun listed =>
      Nat.not_le_of_lt (coherent.parent_lt existing link)
        (coherent.encloses_le ((coherent.mem_preorder existing).mp listed))
    rw [handed.node, aggregatedNode, if_neg notListed, if_pos link]
  inside := by
    intro below encloses notRoot
    have listed := (coherent.mem_preorder existing).mpr encloses
    have notTop := coherent.parent_ne_none (coherent.encloses_lt_size existing encloses) notRoot
    rw [handed.node, aggregatedNode, if_pos listed, if_neg notTop]
  outside := by
    intro other outside notParent
    have notListed : other ∉ before.preorder id := fun listed =>
      outside ((coherent.mem_preorder existing).mp listed)
    rw [handed.node, aggregatedNode, if_neg notListed, if_neg notParent]

/-- Processing a node of any tree that calls lead to succeeds exactly if its whole subtree is sorted
and not processed yet. Then all fragments of the subtree move up; otherwise nothing changes. -/
theorem process_moves_fragments (reachable : tree.Reachable) {id : NodeId}
    (existing : id < tree.size) :
    match (process id).perform tree with
    | (.ok (), after) =>
      (∀ below, tree.Encloses id below → (tree.node below).stage = .sorted) ∧
        FragmentsMoved tree after id
    | (.error _, after) =>
      (∃ below, tree.Encloses id below ∧ (tree.node below).stage ≠ .sorted) ∧ after = tree := by
  have coherent := reachable.coherent
  rw [perform_process]
  cases allowed : tree.requireSorted id with
  | error error =>
      refine ⟨?_, rfl⟩
      by_contra none
      have sorted : ∀ below, tree.Encloses id below → (tree.node below).stage = .sorted := by
        simpa using none
      rw [(coherent.requireSorted_eq_ok existing).mpr sorted] at allowed
      cases allowed
  | ok passed =>
      refine ⟨(coherent.requireSorted_eq_ok existing).mp allowed, ?_⟩
      exact (handedUp_aggregate coherent existing).fragmentsMoved coherent existing

/-- A namespace with a class, the class that it is derived from, and an overloaded function. -/
def overloadedArea : Hierarchy where
  entities :=
    [{ declaration := { kind := .namespaceScope, name := "shapes" }
       parent := none
       children := [1]
       qualifiedName := "" },
      { declaration := { kind := .namespaceScope, name := "geo" }
        parent := some Hierarchy.root
        children := [2, 3, 4, 5]
        qualifiedName := "geo" },
      { declaration := { kind := .classType, name := "Circle", superclass := some 3 }
        parent := some 1
        children := []
        qualifiedName := "geo::Circle" },
      { declaration := { kind := .classType, name := "Shape" }
        parent := some 1
        children := []
        qualifiedName := "geo::Shape" },
      { declaration := { kind := .function, name := "area", parameters := [⟨none, "int"⟩] }
        parent := some 1
        children := []
        qualifiedName := "geo::area" },
      { declaration := { kind := .function, name := "area", parameters := [⟨none, "double"⟩] }
        parent := some 1
        children := []
        qualifiedName := "geo::area" }]
  headers := []

/-- The tree of the overloaded function, built and sorted. -/
def overloadedAreaSorted : BindingTree overloadedArea :=
  (TreeCall.sort root).after ((TreeCall.build root .fresh).after (start overloadedArea))

/-- The text of the namespace, of its classes and of both functions moves to the root, the base in
front. -/
theorem process_moves_fragments_overloadedArea :
    overloadedAreaSorted.Reachable ∧ 1 < overloadedAreaSorted.size ∧
      overloadedAreaSorted.children 1 = [3, 4, 5, 2] ∧
      FragmentsMoved overloadedAreaSorted ((process 1).perform overloadedAreaSorted).2 1 ∧
      (((process 1).perform overloadedAreaSorted).2.node root).fragments.registrations.length = 5 := by
  have reachable : overloadedAreaSorted.Reachable :=
    .call (.call .start (.build root .fresh) (by decide)) (.sort root) (by decide)
  have existing : 1 < overloadedAreaSorted.size := by decide
  have moved := process_moves_fragments reachable existing
  have success : ((process 1).perform overloadedAreaSorted).1 = .ok () := rfl
  rcases performed : (process 1).perform overloadedAreaSorted with ⟨error | done, after⟩
  · rw [performed] at success
    cases success
  · rw [performed] at moved
    refine ⟨reachable, existing, rfl, moved.2, ?_⟩
    rw [← congrArg Prod.snd performed]
    rfl

end BindingTree

end RubyBindings
