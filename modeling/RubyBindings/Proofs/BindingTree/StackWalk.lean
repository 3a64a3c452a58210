/-
Module: RubyBindings.Proofs.BindingTree.StackWalk
Purpose: The subtree of a node, found with a stack and without recursion. In every tree that calls
  lead to, failed builds included, the stack runs empty after it has listed each node of the subtree
  once, in recursive order. Processing looks at these nodes, and marks these and no others.
Main exports: BindingTree.StackWalk, BindingTree.Coherent.stackWalk_iff,
  BindingTree.ListsSubtree, BindingTree.stack_walk_lists_subtree
-/
import RubyBindings.Proofs.BindingTree.Lifecycle
import RubyBindings.Proofs.BindingTree.SortedSubtree

namespace RubyBindings.BindingTree

variable {hierarchy : Hierarchy} {tree : BindingTree hierarchy} {id : NodeId}

/-! ## The stack -/

/-- A walk from a stack of waiting nodes to the end: the last node of the stack is taken and listed,
and its children are put on the stack in reverse, so that the first of them is taken next. The walk
ends when no node waits. -/
inductive StackWalk (tree : BindingTree hierarchy) : List NodeId → List NodeId → Prop
  | done : StackWalk tree [] []
  | visit {stack listed : List NodeId} (current : NodeId)
      (rest : StackWalk tree (stack ++ (tree.children current).reverse) listed) :
      StackWalk tree (stack ++ [current]) (current :: listed)

namespace Coherent

variable (coherent : tree.Coherent)
include coherent

/-- What a node and those below it on the stack stand for: the node, and then what its children
stand for in its place. -/
theorem flatMap_preorder_concat (stack : List NodeId) {current : NodeId}
    (existing : current < tree.size) :
    (stack ++ [current]).reverse.flatMap tree.preorder =
      current :: (stack ++ (tree.children current).reverse).reverse.flatMap tree.preorder := by
  simp [coherent.preorder_eq existing]

theorem existing_after_visit {stack : List NodeId} {current : NodeId}
    (existing : ∀ other ∈ stack ++ [current], other < tree.size) :
    ∀ other ∈ stack ++ (tree.children current).reverse, other < tree.size := by
  intro other member
  rcases List.mem_append.mp member with waiting | child
  · exact existing other (List.mem_append_left _ waiting)
  · exact (coherent.childLink current other (List.mem_reverse.mp child)).1

/-- A walk lists the subtrees of the waiting nodes, that of the last one first. -/
theorem eq_of_stackWalk {stack listed : List NodeId} (walk : tree.StackWalk stack listed)
    (existing : ∀ other ∈ stack, other < tree.size) :
    listed = stack.reverse.flatMap tree.preorder := by
  induction walk with
  | done => rfl
  | @visit stack listed current rest ih =>
      have currentExisting : current < tree.size := existing current (by simp)
      rw [coherent.flatMap_preorder_concat stack currentExisting,
        ih (coherent.existing_after_visit existing)]

/-- From existing nodes every walk ends: each visit takes one node off what the stack stands for. -/
theorem stackWalk_of_existing {stack : List NodeId}
    (existing : ∀ other ∈ stack, other < tree.size) :
    tree.StackWalk stack (stack.reverse.flatMap tree.preorder) := by
  generalize left : (stack.reverse.flatMap tree.preorder).length = steps
  induction steps generalizing stack with
  | zero =>
      rcases List.eq_nil_or_concat' stack with rfl | ⟨front, current, rfl⟩
      · exact .done
      · rw [coherent.flatMap_preorder_concat front (existing current (by simp))] at left
        cases left
  | succ steps ih =>
      rcases List.eq_nil_or_concat' stack with rfl | ⟨front, current, rfl⟩
      · cases left
      · have expanded := coherent.flatMap_preorder_concat front (existing current (by simp))
        rw [expanded, List.length_cons] at left
        rw [expanded]
        exact .visit current (ih (coherent.existing_after_visit existing) (Nat.succ.inj left))

/-- The walk from one node ends, and it can only end with the subtree in recursive order. -/
theorem stackWalk_iff (existing : id < tree.size) {listed : List NodeId} :
    tree.StackWalk [id] listed ↔ listed = tree.preorder id := by
  have waiting : ∀ other ∈ [id], other < tree.size := by simpa using existing
  have listing : [id].reverse.flatMap tree.preorder = tree.preorder id := by simp
  constructor
  · intro walk
    rw [← listing]
    exact coherent.eq_of_stackWalk walk waiting
  · rintro rfl
    rw [← listing]
    exact coherent.stackWalk_of_existing waiting

/-! ## What processing looks at and what it marks -/

/-- Handing up a subtree marks its nodes as processed and no others. -/
theorem stage_aggregate (existing : id < tree.size) (other : NodeId) :
    ((tree.aggregate id).node other).stage =
      if other ∈ tree.descendants id then .processed else (tree.node other).stage := by
  rw [(handedUp_aggregate coherent existing).node, aggregatedNode,
    coherent.descendants_eq_preorder existing]
  split
  · rfl
  · split <;> rfl

end Coherent

/-- When processing succeeds, the nodes of the subtree are those whose stage has changed. -/
theorem Coherent.mem_descendants_iff_of_process (coherent : tree.Coherent)
    (existing : id < tree.size) {after : BindingTree hierarchy}
    (performed : (BindingTree.process id).perform tree = (.ok (), after)) (other : NodeId) :
    other ∈ tree.descendants id ↔ (after.node other).stage ≠ (tree.node other).stage := by
  rw [perform_process] at performed
  cases allowed : tree.requireSorted id with
  | error error =>
      rw [allowed] at performed
      cases performed
  | ok passed =>
      rw [allowed] at performed
      cases performed
      rw [coherent.stage_aggregate existing]
      by_cases listed : other ∈ tree.descendants id
      · have encloses : tree.Encloses id other := by
          rw [← coherent.mem_preorder existing, ← coherent.descendants_eq_preorder existing]
          exact listed
        have sorted := (coherent.requireSorted_eq_ok existing).mp allowed other encloses
        simp [listed, sorted]
      · simp [listed]

/-- A subtree is looked at node by node, and refused for the first node that is not sorted or has
been processed already. -/
theorem requireSorted_eq (tree : BindingTree hierarchy) (id : NodeId) :
    tree.requireSorted id =
      ((tree.descendants id).find? fun below => (tree.node below).stage ≠ .sorted).elim (.ok ())
        fun first =>
          .error (.outOfOrder .process (tree.name first) (tree.node first).stage .sorted) := by
  rw [requireSorted]
  generalize tree.descendants id = nodes
  induction nodes with
  | nil => rfl
  | cons first nodes ih =>
      change (tree.requireStage .process [.sorted] .sorted first >>= fun _ =>
        nodes.forM (tree.requireStage .process [.sorted] .sorted)) = _
      by_cases sorted : (tree.node first).stage = .sorted
      · rw [requireStage_eq_ok.mpr (List.mem_singleton.mpr sorted),
          List.find?_cons_of_neg (by simpa using sorted)]
        exact ih
      · have refused : tree.requireStage .process [.sorted] .sorted first =
            .error (.outOfOrder .process (tree.name first) (tree.node first).stage .sorted) := by
          simp [requireStage, sorted]
        rw [refused, List.find?_cons_of_pos (by simpa using sorted)]
        rfl

/-- Walking with a stack is the recursion. -/
structure ListsSubtree (tree : BindingTree hierarchy) (id : NodeId) : Prop where
  agrees : tree.descendants id = tree.preorder id
  /-- The stack runs empty, and by then exactly this has been listed. -/
  ends : ∀ listed, tree.StackWalk [id] listed ↔ listed = tree.descendants id
  /-- A node comes first, and then the subtree of each child in the order of the list. -/
  recursive : tree.descendants id = id :: (tree.children id).flatMap tree.descendants
  inside : ∀ below, below ∈ tree.descendants id ↔ tree.Encloses id below
  once : (tree.descendants id).Nodup
  /-- Processing looks at the listed nodes, up to the first that it refuses. -/
  checks : tree.requireSorted id =
    ((tree.descendants id).find? fun below => (tree.node below).stage ≠ .sorted).elim (.ok ())
      fun first => .error (.outOfOrder .process (tree.name first) (tree.node first).stage .sorted)
  /-- Moving the fragments up marks the listed nodes and no others. -/
  marks : ∀ other, ((tree.aggregate id).node other).stage =
    if other ∈ tree.descendants id then .processed else (tree.node other).stage
  /-- So the nodes that were looked at are those whose stage has changed in the end. -/
  changes : ∀ after, (process id).perform tree = (.ok (), after) →
    ∀ other, other ∈ tree.descendants id ↔ (after.node other).stage ≠ (tree.node other).stage

/-- In every tree that calls lead to, the walk with a stack lists each subtree as the recursion
does, and processing is about the nodes it lists. -/
theorem stack_walk_lists_subtree (reachable : tree.Reachable) (existing : id < tree.size) :
    tree.ListsSubtree id := by
  have coherent := reachable.coherent
  have listing := coherent.descendants_eq_preorder existing
  exact
    { agrees := listing
      ends := fun listed => listing ▸ coherent.stackWalk_iff existing
      recursive := by
        rw [listing, coherent.preorder_eq existing]
        congr 1
        apply List.flatMap_congr
        intro child member
        exact (coherent.descendants_eq_preorder (coherent.childLink id child member).1).symm
      inside := fun below => listing ▸ coherent.mem_preorder existing
      once := listing ▸ coherent.nodup_preorder existing
      checks := tree.requireSorted_eq id
      marks := coherent.stage_aggregate existing
      changes := fun _ performed => coherent.mem_descendants_iff_of_process existing performed }

/-- The walk from the root of a sorted tree with two levels, and the walk from a node that a failed
build has left without a parent. -/
theorem stack_walk_lists_subtree_derivedFirst :
    let sorted := (TreeCall.sort root).after derivedFirstBuilt
    sorted.Reachable ∧ root < sorted.size ∧ sorted.StackWalk [root] [0, 1, 3, 4, 2] ∧
      stoppedAtMethod.Reachable ∧ 1 < stoppedAtMethod.size ∧
      stoppedAtMethod.StackWalk [1] [1, 2] := by
  intro sorted
  have reachable : sorted.Reachable :=
    .call (.call .start (.build root .fresh) (by decide)) (.sort root) (by decide)
  have existing : root < sorted.size := by decide
  have orphaned : 1 < stoppedAtMethod.size := by decide
  exact ⟨reachable, existing, ((stack_walk_lists_subtree reachable existing).ends _).mpr rfl,
    reachable_stoppedAtMethod, orphaned,
    ((stack_walk_lists_subtree reachable_stoppedAtMethod orphaned).ends _).mpr rfl⟩

end RubyBindings.BindingTree
