/-
Module: RubyBindings.Proofs.BindingTree.Aggregation
Purpose: Moving fragments up loses, repeats and reorders nothing. The nodes of a subtree hand all
  their fragments, in recursive order, to the node above the subtree; the root keeps what it gets.
  No other node changes.
Main exports: Fragments.concat, BindingTree.gathered, BindingTree.aggregatedNode,
  BindingTree.HandedUp, BindingTree.handedUp_aggregate
-/
import RubyBindings.BindingTree.Aggregate
import RubyBindings.Proofs.BindingTree.Links

namespace RubyBindings

/-! ## Fragments piece by piece -/

namespace Fragments

@[simp] theorem append_empty (fragments : Fragments) : fragments.append .empty = fragments := by
  simp [append, empty]

@[simp] theorem empty_append (fragments : Fragments) :
    Fragments.empty.append fragments = fragments := by
  simp [append, empty]

theorem append_assoc (first second third : Fragments) :
    (first.append second).append third = first.append (second.append third) := by
  simp [append]

/-- The fragments of several pieces: in each sequence, one piece after the other. -/
def concat (pieces : List Fragments) : Fragments where
  includes := pieces.flatMap Fragments.includes
  declarations := pieces.flatMap Fragments.declarations
  registrations := pieces.flatMap Fragments.registrations

@[simp] theorem concat_nil : concat [] = .empty := rfl

@[simp] theorem concat_cons (piece : Fragments) (pieces : List Fragments) :
    concat (piece :: pieces) = piece.append (concat pieces) := rfl

theorem concat_append (first second : List Fragments) :
    concat (first ++ second) = (concat first).append (concat second) := by
  induction first with
  | nil => simp
  | cons piece first ih => rw [List.cons_append, concat_cons, ih, concat_cons, append_assoc]

theorem concat_flatMap {α : Type} (pieces : α → List Fragments) (items : List α) :
    concat (items.flatMap pieces) = concat (items.map fun item => concat (pieces item)) := by
  induction items with
  | nil => rfl
  | cons item items ih =>
      rw [List.flatMap_cons, concat_append, ih, List.map_cons, concat_cons]

end Fragments

namespace BindingTree

variable {hierarchy : Hierarchy} {tree : BindingTree hierarchy}

/-- The fragments of a subtree in recursive order, each sequence for itself. -/
def gathered (tree : BindingTree hierarchy) (id : NodeId) : Fragments :=
  .concat ((tree.preorder id).map fun below => (tree.node below).fragments)

/-- A subtree gathers the fragments of its top node, and then what each child's subtree gathers. -/
theorem Coherent.gathered_eq (coherent : tree.Coherent) {id : NodeId} (existing : id < tree.size) :
    tree.gathered id =
      (tree.node id).fragments.append (.concat ((tree.children id).map tree.gathered)) := by
  rw [gathered, coherent.preorder_eq existing, List.map_cons, Fragments.concat_cons,
    List.map_flatMap, Fragments.concat_flatMap]
  rfl

/-- What becomes of a node when the subtree of `id` hands its fragments up. -/
def aggregatedNode (tree : BindingTree hierarchy) (id other : NodeId) : BindingNode :=
  let node := tree.node other
  if other ∈ tree.preorder id then
    { node with
      stage := .processed
      fragments := if node.parent = none then tree.gathered id else .empty }
  else if (tree.node id).parent = some other then
    { node with fragments := node.fragments.append (tree.gathered id) }
  else node

/-! ## One node hands over -/

@[simp] theorem size_handOver (tree : BindingTree hierarchy) (id : NodeId) :
    (tree.handOver id).size = tree.size := by
  simp only [handOver]
  split <;> simp

/-- The root is processed by keeping its fragments. -/
theorem node_handOver_root (coherent : tree.Coherent) (other : NodeId) :
    (tree.handOver root).node other =
      if other = root then { tree.node root with stage := .processed } else tree.node other := by
  have kept : (tree.update root fun node => { node with stage := .processed }).node root =
      { tree.node root with stage := .processed } := node_update_self coherent.hasRoot _
  have top : ((tree.update root fun node => { node with stage := .processed }).node root).parent =
      none := by
    rw [kept]
    exact coherent.rootParent
  rw [handOver]
  simp only [top]
  by_cases same : other = root
  · rw [if_pos same, same, kept]
  · rw [if_neg same, node_update_of_ne same]

/-- A node below another one is processed by moving its fragments there. -/
theorem node_handOver_child (coherent : tree.Coherent) {id parent : NodeId}
    (existing : id < tree.size) (link : (tree.node id).parent = some parent) (other : NodeId) :
    (tree.handOver id).node other =
      if other = id then { tree.node id with stage := .processed, fragments := .empty }
      else if other = parent then
        { tree.node parent with
          fragments := (tree.node parent).fragments.append (tree.node id).fragments }
      else tree.node other := by
  have smaller : parent < id := coherent.parent_lt existing link
  have marked : (tree.update id fun node => { node with stage := .processed }).node id =
      { tree.node id with stage := .processed } := node_update_self existing _
  have below : ((tree.update id fun node => { node with stage := .processed }).node id).parent =
      some parent := by
    rw [marked]
    exact link
  rw [handOver]
  simp only [below]
  by_cases self : other = id
  · rw [if_pos self, self, node_update_of_ne (Nat.ne_of_gt smaller), node_update_self
      (by simpa using existing), marked]
  · rw [if_neg self]
    by_cases above : other = parent
    · rw [if_pos above, above, node_update_self (by simpa using Nat.lt_trans smaller existing),
        node_update_of_ne (Nat.ne_of_lt smaller), node_update_of_ne (Nat.ne_of_lt smaller), marked]
    · rw [if_neg above, node_update_of_ne above, node_update_of_ne self, node_update_of_ne self]

/-! ## A whole subtree hands over -/

/-- The subtree of `id` has handed its fragments up, and nothing else has happened. -/
structure HandedUp (before after : BindingTree hierarchy) (id : NodeId) : Prop where
  size : after.size = before.size
  node : ∀ other, after.node other = before.aggregatedNode id other

namespace HandedUp

variable {before after : BindingTree hierarchy} {id : NodeId}

theorem children (handed : HandedUp before after id) (other : NodeId) :
    after.children other = before.children other := by
  rw [BindingTree.children, handed.node other, aggregatedNode]
  split
  · rfl
  · split <;> rfl

theorem forest (handed : HandedUp before after id) : SameForest before after where
  size := handed.size
  parent := by
    intro other
    rw [handed.node other, aggregatedNode]
    split
    · rfl
    · split <;> rfl
  children := fun other => handed.children other ▸ .refl _

theorem preorder (handed : HandedUp before after id) : after.preorder = before.preorder :=
  preorder_congr handed.size handed.children

/-- Neither the subtree of a sibling nor what it gathers is touched. -/
theorem node_of_sibling (handed : HandedUp before after id) (coherent : before.Coherent)
    {parent sibling : NodeId} (member : id ∈ before.children parent)
    (siblingMember : sibling ∈ before.children parent) (different : sibling ≠ id)
    {below : NodeId} (encloses : before.Encloses sibling below) :
    after.node below = before.node below := by
  obtain ⟨existing, link⟩ := coherent.childLink parent id member
  have elsewhere : below ∉ before.preorder id := by
    intro listed
    have enclosed := (coherent.mem_preorder existing).mp listed
    exact different (coherent.eq_of_common_descendant siblingMember member encloses enclosed)
  have notAbove : (before.node id).parent ≠ some below := by
    rw [link]
    intro same
    cases same
    have larger := coherent.lt_of_mem_children siblingMember
    exact Nat.not_le_of_lt larger (coherent.encloses_le encloses)
  rw [handed.node below, aggregatedNode, if_neg elsewhere, if_neg notAbove]

theorem gathered_of_sibling (handed : HandedUp before after id) (coherent : before.Coherent)
    {parent sibling : NodeId} (member : id ∈ before.children parent)
    (siblingMember : sibling ∈ before.children parent) (different : sibling ≠ id) :
    after.gathered sibling = before.gathered sibling := by
  rw [gathered, gathered, handed.preorder]
  congr 1
  apply List.map_congr_left
  intro below listed
  have existing := (coherent.childLink parent sibling siblingMember).1
  rw [handed.node_of_sibling coherent member siblingMember different
    ((coherent.mem_preorder existing).mp listed)]

end HandedUp

/-- The subtrees of some children of `id` have handed their fragments to it, one after the other,
and nothing else has happened. -/
structure ChildrenHandedUp (before after : BindingTree hierarchy) (id : NodeId)
    (children : List NodeId) : Prop where
  size : after.size = before.size
  node : ∀ other, after.node other =
    if other ∈ children.flatMap before.preorder then
      { before.node other with stage := .processed, fragments := .empty }
    else if other = id then
      { before.node id with
        fragments :=
          (before.node id).fragments.append (.concat (children.map before.gathered)) }
    else before.node other

namespace ChildrenHandedUp

variable {before middle after : BindingTree hierarchy} {id : NodeId} {children : List NodeId}

theorem nil (before : BindingTree hierarchy) (id : NodeId) :
    ChildrenHandedUp before before id [] where
  size := rfl
  node := by
    intro other
    by_cases same : other = id
    · simp [same]
    · simp [same]

/-- One more child in front. -/
theorem cons (coherent : before.Coherent) {child : NodeId}
    (members : child :: children ⊆ before.children id) (nodup : (child :: children).Nodup)
    (first : HandedUp before middle child) (rest : ChildrenHandedUp middle after id children) :
    ChildrenHandedUp before after id (child :: children) where
  size := rest.size.trans first.size
  node := by
    intro other
    obtain ⟨childMember, members⟩ := List.cons_subset.mp members
    obtain ⟨fresh, -⟩ := List.nodup_cons.mp nodup
    obtain ⟨existing, link⟩ := coherent.childLink id child childMember
    have different : ∀ sibling ∈ children, sibling ≠ child :=
      fun sibling member same => fresh (same ▸ member)
    have gathers : children.map middle.gathered = children.map before.gathered :=
      List.map_congr_left fun sibling member =>
        first.gathered_of_sibling coherent childMember (members member) (different sibling member)
    have split : other ∈ (child :: children).flatMap before.preorder ↔
        other ∈ before.preorder child ∨ other ∈ children.flatMap before.preorder := by
      rw [List.flatMap_cons, List.mem_append]
    rw [rest.node other, first.preorder, gathers]
    by_cases later : other ∈ children.flatMap before.preorder
    · obtain ⟨sibling, member, listed⟩ := List.mem_flatMap.mp later
      have siblingExisting := (coherent.childLink id sibling (members member)).1
      rw [if_pos later, if_pos (split.mpr (Or.inr later)),
        first.node_of_sibling coherent childMember (members member) (different sibling member)
          ((coherent.mem_preorder siblingExisting).mp listed)]
    · rw [if_neg later]
      by_cases here : other ∈ before.preorder child
      · have larger : id < other := Nat.lt_of_lt_of_le (coherent.lt_of_mem_children childMember)
          (coherent.encloses_le ((coherent.mem_preorder existing).mp here))
        have notTop : (before.node other).parent ≠ none :=
          coherent.parent_ne_none (coherent.mem_preorder_lt_size existing here)
            (Nat.ne_of_gt (Nat.lt_of_le_of_lt (Nat.zero_le id) larger))
        rw [if_neg (Nat.ne_of_gt larger), if_pos (split.mpr (Or.inl here)), first.node other,
          aggregatedNode, if_pos here, if_neg notTop]
      · rw [if_neg (split.not.mpr (not_or.mpr ⟨here, later⟩))]
        by_cases self : other = id
        · subst self
          rw [if_pos rfl, if_pos rfl, first.node other, aggregatedNode, if_neg here, if_pos link,
            List.map_cons, Fragments.concat_cons, Fragments.append_assoc]
        · have notAbove : (before.node child).parent ≠ some other := by
            rw [link]
            exact fun same => self (Option.some.inj same).symm
          rw [if_neg self, if_neg self, first.node other, aggregatedNode, if_neg here,
            if_neg notAbove]

theorem forest (handed : ChildrenHandedUp before after id children) : SameForest before after where
  size := handed.size
  parent := by
    intro other
    rw [handed.node other]
    split
    · rfl
    · split
      · rename_i same
        rw [same]
      · rfl
  children := by
    intro other
    rw [BindingTree.children, handed.node other]
    split
    · exact .refl _
    · split
      · rename_i same
        exact same ▸ .refl _
      · exact .refl _

/-- Below the children, every node is processed and holds nothing any more. -/
theorem node_below (handed : ChildrenHandedUp before after id children) {other : NodeId}
    (listed : other ∈ children.flatMap before.preorder) :
    after.node other = { before.node other with stage := .processed, fragments := .empty } := by
  rw [handed.node other, if_pos listed]

/-- With all children done, the node holds what its whole subtree gathers. -/
theorem node_self (handed : ChildrenHandedUp before after id (before.children id))
    (coherent : before.Coherent) (existing : id < before.size) :
    after.node id = { before.node id with fragments := before.gathered id } := by
  have above : id ∉ (before.children id).flatMap before.preorder := by
    have nodup := coherent.nodup_preorder existing
    rw [coherent.preorder_eq existing, List.nodup_cons] at nodup
    exact nodup.1
  rw [handed.node id, if_neg above, if_pos rfl, coherent.gathered_eq existing]

/-- Away from the subtree nothing has changed. -/
theorem node_outside (handed : ChildrenHandedUp before after id (before.children id))
    (coherent : before.Coherent) (existing : id < before.size) {other : NodeId}
    (outside : other ∉ before.preorder id) : after.node other = before.node other := by
  rw [coherent.preorder_eq existing, List.mem_cons, not_or] at outside
  rw [handed.node other, if_neg outside.2, if_neg outside.1]

/-- Once all children have handed over, the node itself does, and with it the whole subtree. -/
theorem handOver (handed : ChildrenHandedUp before after id (before.children id))
    (coherent : before.Coherent) (existing : id < before.size) :
    HandedUp before (after.handOver id) id where
  size := by rw [size_handOver, handed.size]
  node := by
    intro other
    have afterCoherent := handed.forest.coherent coherent
    have afterExisting : id < after.size := handed.size ▸ existing
    have covered : other ∈ before.preorder id ↔
        other = id ∨ other ∈ (before.children id).flatMap before.preorder := by
      rw [coherent.preorder_eq existing, List.mem_cons]
    have own := handed.node_self coherent existing
    by_cases top : id = root
    · subst top
      have notAbove : (before.node root).parent ≠ some other := by
        rw [coherent.rootParent]
        exact (Option.some_ne_none other).symm
      rw [node_handOver_root afterCoherent, own, aggregatedNode, if_neg notAbove]
      by_cases self : other = root
      · rw [if_pos self, if_pos (covered.mpr (Or.inl self)), self, if_pos coherent.rootParent]
      · rw [if_neg self]
        by_cases below : other ∈ (before.children root).flatMap before.preorder
        · have inside := covered.mpr (Or.inr below)
          rw [handed.node_below below, if_pos inside,
            if_neg (coherent.parent_ne_none (coherent.mem_preorder_lt_size existing inside) self)]
        · have outside := covered.not.mpr (not_or.mpr ⟨self, below⟩)
          rw [handed.node_outside coherent existing outside, if_neg outside]
    · obtain ⟨parent, smaller, link⟩ := coherent.parentBefore id existing top
      have afterLink : (after.node id).parent = some parent := by rw [own, link]
      have notAbove : parent ∉ before.preorder id := fun listed =>
        Nat.not_le_of_lt smaller (coherent.encloses_le ((coherent.mem_preorder existing).mp listed))
      rw [node_handOver_child afterCoherent afterExisting afterLink, own, aggregatedNode]
      by_cases self : other = id
      · rw [if_pos self, if_pos (covered.mpr (Or.inl self)), self,
          if_neg (coherent.parent_ne_none existing top)]
      · rw [if_neg self]
        by_cases above : other = parent
        · rw [if_pos above, above, handed.node_outside coherent existing notAbove,
            if_neg notAbove, if_pos link]
        · rw [if_neg above]
          by_cases below : other ∈ (before.children id).flatMap before.preorder
          · have inside := covered.mpr (Or.inr below)
            have notRoot : other ≠ root := by
              have larger := coherent.encloses_le ((coherent.mem_preorder existing).mp inside)
              exact Nat.ne_of_gt (Nat.lt_of_lt_of_le (Nat.pos_of_ne_zero top) larger)
            rw [handed.node_below below, if_pos inside,
              if_neg (coherent.parent_ne_none (coherent.mem_preorder_lt_size existing inside)
                notRoot)]
          · have outside := covered.not.mpr (not_or.mpr ⟨self, below⟩)
            have notParent : (before.node id).parent ≠ some other := by
              rw [link]
              exact fun same => above (Option.some.inj same).symm
            rw [handed.node_outside coherent existing outside, if_neg outside, if_neg notParent]

end ChildrenHandedUp

/-- Handing over a subtree, looking as deep as the tree reaches. -/
theorem handedUp_aggregateWithin (depth : Nat) :
    ∀ {tree : BindingTree hierarchy}, tree.Coherent → ∀ id < tree.size, tree.size ≤ id + depth →
      HandedUp tree (aggregateWithin depth id tree) id := by
  induction depth with
  | zero =>
      intro tree coherent id existing deep
      omega
  | succ depth ih =>
      intro tree coherent id existing deep
      -- The children hand over from left to right; each finds the links that `tree` has.
      have run : ∀ (children : List NodeId) {before : BindingTree hierarchy}, before.Coherent →
          before.size = tree.size → children ⊆ before.children id → children.Nodup →
          ChildrenHandedUp before
            (children.foldl (fun tree child => aggregateWithin depth child tree) before) id
            children := by
        intro children
        induction children with
        | nil => exact fun _ _ _ _ => .nil _ id
        | cons child children rest =>
            intro before beforeCoherent sizes members nodup
            obtain ⟨childMember, others⟩ := List.cons_subset.mp members
            have larger : id < child := beforeCoherent.lt_of_mem_children childMember
            have first : HandedUp before (aggregateWithin depth child before) child :=
              ih beforeCoherent child (beforeCoherent.childLink id child childMember).1 (by omega)
            refine .cons beforeCoherent members nodup first ?_
            exact rest (first.forest.coherent beforeCoherent) (first.size.trans sizes)
              (first.children id ▸ others) (List.nodup_cons.mp nodup).2
      exact (run (tree.children id) coherent rfl (List.Subset.refl _)
        (coherent.childrenNodup id)).handOver coherent existing

theorem handedUp_aggregate (coherent : tree.Coherent) {id : NodeId} (existing : id < tree.size) :
    HandedUp tree (tree.aggregate id) id :=
  handedUp_aggregateWithin tree.size coherent id existing (Nat.le_add_left _ _)

end BindingTree

end RubyBindings
