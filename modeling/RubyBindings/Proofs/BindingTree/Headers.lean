/-
Module: RubyBindings.Proofs.BindingTree.Headers
Purpose: The include lines of a finished unit. Each needed header is included once: in front those of
  the whole library, and then each header of an entity by the first node that wants it. The lines move
  with their nodes when a tree is sorted and processed, but none is lost, doubled or mistaken for
  another.
Main exports: includeLine_injective, BindingTree.Names, BindingTree.IncludesOnce,
  BindingTree.headers_included_once
-/
import RubyBindings.Proofs.BindingTree.Contents
import RubyBindings.Proofs.BindingTree.Contributions

namespace RubyBindings

variable {hierarchy : Hierarchy}

/-! ## Lines and headers -/

/-- Removing later duplicates removes all of them. -/
theorem nodup_eraseDups {α : Type} [BEq α] [LawfulBEq α] :
    ∀ items : List α, items.eraseDups.Nodup
  | [] => List.nodup_nil
  | item :: items => by
      rw [List.eraseDups_cons, List.nodup_cons]
      exact ⟨by simp, nodup_eraseDups (items.filter fun other => !other == item)⟩
termination_by items => items.length
decreasing_by exact Nat.lt_succ_of_le (List.length_filter_le ..)

/-- A header is written in one of two ways, which differ in the first character behind the blank. -/
theorem toList_includeLine (header : String) :
    (includeLine header).toList =
      "#include ".toList ++
        if header.toList.head? = some '<' then header.toList
        else '"' :: (header.toList ++ ['"']) := by
  rw [includeLine]
  split
  · rename_i rest bracketed
    rw [String.toList_append, bracketed]
    rfl
  · rename_i notBracketed
    have quoted : header.toList.head? ≠ some '<' := by
      intro starts
      obtain ⟨rest, same⟩ := List.head?_eq_some_iff.mp starts
      exact notBracketed rest same
    rw [if_neg quoted, String.toList_append, String.toList_append]
    rfl

/-- Different headers have different include lines. -/
theorem includeLine_injective : Function.Injective includeLine := by
  intro first second same
  have texts := congrArg String.toList same
  rw [toList_includeLine, toList_includeLine, List.append_cancel_left_eq] at texts
  apply String.toList_inj.mp
  by_cases one : first.toList.head? = some '<' <;> by_cases two : second.toList.head? = some '<'
  · rwa [if_pos one, if_pos two] at texts
  · rw [if_pos one, if_neg two] at texts
    rw [texts] at one
    cases one
  · rw [if_neg one, if_pos two] at texts
    rw [← texts] at two
    cases two
  · rw [if_neg one, if_neg two, List.cons_inj_right] at texts
    exact List.append_cancel_right texts

namespace BindingTree

variable {built : Workspace hierarchy} {tree sorted processed : BindingTree hierarchy}

/-- The entity of a node has this header of its own. -/
def Names (tree : BindingTree hierarchy) (id : NodeId) (header : String) : Prop :=
  (hierarchy.declaration (tree.node id).entity).header = some header

/-- The headers that the nodes below the root name, in the recursive order of the tree. -/
def namedHeaders (tree : BindingTree hierarchy) : List String :=
  (tree.preorder root).tail.filterMap fun id =>
    (hierarchy.declaration (tree.node id).entity).header

/-! ## Which node includes a header -/

namespace Complete

variable (complete : tree.Complete)
include complete

/-- A node below the root wants the header that its entity names. -/
theorem headers_of_ne_root {id : NodeId} (existing : id < tree.size) (notRoot : id ≠ root) :
    (tree.node id).kind.headers hierarchy (tree.node id).entity =
      (hierarchy.declaration (tree.node id).entity).header.toList := by
  rw [complete.kind_eq existing notRoot]
  cases hierarchy.kind (tree.node id).entity <;> rfl

/-- The root wants the headers of the whole library. -/
theorem headers_root : (tree.node root).kind.headers hierarchy (tree.node root).entity =
    bindingHeader :: hierarchy.headers := by
  rw [complete.rootKind]
  rfl

/-- What the first nodes want are the headers of the whole library, and those that they name. -/
theorem mem_headers_contributors {count : Nat} (some : 0 < count) (few : count ≤ tree.size)
    {header : String} :
    (header ∈ (tree.contributors count).flatMap fun (kind, entity) => kind.headers hierarchy entity) ↔
      header ∈ bindingHeader :: hierarchy.headers ∨
        ∃ id < count, id ≠ root ∧ tree.Names id header := by
  simp only [contributors, List.flatMap_map, List.mem_flatMap, List.mem_range]
  constructor
  · rintro ⟨id, small, wanted⟩
    by_cases top : id = root
    · rw [top, complete.headers_root] at wanted
      exact Or.inl wanted
    · rw [complete.headers_of_ne_root (Nat.lt_of_lt_of_le small few) top] at wanted
      exact Or.inr ⟨id, small, top, Option.mem_toList.mp wanted⟩
  · rintro (wide | ⟨id, small, notRoot, named⟩)
    · refine ⟨root, some, ?_⟩
      rw [complete.headers_root]
      exact wide
    · refine ⟨id, small, ?_⟩
      rw [complete.headers_of_ne_root (Nat.lt_of_lt_of_le small few) notRoot]
      exact Option.mem_toList.mpr named

end Complete

namespace Recorded

variable {count : Nat}

/-- The lines of the nodes that have contributed are those of the headers claimed so far. -/
theorem lines (recorded : Recorded .fresh built count) :
    (List.range count).flatMap (fun id => (built.tree.node id).fragments.includes) =
      built.session.claimedHeaders.map includeLine := by
  have upTo : ∀ first ≤ count,
      (List.range first).flatMap (fun id => (built.tree.node id).fragments.includes) =
        (Session.fresh.afterAll hierarchy (built.tree.contributors first)).claimedHeaders.map
          includeLine := by
    intro first
    induction first with
    | zero => exact fun _ => rfl
    | succ first ih =>
        intro few
        rw [List.range_succ, List.flatMap_append, List.flatMap_singleton,
          ih (Nat.le_of_succ_le few), recorded.includes first few, contributors_succ,
          Session.afterAll_concat, NodeKind.contribute_eq, List.map_append]
  rw [upTo count (Nat.le_refl count), recorded.session]

/-- A node includes what it wants and what no node before it has wanted. -/
theorem mem_includes (recorded : Recorded .fresh built count) {id : NodeId} (small : id < count)
    {line : String} :
    line ∈ (built.tree.node id).fragments.includes ↔
      ∃ header, includeLine header = line ∧
        header ∈ (built.tree.node id).kind.headers hierarchy (built.tree.node id).entity ∧
        header ∉ (built.tree.contributors id).flatMap fun (kind, entity) =>
          kind.headers hierarchy entity := by
  rw [recorded.includes id small, List.mem_map]
  simp only [Session.unclaimed, List.mem_eraseDups, List.mem_filter, decide_eq_true_eq,
    Session.claimedHeaders_afterAll]
  constructor
  · rintro ⟨header, wanted, same⟩
    exact ⟨header, same, wanted⟩
  · rintro ⟨header, same, wanted⟩
    exact ⟨header, wanted, same⟩

end Recorded

/-! ## The include lines of the root -/

/-- Each needed header is included once. The include lines of the processed root begin with those of
the whole library; then come the lines that the nodes bring along, where each header that the library
does not include is included by the first node below the root that names it, in the order in which
nodes have been made. The claimed headers are those that are included, in that order. -/
structure IncludesOnce (built : Workspace hierarchy) (sorted processed : BindingTree hierarchy) :
    Prop where
  /-- A header in angle brackets is included as it is written, and any other in quotes. -/
  text : ∀ header, (includeLine header).toList =
    "#include ".toList ++
      if header.toList.head? = some '<' then header.toList
      else '"' :: (header.toList ++ ['"'])
  /-- Nodes are numbered as they are made, which is the recursive order of the built tree. -/
  numbered : built.tree.preorder root = List.range built.tree.size
  nodup : (processed.node root).fragments.includes.Nodup
  mem : ∀ line, line ∈ (processed.node root).fragments.includes ↔
    ∃ header, includeLine header = line ∧
      (header = bindingHeader ∨ header ∈ hierarchy.headers ∨
        ∃ id < built.tree.size, id ≠ root ∧ built.tree.Names id header)
  front : (processed.node root).fragments.includes =
    includeLine bindingHeader ::
      ((hierarchy.headers.filter (· ≠ bindingHeader)).eraseDups.map includeLine ++
        (sorted.preorder root).tail.flatMap fun id => (built.tree.node id).fragments.includes)
  first : ∀ id < built.tree.size, id ≠ root → ∀ line,
    line ∈ (built.tree.node id).fragments.includes ↔
      ∃ header, includeLine header = line ∧ header ∉ bindingHeader :: hierarchy.headers ∧
        built.tree.Names id header ∧
        ∀ earlier < id, earlier ≠ root → ¬ built.tree.Names earlier header
  claimed : built.session.claimedHeaders =
    (bindingHeader :: hierarchy.headers ++ built.tree.namedHeaders).eraseDups
  lines : (built.session.claimedHeaders.map includeLine).Perm
    (processed.node root).fragments.includes

namespace Passes

variable {session : Session} (passes : Passes session built sorted processed)
  (descends : hierarchy.Descends)
include passes descends

/-- In the end the root includes what the nodes have contributed, in the order of the sorted tree. -/
theorem includes_root : (processed.node root).fragments.includes =
    (sorted.preorder root).flatMap fun id => (built.tree.node id).fragments.includes := by
  have inOrder := passes.inOrder descends
  have coherent := inOrder.coherent
  rw [passes.node_root descends]
  simp only [gathered, Fragments.concat, List.flatMap_map]
  apply List.flatMap_congr
  intro id listed
  have small := coherent.mem_preorder_lt_size coherent.hasRoot listed
  rw [inOrder.node id (inOrder.size ▸ small), sortedNode]

/-- Sorting moves nodes within the tree, and none in or out. -/
theorem preorder_perm : (sorted.preorder root).Perm (List.range built.tree.size) := by
  have inOrder := passes.inOrder descends
  have coherent := inOrder.coherent
  refine (List.perm_ext_iff_of_nodup (coherent.nodup_preorder coherent.hasRoot)
    List.nodup_range).mpr ?_
  intro id
  rw [coherent.mem_preorder coherent.hasRoot, inOrder.forest.encloses_iff, List.mem_range]
  constructor
  · exact inOrder.complete.coherent.encloses_lt_size inOrder.complete.coherent.hasRoot
  · exact inOrder.complete.reached id

end Passes

/-- The claimed headers of a build: those of the whole library, and then those that nodes name. -/
theorem claimedHeaders_of_build (descends : hierarchy.Descends)
    (performed : (build root).perform { tree := start hierarchy, session := .fresh } =
      (.ok (), built)) :
    built.session.claimedHeaders =
      (bindingHeader :: hierarchy.headers ++ built.tree.namedHeaders).eraseDups := by
  have complete := complete_build descends performed
  have coherent := complete.coherent
  have numbered := preorder_root_of_build descends performed
  have rootFirst := coherent.preorder_eq coherent.hasRoot
  rw [(recorded_of_build descends performed).session, Session.claimedHeaders_afterAll, contributors,
    ← numbered, List.flatMap_map]
  dsimp only
  rw [rootFirst, List.flatMap_cons, complete.headers_root, namedHeaders, rootFirst, List.tail_cons]
  congr 2
  rw [List.filterMap_eq_flatMap_toList]
  apply List.flatMap_congr
  intro id listed
  obtain ⟨child, member, below⟩ := List.mem_flatMap.mp listed
  have childSmall := (coherent.childLink root child member).1
  have encloses := (coherent.mem_preorder childSmall).mp below
  have notRoot : id ≠ root := Nat.ne_of_gt
    (Nat.lt_of_lt_of_le (coherent.lt_of_mem_children member) (coherent.encloses_le encloses))
  exact complete.headers_of_ne_root (coherent.encloses_lt_size childSmall encloses) notRoot

/-- Building, sorting and processing the root includes each needed header once. -/
theorem headers_included_once (descends : hierarchy.Descends)
    (passes : Passes .fresh built sorted processed) : IncludesOnce built sorted processed := by
  have complete := passes.complete descends
  have positive := complete.coherent.hasRoot
  have recorded := recorded_of_build descends passes.build
  have claimed := claimedHeaders_of_build descends passes.build
  have lines : (built.session.claimedHeaders.map includeLine).Perm
      (processed.node root).fragments.includes := by
    rw [← recorded.lines, passes.includes_root descends]
    exact ((passes.preorder_perm descends).flatMap_right _).symm
  have wide : (built.tree.node root).fragments.includes =
      includeLine bindingHeader ::
        (hierarchy.headers.filter (· ≠ bindingHeader)).eraseDups.map includeLine := by
    have all : (bindingHeader :: hierarchy.headers).filter
        (· ∉ (Session.fresh.afterAll hierarchy (built.tree.contributors root)).claimedHeaders) =
          bindingHeader :: hierarchy.headers :=
      List.filter_eq_self.mpr fun header _ => decide_eq_true (List.not_mem_nil)
    rw [recorded.includes root positive, complete.headers_root, Session.unclaimed, all,
      List.eraseDups_cons, List.map_cons]
    simp only [ne_eq, decide_not, Bool.beq_eq_decide_eq]
  refine ⟨toList_includeLine, preorder_root_of_build descends passes.build, ?_, ?_, ?_, ?_, claimed,
    lines⟩
  · refine lines.nodup_iff.mp (List.Nodup.map includeLine_injective ?_)
    rw [claimed]
    exact nodup_eraseDups _
  · intro line
    rw [← lines.mem_iff, recorded.session, Session.claimedHeaders_afterAll, List.mem_map]
    simp only [List.mem_eraseDups,
      complete.mem_headers_contributors positive (Nat.le_refl _), List.mem_cons, or_assoc]
    constructor
    · rintro ⟨header, needed, same⟩
      exact ⟨header, same, needed⟩
    · rintro ⟨header, same, needed⟩
      exact ⟨header, needed, same⟩
  · have coherent := (passes.inOrder descends).coherent
    rw [passes.includes_root descends, coherent.preorder_eq coherent.hasRoot, List.flatMap_cons,
      wide, List.cons_append, List.tail_cons]
  · intro id small notRoot line
    rw [recorded.mem_includes small, complete.headers_of_ne_root small notRoot]
    simp only [complete.mem_headers_contributors (Nat.pos_of_ne_zero notRoot) (Nat.le_of_lt small),
      Option.mem_toList, not_or, not_exists, not_and]
    constructor
    · rintro ⟨header, same, named, apart, unnamed⟩
      exact ⟨header, same, apart, named, unnamed⟩
    · rintro ⟨header, same, apart, named, unnamed⟩
      exact ⟨header, same, named, apart, unnamed⟩

/-- A library with three headers, of which two are alike, and with declarations that name some of
these headers and share another one. -/
def sharedHeaders : Hierarchy where
  entities :=
    [{ declaration := { kind := .namespaceScope, name := "shapes" }
       parent := none
       children := [1, 4]
       qualifiedName := "" },
      { declaration := { kind := .namespaceScope, name := "geo", header := some "geo.hpp" }
        parent := some Hierarchy.root
        children := [2, 3]
        qualifiedName := "geo" },
      { declaration := { kind := .classType, name := "Circle", header := some "round.hpp" }
        parent := some 1
        children := []
        qualifiedName := "geo::Circle" },
      { declaration := { kind := .classType, name := "Disc", header := some "round.hpp" }
        parent := some 1
        children := []
        qualifiedName := "geo::Disc" },
      { declaration := { kind := .classType, name := "Log", header := some "<vector>" }
        parent := some Hierarchy.root
        children := []
        qualifiedName := "Log" }]
  headers := ["geo.hpp", "<vector>", "geo.hpp"]

theorem headers_included_once_shared :
    sharedHeaders.Descends ∧ ∃ built sorted processed,
      Passes (.fresh : Session) (built : Workspace sharedHeaders) sorted processed ∧
        IncludesOnce built sorted processed ∧
        (processed.node root).fragments.includes =
          ["#include <rice/rice.hpp>", "#include \"geo.hpp\"", "#include <vector>",
            "#include \"round.hpp\""] := by
  have descends : sharedHeaders.Descends := by decide
  have passes : Passes .fresh
      ((build root).perform { tree := start sharedHeaders, session := .fresh }).2
      ((sort root).perform
        ((build root).perform { tree := start sharedHeaders, session := .fresh }).2.tree).2
      ((process root).perform ((sort root).perform
        ((build root).perform { tree := start sharedHeaders, session := .fresh }).2.tree).2).2 :=
    ⟨Prod.ext rfl rfl, Prod.ext rfl rfl, Prod.ext rfl rfl⟩
  exact ⟨descends, _, _, _, passes, headers_included_once descends passes, rfl⟩

end BindingTree

end RubyBindings
