/-
Module: RubyBindings.Proofs.BindingTree.Contributions
Purpose: What a build does to the session that its nodes share. Each node contributes once, in the
  order of the ids; so after the build each header that some node wants is claimed, in the order of
  first wishes, and every finding of every node has been reported.
Main exports: NodeKind.headers, NodeKind.contribute_eq, Session.afterAll,
  Session.claimedHeaders_afterAll, Session.diagnostics_afterAll, BindingTree.Recorded,
  BindingTree.recorded_of_build
-/
import RubyBindings.Proofs.BindingTree.BuildRun
import Mathlib.Data.List.Induction

namespace RubyBindings

variable {hierarchy : Hierarchy}

/-! ## One contribution -/

/-- The headers of a list that nobody has claimed yet, each of them once. -/
def Session.unclaimed (session : Session) (headers : List String) : List String :=
  (headers.filter (· ∉ session.claimedHeaders)).eraseDups

/-- The first header of a list is left out if it is claimed already; otherwise it counts as claimed
for the others. -/
theorem Session.unclaimed_cons (session : Session) (header : String) (headers : List String) :
    session.unclaimed (header :: headers) =
      if header ∈ session.claimedHeaders then session.unclaimed headers
      else header ::
        { session with claimedHeaders := session.claimedHeaders ++ [header] : Session }.unclaimed
          headers := by
  simp only [unclaimed]
  split
  · rename_i claimed
    rw [List.filter_cons_of_neg (by simpa using claimed)]
  · rename_i free
    rw [List.filter_cons_of_pos (by simpa using free), List.eraseDups_cons, List.filter_filter]
    congr 2
    apply List.filter_congr
    intro other _
    by_cases same : other = header <;> simp [same]

/-- Claiming some headers includes those that are free. -/
theorem Session.includeHeaders_eq (session : Session) (headers : List String) :
    session.includeHeaders headers =
      ((session.unclaimed headers).map includeLine,
        { session with
          claimedHeaders := session.claimedHeaders ++ session.unclaimed headers }) := by
  induction headers generalizing session with
  | nil => simp [includeHeaders, unclaimed]
  | cons header headers ih =>
      rw [includeHeaders, includeHeader, claimHeader, unclaimed_cons]
      by_cases claimed : header ∈ session.claimedHeaders
      · simp [claimed, ih]
      · simp [claimed, ih]

/-- The headers that a node wants: the extension those of the whole library behind the one that the
generated code is written against, any other node the header of its own entity. -/
def NodeKind.headers (hierarchy : Hierarchy) (id : EntityId) : NodeKind → List String
  | .extension => bindingHeader :: hierarchy.headers
  | _ => (hierarchy.declaration id).header.toList

/-- What a node contributes, and what it leaves in the session: the headers that it wants, as far as
they are free, and its findings. -/
theorem NodeKind.contribute_eq (hierarchy : Hierarchy) (id : EntityId) (kind : NodeKind)
    (session : Session) :
    kind.contribute hierarchy id session =
      ({ includes := (session.unclaimed (kind.headers hierarchy id)).map includeLine
         declarations := kind.declarations hierarchy id
         registrations := kind.registrations hierarchy id },
        { claimedHeaders :=
            session.claimedHeaders ++ session.unclaimed (kind.headers hierarchy id)
          diagnostics := session.diagnostics ++ kind.findings hierarchy id }) := by
  have reported : ∀ (findings : List Diagnostic) (session : Session),
      findings.foldl Session.addDiagnostic session =
        { session with diagnostics := session.diagnostics ++ findings } := by
    intro findings
    induction findings with
    | nil => simp
    | cons finding findings ih => simp [ih, Session.addDiagnostic]
  cases kind with
  | extension => simp [contribute, headers, declarations, registrations, findings,
      Session.includeHeaders_eq]
  | moduleScope | classType | constructor | method | function | enumType =>
      simp [contribute, headers, registrations, Session.includeOwnHeader, Session.includeHeaders_eq,
        reported]

/-! ## All contributions -/

/-- A node as far as it decides on what it contributes: its kind, and its entity. -/
abbrev Contributor := NodeKind × EntityId

namespace Session

/-- The session after some nodes have contributed, one after the other. -/
def afterAll (hierarchy : Hierarchy) (session : Session) (contributors : List Contributor) :
    Session :=
  contributors.foldl (fun session (kind, entity) => (kind.contribute hierarchy entity session).2)
    session

theorem afterAll_concat (session : Session) (contributors : List Contributor) (kind : NodeKind)
    (entity : EntityId) :
    session.afterAll hierarchy (contributors ++ [(kind, entity)]) =
      (kind.contribute hierarchy entity (session.afterAll hierarchy contributors)).2 := by
  rw [afterAll, List.foldl_append]
  rfl

/-- Every finding is reported, in the order of the contributions. -/
theorem diagnostics_afterAll (session : Session) (contributors : List Contributor) :
    (session.afterAll hierarchy contributors).diagnostics =
      session.diagnostics ++
        contributors.flatMap fun (kind, entity) => kind.findings hierarchy entity := by
  induction contributors generalizing session with
  | nil => simp [afterAll]
  | cons contributor contributors ih =>
      obtain ⟨kind, entity⟩ := contributor
      have first : (kind.contribute hierarchy entity session).2.diagnostics =
          session.diagnostics ++ kind.findings hierarchy entity := by rw [NodeKind.contribute_eq]
      rw [List.flatMap_cons, ← List.append_assoc, ← first]
      exact ih (kind.contribute hierarchy entity session).2

/-- In a fresh session, each wanted header is claimed where it is wanted first. -/
theorem claimedHeaders_afterAll (contributors : List Contributor) :
    (fresh.afterAll hierarchy contributors).claimedHeaders =
      (contributors.flatMap fun (kind, entity) => kind.headers hierarchy entity).eraseDups := by
  induction contributors using List.reverseRecOn with
  | nil => rfl
  | append_singleton contributors contributor ih =>
      obtain ⟨kind, entity⟩ := contributor
      rw [afterAll_concat, NodeKind.contribute_eq, List.flatMap_append, List.eraseDups_append,
        List.removeAll]
      simp only [unclaimed, ih, List.mem_eraseDups, List.flatMap_singleton, List.elem_eq_mem,
        decide_not]

end Session

namespace BindingTree

/-- The first nodes of a tree as contributors. -/
def contributors (tree : BindingTree hierarchy) (count : Nat) : List Contributor :=
  (List.range count).map fun id => ((tree.node id).kind, (tree.node id).entity)

theorem contributors_succ (tree : BindingTree hierarchy) (count : Nat) :
    tree.contributors (count + 1) =
      tree.contributors count ++ [((tree.node count).kind, (tree.node count).entity)] := by
  rw [contributors, List.range_succ, List.map_append]
  rfl

/-- Kinds and entities are all that matters about the nodes. -/
theorem contributors_congr {before after : BindingTree hierarchy} {count : Nat}
    (same : ∀ id < count, (after.node id).kind = (before.node id).kind ∧
      (after.node id).entity = (before.node id).entity) :
    after.contributors count = before.contributors count := by
  apply List.map_congr_left
  intro id member
  obtain ⟨kind, entity⟩ := same id (List.mem_range.mp member)
  rw [kind, entity]

/-- The first nodes of a tree have contributed, in the order of their ids, and nobody else has: the
session is what they have made of it, and each of them has the include lines that were left to it. -/
structure Recorded (start : Session) (workspace : Workspace hierarchy) (count : Nat) : Prop where
  session : workspace.session = start.afterAll hierarchy (workspace.tree.contributors count)
  includes : ∀ id < count, (workspace.tree.node id).fragments.includes =
    ((start.afterAll hierarchy (workspace.tree.contributors id)).unclaimed
      ((workspace.tree.node id).kind.headers hierarchy (workspace.tree.node id).entity)).map
        includeLine

namespace Recorded

variable {start : Session} {before : Workspace hierarchy} {count : Nat}

/-- What the nodes that have contributed keep of their kinds, entities and include lines keeps the
record. -/
theorem congr (recorded : Recorded start before count) {after : Workspace hierarchy}
    (session : after.session = before.session)
    (node : ∀ id < count, (after.tree.node id).kind = (before.tree.node id).kind ∧
      (after.tree.node id).entity = (before.tree.node id).entity ∧
      (after.tree.node id).fragments = (before.tree.node id).fragments) :
    Recorded start after count := by
  have same : ∀ first ≤ count, after.tree.contributors first = before.tree.contributors first := by
    intro first few
    apply contributors_congr
    intro id small
    obtain ⟨kind, entity, -⟩ := node id (Nat.lt_of_lt_of_le small few)
    exact ⟨kind, entity⟩
  constructor
  · rw [session, same count (Nat.le_refl count), recorded.session]
  · intro id small
    obtain ⟨kind, entity, fragments⟩ := node id small
    rw [fragments, kind, entity, same id (Nat.le_of_lt small), recorded.includes id small]

/-- A change of a node that leaves its kind, its entity and its fragments alone. -/
theorem update (recorded : Recorded start before count) {change : BindingNode → BindingNode}
    (kind : ∀ node, (change node).kind = node.kind)
    (entity : ∀ node, (change node).entity = node.entity)
    (fragments : ∀ node, (change node).fragments = node.fragments) (id : NodeId) :
    Recorded start { before with tree := before.tree.update id change } count :=
  recorded.congr rfl fun other _ =>
    ⟨read_update BindingNode.kind kind id other, read_update BindingNode.entity entity id other,
      read_update BindingNode.fragments fragments id other⟩

/-- A new node has not contributed yet. -/
theorem addNode (recorded : Recorded start before before.tree.size) (entity : EntityId)
    (kind : NodeKind) (parent : NodeId) :
    Recorded start (before.addNode entity kind parent) before.tree.size := by
  refine @Recorded.congr _ _ _ _ recorded (before.addNode entity kind parent) rfl ?_
  intro id small
  rw [Workspace.addNode, node_append_of_lt small]
  exact ⟨rfl, rfl, rfl⟩

/-- The next node contributes. -/
theorem contribute {id : NodeId} (recorded : Recorded start before id)
    (existing : id < before.tree.size) : Recorded start (before.contribute id) (id + 1) := by
  have old : ∀ other < id, (before.contribute id).tree.node other = before.tree.node other :=
    fun other early => node_update_of_ne (Nat.ne_of_lt early) _
  have same : ∀ count ≤ id,
      (before.contribute id).tree.contributors count = before.tree.contributors count := by
    intro count few
    apply contributors_congr
    intro other small
    rw [old other (Nat.lt_of_lt_of_le small few)]
    exact ⟨rfl, rfl⟩
  have own := node_contribute existing
  constructor
  · rw [contributors_succ, same id (Nat.le_refl id), own, Session.afterAll_concat,
      ← recorded.session]
    rfl
  · intro other small
    rcases Nat.lt_succ_iff_lt_or_eq.mp small with early | rfl
    · rw [same other (Nat.le_of_lt early), old other early]
      exact recorded.includes other early
    · rw [same other (Nat.le_refl other), own, ← recorded.session]
      dsimp only
      rw [NodeKind.contribute_eq]

end Recorded

/-- What a run does to the record: a node to be built is the one that contributes next, and in the end
every node has contributed. -/
def Records (start : Session) (before after : Workspace hierarchy) : BuildTask → Prop
  | .node id => before.tree.size = id + 1 → Recorded start before id →
      Recorded start after after.tree.size
  | .children _ _ _ => Recorded start before before.tree.size →
      Recorded start after after.tree.size

theorem records_of_buildRun {task : BuildTask} {before after : Workspace hierarchy}
    (run : BuildRun task before after) (start : Session) : Records start before after task := by
  induction run with
  | @node id before after created below ih =>
      intro last recorded
      have sizes : (before.contribute id).tree.size = id + 1 := (size_update ..).trans last
      have existing : id < before.tree.size := last ▸ Nat.lt_succ_self id
      have finished := ih (sizes ▸ recorded.contribute existing)
      have sameSize : (after.finish id).tree.size = after.tree.size := size_update ..
      rw [sameSize]
      exact finished.update (by intro _; rfl) (by intro _; rfl) (by intro _; rfl) id
  | done parent kind workspace => exact fun recorded => recorded
  | skip ineligible rest ih => exact ih
  | @make parent kind childKind entity entities before middle after eligible supported first rest
      ihFirst ihRest =>
      intro recorded
      have made := ihFirst (size_append ..) (recorded.addNode entity childKind parent)
      have sameSize : (middle.attach before.tree.size parent).tree.size = middle.tree.size :=
        size_update ..
      apply ihRest
      rw [sameSize]
      exact made.update (by intro _; rfl) (by intro _; rfl) (by intro _; rfl) parent

/-- After a successful build of the root, every node has contributed once, in the order of ids. -/
theorem recorded_of_build (descends : hierarchy.Descends) {session : Session}
    {after : Workspace hierarchy}
    (performed : (build root).perform { tree := start hierarchy, session } = (.ok (), after)) :
    Recorded session after after.tree.size := by
  have none : Recorded session { tree := start hierarchy, session } root :=
    ⟨rfl, fun _ small => absurd small (Nat.not_lt_zero _)⟩
  exact records_of_buildRun (buildRun_of_build descends performed) session rfl none

end BindingTree

end RubyBindings
