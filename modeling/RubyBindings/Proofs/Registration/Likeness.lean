/-
Module: RubyBindings.Proofs.Registration.Likeness
Purpose: Hierarchies that look alike register their common entities alike. Whatever a text, a Ruby
  name or a finding is made from is read from eligible siblings, from the scopes around an entity,
  or from the superclasses above it.
Main exports: Hierarchy.LooksLike.callableName_eq, Hierarchy.LooksLike.text_eq,
  Hierarchy.LooksLike.contribute_eq, Hierarchy.LooksLike.nodeHandle?_eq
-/
import RubyBindings.Proofs.Hierarchy.Likeness
import RubyBindings.Registration.Contribution

namespace RubyBindings.Hierarchy.LooksLike

open Naming (snakeCase)

variable {narrow wide : Hierarchy} (like : wide.LooksLike narrow) {id : EntityId}
  (existing : id < narrow.size)
include like

/-! ## Overloads and Ruby names -/

/-- What is looked for among the eligible children of a scope is found among the same ones, if it
looks alike. -/
theorem filter_children_eq {scope : EntityId} (inScope : scope < narrow.size)
    {wideTest narrowTest : EntityId → Bool}
    (same : ∀ child < narrow.size, wideTest child = narrowTest child) :
    ((wide.children scope).filter fun child => wide.isEligible child && wideTest child) =
      (narrow.children scope).filter fun child => narrow.isEligible child && narrowTest child := by
  have inside : ∀ child ∈ (narrow.children scope).filter narrow.isEligible,
      wideTest child = narrowTest child :=
    fun child member => same child (like.child_lt_size (List.mem_of_mem_filter member))
  calc ((wide.children scope).filter fun child => wide.isEligible child && wideTest child)
      = ((wide.children scope).filter wide.isEligible).filter wideTest := by
        simp only [List.filter_filter, Bool.and_comm]
    _ = ((narrow.children scope).filter narrow.isEligible).filter narrowTest := by
        rw [like.eligible scope inScope, List.filter_congr inside]
    _ = _ := by simp only [List.filter_filter, Bool.and_comm]

theorem sharesSignature_eq {other : EntityId} (existing : id < narrow.size)
    (otherExisting : other < narrow.size) :
    wide.sharesSignature id other = narrow.sharesSignature id other := by
  rw [sharesSignature, sharesSignature, like.kind_eq existing, like.kind_eq otherExisting,
    like.name_eq existing, like.name_eq otherExisting]

theorem overloads_eq {scope : EntityId} (inScope : scope < narrow.size)
    (existing : id < narrow.size) : wide.overloads scope id = narrow.overloads scope id :=
  like.filter_children_eq inScope fun _ other => like.sharesSignature_eq existing other

theorem takenNames_eq {scope : EntityId} (inScope : scope < narrow.size)
    (existing : id < narrow.size) : wide.takenNames scope id = narrow.takenNames scope id := by
  have sameTest : ∀ sibling < narrow.size,
      (wide.isCallable sibling && !wide.sharesSignature id sibling) =
        (narrow.isCallable sibling && !narrow.sharesSignature id sibling) := by
    intro sibling other
    rw [isCallable, isCallable, like.kind_eq other, like.sharesSignature_eq existing other]
  have siblings := like.filter_children_eq inScope sameTest
  simp only [takenNames, Bool.and_assoc, siblings]
  apply List.map_congr_left
  intro sibling member
  rw [like.name_eq (like.child_lt_size (List.mem_of_mem_filter member))]

include existing

theorem overload_eq : wide.overload id = narrow.overload id := by
  rw [overload, overload, like.parent id existing]
  cases link : narrow.parent id with
  | none => rfl
  | some scope =>
      dsimp only
      rw [like.overloads_eq (like.parent_lt_size link) existing]

/-- Callables get the same Ruby names. -/
theorem callableName_eq : wide.callableName id = narrow.callableName id := by
  rw [callableName, callableName, like.parent id existing, like.overload_eq existing,
    like.name_eq existing]
  cases link : narrow.parent id with
  | none => rfl
  | some scope =>
      cases (narrow.overload id).position with
      | zero => rfl
      | succ position =>
          dsimp only
          rw [like.takenNames_eq (like.parent_lt_size link) existing]

/-! ## Variables and texts -/

theorem handle?_eq : wide.handle? id = narrow.handle? id := by
  rw [handle?, handle?, like.qualifiedName id existing, like.parent id existing,
    like.kind_eq existing]

theorem ownerHandle?_eq : wide.ownerHandle? id = narrow.ownerHandle? id := by
  rw [ownerHandle?, ownerHandle?, like.parent id existing]
  cases link : narrow.parent id with
  | none => rfl
  | some scope => exact like.handle?_eq (like.parent_lt_size link)

theorem moduleText_eq : wide.moduleText id = narrow.moduleText id := by
  rw [moduleText, moduleText, like.name_eq existing, like.handle?_eq existing,
    like.ownerHandle?_eq existing]

/-- A superclass is filtered alike by what looks alike. -/
theorem superclass_filter_eq {wideTest narrowTest : EntityId → Bool}
    (same : ∀ superclass < narrow.size, wideTest superclass = narrowTest superclass) :
    (wide.superclass id).filter wideTest = (narrow.superclass id).filter narrowTest := by
  rw [like.superclass_eq existing]
  cases link : narrow.superclass id with
  | none => rfl
  | some superclass =>
      rw [Option.filter_some, Option.filter_some, same superclass (like.closed id superclass link)]

theorem wrappedBase?_eq : wide.wrappedBase? id = narrow.wrappedBase? id :=
  like.superclass_filter_eq existing fun _ => like.isWrapped_eq

theorem unwrappedBase?_eq : wide.unwrappedBase? id = narrow.unwrappedBase? id :=
  like.superclass_filter_eq existing fun _ above => congrArg not (like.isWrapped_eq above)

theorem classArguments_eq : wide.classArguments id = narrow.classArguments id := by
  rw [classArguments, classArguments, like.wrappedBase?_eq existing, like.qualifiedName id existing]
  cases named : narrow.wrappedBase? id with
  | none => rfl
  | some base =>
      obtain ⟨link, -⟩ := Option.filter_eq_some_iff.mp named
      dsimp only
      rw [like.qualifiedName base (like.closed id base link)]

theorem classText_eq : wide.classText id = narrow.classText id := by
  rw [classText, classText, like.name_eq existing, like.classArguments_eq existing,
    like.handle?_eq existing, like.ownerHandle?_eq existing]

theorem enumText_eq : wide.enumText id = narrow.enumText id := by
  rw [enumText, enumText, like.handle?_eq existing, like.qualifiedName id existing,
    like.name_eq existing, like.ownerHandle?_eq existing, like.declaration id existing]

theorem constructorText_eq : wide.constructorText id = narrow.constructorText id := by
  rw [constructorText, constructorText, like.parent id existing, like.ownerHandle?_eq existing,
    like.declaration id existing]
  cases link : narrow.parent id with
  | none => rfl
  | some owningClass =>
      have qualified := like.qualifiedName owningClass (like.parent_lt_size link)
      cases narrow.ownerHandle? id <;> simp only [qualified]

theorem aliasName?_eq : wide.aliasName? id = narrow.aliasName? id := by
  rw [aliasName?, aliasName?, like.overload_eq existing, like.qualifiedName id existing]

theorem memberScope_eq : wide.memberScope id = narrow.memberScope id := by
  rw [memberScope, memberScope, like.parent id existing, like.declaration id existing]
  cases link : narrow.parent id with
  | none => rfl
  | some owningClass =>
      dsimp only
      rw [like.qualifiedName owningClass (like.parent_lt_size link)]

theorem aliasText?_eq : wide.aliasText? id = narrow.aliasText? id := by
  rw [aliasText?, aliasText?, like.aliasName?_eq existing, like.memberScope_eq existing,
    like.declaration id existing]

theorem callablePointer_eq : wide.callablePointer id = narrow.callablePointer id := by
  rw [callablePointer, callablePointer, like.qualifiedName id existing, like.aliasName?_eq existing]

theorem callableText_eq : wide.callableText id = narrow.callableText id := by
  rw [callableText, callableText, like.callableName_eq existing, like.callablePointer_eq existing,
    like.ownerHandle?_eq existing, like.declaration id existing]

/-! ## What a node adds -/

omit existing in
theorem extensionText_eq : wide.extensionText = narrow.extensionText := by
  unfold extensionText
  rw [like.name_eq like.nested.hasRoot]

/-- Nodes have the same texts. -/
theorem text_eq (kind : NodeKind) : kind.text wide id = kind.text narrow id := by
  cases kind with
  | extension => exact like.extensionText_eq
  | moduleScope => exact like.moduleText_eq existing
  | classType => exact like.classText_eq existing
  | constructor => exact like.constructorText_eq existing
  | method => exact like.callableText_eq existing
  | function => exact like.callableText_eq existing
  | enumType => exact like.enumText_eq existing

theorem declarations_eq (kind : NodeKind) :
    kind.declarations wide id = kind.declarations narrow id := by
  cases kind with
  | method | function => exact congrArg Option.toList (like.aliasText?_eq existing)
  | extension | moduleScope | classType | constructor | enumType => rfl

/-- The same superclasses are missed. -/
theorem findings_eq (kind : NodeKind) : kind.findings wide id = kind.findings narrow id := by
  cases kind with
  | classType =>
      simp only [NodeKind.findings, like.unwrappedBase?_eq existing]
      apply List.map_congr_left
      intro superclass member
      obtain ⟨link, -⟩ := Option.filter_eq_some_iff.mp (Option.mem_toList.mp member)
      rw [unwrappedBaseWarning, unwrappedBaseWarning, like.qualifiedName id existing,
        like.qualifiedName superclass (like.closed id superclass link)]
  | extension | moduleScope | constructor | method | function | enumType => rfl

/-- Nodes claim the same headers, report the same findings and have the same fragments. -/
theorem contribute_eq (kind : NodeKind) (session : Session) :
    kind.contribute wide id session = kind.contribute narrow id session := by
  have ownHeader : session.includeOwnHeader wide id = session.includeOwnHeader narrow id := by
    rw [Session.includeOwnHeader, Session.includeOwnHeader, like.declaration id existing]
  have text := like.text_eq existing kind
  have findings := like.findings_eq existing kind
  have declarations := like.declarations_eq existing kind
  cases kind <;>
    simp only [NodeKind.contribute, like.headers, ownHeader, text, findings, declarations]

/-- Nodes have the same variables. -/
theorem nodeHandle?_eq (kind : NodeKind) : kind.handle? wide id = kind.handle? narrow id := by
  cases kind with
  | moduleScope | classType | enumType => exact like.handle?_eq existing
  | extension | constructor | method | function => rfl

end RubyBindings.Hierarchy.LooksLike
