/-
Module: RubyBindings.Proofs.Pipeline.RubyNames
Purpose: When one Ruby method shadows another. The callables of a scope get different names, unless
  their C++ names come to one snake case spelling and each has the same place among its overloads.
Main exports: Hierarchy.registrar, Hierarchy.WrappedCallable, Hierarchy.Respelled,
  Library.callable_names_apart, Pipeline.callable_name_repeated
-/
import RubyBindings.Proofs.Pipeline.DeclaredFirst
import RubyBindings.Proofs.Registration.CallableName

namespace RubyBindings

open Naming

namespace Hierarchy

variable {hierarchy : Hierarchy} {scope id : EntityId}

/-- What a callable is registered through: a function on the variable of its scope, or the one for
global functions. -/
def registrar (hierarchy : Hierarchy) (id : EntityId) : String :=
  match hierarchy.ownerHandle? id with
  | none => "Rice::define_global_function"
  | some owner => owner.name ++ "." ++ definer (hierarchy.declaration id)

/-- A method or function that is wrapped in a scope. -/
structure WrappedCallable (hierarchy : Hierarchy) (scope id : EntityId) : Prop where
  link : hierarchy.parent id = some scope
  wrapped : hierarchy.isWrapped id = true
  callable : hierarchy.isCallable id = true

theorem WrappedCallable.mem_callables (callable : hierarchy.WrappedCallable scope id)
    (nested : hierarchy.Nested) : id ∈ hierarchy.callables scope := by
  have wrapped := callable.wrapped
  rw [nested.isWrapped_child callable.link, Bool.and_eq_true] at wrapped
  exact Hierarchy.mem_callables.mpr
    ⟨(nested.childIff scope id).mpr callable.link, wrapped.1, callable.callable⟩

/-- No two callables of a namespace or class that are registered through one function have one
name. The root is a namespace, too. -/
def NamesEveryCallable (hierarchy : Hierarchy) : Prop :=
  ∀ scope first second,
    hierarchy.kind scope = .namespaceScope ∨ hierarchy.kind scope = .classType →
      hierarchy.WrappedCallable scope first → hierarchy.WrappedCallable scope second →
        first ≠ second → hierarchy.registrar first = hierarchy.registrar second →
          hierarchy.callableName first ≠ hierarchy.callableName second

/-- Two callables are spelled alike in snake case, though they are no overloads of each other, and
each has the same place among its own overloads. -/
structure Respelled (hierarchy : Hierarchy) (first second : EntityId) : Prop where
  alike : snakeCase (hierarchy.name first) = snakeCase (hierarchy.name second)
  place : (hierarchy.overload first).position = (hierarchy.overload second).position
  renamed : hierarchy.kind first = hierarchy.kind second →
    hierarchy.name first ≠ hierarchy.name second

end Hierarchy

namespace Library

open Hierarchy

/-- The callables of a scope have different Ruby names, unless one is the other respelled. -/
theorem callable_names_apart {library : Library} (reachable : library.Reachable)
    {scope first second : EntityId}
    (firstCallable : library.hierarchy.WrappedCallable scope first)
    (secondCallable : library.hierarchy.WrappedCallable scope second) (different : first ≠ second)
    (apart : ¬ library.hierarchy.Respelled first second) :
    library.hierarchy.callableName first ≠ library.hierarchy.callableName second := by
  have nested := reachable.wellFormed.nested
  have firstMember := firstCallable.mem_callables nested
  have secondMember := secondCallable.mem_callables nested
  intro same
  obtain ⟨alike, place⟩ := (callableName_eq_iff nested firstMember secondMember).mp same
  apply apart
  refine ⟨alike, place, ?_⟩
  intro sameKind sameName
  exact different (eq_of_position firstCallable.link secondCallable.link
    (mem_overloads_of_mem_callables firstMember) (mem_overloads_of_mem_callables secondMember)
    sameKind sameName place)

/-- A class with two overloads of a method, and a method that is called like the second would be. -/
def numberedSibling : Library where
  hierarchy :=
    { entities :=
        [{ declaration := { kind := .namespaceScope, name := "lib" }
           parent := none
           children := [1]
           qualifiedName := "" },
         { declaration := { kind := .classType, name := "Shape" }
           parent := some Hierarchy.root
           children := [2, 3, 4]
           qualifiedName := "Shape" },
         { declaration := { kind := .method, name := "scale" }
           parent := some 1
           children := []
           qualifiedName := "Shape::scale" },
         { declaration := { kind := .method, name := "scale", parameters := [⟨none, "int"⟩] }
           parent := some 1
           children := []
           qualifiedName := "Shape::scale" },
         { declaration := { kind := .method, name := "scale_1" }
           parent := some 1
           children := []
           qualifiedName := "Shape::scale_1" }]
      headers := [] }
  index := ⟨[("Shape", 1), ("Shape::scale", 2), ("Shape::scale_1", 4)]⟩

theorem reachable_numberedSibling : numberedSibling.Reachable := by
  have described : ofDescription
      { name := "lib"
        headers := []
        entities :=
          [{ kind := .classType
             name := "Shape"
             children :=
               [{ kind := .method, name := "scale" },
                 { kind := .method, name := "scale", parameters := [⟨none, "int"⟩] },
                 { kind := .method, name := "scale_1" }] }] } = .ok numberedSibling := rfl
  exact .ofDescription described

/-- The second overload goes past the number that its sibling has. -/
theorem callable_names_apart_numberedSibling :
    let hierarchy := numberedSibling.hierarchy
    hierarchy.callableName 3 = "scale_2" ∧ hierarchy.callableName 4 = "scale_1" ∧
      hierarchy.callableName 3 ≠ hierarchy.callableName 4 := by
  have second : numberedSibling.hierarchy.WrappedCallable 1 3 := by
    constructor <;> decide
  have sibling : numberedSibling.hierarchy.WrappedCallable 1 4 := by
    constructor <;> decide
  refine ⟨by cbv, by cbv, ?_⟩
  apply callable_names_apart reachable_numberedSibling second sibling (by decide)
  intro respelled
  exact absurd respelled.place (by decide)

/-- A class with two methods that are spelled alike in snake case. -/
def respelledMethod : Library where
  hierarchy :=
    { entities :=
        [{ declaration := { kind := .namespaceScope, name := "lib" }
           parent := none
           children := [1]
           qualifiedName := "" },
         { declaration := { kind := .classType, name := "A" }
           parent := some Hierarchy.root
           children := [2, 3]
           qualifiedName := "A" },
         { declaration := { kind := .method, name := "fooBar" }
           parent := some 1
           children := []
           qualifiedName := "A::fooBar" },
         { declaration := { kind := .method, name := "foo_bar" }
           parent := some 1
           children := []
           qualifiedName := "A::foo_bar" }]
      headers := [] }
  index := ⟨[("A", 1), ("A::fooBar", 2), ("A::foo_bar", 3)]⟩

theorem reachable_respelledMethod : respelledMethod.Reachable := by
  have described : ofDescription
      { name := "lib"
        headers := []
        entities :=
          [{ kind := .classType
             name := "A"
             children :=
               [{ kind := .method, name := "fooBar" },
                 { kind := .method, name := "foo_bar" }] }] } = .ok respelledMethod := rfl
  exact .ofDescription described

end Library

namespace Pipeline

open Hierarchy

/-- Two methods of a class are registered under one name when their C++ names come to one
spelling, and generation succeeds. -/
theorem callable_name_repeated :
    let hierarchy := Library.respelledMethod.hierarchy
    Library.respelledMethod.Reachable ∧
      (plain hierarchy).generate.perform () = (.ok (plainState hierarchy), ()) ∧
      hierarchy.callableText 2 = "rb_cA.define_method(\"foo_bar\", &A::fooBar);" ∧
      hierarchy.callableText 3 = "rb_cA.define_method(\"foo_bar\", &A::foo_bar);" ∧
      ¬ hierarchy.NamesEveryCallable := by
  have generated := generate_plain Library.respelledMethod.hierarchy (by decide +kernel)
  refine ⟨Library.reachable_respelledMethod, generated, by cbv, by cbv, ?_⟩
  intro named
  have first : Library.respelledMethod.hierarchy.WrappedCallable 1 2 := by
    constructor <;> decide
  have second : Library.respelledMethod.hierarchy.WrappedCallable 1 3 := by
    constructor <;> decide
  exact named 1 2 3 (.inr rfl) first second (by decide) (by cbv) (by cbv)

end Pipeline

end RubyBindings
