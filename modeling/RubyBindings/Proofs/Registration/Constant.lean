/-
Module: RubyBindings.Proofs.Registration.Constant
Purpose: The Ruby constants that a module, a class or an enumeration is registered with: its own,
  and one for each enumerator. The statement of an entity defines them, and its text shows each of
  them in double quotes.
Main exports: Hierarchy.constant, Hierarchy.constantNames, Statement.constants,
  Statement.text_defineEnum, Statement.infix_text, Hierarchy.Registers,
  Hierarchy.registers_constantNames
-/
import RubyBindings.Proofs.Registration.Statement
import RubyBindings.Proofs.Source.Lines

namespace RubyBindings

open Naming (pascalCase constantName)
open Source (SourceText)

/-! ## Lines -/

namespace Source.SourceText

/-- Lines that are written one after the other, each behind the indentation. -/
theorem toList_text_foldl_line (source : SourceText) (texts : List String) :
    (texts.foldl (fun source text => source.line text) source).text.toList =
      source.text.toList ++ texts.flatMap fun text => (source.leading ++ text ++ "\n").toList := by
  rw [foldl_line_eq]
  simp [append, Text.unlines, String.toList_join, List.flatMap_map]

theorem withoutFinalNewline_concat (text : List Char) :
    withoutFinalNewline (text ++ ['\n']) = text := by
  simp [withoutFinalNewline]

end Source.SourceText

namespace Hierarchy

/-- Each call that defines an enumerator stands on a line of its own, and the last one ends the
statement. -/
theorem flatMap_enumeratorLines (qualified : String) {values : List String}
    (nonempty : values ≠ []) :
    '\n' :: (enumeratorLines qualified values).flatMap
        (fun text => ("    " ++ text ++ "\n").toList) =
      values.flatMap (fun value => ("\n    " ++ enumeratorCall qualified value).toList) ++
        [';', '\n'] := by
  induction values using enumeratorLines.induct with
  | case1 => exact absurd rfl nonempty
  | case2 value => simp [enumeratorLines]
  | case3 value values more ih =>
      rw [enumeratorLines, List.flatMap_cons, List.flatMap_cons,
        List.append_assoc ("\n    " ++ enumeratorCall qualified value).toList, ← ih more]
      · simp
      · exact more

theorem toList_enumeratorFragment (head qualified : String) {values : List String}
    (nonempty : values ≠ []) :
    ((enumeratorLines qualified values).foldl (fun source text => source.line text)
        ((SourceText.empty .cpp).line head).indent).fragment.toList =
      head.toList ++
        values.flatMap (fun value => ("\n    " ++ enumeratorCall qualified value).toList) ++
          [';'] := by
  have indented : ((SourceText.empty .cpp).line head).indent.leading = "    " := rfl
  have opened : ((SourceText.empty .cpp).line head).indent.text.toList = head.toList ++ ['\n'] := by
    simp [SourceText.indent, SourceText.line, SourceText.leading, SourceText.empty,
      Source.Indentation.leading, Source.Indentation.cpp]
  rw [SourceText.fragment, String.toList_ofList, SourceText.toList_text_foldl_line, indented, opened,
    List.append_assoc, List.singleton_append, flatMap_enumeratorLines qualified nonempty,
    ← SourceText.withoutFinalNewline_concat (_ ++ [';'])]
  simp

end Hierarchy

/-! ## Constants of statements -/

namespace Statement

/-- The constants that a statement defines, as they are written. -/
def constants : Statement → List String
  | defineModule _ _ constant | defineClass _ _ _ constant => [constant]
  | defineEnum _ _ _ constant values =>
    constant :: values.map fun value => quoted (constantName value)
  | defineConstructor _ _ | defineCallable _ _ _ _ _ => []

/-- An enumeration is defined by one statement, with a line for each enumerator. -/
theorem text_defineEnum (handle : Handle) (owner : Option String) (qualified constant : String)
    (values : List String) :
    (defineEnum handle owner qualified constant values).text.toList =
      (handle.definition ++ "Rice::define_enum<" ++ qualified ++ ">(" ++ constant ++
          owner.elim "" (fun owner => ", " ++ owner) ++ ")").toList ++
        values.flatMap
          (fun value => ("\n    " ++ Hierarchy.enumeratorCall qualified value).toList) ++ [';'] := by
  cases values with
  | nil => simp [text]
  | cons value values =>
      exact Hierarchy.toList_enumeratorFragment _ qualified (List.cons_ne_nil value values)

/-- What stands between two texts is part of the whole. -/
theorem infix_between (front text behind : String) :
    text.toList <:+: (front ++ text ++ behind).toList :=
  ⟨front.toList, behind.toList, by simp⟩

/-- A statement shows the constants that it defines. -/
theorem infix_text (statement : Statement) :
    ∀ constant ∈ statement.constants, constant.toList <:+: statement.text.toList := by
  cases statement with
  | defineModule handle owner constant =>
      intro same member
      cases List.mem_singleton.mp member
      cases owner <;> exact infix_between _ constant ");"
  | defineClass handle owner arguments constant =>
      intro same member
      cases List.mem_singleton.mp member
      cases owner <;> exact infix_between _ constant ");"
  | defineEnum handle owner qualified constant values =>
      intro same member
      rw [text_defineEnum, List.append_assoc]
      rcases List.mem_cons.mp member with rfl | member
      · have head := infix_between (handle.definition ++ "Rice::define_enum<" ++ qualified ++ ">(")
          same (owner.elim "" (fun owner => ", " ++ owner) ++ ")")
        rw [← String.append_assoc] at head
        exact List.infix_append_of_infix_left head
      · obtain ⟨value, listed, rfl⟩ := List.mem_map.mp member
        have call := infix_between ".define_value(" (quoted (constantName value))
          (", " ++ qualified ++ "::" ++ value ++ ")")
        simp only [← String.append_assoc] at call
        have line : (quoted (constantName value)).toList <:+:
            ("\n    " ++ Hierarchy.enumeratorCall qualified value).toList := by
          rw [String.toList_append]
          exact List.infix_append_of_infix_right call
        have among := line.trans (List.infix_of_mem_flatten (List.mem_map_of_mem
          (f := fun value => ("\n    " ++ Hierarchy.enumeratorCall qualified value).toList) listed))
        exact List.infix_append_of_infix_right (List.infix_append_of_infix_left among)
  | defineConstructor owner arguments => exact nofun
  | defineCallable owner definer name target cast => exact nofun

end Statement

/-! ## Constants of entities -/

namespace Hierarchy

variable (hierarchy : Hierarchy) (id : EntityId)

/-- The constant of a namespace, class or enumeration. -/
def constant : String :=
  match hierarchy.kind id with
  | .namespaceScope => pascalCase (hierarchy.name id)
  | .classType | .enumType | .constructor | .method | .function => constantName (hierarchy.name id)

/-- The enumerators of an enumeration. -/
def enumerators : List String :=
  match hierarchy.kind id with
  | .enumType => (hierarchy.declaration id).values
  | .namespaceScope | .classType | .constructor | .method | .function => []

/-- The C++ names that an entity registers, each with its constant. -/
def constantNames : List (String × String) :=
  (hierarchy.name id, hierarchy.constant id) ::
    (hierarchy.enumerators id).map fun value => (value, constantName value)

/-- The registration of an entity is a statement that defines some constants, and each of them is
written there in double quotes. -/
structure Registers (constants : List String) : Prop where
  statement : ∃ statement, hierarchy.statement? id = some statement ∧
    (hierarchy.kind id).nodeKind.text hierarchy id = statement.text ∧
    statement.constants = constants.map quoted
  shown : ∀ constant ∈ constants,
    (quoted constant).toList <:+: ((hierarchy.kind id).nodeKind.text hierarchy id).toList

variable {hierarchy id}

/-- A namespace, class or enumeration is registered under its constant, and the enumerators under
theirs. -/
theorem registers_constantNames {scope : EntityId} (link : hierarchy.parent id = some scope)
    (isType : (hierarchy.kind id).isType = true) :
    hierarchy.Registers id ((hierarchy.constantNames id).map Prod.snd) := by
  have made : ∃ statement, hierarchy.statement? id = some statement ∧
      statement.constants = ((hierarchy.constantNames id).map Prod.snd).map quoted := by
    rw [statement?, handle?, link, constantNames, constant, enumerators]
    cases kind : hierarchy.kind id with
    | namespaceScope | classType => exact ⟨_, rfl, rfl⟩
    | enumType => exact ⟨_, rfl, by simp [Statement.constants]⟩
    | constructor | method | function =>
        rw [kind] at isType
        cases isType
  obtain ⟨statement, found, constants⟩ := made
  have text : (hierarchy.kind id).nodeKind.text hierarchy id = statement.text := by
    rw [text_eq, found]
    rfl
  refine ⟨⟨statement, found, text, constants⟩, ?_⟩
  intro constant member
  rw [text]
  apply statement.infix_text
  rw [constants]
  exact List.mem_map_of_mem member

end Hierarchy

end RubyBindings
