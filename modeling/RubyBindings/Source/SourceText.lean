/-
Module: RubyBindings.Source.SourceText
Purpose: Indented source text under construction. Text is only ever added at the end; the depth
  says how many levels of indentation stand in front of the next line and never falls below zero.
Main exports: SourceText, Edit, SourceText.apply, SourceText.fragment
-/
import RubyBindings.Source.Indentation
import RubyBindings.Text.Lines

namespace RubyBindings.Source

/-- Source text written so far, and the depth the next line is written at. -/
structure SourceText where
  indentation : Indentation
  depth : Nat
  text : String
deriving DecidableEq, Repr

/-- One step of writing source text. -/
inductive Edit where
  /-- Write a text as one line; newlines inside it are not indented anew. -/
  | line (text : String)
  /-- Write every line of a text at the current depth; empty lines stay empty. -/
  | lines (text : String)
  | blank
  | indent
  | dedent
deriving DecidableEq, Repr

namespace SourceText

/-- No text yet, at depth zero. -/
def empty (indentation : Indentation) : SourceText :=
  { indentation, depth := 0, text := "" }

/-- The indentation in front of the next line. -/
def leading (source : SourceText) : String :=
  String.ofList (source.indentation.leading source.depth)

/-- Write a text as one line at the current depth. -/
def line (text : String) (source : SourceText) : SourceText :=
  { source with text := source.text ++ source.leading ++ text ++ "\n" }

/-- Write an empty line. -/
def blank (source : SourceText) : SourceText :=
  { source with text := source.text ++ "\n" }

/-- Write one line of a longer text, without indentation if it is empty. -/
def lineOrBlank (source : SourceText) (text : String) : SourceText :=
  if text = "" then source.blank else source.line text

/-- Write every line of a text at the current depth; empty lines stay empty. -/
def lines (text : String) (source : SourceText) : SourceText :=
  (Text.lines text).foldl lineOrBlank source

/-- Go one level deeper. -/
def indent (source : SourceText) : SourceText :=
  { source with depth := source.depth + 1 }

/-- Go one level back; at depth zero nothing changes. -/
def dedent (source : SourceText) : SourceText :=
  { source with depth := source.depth - 1 }

/-- Do one step. -/
def apply (source : SourceText) : Edit → SourceText
  | .line text => source.line text
  | .lines text => source.lines text
  | .blank => source.blank
  | .indent => source.indent
  | .dedent => source.dedent

/-- Do a list of steps in order. -/
def applyAll (source : SourceText) (edits : List Edit) : SourceText :=
  edits.foldl apply source

/-- A text without the newline at its end, if it has one. -/
def withoutFinalNewline (text : List Char) : List Char :=
  match text.reverse with
  | '\n' :: front => front.reverse
  | _ => text

/-- The text without the newline at its end, for a fragment that is placed by someone else. -/
def fragment (source : SourceText) : String :=
  String.ofList (withoutFinalNewline source.text.toList)

end SourceText

end RubyBindings.Source
