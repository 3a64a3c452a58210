/-
Module: RubyBindings.Proofs.Naming.Numeral
Purpose: The decimal numbers that names end with. A number can be read back from its digits, none of
  which is an underscore; and since it begins with a digit, it is no name itself.
Main exports: Naming.underscore_not_mem_repr, Naming.eq_of_repr_eq, Naming.numbered_inj,
  Naming.exists_digit_cons, Naming.not_isIdentifier_repr
-/
import Mathlib
import RubyBindings.Proofs.Naming.VariableName

namespace RubyBindings.Naming

theorem toList_repr (number : Nat) : (Nat.repr number).toList = Nat.toDigits 10 number := by
  rw [Nat.repr_eq_ofList_toDigits, String.toList_ofList]

theorem underscore_not_mem_repr (number : Nat) : '_' ∉ (Nat.repr number).toList := by
  rw [toList_repr]
  exact Nat.underscore_not_in_toDigits

theorem eq_of_repr_eq {number other : Nat} (same : Nat.repr number = Nat.repr other) :
    number = other := by
  have digits : Nat.toDigits 10 number = Nat.toDigits 10 other := by
    rw [← toList_repr, ← toList_repr, same]
  have values := congrArg (fun digits => Nat.ofDigitChars 10 digits 0) digits
  simpa using values

/-- A number behind an underscore can be read back, and so can what stands in front of it. -/
theorem numbered_inj {front other : String} {number otherNumber : Nat} :
    front ++ "_" ++ Nat.repr number = other ++ "_" ++ Nat.repr otherNumber ↔
      front = other ∧ number = otherNumber := by
  constructor
  · intro same
    obtain ⟨fronts, numbers⟩ := underscored_inj (underscore_not_mem_repr number)
      (underscore_not_mem_repr otherNumber) same
    exact ⟨fronts, eq_of_repr_eq numbers⟩
  · rintro ⟨rfl, rfl⟩
    rfl

theorem exists_digit_cons (number : Nat) :
    ∃ digit rest, (Nat.repr number).toList = digit :: rest ∧ digit.isDigit = true := by
  rw [toList_repr]
  cases digits : Nat.toDigits 10 number with
  | nil => exact absurd digits Nat.toDigits_ne_nil
  | cons digit rest =>
      have member : digit ∈ Nat.toDigits 10 number := by
        rw [digits]
        exact List.mem_cons_self
      exact ⟨digit, rest, rfl, Nat.isDigit_of_mem_toDigits (by decide) (by decide) member⟩

theorem startsIdentifier_of_isDigit {digit : Char} (isDigit : digit.isDigit = true) :
    startsIdentifier digit = false := by
  rw [startsIdentifier, Bool.or_eq_false_iff, beq_eq_false_iff_ne]
  constructor
  · grind [Char.isAlpha, Char.isUpper, Char.isLower, Char.isDigit]
  · rintro rfl
    exact absurd isDigit (by decide)

/-- An identifier does not begin with a digit, so no number is one. -/
theorem not_isIdentifier_repr (number : Nat) : ¬ IsIdentifier (Nat.repr number) := by
  intro identifier
  obtain ⟨digit, rest, spelled, isDigit⟩ := exists_digit_cons number
  obtain ⟨first, others, same, starts⟩ := identifier.start
  rw [spelled] at same
  cases same
  rw [startsIdentifier_of_isDigit isDigit] at starts
  cases starts

end RubyBindings.Naming
