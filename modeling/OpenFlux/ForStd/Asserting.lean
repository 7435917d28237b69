import Mathlib.Init

/-!
# Assertions

A program that can fail is a function into `Option`.  Where it asserts a condition, it goes on
with `asserting`.
-/

/-- `rest`, if the condition holds. -/
def asserting {α : Type*} (c : Prop) [Decidable c] (rest : Option α) : Option α :=
  if c then rest else none

variable {α : Type*} {c : Prop} [Decidable c]

/-- An assertion that holds does nothing. -/
theorem asserting_pos (h : c) (rest : Option α) : asserting c rest = rest := if_pos h
