import Mathlib.Algebra.Field.ZMod
import Mathlib.Algebra.Polynomial.Div
import Mathlib.Data.Nat.Bitwise

/-!
# Numbers as polynomials over the field of two elements

The bits of a number are the coefficients of a polynomial. Exclusive or is addition, a shift
to the left is multiplication by a power of the indeterminate.
-/

namespace ApiBank.Numeric

open Polynomial

set_option autoImplicit false

abbrev Binary := Polynomial (ZMod 2)

noncomputable def binary (number : ℕ) : Binary :=
  ∑ place ∈ Finset.range number, if number.testBit place then X ^ place else 0

theorem coeff_binary (number place : ℕ) :
    (binary number).coeff place = if number.testBit place then 1 else 0 := by
  have each : ∀ other, (if number.testBit other then (X ^ other : Binary) else 0).coeff place =
      if place = other then if number.testBit place then 1 else 0 else 0 := by
    intro other
    by_cases same : place = other
    · subst same
      split <;> simp
    · split <;> simp [coeff_X_pow, same]
  rw [binary, finsetSum_coeff]
  simp only [each, Finset.sum_ite_eq, Finset.mem_range]
  split
  · rfl
  · rename_i outside
    have large : number < 2 ^ place :=
      (not_lt.mp outside).trans_lt Nat.lt_two_pow_self
    rw [Nat.testBit_lt_two_pow large]
    rfl

theorem binary_injective : Function.Injective binary := by
  intro number other same
  apply Nat.eq_of_testBit_eq
  intro place
  have coefficients := congrArg (fun polynomial => polynomial.coeff place) same
  simp only [coeff_binary] at coefficients
  cases own : number.testBit place <;> cases others : other.testBit place <;>
    simp_all

@[simp] theorem binary_zero : binary 0 = 0 := by
  simp [binary]

theorem binary_xor (number other : ℕ) :
    binary (number ^^^ other) = binary number + binary other := by
  ext place
  rw [coeff_add, coeff_binary, coeff_binary, coeff_binary, Nat.testBit_xor]
  cases number.testBit place <;> cases other.testBit place <;> decide

theorem binary_shiftLeft (number count : ℕ) :
    binary (number <<< count) = binary number * X ^ count := by
  ext place
  rw [coeff_binary, coeff_mul_X_pow', Nat.testBit_shiftLeft, coeff_binary]
  by_cases reached : count ≤ place <;> simp [reached]

theorem degree_binary_lt {number width : ℕ} (bound : number < 2 ^ width) :
    (binary number).degree < width := by
  rw [degree_lt_iff_coeff_zero]
  intro place reached
  rw [coeff_binary, Nat.testBit_lt_two_pow (bound.trans_le (Nat.pow_le_pow_right two_pos reached))]
  rfl

/-- The highest bit apart. -/
theorem binary_mod_succ (number width : ℕ) : binary (number % 2 ^ (width + 1)) =
    binary (number % 2 ^ width) + if number.testBit width then X ^ width else 0 := by
  ext place
  have place_bit : (if number.testBit width then (X ^ width : Binary) else 0).coeff place =
      if place = width then if number.testBit width then 1 else 0 else 0 := by
    split <;> simp [coeff_X_pow]
  rw [coeff_add, coeff_binary, coeff_binary, place_bit, Nat.testBit_mod_two_pow,
    Nat.testBit_mod_two_pow]
  rcases lt_trichotomy place width with below | rfl | above
  · simp [below, below.ne, below.trans (Nat.lt_succ_self width)]
  · simp
  · simp [above.ne', not_lt.mpr above.le, not_lt.mpr (Nat.succ_le_of_lt above)]

/-- In characteristic two a difference is a sum. -/
theorem binary_add_self (polynomial : Binary) : polynomial + polynomial = 0 := by
  rw [← two_smul ℕ]
  ext place
  have two : (2 : ZMod 2) = 0 := rfl
  simp [two]

end ApiBank.Numeric
