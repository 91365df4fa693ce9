import Mathlib.Algebra.BigOperators.Group.List.Basic
import Mathlib.Algebra.Order.BigOperators.Group.List
import Mathlib.Algebra.Order.Field.Basic
import Mathlib.Algebra.Order.Field.Rat
import Mathlib.Tactic.GCongr
import Mathlib.Tactic.Linarith
import Mathlib.Tactic.Ring

/-!
# Time paid in advance

A stretch of time with what was paid for it. At an instant, the payment for the
part that is still to come is in proportion to its length. Stretches that follow
one another add up; a stretch may run backwards, and then takes time away.
-/

namespace ApiBank.Accounting

set_option autoImplicit false

structure Stretch where
  starts : ℤ
  ends : ℤ
  paid : ℤ
deriving DecidableEq, Repr

namespace Stretch

def length (stretch : Stretch) : ℤ := stretch.ends - stretch.starts

/-- The length of the part that is still to come. -/
def rest (stretch : Stretch) (now : ℤ) : ℤ := max now stretch.ends - max now stretch.starts

/-- What was paid for the part that is still to come. -/
def unused (stretch : Stretch) (now : ℤ) : ℚ :=
  stretch.paid * stretch.rest now / stretch.length

variable {stretch : Stretch}

theorem rest_of_forward (now : ℤ) (forward : 0 ≤ stretch.length) :
    0 ≤ stretch.rest now ∧ stretch.rest now ≤ stretch.length := by
  unfold length at forward
  unfold rest length
  omega

theorem rest_of_backward (now : ℤ) (backward : stretch.length ≤ 0) :
    stretch.length ≤ stretch.rest now ∧ stretch.rest now ≤ 0 := by
  unfold length at backward
  unfold rest length
  omega

/-- The part to come is at most the whole. -/
theorem share_bounds (stretch : Stretch) (now : ℤ) :
    0 ≤ (stretch.rest now : ℚ) / stretch.length ∧
      (stretch.rest now : ℚ) / stretch.length ≤ 1 := by
  rcases le_total 0 stretch.length with forward | backward
  · obtain ⟨nonneg, bound⟩ := rest_of_forward now forward
    have lengthNonneg : (0 : ℚ) ≤ stretch.length := by exact_mod_cast forward
    have restNonneg : (0 : ℚ) ≤ stretch.rest now := by exact_mod_cast nonneg
    have restBound : (stretch.rest now : ℚ) ≤ stretch.length := by exact_mod_cast bound
    exact ⟨div_nonneg restNonneg lengthNonneg, div_le_one_of_le₀ restBound lengthNonneg⟩
  · obtain ⟨bound, nonpos⟩ := rest_of_backward now backward
    have lengthNonpos : (stretch.length : ℚ) ≤ 0 := by exact_mod_cast backward
    have restNonpos : (stretch.rest now : ℚ) ≤ 0 := by exact_mod_cast nonpos
    have restBound : (stretch.length : ℚ) ≤ stretch.rest now := by exact_mod_cast bound
    refine ⟨div_nonneg_of_nonpos restNonpos lengthNonpos, ?_⟩
    exact div_le_one_of_ge restBound lengthNonpos

theorem unused_nonneg (now : ℤ) (paid : 0 ≤ stretch.paid) : 0 ≤ stretch.unused now := by
  have paidNonneg : (0 : ℚ) ≤ stretch.paid := by exact_mod_cast paid
  unfold unused
  rw [mul_div_assoc]
  exact mul_nonneg paidNonneg (share_bounds stretch now).1

theorem unused_le_paid (now : ℤ) (paid : 0 ≤ stretch.paid) : stretch.unused now ≤ stretch.paid := by
  have paidNonneg : (0 : ℚ) ≤ stretch.paid := by exact_mod_cast paid
  unfold unused
  rw [mul_div_assoc]
  exact mul_le_of_le_one_right paidNonneg (share_bounds stretch now).2

/-- A stretch that was not cheaper than `price` for `span` pays for its part to come
at that rate. -/
theorem rate_le_unused {now price span : ℤ} (priceNonneg : 0 ≤ price) (spanNonneg : 0 ≤ span)
    (paid : 0 ≤ stretch.paid)
    (rate : now < stretch.ends → price * stretch.length ≤ stretch.paid * span) :
    (price * stretch.rest now : ℚ) ≤ stretch.unused now * span := by
  have worth : 0 ≤ stretch.unused now * span :=
    mul_nonneg (unused_nonneg now paid) (by exact_mod_cast spanNonneg)
  have free (none : stretch.rest now ≤ 0) :
      (price * stretch.rest now : ℚ) ≤ stretch.unused now * span := by
    have nothing : price * stretch.rest now ≤ 0 := mul_nonpos_of_nonneg_of_nonpos priceNonneg none
    exact le_trans (by exact_mod_cast nothing) worth
  rcases le_or_gt stretch.length 0 with backward | forward
  · exact free (rest_of_backward now backward).2
  · by_cases running : now < stretch.ends
    · have dear : (price * stretch.length : ℚ) ≤ stretch.paid * span := by
        exact_mod_cast rate running
      have lengthPos : (0 : ℚ) < stretch.length := by exact_mod_cast forward
      have restNonneg : (0 : ℚ) ≤ stretch.rest now := by
        exact_mod_cast (rest_of_forward now forward.le).1
      unfold unused
      rw [div_mul_eq_mul_div, le_div_iff₀ lengthPos]
      calc (price * stretch.rest now * stretch.length : ℚ)
          = price * stretch.length * stretch.rest now := by ring
        _ ≤ stretch.paid * span * stretch.rest now := by gcongr
        _ = stretch.paid * stretch.rest now * span := by ring
    · apply free
      unfold length at forward
      unfold rest
      omega

end Stretch

/-- What was paid for the parts to come of several stretches. -/
def unusedTotal (stretches : List Stretch) (now : ℤ) : ℚ :=
  (stretches.map fun stretch => stretch.unused now).sum

def restTotal (stretches : List Stretch) (now : ℤ) : ℤ :=
  (stretches.map fun stretch => stretch.rest now).sum

def paidTotal (stretches : List Stretch) : ℤ := (stretches.map Stretch.paid).sum

theorem restTotal_append (first second : List Stretch) (now : ℤ) :
    restTotal (first ++ second) now = restTotal first now + restTotal second now := by
  simp [restTotal]

theorem unusedTotal_le_paidTotal {stretches : List Stretch} (now : ℤ)
    (paid : ∀ stretch ∈ stretches, 0 ≤ stretch.paid) :
    unusedTotal stretches now ≤ paidTotal stretches := by
  induction stretches with
  | nil => simp [unusedTotal, paidTotal]
  | cons stretch rest ih =>
      have bound := ih fun other member => paid other (List.mem_cons_of_mem stretch member)
      have first := Stretch.unused_le_paid now (paid stretch List.mem_cons_self)
      simp only [unusedTotal, paidTotal, List.map_cons, List.sum_cons, Int.cast_add] at bound ⊢
      linarith

theorem unusedTotal_nonneg {stretches : List Stretch} (now : ℤ)
    (paid : ∀ stretch ∈ stretches, 0 ≤ stretch.paid) : 0 ≤ unusedTotal stretches now := by
  apply List.sum_nonneg
  intro value member
  obtain ⟨stretch, listed, rfl⟩ := List.mem_map.mp member
  exact Stretch.unused_nonneg now (paid stretch listed)

theorem rate_le_unusedTotal {stretches : List Stretch} {now price span : ℤ}
    (priceNonneg : 0 ≤ price) (spanNonneg : 0 ≤ span)
    (paid : ∀ stretch ∈ stretches, 0 ≤ stretch.paid)
    (rate : ∀ stretch ∈ stretches, now < stretch.ends →
      price * stretch.length ≤ stretch.paid * span) :
    (price * restTotal stretches now : ℚ) ≤ unusedTotal stretches now * span := by
  induction stretches with
  | nil => simp [unusedTotal, restTotal]
  | cons stretch rest ih =>
      have later := ih (fun other member => paid other (List.mem_cons_of_mem stretch member))
        fun other member => rate other (List.mem_cons_of_mem stretch member)
      have first := Stretch.rate_le_unused priceNonneg spanNonneg
        (paid stretch List.mem_cons_self) (rate stretch List.mem_cons_self)
      simp only [unusedTotal, restTotal, List.map_cons, List.sum_cons, Int.cast_add] at later ⊢
      linarith

end ApiBank.Accounting
