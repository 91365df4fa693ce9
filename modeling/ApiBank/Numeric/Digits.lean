import ApiBank.Numeric.Rounding
import Mathlib.Tactic.Ring

/-!
# Digits that survive rounding

Which numbers a context of some significant digits and a column of some decimal places
leave as they are. Numbers are told by how many units of a decimal place they have.
-/

namespace ApiBank.Numeric

set_option autoImplicit false

/-! ## Columns -/

theorem nearestAway_intCast (units : ℤ) : nearestAway (units : ℚ) = units := by
  have below (whole : ℤ) : ⌊(whole : ℚ) + 1 / 2⌋ = whole := by
    rw [Int.floor_eq_iff]
    constructor <;> linarith
  unfold nearestAway
  split
  · exact below units
  · have negated : ⌊-(units : ℚ) + 1 / 2⌋ = -units := by
      have cast : -(units : ℚ) = ((-units : ℤ) : ℚ) := by push_cast; rfl
      rw [cast, below]
    rw [negated, neg_neg]

theorem nearestAway_mono {value later : ℚ} (nonneg : 0 ≤ value) (ordered : value ≤ later) :
    nearestAway value ≤ nearestAway later := by
  unfold nearestAway
  rw [if_pos nonneg, if_pos (nonneg.trans ordered)]
  exact Int.floor_le_floor (by linarith)

/-- A column keeps what has no more places than it has. -/
theorem fixedPoint_exact {finer places : ℕ} (units : ℤ) (coarse : places ≤ finer) :
    fixedPoint finer ((units : ℚ) / 10 ^ places) = units / 10 ^ places := by
  obtain ⟨spare, rfl⟩ := Nat.exists_eq_add_of_le coarse
  have scale : (10 : ℚ) ^ places ≠ 0 := by positivity
  have rest : (10 : ℚ) ^ spare ≠ 0 := by positivity
  have whole : (units : ℚ) / 10 ^ places * 10 ^ (places + spare) =
      ((units * 10 ^ spare : ℤ) : ℚ) := by
    push_cast
    rw [pow_add]
    field_simp
  unfold fixedPoint
  rw [whole, nearestAway_intCast, ← whole, mul_div_assoc, div_self (by positivity), mul_one]

theorem fixedPoint_mono {places : ℕ} {value later : ℚ} (nonneg : 0 ≤ value)
    (ordered : value ≤ later) : fixedPoint places value ≤ fixedPoint places later := by
  have scale : (0 : ℚ) < 10 ^ places := by positivity
  have scaled : value * 10 ^ places ≤ later * 10 ^ places :=
    mul_le_mul_of_nonneg_right ordered scale.le
  have units := nearestAway_mono (mul_nonneg nonneg scale.le) scaled
  unfold fixedPoint
  have cast : (nearestAway (value * 10 ^ places) : ℚ) ≤ nearestAway (later * 10 ^ places) := by
    exact_mod_cast units
  exact div_le_div_of_nonneg_right cast scale.le

/-! ## Contexts -/

theorem div_pow_eq_zpow (units : ℤ) (places spare : ℕ) :
    ((units * 10 ^ spare : ℤ) : ℚ) / 10 ^ places = units * 10 ^ ((spare : ℤ) - places) := by
  rw [zpow_sub₀ (by norm_num), zpow_natCast, zpow_natCast]
  push_cast
  ring

theorem scaled_lt (digits : ℕ) (value : ℚ) :
    |value / lastPlace digits value| < 10 ^ digits := by
  have place := lastPlace_pos digits value
  have top : |value| < (10 : ℚ) ^ (Int.log 10 |value| + 1) := by
    have below := Int.lt_zpow_succ_log_self (b := 10) (by norm_num) |value|
    exact_mod_cast below
  have split : (10 : ℚ) ^ digits * lastPlace digits value = 10 ^ (Int.log 10 |value| + 1) := by
    unfold lastPlace
    rw [← zpow_natCast (10 : ℚ) digits, ← zpow_add₀ (by norm_num)]
    congr 1
    ring
  rw [abs_div, abs_of_pos place, div_lt_iff₀ place, split]
  exact top

/-- At most so many digits, but for zeros at the end. -/
def HasDigits (digits : ℕ) (units : ℤ) : Prop :=
  ∃ spare : ℕ, 10 ^ spare ∣ units ∧ |units| < 10 ^ (digits + spare)

theorem significant_of_hasDigits {digits : ℕ} {units : ℤ} (places : ℕ)
    (short : HasDigits digits units) :
    significant digits ((units : ℚ) / 10 ^ places) = units / 10 ^ places := by
  obtain ⟨spare, ⟨leading, rfl⟩, bound⟩ := short
  have fits : |leading| < 10 ^ digits := by
    have scale : (0 : ℤ) < 10 ^ spare := by positivity
    rw [abs_mul, abs_of_pos scale, pow_add, mul_comm] at bound
    exact lt_of_mul_lt_mul_right bound scale.le
  rw [mul_comm, div_pow_eq_zpow]
  exact significant_scaled _ fits

/-- The weight of the last digit is a power of ten, told from the decimal places. -/
theorem units_of_scaled {digits places : ℕ} {units leading : ℤ}
    (scaled : (units : ℚ) / 10 ^ places / lastPlace digits ((units : ℚ) / 10 ^ places) = leading) :
    (units : ℚ) = leading *
      10 ^ (Int.log 10 |(units : ℚ) / 10 ^ places| + 1 - digits + places) := by
  have place := lastPlace_pos digits ((units : ℚ) / 10 ^ places)
  have scale : (10 : ℚ) ^ places ≠ 0 := by positivity
  rw [div_eq_iff place.ne', div_eq_iff scale] at scaled
  rw [zpow_add₀ (by norm_num), zpow_natCast, ← mul_assoc]
  exact scaled

theorem hasDigits_of_significant {digits places : ℕ} {units : ℤ}
    (kept : significant digits ((units : ℚ) / 10 ^ places) = units / 10 ^ places) :
    HasDigits digits units := by
  unfold significant at kept
  split at kept
  · rename_i zero
    have none : units = 0 := by simpa using zero
    exact ⟨0, by simp [none]⟩
  · generalize leading_eq : nearestEven ((units : ℚ) / 10 ^ places /
      lastPlace digits ((units : ℚ) / 10 ^ places)) = leading at kept
    have place := lastPlace_pos digits ((units : ℚ) / 10 ^ places)
    have scaled : (units : ℚ) / 10 ^ places / lastPlace digits ((units : ℚ) / 10 ^ places) =
        leading := by
      rw [div_eq_iff place.ne', kept]
    have fits : |leading| < 10 ^ digits := by
      have bound := scaled_lt digits ((units : ℚ) / 10 ^ places)
      rw [scaled] at bound
      exact_mod_cast bound
    have shown := units_of_scaled scaled
    generalize Int.log 10 |(units : ℚ) / 10 ^ places| + 1 - digits + places = weight at shown
    rcases le_total 0 weight with nonneg | nonpos
    · obtain ⟨spare, rfl⟩ := Int.eq_ofNat_of_zero_le nonneg
      rw [zpow_natCast] at shown
      have whole : units = leading * 10 ^ spare := by exact_mod_cast shown
      refine ⟨spare, ⟨leading, by rw [whole, mul_comm]⟩, ?_⟩
      have scale : (0 : ℤ) < 10 ^ spare := by positivity
      rw [whole, abs_mul, abs_of_pos scale, pow_add]
      exact mul_lt_mul_of_pos_right fits scale
    · refine ⟨0, by simp, ?_⟩
      have small : (10 : ℚ) ^ weight ≤ 1 := zpow_le_one_of_nonpos₀ (by norm_num) nonpos
      have least : |(units : ℚ)| ≤ |(leading : ℚ)| := by
        have positive : (0 : ℚ) < 10 ^ weight := zpow_pos (by norm_num) weight
        rw [shown, abs_mul, abs_of_pos positive]
        exact mul_le_of_le_one_right (abs_nonneg _) small
      have cast : |units| ≤ |leading| := by exact_mod_cast least
      exact lt_of_le_of_lt cast (by simpa using fits)

/-- A context keeps a decimal just when it has digits for it. -/
theorem significant_exact_iff {digits places : ℕ} {units : ℤ} :
    significant digits ((units : ℚ) / 10 ^ places) = units / 10 ^ places ↔
      HasDigits digits units :=
  ⟨hasDigits_of_significant, significant_of_hasDigits places⟩

/-- Rounding to digits leaves no more decimal places than there were. -/
theorem significant_whole (digits places : ℕ) (units : ℤ) :
    ∃ whole : ℤ, significant digits ((units : ℚ) / 10 ^ places) = whole / 10 ^ places := by
  by_cases few : |units| < 10 ^ digits
  · exact ⟨units, significant_exact places few⟩
  · unfold significant
    split
    · exact ⟨0, by simp⟩
    · rename_i nonzero
      have scale : (0 : ℚ) < 10 ^ places := by positivity
      have size : (10 : ℚ) ^ ((digits : ℤ) - places) ≤ |(units : ℚ) / 10 ^ places| := by
        rw [abs_div, abs_of_pos scale, zpow_sub₀ (by norm_num), zpow_natCast, zpow_natCast]
        have cast : (10 : ℚ) ^ digits ≤ |(units : ℚ)| := by exact_mod_cast not_lt.mp few
        exact div_le_div_of_nonneg_right cast scale.le
      have log : (digits : ℤ) - places ≤ Int.log 10 |(units : ℚ) / 10 ^ places| :=
        (Int.zpow_le_iff_le_log (by norm_num) (abs_pos.mpr nonzero)).mp (by exact_mod_cast size)
      obtain ⟨spare, room⟩ := Int.eq_ofNat_of_zero_le
        (show 0 ≤ Int.log 10 |(units : ℚ) / 10 ^ places| + 1 - digits + places by omega)
      refine ⟨nearestEven ((units : ℚ) / 10 ^ places /
        lastPlace digits ((units : ℚ) / 10 ^ places)) * 10 ^ spare, ?_⟩
      rw [div_pow_eq_zpow]
      congr 1
      unfold lastPlace
      congr 1
      omega

/-- A number of one digit too many is rounded to the nearest ten. -/
theorem significant_next {digits : ℕ} {units : ℤ} (places : ℕ) (least : 10 ^ digits ≤ units)
    (most : units < 10 ^ (digits + 1)) :
    significant digits ((units : ℚ) / 10 ^ places) =
      ((10 * nearestEven ((units : ℚ) / 10) : ℤ) : ℚ) / 10 ^ places := by
  have scale : (0 : ℚ) < 10 ^ places := by positivity
  have positive : (0 : ℚ) < (units : ℚ) / 10 ^ places := by
    have some : (0 : ℤ) < 10 ^ digits := by positivity
    have cast : (0 : ℚ) < units := by exact_mod_cast some.trans_le least
    exact div_pos cast scale
  have low : (10 : ℚ) ^ ((digits : ℤ) - places) ≤ (units : ℚ) / 10 ^ places := by
    rw [zpow_sub₀ (by norm_num), zpow_natCast, zpow_natCast]
    have cast : (10 : ℚ) ^ digits ≤ units := by exact_mod_cast least
    exact div_le_div_of_nonneg_right cast scale.le
  have high : (units : ℚ) / 10 ^ places < (10 : ℚ) ^ ((digits : ℤ) - places + 1) := by
    have apart : (digits : ℤ) - places + 1 = ((digits + 1 : ℕ) : ℤ) - places := by
      push_cast
      ring
    rw [apart, zpow_sub₀ (by norm_num), zpow_natCast, zpow_natCast]
    have cast : (units : ℚ) < 10 ^ (digits + 1) := by exact_mod_cast most
    exact div_lt_div_of_pos_right cast scale
  have log : Int.log 10 ((units : ℚ) / 10 ^ places) = (digits : ℤ) - places := by
    have least : (digits : ℤ) - places ≤ Int.log 10 ((units : ℚ) / 10 ^ places) :=
      (Int.zpow_le_iff_le_log (by norm_num) positive).mp (by exact_mod_cast low)
    have most : Int.log 10 ((units : ℚ) / 10 ^ places) < (digits : ℤ) - places + 1 :=
      (Int.lt_zpow_iff_log_lt (by norm_num) positive).mp (by exact_mod_cast high)
    omega
  have place : lastPlace digits ((units : ℚ) / 10 ^ places) = 10 / 10 ^ places := by
    unfold lastPlace
    rw [abs_of_pos positive, log]
    have weight : (digits : ℤ) - places + 1 - digits = ((1 : ℕ) : ℤ) - places := by
      push_cast
      ring
    rw [weight, zpow_sub₀ (by norm_num), zpow_natCast, zpow_natCast, pow_one]
  unfold significant
  rw [if_neg positive.ne', place]
  have tens : (units : ℚ) / 10 ^ places / (10 / 10 ^ places) = units / 10 := by
    field_simp
  rw [tens]
  push_cast
  ring

end ApiBank.Numeric
