import Mathlib.Data.Int.Log
import Mathlib.Data.Rat.Floor
import Mathlib.Tactic.Linarith
import Mathlib.Tactic.Positivity

/-!
# Decimal rounding

Decimals are the rational numbers they denote. An arithmetic context keeps a number
of significant digits and rounds halves to the even neighbour; a column of fixed
scale keeps a number of places and rounds halves away from zero.
-/

namespace ApiBank.Numeric

set_option autoImplicit false

def nearestEven (value : ℚ) : ℤ :=
  let below := ⌊value⌋
  let rest := value - below
  if rest < 1 / 2 then below
  else if 1 / 2 < rest then below + 1
  else if below % 2 = 0 then below
  else below + 1

/-- The nearest integer, halves away from zero. -/
def nearestAway (value : ℚ) : ℤ :=
  if 0 ≤ value then ⌊value + 1 / 2⌋ else -⌊-value + 1 / 2⌋

def lastPlace (digits : ℕ) (value : ℚ) : ℚ := 10 ^ (Int.log 10 |value| + 1 - digits)

/-- The result of an operation in a context of `digits` significant digits. -/
def significant (digits : ℕ) (value : ℚ) : ℚ :=
  if value = 0 then 0
  else nearestEven (value / lastPlace digits value) * lastPlace digits value

/-- What a column with `places` decimal places stores. -/
def fixedPoint (places : ℕ) (value : ℚ) : ℚ := nearestAway (value * 10 ^ places) / 10 ^ places

theorem nearestEven_cases (value : ℚ) :
    nearestEven value = ⌊value⌋ ∨ nearestEven value = ⌊value⌋ + 1 := by
  unfold nearestEven
  dsimp only
  split
  · exact .inl rfl
  · split
    · exact .inr rfl
    · split
      · exact .inl rfl
      · exact .inr rfl

theorem nearestEven_nonneg {value : ℚ} (nonneg : 0 ≤ value) : 0 ≤ nearestEven value := by
  have below : 0 ≤ ⌊value⌋ := Int.floor_nonneg.mpr nonneg
  rcases nearestEven_cases value with rounded | rounded <;> omega

/-- A bound that is an integer survives the rounding. -/
theorem nearestEven_le {value : ℚ} {bound : ℤ} (below : value ≤ bound) :
    nearestEven value ≤ bound := by
  have floor : ⌊value⌋ ≤ bound := by
    have wide := Int.floor_le_floor below
    simpa using wide
  rcases lt_or_eq_of_le floor with strict | attained
  · rcases nearestEven_cases value with rounded | rounded <;> omega
  · have exact : value = bound := le_antisymm below (attained ▸ Int.floor_le value)
    have rest : value - (⌊value⌋ : ℚ) = 0 := by rw [exact]; simp
    have rounded : nearestEven value = ⌊value⌋ := by
      unfold nearestEven
      dsimp only
      rw [rest, if_pos (by norm_num)]
    omega

/-- A value has to pass the middle to be rounded up. -/
theorem nearestEven_le_of_lt {value : ℚ} {bound : ℤ} (below : value < bound + 1 / 2) :
    nearestEven value ≤ bound := by
  have floor := Int.floor_le value
  have top := Int.lt_floor_add_one value
  have most : ⌊value⌋ ≤ bound := by
    have strict : (⌊value⌋ : ℚ) < bound + 1 := by linarith
    have cast : ⌊value⌋ < bound + 1 := by exact_mod_cast strict
    omega
  rcases lt_or_eq_of_le most with strict | attained
  · rcases nearestEven_cases value with rounded | rounded <;> omega
  · have rest : value - (⌊value⌋ : ℚ) < 1 / 2 := by
      rw [attained]
      linarith
    have rounded : nearestEven value = ⌊value⌋ := by
      unfold nearestEven
      dsimp only
      rw [if_pos rest]
    omega

theorem le_nearestEven_add_half (value : ℚ) : value ≤ nearestEven value + 1 / 2 := by
  have top := Int.lt_floor_add_one value
  by_cases low : value - (⌊value⌋ : ℚ) ≤ 1 / 2
  · have least : (⌊value⌋ : ℚ) ≤ nearestEven value := by
      have cast : ⌊value⌋ ≤ nearestEven value := by
        rcases nearestEven_cases value with rounded | rounded <;> omega
      exact_mod_cast cast
    linarith
  · have rounded : nearestEven value = ⌊value⌋ + 1 := by
      unfold nearestEven
      dsimp only
      rw [if_neg (by linarith), if_pos (by linarith)]
    rw [rounded]
    push_cast
    linarith

theorem nearestEven_intCast (value : ℤ) : nearestEven (value : ℚ) = value := by
  unfold nearestEven
  dsimp only
  rw [Int.floor_intCast, if_pos (by norm_num)]

/-- A step of less than a whole number of units is rounded to no more units. -/
theorem nearestEven_step {value later : ℚ} {units : ℤ} (short : later < value + units) :
    nearestEven later ≤ nearestEven value + units := by
  apply nearestEven_le_of_lt
  have near := le_nearestEven_add_half value
  push_cast
  linarith

theorem nearestEven_mono {value later : ℚ} (ordered : value ≤ later) :
    nearestEven value ≤ nearestEven later := by
  rcases lt_or_eq_of_le ordered with strict | rfl
  · have short : value < later + (0 : ℤ) := by
      push_cast
      linarith
    have step := nearestEven_step short
    omega
  · exact le_refl _

/-- `units` is the whole number nearest to a quotient, the even one where two are as near. -/
def Nearest (total size units : ℤ) : Prop :=
  |2 * (total - units * size)| ≤ size ∧
    (|2 * (total - units * size)| = size → units % 2 = 0)

/-- As far from the integer below as from the one above. -/
def Halfway (value : ℚ) : Prop := value - ⌊value⌋ = 1 / 2

/-- The rest of a division of integers, as a part of one. -/
theorem div_sub_floor (numerator : ℤ) {denominator : ℤ} (positive : 0 < denominator) :
    ⌊(numerator : ℚ) / denominator⌋ = numerator / denominator ∧
      (numerator : ℚ) / denominator - (numerator / denominator : ℤ) =
        (numerator % denominator : ℤ) / denominator := by
  constructor
  · lift denominator to ℕ using positive.le
    exact_mod_cast Rat.floor_intCast_div_natCast numerator denominator
  · have nonzero : (denominator : ℚ) ≠ 0 := by exact_mod_cast positive.ne'
    have split : (denominator * (numerator / denominator) + numerator % denominator : ℤ) =
        numerator := Int.mul_ediv_add_emod numerator denominator
    have cast : (denominator : ℚ) * (numerator / denominator : ℤ) + (numerator % denominator : ℤ) =
        numerator := by exact_mod_cast split
    field_simp
    linarith

theorem nearestAway_nonneg {value : ℚ} (nonneg : 0 ≤ value) : 0 ≤ nearestAway value := by
  unfold nearestAway
  rw [if_pos nonneg]
  exact Int.floor_nonneg.mpr (by linarith)

theorem lastPlace_pos (digits : ℕ) (value : ℚ) : 0 < lastPlace digits value := by
  unfold lastPlace
  exact zpow_pos (by norm_num) _

theorem significant_nonneg (digits : ℕ) {value : ℚ} (nonneg : 0 ≤ value) :
    0 ≤ significant digits value := by
  unfold significant
  split
  · exact le_refl 0
  · have place := lastPlace_pos digits value
    have rounded : 0 ≤ nearestEven (value / lastPlace digits value) :=
      nearestEven_nonneg (div_nonneg nonneg place.le)
    exact mul_nonneg (by exact_mod_cast rounded) place.le

/-- A whole number of few enough digits, before any number of zeros or behind the point. -/
theorem significant_scaled {digits : ℕ} {units : ℤ} (exponent : ℤ) (fits : |units| < 10 ^ digits) :
    significant digits (units * 10 ^ exponent) = units * 10 ^ exponent := by
  have scale : (0 : ℚ) < 10 ^ exponent := zpow_pos (by norm_num) exponent
  unfold significant
  split
  · rename_i zero
    exact zero.symm
  · rename_i nonzero
    have size : |(units : ℚ) * 10 ^ exponent| < 10 ^ ((digits : ℤ) + exponent) := by
      rw [abs_mul, abs_of_pos scale, zpow_add₀ (by norm_num), zpow_natCast]
      have cast : |(units : ℚ)| < 10 ^ digits := by exact_mod_cast fits
      exact mul_lt_mul_of_pos_right cast scale
    have log : Int.log 10 |(units : ℚ) * 10 ^ exponent| < (digits : ℤ) + exponent :=
      (Int.lt_zpow_iff_log_lt (by norm_num) (abs_pos.mpr nonzero)).mp (by exact_mod_cast size)
    obtain ⟨spare, room⟩ := Int.eq_ofNat_of_zero_le
      (show 0 ≤ exponent - (Int.log 10 |(units : ℚ) * 10 ^ exponent| + 1 - digits) by omega)
    have place : (10 : ℚ) ^ exponent = 10 ^ spare *
        lastPlace digits ((units : ℚ) * 10 ^ exponent) := by
      unfold lastPlace
      rw [← zpow_natCast (10 : ℚ) spare, ← zpow_add₀ (by norm_num)]
      congr 1
      omega
    have positive := lastPlace_pos digits ((units : ℚ) * 10 ^ exponent)
    have whole : (units : ℚ) * 10 ^ exponent / lastPlace digits ((units : ℚ) * 10 ^ exponent) =
        ((units * 10 ^ spare : ℤ) : ℚ) := by
      rw [div_eq_iff positive.ne']
      push_cast
      rw [mul_assoc, ← place]
    rw [whole, nearestEven_intCast, ← whole, div_mul_cancel₀ _ positive.ne']

/-- A number of few enough digits is kept as it is. -/
theorem significant_exact {digits : ℕ} {units : ℤ} (places : ℕ) (fits : |units| < 10 ^ digits) :
    significant digits ((units : ℚ) / 10 ^ places) = units / 10 ^ places := by
  have scaled : (units : ℚ) / 10 ^ places = units * 10 ^ (-(places : ℤ)) := by
    rw [zpow_neg, zpow_natCast, div_eq_mul_inv]
  rw [scaled, significant_scaled _ fits]

theorem fixedPoint_nonneg (places : ℕ) {value : ℚ} (nonneg : 0 ≤ value) :
    0 ≤ fixedPoint places value := by
  have rounded : 0 ≤ nearestAway (value * 10 ^ places) := nearestAway_nonneg (by positivity)
  unfold fixedPoint
  apply div_nonneg
  · exact_mod_cast rounded
  · positivity

end ApiBank.Numeric
