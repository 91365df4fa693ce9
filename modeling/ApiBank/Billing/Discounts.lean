import ApiBank.Billing.Coupons
import ApiBank.Numeric.Rounding

/-!
# The arithmetic of a discount

`compute_discount` works with decimals: the context rounds each product and quotient to 28
digits, and `quantize` refuses a result with more. Prices of up to 26 digits never come
near that, and there the result is the one of exact arithmetic. A discount of at most a
hundred percent, rounded half to even, grows no faster than the price.
-/

namespace ApiBank.Billing.Discounts

open ApiBank.Db ApiBank.Numeric ApiBank.Relational ApiBank.Transition Coupons

set_option autoImplicit false

/-- `[A-Za-z0-9_-]` -/
def isCodeChar (char : Char) : Bool :=
  ('A' ≤ char && char ≤ 'Z') || ('a' ≤ char && char ≤ 'z') || ('0' ≤ char && char ≤ '9') ||
    char = '_' || char = '-'

/-- Both have a time zone, or neither: other pairs do not compare. -/
def Comparable (first second : DateTime) : Prop :=
  first.utcOffset.isSome = second.utcOffset.isSome

structure AdminCouponCreate where
  code : String
  discountType : String
  percentOff : Option Int
  amountOffVnd : Option Int
  maxDiscountVnd : Option Int
  minAmountVnd : Option Int
  maxRedemptions : Option Int
  maxPerUser : Int
  validFrom : Option DateTime
  validUntil : Option DateTime
  planCodes : List String
  active : Bool
  codeLength : 2 ≤ code.length ∧ code.length ≤ 64
  codeChars : ∀ char ∈ code.toList, isCodeChar char = true
  kind : discountType = "percent" ∨ discountType = "fixed"
  percentRange : ∀ percent, percentOff = some percent → 1 ≤ percent ∧ percent ≤ 100
  amountOffPositive : ∀ amount, amountOffVnd = some amount → 1 ≤ amount
  maxDiscountPositive : ∀ amount, maxDiscountVnd = some amount → 1 ≤ amount
  minAmountNonneg : ∀ amount, minAmountVnd = some amount → 0 ≤ amount
  maxRedemptionsPositive : ∀ count, maxRedemptions = some count → 1 ≤ count
  maxPerUserRange : 1 ≤ maxPerUser ∧ maxPerUser ≤ 100
  percentFields : discountType = "percent" → percentOff ≠ none ∧ amountOffVnd = none
  fixedFields : discountType ≠ "percent" →
    amountOffVnd ≠ none ∧ percentOff = none ∧ maxDiscountVnd = none
  window : ∀ start finish, validFrom = some start → validUntil = some finish →
    Comparable start finish ∧ start.instant < finish.instant

def newCoupon (couponId code : String) (payload : AdminCouponCreate) : Coupon where
  id := couponId
  code := code
  discountType := payload.discountType
  percentOff := payload.percentOff
  amountOffVnd := payload.amountOffVnd
  maxDiscountVnd := payload.maxDiscountVnd
  minAmountVnd := payload.minAmountVnd
  maxRedemptions := payload.maxRedemptions
  maxPerUser := payload.maxPerUser
  redeemedCount := 0
  validFrom := payload.validFrom
  validUntil := payload.validUntil
  planCodesJson := payload.planCodes
  active := payload.active

def insertCoupon (coupon : Coupon) : Session Unit := fun db =>
  match db.coupons.insert? coupon with
  | some coupons => .ok () { db with coupons }
  | none => .error .integrityError db

def adminCreateCoupon (text : CodeText) (payload : AdminCouponCreate) (couponId : String) :
    Session Coupon := do
  let db ← get
  let code := normalizeCode text payload.code
  if db.coupons.rows.any fun coupon => coupon.code = code then
    throw (.httpException 409 "coupon code already exists")
  else
    let coupon := newCoupon couponId code payload
    insertCoupon coupon
    pure coupon

/-- The precision of the default decimal context. -/
def decimalDigits : Nat := 28

/-- `value.quantize(Decimal(1))` -/
def quantizeUnit (value : ℚ) : Except Error Int :=
  if 10 ^ decimalDigits ≤ |nearestEven value| then .error .invalidOperation
  else .ok (nearestEven value)

/-- `(amount * Decimal(percent_off) / Decimal(100)).quantize(Decimal(1))` -/
def percentDiscount (amountVnd percentOff : Int) : Except Error Int :=
  quantizeUnit (significant decimalDigits
    (significant decimalDigits ((amountVnd * percentOff : Int) : ℚ) / 100))

def capped (coupon : Coupon) (discountVnd : Int) : Int :=
  match coupon.maxDiscountVnd with
  | some ceiling => min discountVnd ceiling
  | none => discountVnd

/-- Only percentages are computed; the other kinds take an amount or raise. -/
def rawDiscountDecimal (coupon : Coupon) (amountVnd : Int) : Except Error Int :=
  if coupon.discountType = "percent" then
    match coupon.percentOff with
    | none => rawDiscount coupon amountVnd
    | some percentOff => (percentDiscount amountVnd percentOff).map (capped coupon)
  else rawDiscount coupon amountVnd

/-- `compute_discount` in the decimal context. -/
def computeDiscountDecimal (coupon : Coupon) (amountVnd : Int) :
    Except Error CouponBreakdown := do
  let amount ← quantizeUnit (amountVnd : ℚ)
  match coupon.minAmountVnd with
  | some minAmountVnd =>
      if amount < minAmountVnd then
        throw (.couponNotApplicable s!"Đơn tối thiểu {thousands minAmountVnd} VND để áp mã")
  | none => pure ()
  let raw ← rawDiscountDecimal coupon amount
  let discountVnd := max 0 (min raw amount)
  let finalAmountVnd ← quantizeUnit (significant decimalDigits ((amount - discountVnd : Int) : ℚ))
  pure {
    couponId := coupon.id
    code := coupon.code
    discountType := coupon.discountType
    originalAmountVnd := amount
    discountVnd
    finalAmountVnd }

def Admissible (coupon : Coupon) (amountVnd : Int) : Prop :=
  ∀ minAmountVnd, coupon.minAmountVnd = some minAmountVnd → minAmountVnd ≤ amountVnd

structure Discounted (coupon : Coupon) (amountVnd : Int) (breakdown : CouponBreakdown) :
    Prop where
  nonneg : 0 ≤ breakdown.discountVnd
  within : breakdown.discountVnd ≤ amountVnd
  sum : breakdown.discountVnd + breakdown.finalAmountVnd = amountVnd
  percent : ∀ percentOff, coupon.discountType = "percent" → coupon.percentOff = some percentOff →
    breakdown.discountVnd = capped coupon (nearestEven ((amountVnd * percentOff : ℚ) / 100))

variable {text : CodeText} {payload : AdminCouponCreate} {couponId : String} {coupon : Coupon}
  {before after : Database} {amountVnd more percentOff : Int}

theorem coupon_of_create
    (created : adminCreateCoupon text payload couponId before = .ok coupon after) :
    coupon = newCoupon couponId (normalizeCode text payload.code) payload := by
  obtain ⟨db, start, read, rest⟩ := (Effect.bind_ok_iff ..).mp created
  split at rest
  · cases rest
  · obtain ⟨⟨⟩, stored, inserted, done⟩ := (Effect.bind_ok_iff ..).mp rest
    cases done
    rfl

/-- The rounded quotient of the model is the rounded quotient. -/
theorem quantize_eq (numerator : Int) {denominator : Int} (positive : 0 < denominator) :
    quantize numerator denominator = nearestEven ((numerator : ℚ) / denominator) := by
  obtain ⟨floor, rest⟩ := div_sub_floor numerator positive
  have positiveCast : (0 : ℚ) < denominator := by exact_mod_cast positive
  have below : (numerator % denominator : ℤ) / (denominator : ℚ) < 1 / 2 ↔
      2 * (numerator % denominator) < denominator := by
    rw [div_lt_iff₀ positiveCast]
    constructor
    · intro small
      have cast : (2 : ℚ) * (numerator % denominator : ℤ) < denominator := by linarith
      exact_mod_cast cast
    · intro small
      have cast : (2 : ℚ) * (numerator % denominator : ℤ) < denominator := by exact_mod_cast small
      linarith
  have above : 1 / 2 < (numerator % denominator : ℤ) / (denominator : ℚ) ↔
      denominator < 2 * (numerator % denominator) := by
    rw [lt_div_iff₀ positiveCast]
    constructor
    · intro large
      have cast : (denominator : ℚ) < 2 * (numerator % denominator : ℤ) := by linarith
      exact_mod_cast cast
    · intro large
      have cast : (denominator : ℚ) < 2 * (numerator % denominator : ℤ) := by exact_mod_cast large
      linarith
  unfold quantize nearestEven
  simp only [floor, rest, below, above]

section Exact

theorem quantizeUnit_int (fits : |amountVnd| < 10 ^ decimalDigits) :
    quantizeUnit (amountVnd : ℚ) = .ok amountVnd := by
  unfold quantizeUnit
  rw [nearestEven_intCast, if_neg (not_le.mpr fits)]

theorem significant_int (fits : |amountVnd| < 10 ^ decimalDigits) :
    significant decimalDigits (amountVnd : ℚ) = amountVnd := by
  simpa using significant_exact 0 fits

theorem quantizeUnit_exact (fits : |amountVnd| < 10 ^ decimalDigits) :
    quantizeUnit (significant decimalDigits (amountVnd : ℚ)) = .ok amountVnd := by
  rw [significant_int fits, quantizeUnit_int fits]

/-- A price that no operation of the context rounds. -/
def InRange (amountVnd : Int) : Prop := 0 ≤ amountVnd ∧ amountVnd < 10 ^ 26

theorem nearestEven_percent (low : 0 ≤ amountVnd) (percentLow : 0 ≤ percentOff)
    (percentHigh : percentOff ≤ 100) :
    0 ≤ nearestEven ((amountVnd * percentOff : ℚ) / 100) ∧
      nearestEven ((amountVnd * percentOff : ℚ) / 100) ≤ amountVnd := by
  have lowCast : (0 : ℚ) ≤ amountVnd := by exact_mod_cast low
  have percentLowCast : (0 : ℚ) ≤ percentOff := by exact_mod_cast percentLow
  have percentHighCast : (percentOff : ℚ) ≤ 100 := by exact_mod_cast percentHigh
  constructor
  · apply nearestEven_nonneg
    positivity
  · apply nearestEven_le
    rw [div_le_iff₀ (by norm_num)]
    exact mul_le_mul_of_nonneg_left percentHighCast lowCast

theorem percentDiscount_eq (range : InRange amountVnd) (percentLow : 0 ≤ percentOff)
    (percentHigh : percentOff ≤ 100) :
    percentDiscount amountVnd percentOff =
      .ok (nearestEven ((amountVnd * percentOff : ℚ) / 100)) := by
  obtain ⟨low, high⟩ := range
  have product : |amountVnd * percentOff| < 10 ^ decimalDigits := by
    rw [abs_of_nonneg (mul_nonneg low percentLow)]
    have most : amountVnd * percentOff ≤ amountVnd * 100 := mul_le_mul_of_nonneg_left percentHigh low
    unfold decimalDigits
    omega
  have quotient : significant decimalDigits (((amountVnd * percentOff : Int) : ℚ) / 100) =
      ((amountVnd * percentOff : Int) : ℚ) / 100 := by
    have exact_places := significant_exact 2 product
    norm_num at exact_places ⊢
    exact exact_places
  obtain ⟨least, most⟩ := nearestEven_percent low percentLow percentHigh
  unfold percentDiscount
  rw [significant_int product, quotient]
  unfold quantizeUnit
  push_cast
  have fits : |nearestEven ((amountVnd * percentOff : ℚ) / 100)| < 10 ^ decimalDigits := by
    rw [abs_of_nonneg least]
    unfold decimalDigits
    omega
  rw [if_neg (not_le.mpr fits)]

theorem rawDiscount_percent (kind : coupon.discountType = "percent")
    (found : coupon.percentOff = some percentOff) :
    rawDiscount coupon amountVnd =
      .ok (capped coupon (nearestEven ((amountVnd * percentOff : ℚ) / 100))) := by
  have rounded : quantize (amountVnd * percentOff) 100 =
      nearestEven ((amountVnd * percentOff : ℚ) / 100) := by
    rw [quantize_eq _ (by norm_num)]
    push_cast
    rfl
  unfold rawDiscount capped
  rw [if_pos kind, found]
  cases coupon.maxDiscountVnd with
  | none => simp only [rounded]
  | some ceiling => simp only [rounded]

theorem rawDiscountDecimal_eq (range : InRange amountVnd)
    (percentRange : ∀ percentOff, coupon.percentOff = some percentOff →
      0 ≤ percentOff ∧ percentOff ≤ 100) :
    rawDiscountDecimal coupon amountVnd = rawDiscount coupon amountVnd := by
  unfold rawDiscountDecimal
  split
  · rename_i kind
    cases found : coupon.percentOff with
    | none => rfl
    | some percentOff =>
        obtain ⟨percentLow, percentHigh⟩ := percentRange percentOff found
        rw [rawDiscount_percent kind found]
        simp only [percentDiscount_eq range percentLow percentHigh, Except.map]
  · rfl

/-- Within the range the decimal context is exact arithmetic. -/
theorem computeDiscountDecimal_eq (range : InRange amountVnd)
    (percentRange : ∀ percentOff, coupon.percentOff = some percentOff →
      0 ≤ percentOff ∧ percentOff ≤ 100) :
    computeDiscountDecimal coupon amountVnd = computeDiscount coupon amountVnd := by
  have fits : |amountVnd| < 10 ^ decimalDigits := by
    rw [abs_of_nonneg range.1]
    have high := range.2
    unfold decimalDigits
    omega
  have rest : ∀ raw : Int, quantizeUnit (significant decimalDigits
      ((amountVnd - max 0 (min raw amountVnd) : Int) : ℚ)) =
        .ok (amountVnd - max 0 (min raw amountVnd)) := by
    intro raw
    have high := range.2
    have low := range.1
    apply quantizeUnit_exact
    rw [abs_of_nonneg (by omega)]
    unfold decimalDigits
    omega
  unfold computeDiscountDecimal computeDiscount
  rw [quantizeUnit_int fits]
  cases coupon.minAmountVnd with
  | none => simp only [bind, Except.bind, rawDiscountDecimal_eq range percentRange, rest]
  | some least => simp only [bind, Except.bind, rawDiscountDecimal_eq range percentRange, rest]

end Exact

section Growth

def breakdownOf (coupon : Coupon) (amountVnd discountVnd : Int) : CouponBreakdown where
  couponId := coupon.id
  code := coupon.code
  discountType := coupon.discountType
  originalAmountVnd := amountVnd
  discountVnd := discountVnd
  finalAmountVnd := amountVnd - discountVnd

theorem computeDiscount_of_raw {raw : Int} (admissible : Admissible coupon amountVnd)
    (computed : rawDiscount coupon amountVnd = .ok raw) :
    computeDiscount coupon amountVnd =
      .ok (breakdownOf coupon amountVnd (max 0 (min raw amountVnd))) := by
  unfold computeDiscount
  simp only [bind, Except.bind, computed]
  cases least : coupon.minAmountVnd with
  | none => rfl
  | some minAmountVnd =>
      have enough := admissible minAmountVnd least
      simp only [if_neg (Int.not_lt.mpr enough)]
      rfl

/-- The two kinds of coupons. -/
inductive Admitted (coupon : Coupon) : Prop where
  | percent (percentOff : Int) (kind : coupon.discountType = "percent")
      (found : coupon.percentOff = some percentOff) (low : 1 ≤ percentOff)
      (high : percentOff ≤ 100)
      (ceiling : ∀ amount, coupon.maxDiscountVnd = some amount → 1 ≤ amount) : Admitted coupon
  | fixed (amountOffVnd : Int) (kind : coupon.discountType = "fixed")
      (found : coupon.amountOffVnd = some amountOffVnd) (positive : 1 ≤ amountOffVnd)
      (plain : coupon.percentOff = none) : Admitted coupon

theorem admitted_of_create
    (created : adminCreateCoupon text payload couponId before = .ok coupon after) :
    Admitted coupon := by
  rw [coupon_of_create created]
  rcases payload.kind with kind | kind
  · obtain ⟨given, -⟩ := payload.percentFields kind
    obtain ⟨percentOff, found⟩ := Option.ne_none_iff_exists'.mp given
    obtain ⟨low, high⟩ := payload.percentRange percentOff found
    exact .percent percentOff kind found low high payload.maxDiscountPositive
  · have other : payload.discountType ≠ "percent" := by
      rw [kind]
      decide
    obtain ⟨given, plain, -⟩ := payload.fixedFields other
    obtain ⟨amountOffVnd, found⟩ := Option.ne_none_iff_exists'.mp given
    exact .fixed amountOffVnd kind found (payload.amountOffPositive amountOffVnd found) plain

theorem Admitted.percentRange (admitted : Admitted coupon) :
    ∀ percentOff, coupon.percentOff = some percentOff → 0 ≤ percentOff ∧ percentOff ≤ 100 := by
  intro other found
  cases admitted with
  | percent percentOff kind given low high ceiling =>
      obtain rfl : percentOff = other := Option.some.inj (given.symm.trans found)
      exact ⟨by omega, high⟩
  | fixed amountOffVnd kind given positive plain =>
      rw [plain] at found
      cases found

theorem rawDiscount_fixed {amountOffVnd : Int} (kind : coupon.discountType = "fixed")
    (found : coupon.amountOffVnd = some amountOffVnd) :
    rawDiscount coupon amountVnd = .ok amountOffVnd := by
  unfold rawDiscount
  rw [if_neg (by rw [kind]; decide), if_pos kind, found]

/-- One more dong is discounted by one dong at most. -/
theorem nearestEven_percent_step (ordered : amountVnd ≤ more) (percentHigh : percentOff ≤ 100) :
    nearestEven ((more * percentOff : ℚ) / 100) ≤
      nearestEven ((amountVnd * percentOff : ℚ) / 100) + (more - amountVnd) := by
  rcases lt_or_eq_of_le ordered with strict | rfl
  · rcases lt_or_eq_of_le percentHigh with partly | rfl
    · apply nearestEven_step
      have strictCast : (amountVnd : ℚ) < more := by exact_mod_cast strict
      have partlyCast : (percentOff : ℚ) < 100 := by exact_mod_cast partly
      push_cast
      nlinarith only [mul_pos (sub_pos.mpr strictCast) (sub_pos.mpr partlyCast)]
    · -- a whole price is discounted to nothing, without rounding
      have whole : ∀ amount : Int, nearestEven ((amount * (100 : Int) : ℚ) / 100) = amount := by
        intro amount
        have exact_quotient : ((amount * (100 : Int) : ℚ) / 100) = amount := by
          push_cast
          ring
        rw [exact_quotient, nearestEven_intCast]
      rw [whole, whole]
      omega
  · omega

theorem nearestEven_percent_mono (ordered : amountVnd ≤ more) (percentLow : 0 ≤ percentOff) :
    nearestEven ((amountVnd * percentOff : ℚ) / 100) ≤
      nearestEven ((more * percentOff : ℚ) / 100) := by
  apply nearestEven_mono
  have orderedCast : (amountVnd : ℚ) ≤ more := by exact_mod_cast ordered
  have percentLowCast : (0 : ℚ) ≤ percentOff := by exact_mod_cast percentLow
  apply div_le_div_of_nonneg_right _ (by norm_num)
  exact mul_le_mul_of_nonneg_right orderedCast percentLowCast

theorem discounted_of_admitted (admitted : Admitted coupon)
    (admissible : Admissible coupon amountVnd) (low : 0 ≤ amountVnd) :
    ∃ breakdown, computeDiscount coupon amountVnd = .ok breakdown ∧
      Discounted coupon amountVnd breakdown := by
  cases admitted with
  | percent percentOff kind found percentLow percentHigh ceiling =>
      obtain ⟨least, most⟩ := nearestEven_percent low (by omega) percentHigh
      have kept : max 0 (min (capped coupon
          (nearestEven ((amountVnd * percentOff : ℚ) / 100))) amountVnd) =
            capped coupon (nearestEven ((amountVnd * percentOff : ℚ) / 100)) := by
        unfold capped
        cases limit : coupon.maxDiscountVnd with
        | none =>
            simp only
            omega
        | some amount =>
            have positive := ceiling amount limit
            simp only
            omega
      refine ⟨_, computeDiscount_of_raw admissible (rawDiscount_percent kind found), ?_⟩
      rw [kept]
      refine ⟨?_, ?_, ?_, ?_⟩
      · rw [← kept]
        exact le_max_left _ _
      · rw [← kept]
        exact max_le low (min_le_right _ _)
      · simp only [breakdownOf]
        omega
      · intro other _ given
        obtain rfl : percentOff = other := Option.some.inj (found.symm.trans given)
        rfl
  | fixed amountOffVnd kind found positive plain =>
      refine ⟨_, computeDiscount_of_raw admissible (rawDiscount_fixed kind found), ?_⟩
      refine ⟨le_max_left _ _, max_le low (min_le_right _ _), ?_, ?_⟩
      · simp only [breakdownOf]
        omega
      · intro other _ given
        rw [plain] at given
        cases given

/-- A higher price costs no less. -/
theorem final_mono (admitted : Admitted coupon) (admissible : Admissible coupon amountVnd)
    (ordered : amountVnd ≤ more) (low : 0 ≤ amountVnd) {breakdown larger : CouponBreakdown}
    (computed : computeDiscount coupon amountVnd = .ok breakdown)
    (computedToo : computeDiscount coupon more = .ok larger) :
    breakdown.finalAmountVnd ≤ larger.finalAmountVnd := by
  have admissibleToo : Admissible coupon more :=
    fun least found => (admissible least found).trans ordered
  cases admitted with
  | percent percentOff kind found percentLow percentHigh ceiling =>
      rw [computeDiscount_of_raw admissible (rawDiscount_percent kind found)] at computed
      rw [computeDiscount_of_raw admissibleToo (rawDiscount_percent kind found)] at computedToo
      cases computed
      cases computedToo
      have step := nearestEven_percent_step ordered percentHigh
      have nonneg : 0 ≤ percentOff := by omega
      have growth := nearestEven_percent_mono ordered nonneg
      obtain ⟨least, most⟩ := nearestEven_percent low (by omega) percentHigh
      simp only [breakdownOf, capped]
      cases coupon.maxDiscountVnd with
      | none =>
          simp only
          omega
      | some amount =>
          simp only
          omega
  | fixed amountOffVnd kind found positive plain =>
      rw [computeDiscount_of_raw admissible (rawDiscount_fixed kind found)] at computed
      rw [computeDiscount_of_raw admissibleToo (rawDiscount_fixed kind found)] at computedToo
      cases computed
      cases computedToo
      simp only [breakdownOf]
      omega

end Growth

theorem discount_arithmetic
    (created : adminCreateCoupon text payload couponId before = .ok coupon after)
    (admissible : Admissible coupon amountVnd) (range : InRange amountVnd) :
    ∃ breakdown, computeDiscountDecimal coupon amountVnd = .ok breakdown ∧
      Discounted coupon amountVnd breakdown ∧
      ∀ more larger, amountVnd ≤ more → InRange more →
        computeDiscountDecimal coupon more = .ok larger →
          breakdown.finalAmountVnd ≤ larger.finalAmountVnd := by
  have admitted := admitted_of_create created
  obtain ⟨breakdown, computed, discounted⟩ :=
    discounted_of_admitted admitted admissible range.1
  refine ⟨breakdown, ?_, discounted, ?_⟩
  · rw [computeDiscountDecimal_eq range admitted.percentRange]
    exact computed
  · intro more larger ordered rangeToo computedToo
    rw [computeDiscountDecimal_eq rangeToo admitted.percentRange] at computedToo
    exact final_mono admitted admissible ordered range.1 computed computedToo

def tenPercent : AdminCouponCreate where
  code := "SALE10"
  discountType := "percent"
  percentOff := some 10
  amountOffVnd := none
  maxDiscountVnd := none
  minAmountVnd := none
  maxRedemptions := none
  maxPerUser := 1
  validFrom := none
  validUntil := none
  planCodes := []
  active := true
  codeLength := by decide
  codeChars := by simp [isCodeChar]
  kind := .inl rfl
  percentRange := by simp
  amountOffPositive := by simp
  maxDiscountPositive := by simp
  minAmountNonneg := by simp
  maxRedemptionsPositive := by simp
  maxPerUserRange := by decide
  percentFields := by simp
  fixedFields := by simp
  window := by simp

theorem tenPercent_created : ∃ after, adminCreateCoupon .ascii tenPercent "c1" Database.empty =
    .ok (newCoupon "c1" (normalizeCode .ascii "SALE10") tenPercent) after :=
  ⟨_, rfl⟩

theorem tenPercent_of_fifteen : ∃ breakdown,
    computeDiscountDecimal (newCoupon "c1" (normalizeCode .ascii "SALE10") tenPercent) 15 =
      .ok breakdown ∧ breakdown.discountVnd + breakdown.finalAmountVnd = 15 := by
  obtain ⟨after, created⟩ := tenPercent_created
  have admissible : Admissible (newCoupon "c1" (normalizeCode .ascii "SALE10") tenPercent) 15 := by
    simp [Admissible, newCoupon, tenPercent]
  have range : InRange 15 := by
    unfold InRange
    omega
  obtain ⟨breakdown, computed, discounted, -⟩ := discount_arithmetic created admissible range
  exact ⟨breakdown, computed, discounted.sum⟩

/-- A negative amount is below any discount, and one of more than 28 digits is refused. -/
theorem discount_has_a_range :
    (¬∀ text payload couponId before coupon after,
      adminCreateCoupon text payload couponId before = .ok coupon after →
        ∀ amountVnd, Admissible coupon amountVnd →
          ∃ breakdown, computeDiscountDecimal coupon amountVnd = .ok breakdown ∧
            Discounted coupon amountVnd breakdown) ∧
      ¬∀ text payload couponId before coupon after,
        adminCreateCoupon text payload couponId before = .ok coupon after →
          ∀ amountVnd, 0 ≤ amountVnd → Admissible coupon amountVnd →
            ∃ breakdown, computeDiscountDecimal coupon amountVnd = .ok breakdown ∧
              Discounted coupon amountVnd breakdown := by
  obtain ⟨after, created⟩ := tenPercent_created
  have unlimited : ∀ amountVnd, Admissible
      (newCoupon "c1" (normalizeCode .ascii "SALE10") tenPercent) amountVnd := by
    simp [Admissible, newCoupon, tenPercent]
  constructor
  · intro always
    obtain ⟨breakdown, -, discounted⟩ := always _ _ _ _ _ _ created (-5) (unlimited (-5))
    have low := discounted.nonneg
    have high := discounted.within
    omega
  · intro always
    obtain ⟨breakdown, computed, -⟩ := always _ _ _ _ _ _ created (10 ^ 28) (by norm_num)
      (unlimited (10 ^ 28))
    have refused : quantizeUnit ((10 ^ 28 : Int) : ℚ) = .error .invalidOperation := by
      unfold quantizeUnit decimalDigits
      rw [nearestEven_intCast, if_pos (by norm_num)]
    rw [computeDiscountDecimal, refused] at computed
    cases computed

end ApiBank.Billing.Discounts
