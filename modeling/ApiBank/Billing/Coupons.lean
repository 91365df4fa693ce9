import ApiBank.Db.Session

/-!
# Coupons

Validation, the discount on one price, and the redemption that counts a use and
records it. Case mapping and white space of the Python runtime are a parameter.
-/

namespace ApiBank.Billing.Coupons

open ApiBank.Db ApiBank.Relational ApiBank.Transition

set_option autoImplicit false

/-- `str.isspace` of one character, as `str.strip` uses it, and `str.upper`. -/
structure CodeText where
  isSpace : Char → Bool
  upper : List Char → List Char

def CodeText.ascii : CodeText where
  isSpace := Char.isWhitespace
  upper := List.map Char.toUpper

def normalizeCode (text : CodeText) (code : String) : String :=
  let stripped := ((code.toList.dropWhile text.isSpace).reverse.dropWhile text.isSpace).reverse
  String.ofList (text.upper stripped)

def groupDigits : List Char → List Char
  | first :: second :: third :: fourth :: rest =>
      first :: second :: third :: ',' :: groupDigits (fourth :: rest)
  | short => short

/-- The format `{value:,}` of an integer. -/
def thousands (value : Int) : String :=
  let digits := String.ofList (groupDigits (toString value.natAbs).toList.reverse).reverse
  if value < 0 then s!"-{digits}" else digits

/-- A quotient rounded to the nearest integer, ties to the even one, as `quantize`
does by default. -/
def quantize (numerator denominator : Int) : Int :=
  let below := numerator / denominator
  let twice := 2 * (numerator % denominator)
  if twice < denominator then below
  else if denominator < twice then below + 1
  else if below % 2 = 0 then below
  else below + 1

structure CouponBreakdown where
  couponId : String
  code : String
  discountType : String
  originalAmountVnd : Int
  discountVnd : Int
  finalAmountVnd : Int
deriving DecidableEq, Repr

def getActiveCoupon (text : CodeText) (code : String) (now : Int) (db : Database) :
    Except Error Coupon :=
  let normalized := normalizeCode text code
  let missing := Error.couponNotFound s!"coupon {strRepr normalized} không tồn tại"
  match db.coupons.rows.find? fun coupon => coupon.code = normalized with
  | none => .error missing
  | some coupon =>
      if !coupon.active then .error missing
      else if coupon.validFrom.any fun validFrom => now < validFrom.aware.instant then
        .error (.couponExpired "Mã chưa tới ngày bắt đầu")
      else if coupon.validUntil.any fun validUntil => validUntil.aware.instant ≤ now then
        .error (.couponExpired "Mã đã hết hạn")
      else if coupon.maxRedemptions.any fun limit => limit ≤ coupon.redeemedCount then
        .error (.couponExhausted "Mã đã hết lượt sử dụng")
      else .ok coupon

/-- A coupon that is handed out has the code and a use left. -/
theorem getActiveCoupon_ok {text : CodeText} {code : String} {now : Int} {db : Database}
    {coupon : Coupon} (active : getActiveCoupon text code now db = .ok coupon) :
    db.coupons.rows.find? (fun coupon => coupon.code = normalizeCode text code) = some coupon ∧
      ∀ limit, coupon.maxRedemptions = some limit → coupon.redeemedCount < limit := by
  unfold getActiveCoupon at active
  dsimp only at active
  split at active
  · contradiction
  · rename_i found
    repeat' split at active
    all_goals cases active
    rename_i left
    refine ⟨found, ?_⟩
    intro limit limited
    simpa [limited] using left

def rawDiscount (coupon : Coupon) (amountVnd : Int) : Except Error Int :=
  if coupon.discountType = "percent" then
    match coupon.percentOff with
    | none => .error (.couponNotApplicable "Mã percent thiếu cấu hình percent_off")
    | some percentOff =>
        let discount := quantize (amountVnd * percentOff) 100
        .ok (match coupon.maxDiscountVnd with
          | some ceiling => min discount ceiling
          | none => discount)
  else if coupon.discountType = "fixed" then
    match coupon.amountOffVnd with
    | none => .error (.couponNotApplicable "Mã fixed thiếu cấu hình amount_off_vnd")
    | some amountOffVnd => .ok amountOffVnd
  else .error (.couponNotApplicable s!"Loại giảm giá không hỗ trợ: {coupon.discountType}")

def computeDiscount (coupon : Coupon) (amountVnd : Int) : Except Error CouponBreakdown := do
  match coupon.minAmountVnd with
  | some minAmountVnd =>
      if amountVnd < minAmountVnd then
        throw (.couponNotApplicable s!"Đơn tối thiểu {thousands minAmountVnd} VND để áp mã")
  | none => pure ()
  let raw ← rawDiscount coupon amountVnd
  let discountVnd := max 0 (min raw amountVnd)
  pure {
    couponId := coupon.id
    code := coupon.code
    discountType := coupon.discountType
    originalAmountVnd := amountVnd
    discountVnd
    finalAmountVnd := amountVnd - discountVnd }

def timesUsed (coupon : Coupon) (userId : String) (db : Database) : Nat :=
  (db.couponRedemptions.rows.filter fun redemption =>
    redemption.couponId = coupon.id && redemption.userId = userId).length

def validateForUser (coupon : Coupon) (userId planCode : String) (db : Database) :
    Except Error Unit :=
  if !coupon.planCodesJson.isEmpty && !coupon.planCodesJson.contains planCode then
    .error (.couponNotApplicable s!"Mã không áp dụng cho gói {strRepr planCode}")
  else if coupon.maxPerUser ≤ timesUsed coupon userId db then
    .error (.couponAlreadyRedeemed "Bạn đã dùng hết lượt cho mã này")
  else .ok ()

/-- The checks and the discount, without a write. -/
def preview (text : CodeText) (code userId planCode : String) (amountVnd now : Int)
    (db : Database) : Except Error CouponBreakdown := do
  let coupon ← getActiveCoupon text code now db
  validateForUser coupon userId planCode db
  computeDiscount coupon amountVnd

def countUse (coupon : Coupon) : Coupon :=
  { coupon with redeemedCount := coupon.redeemedCount + 1 }

theorem id_countUse (coupon : Coupon) : (countUse coupon).id = coupon.id := rfl

/-- The guarded `UPDATE` of the counter; no row updated means no use left. -/
def countRedemption (coupon : Coupon) : Session Unit := fun db =>
  let counted := { db with coupons := db.coupons.modify coupon.id countUse id_countUse }
  match coupon.maxRedemptions with
  | none => .ok () counted
  | some limit =>
      if (db.coupons.find? coupon.id).any fun row => row.redeemedCount < limit then
        .ok () counted
      else .error (.couponExhausted "Mã đã hết lượt sử dụng") db

def newRedemption (coupon : Coupon) (userId planCode : String) (breakdown : CouponBreakdown)
    (invoiceId subscriptionId : Option String) (fresh : RowDefaults) : CouponRedemption where
  id := fresh.id
  couponId := coupon.id
  couponCode := coupon.code
  userId := userId
  invoiceId := invoiceId
  subscriptionId := subscriptionId
  planCode := some planCode
  amountBeforeVnd := breakdown.originalAmountVnd
  discountVnd := breakdown.discountVnd
  amountAfterVnd := breakdown.finalAmountVnd
  createdAt := .utc fresh.now

def insertRedemption (redemption : CouponRedemption) : Session Unit := fun db =>
  match db.couponRedemptions.insert? redemption with
  | some couponRedemptions => .ok () { db with couponRedemptions }
  | none => .error .integrityError db

def redeem (coupon : Coupon) (userId planCode : String) (amountVnd : Int)
    (invoiceId subscriptionId : Option String) (fresh : RowDefaults) :
    Session (CouponBreakdown × CouponRedemption) := do
  let breakdown ← liftResult (computeDiscount coupon amountVnd)
  query (validateForUser coupon userId planCode)
  countRedemption coupon
  let redemption := newRedemption coupon userId planCode breakdown invoiceId subscriptionId fresh
  insertRedemption redemption
  pure (breakdown, redemption)

variable {before after : Database}

theorem redeem_ok_iff {coupon : Coupon} {userId planCode : String} {amountVnd : Int}
    {invoiceId subscriptionId : Option String} {fresh : RowDefaults}
    {breakdown : CouponBreakdown} {redemption : CouponRedemption} :
    redeem coupon userId planCode amountVnd invoiceId subscriptionId fresh before =
        .ok (breakdown, redemption) after ↔
      computeDiscount coupon amountVnd = .ok breakdown ∧
        validateForUser coupon userId planCode before = .ok () ∧
        redemption = newRedemption coupon userId planCode breakdown invoiceId subscriptionId
          fresh ∧
        ∃ counted, countRedemption coupon before = .ok () counted ∧
          insertRedemption redemption counted = .ok () after := by
  constructor
  · intro returned
    obtain ⟨computed, discount, rest⟩ := (liftResult_bind_ok_iff ..).mp returned
    obtain ⟨⟨⟩, valid, rest⟩ := (query_bind_ok_iff ..).mp rest
    obtain ⟨⟨⟩, counted, counting, rest⟩ := (Effect.bind_ok_iff ..).mp rest
    obtain ⟨⟨⟩, inserted, inserting, done⟩ := (Effect.bind_ok_iff ..).mp rest
    simp only [Effect.pure_apply, EStateM.Result.ok.injEq, Prod.mk.injEq] at done
    obtain ⟨⟨rfl, rfl⟩, rfl⟩ := done
    exact ⟨discount, valid, rfl, counted, counting, inserting⟩
  · rintro ⟨discount, valid, rfl, counted, counting, inserting⟩
    refine (liftResult_bind_ok_iff ..).mpr ⟨breakdown, discount, ?_⟩
    refine (query_bind_ok_iff ..).mpr ⟨(), valid, ?_⟩
    refine (Effect.bind_ok_iff ..).mpr ⟨(), counted, counting, ?_⟩
    exact (Effect.bind_ok_iff ..).mpr ⟨(), after, inserting, rfl⟩

theorem counted_of_count {coupon : Coupon} {counted : Database}
    (counting : countRedemption coupon before = .ok () counted) :
    counted = { before with coupons := before.coupons.modify coupon.id countUse id_countUse } := by
  simp only [countRedemption] at counting
  repeat' split at counting
  all_goals cases counting
  all_goals rfl

end ApiBank.Billing.Coupons
