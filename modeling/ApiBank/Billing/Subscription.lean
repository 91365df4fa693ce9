import ApiBank.Billing.Coupons
import ApiBank.Billing.Wallet
import ApiBank.Relational.Latest
import Mathlib.Data.Int.Order.Basic

/-!
# Subscriptions and invoices

The purchase of a plan: redeem the coupon, debit the wallet, extend or create the
subscription, write the invoice, and link the redemption to it. The change to another
plan: refund the time that is left, cancel the subscription, and purchase. The
best-effort notification at the end of a purchase is left out.
-/

namespace ApiBank.Billing.Subscription

open ApiBank.Db ApiBank.Relational ApiBank.Transition Coupons

set_option autoImplicit false

def later (best : Option Subscription) (row : Subscription) : Option Subscription :=
  match best with
  | none => some row
  | some current =>
      if current.expiresAt.instant < row.expiresAt.instant then some row else best

theorem later_eq : later = laterBy fun row => row.expiresAt.instant := by
  funext best row
  cases best <;> rfl

/-- The first row of the query by descending expiry. -/
def latestActive (userId : String) (db : Database) : Option Subscription :=
  (db.subscriptions.rows.filter fun row =>
    row.userId = userId && row.status = "active").foldl later none

def getActiveSubscription (userId : String) (now : Int) (db : Database) : Option Subscription :=
  (latestActive userId db).filter fun row => now ≤ row.expiresAt.aware.instant

def getPlan (code : String) (db : Database) : Except Error Plan :=
  match db.plans.rows.find? fun plan => plan.code = code && plan.active with
  | some plan => .ok plan
  | none => .error (.planNotFound s!"plan {strRepr code} not found or inactive")

/-- The keyword arguments of `purchase`. -/
structure PurchaseArgs where
  userId : String
  planCode : String
  idempotencyKey : Option String
  couponCode : Option String

/-- The tokens of the new rows and the clock. -/
structure PurchaseDraws where
  redemptionId : String
  walletRowId : String
  subscriptionId : String
  invoiceId : String
  now : Int

/-- `value or None`. -/
def nonempty (value : Option String) : Option String :=
  value.filter fun text => text ≠ ""

def purchaseKey (args : PurchaseArgs) (plan : Plan) (now : Int) : String :=
  (nonempty args.idempotencyKey).getD s!"sub:{args.userId}:{plan.code}:{now.tdiv (seconds 1)}"

/-- What is charged, and for which coupon. -/
structure Price where
  coupon : Option Coupon
  discountVnd : Int
  finalVnd : Int

def redeemCoupon (text : CodeText) (args : PurchaseArgs) (plan : Plan) (draws : PurchaseDraws) :
    Session Price :=
  match nonempty args.couponCode with
  | none => pure ⟨none, 0, plan.priceVnd⟩
  | some code => do
      let coupon ← query (getActiveCoupon text code draws.now)
      let (breakdown, _) ← redeem coupon args.userId plan.code plan.priceVnd none none
        ⟨draws.redemptionId, draws.now⟩
      pure ⟨some coupon, breakdown.discountVnd, breakdown.finalAmountVnd⟩

def purchaseDebit (args : PurchaseArgs) (plan : Plan) (price : Price) (now : Int) :
    Wallet.WalletArgs where
  userId := args.userId
  amountVnd := price.finalVnd
  idempotencyKey := purchaseKey args plan now
  refKind := some "invoice"
  refId := none
  note := some (match price.coupon with
    | some coupon => s!"Mua gói {plan.code} (mã {coupon.code})"
    | none => s!"Mua gói {plan.code}")
  createdBy := some args.userId

def extend (plan : Plan) (row : Subscription) : Subscription :=
  { row with
    expiresAt := row.expiresAt.aware.add (days plan.durationDays)
    planId := plan.id
    status := "active" }

theorem id_extend (plan : Plan) (row : Subscription) : (extend plan row).id = row.id := rfl

def newSubscription (userId : String) (plan : Plan) (draws : PurchaseDraws) : Subscription where
  id := draws.subscriptionId
  userId := userId
  planId := plan.id
  startedAt := .utc draws.now
  expiresAt := (DateTime.utc draws.now).add (days plan.durationDays)
  status := "active"

def insertSubscription (row : Subscription) : Session Subscription := fun db =>
  match db.subscriptions.insert? row with
  | some subscriptions => .ok row { db with subscriptions }
  | none => .error .integrityError db

def extendOrCreate (userId : String) (plan : Plan) (draws : PurchaseDraws) :
    Session Subscription := do
  let db ← get
  match getActiveSubscription userId draws.now db with
  | some existing => do
      assign fun db => { db with
        subscriptions := db.subscriptions.modify existing.id (extend plan) (id_extend plan) }
      pure (extend plan existing)
  | none => insertSubscription (newSubscription userId plan draws)

def newInvoice (args : PurchaseArgs) (plan : Plan) (price : Price) (row : WalletTransaction)
    (subscription : Subscription) (draws : PurchaseDraws) : Invoice where
  id := draws.invoiceId
  userId := args.userId
  subscriptionId := some subscription.id
  planCode := some plan.code
  amountVnd := price.finalVnd
  currency := "VND"
  status := "paid"
  walletTxId := some row.id
  issuedAt := .utc draws.now
  couponCode := price.coupon.map Coupon.code
  discountVnd := price.discountVnd
  originalAmountVnd := price.coupon.map fun _ => plan.priceVnd

def insertInvoice (invoice : Invoice) : Session Unit := fun db =>
  match db.invoices.insert? invoice with
  | some invoices => .ok () { db with invoices }
  | none => .error .integrityError db

def newer (best : Option CouponRedemption) (row : CouponRedemption) : Option CouponRedemption :=
  match best with
  | none => some row
  | some current =>
      if current.createdAt.instant < row.createdAt.instant then some row else best

theorem newer_eq : newer = laterBy fun row => row.createdAt.instant := by
  funext best row
  cases best <;> rfl

def latestUnlinked (coupon : Coupon) (userId : String) (db : Database) :
    Option CouponRedemption :=
  (db.couponRedemptions.rows.filter fun row =>
    row.couponId = coupon.id && row.userId = userId && row.invoiceId.isNone).foldl newer none

def link (invoice : Invoice) (subscription : Subscription) (row : CouponRedemption) :
    CouponRedemption :=
  { row with
    invoiceId := some invoice.id
    subscriptionId := some subscription.id }

theorem id_link (invoice : Invoice) (subscription : Subscription) (row : CouponRedemption) :
    (link invoice subscription row).id = row.id := rfl

def linkRedemption (coupon : Option Coupon) (userId : String) (invoice : Invoice)
    (subscription : Subscription) : Session Unit :=
  assign fun db =>
    match coupon.bind fun coupon => latestUnlinked coupon userId db with
    | none => db
    | some latest => { db with
        couponRedemptions := db.couponRedemptions.modify latest.id (link invoice subscription)
          (id_link invoice subscription) }

/-- The caller commits. -/
def purchase (text : CodeText) (args : PurchaseArgs) (draws : PurchaseDraws) :
    Session (Subscription × Invoice) := do
  let plan ← query (getPlan args.planCode)
  let price ← redeemCoupon text args plan draws
  let row ← Wallet.debit (purchaseDebit args plan price draws.now) ⟨draws.walletRowId, draws.now⟩
  let subscription ← extendOrCreate args.userId plan draws
  let invoice := newInvoice args plan price row subscription draws
  insertInvoice invoice
  linkRedemption price.coupon args.userId invoice subscription
  pure (subscription, invoice)

/-- The keyword arguments of `change_plan`. -/
structure ChangePlanArgs where
  userId : String
  newPlanCode : String
  idempotencyKey : Option String

structure ChangePlanDraws where
  refundRowId : String
  purchase : PurchaseDraws

def refundKeySuffix (args : ChangePlanArgs) (now : Int) : String :=
  (nonempty args.idempotencyKey).getD
    s!"{args.userId}:{args.newPlanCode}:{now.tdiv (seconds 1)}"

/-- The time that is left, in microseconds. -/
def remainingTime (existing : Subscription) (now : Int) : Int :=
  max 0 (existing.expiresAt.aware.instant - now)

/-- Whole days only, as `timedelta.days` counts them. -/
def refundAmount (plan : Plan) (remaining : Int) : Int :=
  quantize (plan.priceVnd * (remaining / days 1)) (max 1 plan.durationDays)

def prorateRefund (args : ChangePlanArgs) (existing : Subscription) (plan : Plan)
    (amountVnd now : Int) : Wallet.WalletArgs where
  userId := args.userId
  amountVnd := amountVnd
  idempotencyKey := s!"prorate:{refundKeySuffix args now}"
  refKind := some "subscription"
  refId := some existing.id
  note := some s!"Hoàn tiền tỉ lệ gói {plan.code}"
  createdBy := some args.userId

def refundRemaining (args : ChangePlanArgs) (existing : Subscription) (plan : Plan)
    (draws : ChangePlanDraws) : Session Unit :=
  let now := draws.purchase.now
  let amountVnd := refundAmount plan (remainingTime existing now)
  if 0 < amountVnd then
    Effect.discard
      (Wallet.refund (prorateRefund args existing plan amountVnd now) ⟨draws.refundRowId, now⟩)
  else pure ()

def cancel (row : Subscription) : Subscription := { row with status := "canceled" }

theorem id_cancel (row : Subscription) : (cancel row).id = row.id := rfl

def giveUp (args : ChangePlanArgs) (draws : ChangePlanDraws) : Session Unit := do
  let db ← get
  match getActiveSubscription args.userId draws.purchase.now db with
  | none => pure ()
  | some existing =>
      match db.plans.find? existing.planId with
      | none => pure ()
      | some plan => do
          refundRemaining args existing plan draws
          assign fun db => { db with
            subscriptions := db.subscriptions.modify existing.id cancel id_cancel }

def newPlanPurchase (args : ChangePlanArgs) (now : Int) : PurchaseArgs where
  userId := args.userId
  planCode := args.newPlanCode
  idempotencyKey := some s!"change:{refundKeySuffix args now}"
  couponCode := none

def changePlan (text : CodeText) (args : ChangePlanArgs) (draws : ChangePlanDraws) :
    Session (Subscription × Invoice) := do
  giveUp args draws
  purchase text (newPlanPurchase args draws.purchase.now) draws.purchase

def due (now : Int) (row : Subscription) : Bool :=
  row.status = "active" && row.expiresAt.instant < now

def expireIfDue (now : Int) (row : Subscription) : Subscription :=
  if due now row then { row with status := "expired" } else row

theorem id_expireIfDue (now : Int) (row : Subscription) : (expireIfDue now row).id = row.id := by
  unfold expireIfDue
  split <;> rfl

/-- The daily job; returns the number of rows updated. -/
def expireDueSubscriptions (now : Int) : Session Nat := fun db =>
  .ok (db.subscriptions.rows.filter (due now)).length { db with
    subscriptions := db.subscriptions.update (expireIfDue now) (id_expireIfDue now) }

end ApiBank.Billing.Subscription
