import ApiBank.Billing.Discounts
import ApiBank.Billing.PurchaseEffects

/-!
# A plan change shown and a plan change made

The preview takes the first row that an unordered query yields, the change the latest row
that still runs. Both turn the whole days left into money by the same quotient; the preview
rounds it once for the credit and once more, taken off the price, for the amount due.
-/

namespace ApiBank.Billing.PlanPreviews

open ApiBank.Db ApiBank.Numeric ApiBank.Relational ApiBank.Transition
open Coupons Subscription PurchaseRetry PlanChanges PurchaseEffects

set_option autoImplicit false

/-- The answer of `preview_change_plan`; without a subscription no days are answered. -/
structure ChangePreview where
  currentPlan : Option String
  targetPlan : String
  remainingDays : Option Int
  creditVnd : Int
  amountDueVnd : Int
deriving DecidableEq

def targetPlan (planCode : String) (db : Database) : Option Plan :=
  db.plans.rows.find? fun plan => plan.code = planCode

/-- `max(0, (expires - now).days)` -/
def remainingDays (row : Db.Subscription) (now : Int) : Int :=
  max 0 ((row.expiresAt.aware.instant - now) / days 1)

def credit (current : Option Plan) (remaining : Int) : ℚ :=
  match current with
  | some plan => plan.priceVnd * remaining / max plan.durationDays 1
  | none => 0

def worth (now : Int) (db : Database) (row : Option Db.Subscription) : ℚ :=
  match row with
  | some row => credit (db.plans.find? row.planId) (remainingDays row now)
  | none => 0

def refundVnd (userId : String) (now : Int) (db : Database) : Int :=
  max 0 (nearestEven (worth now db (getActiveSubscription userId now db)))

/-- The change refunded the credit, and took the amount due if it took anything. -/
structure AsShown (userId : String) (shown : ChangePreview) (before after : Database) :
    Prop where
  credited : refunded userId after - refunded userId before = shown.creditVnd
  due : ∀ user later, before.users.find? userId = some user →
    after.users.find? userId = some later → 0 ≤ user.balanceVnd - later.balanceVnd →
      user.balanceVnd - later.balanceVnd = shown.amountDueVnd

/-- A change that returns does as shown, and one returns for a user who can pay the amount
due. -/
structure Agrees (text : CodeText) (args : ChangePlanArgs) (draws : ChangePlanDraws)
    (shown : ChangePreview) (before : Database) : Prop where
  made : ∀ result after, changePlan text args draws before = .ok result after →
    AsShown args.userId shown before after
  payable : ∀ user, before.users.find? args.userId = some user →
    shown.amountDueVnd ≤ user.balanceVnd →
      ∃ result after, changePlan text args draws before = .ok result after

/-- The row is worth so many whole units: price times days over length, nearest or, of two as
near, even. -/
def WorthUnits (now : Int) (db : Database) (row : Option Db.Subscription) (units : Int) : Prop :=
  match row with
  | some row =>
      match db.plans.find? row.planId with
      | some plan => Nearest (plan.priceVnd * remainingDays row now) (max plan.durationDays 1) units
      | none => units = 0
  | none => units = 0

def Charges (db : Database) (row : Db.Subscription) : Prop :=
  ∀ plan, db.plans.find? row.planId = some plan → 0 ≤ plan.priceVnd

/-- The row that is shown is the one that ends last, or it is worth as many whole units as the
one in force, where a negative price is worth nothing. -/
inductive SameWorth (userId : String) (now : Int) (db : Database)
    (row : Option Db.Subscription) : Prop where
  | latest (same : row = latestActive userId db) (charges : ∀ sub, row = some sub → Charges db sub)
  | another (units : Int) (nonneg : 0 ≤ units) (shown : WorthUnits now db row units)
      (inForce : WorthUnits now db (getActiveSubscription userId now db) units ∨
        units = 0 ∧ ∃ sub, getActiveSubscription userId now db = some sub ∧ ¬Charges db sub)

def prorateKey (args : ChangePlanArgs) (now : Int) : String :=
  s!"prorate:{refundKeySuffix args now}"

def changeKey (args : ChangePlanArgs) (now : Int) : String :=
  s!"change:{refundKeySuffix args now}"

/-- A row under the key, if there is one, is this very posting. -/
def Repeats (userId key : String) (type : WalletType) (amountVnd : Int) (db : Database) : Prop :=
  ∀ row, db.walletTransactions.find? key = some row →
    row.userId = userId ∧ row.amountVnd = amountVnd ∧ row.type = type

/-- Under a key that is taken nothing is posted any more. -/
def onceUnder (key : String) (amountVnd : Int) (db : Database) : Int :=
  match db.walletTransactions.find? key with
  | none => amountVnd
  | some _ => 0

/-- What the change adds to the wallet. -/
def backVnd (args : ChangePlanArgs) (now : Int) (db : Database) : Int :=
  onceUnder (prorateKey args now) (refundVnd args.userId now db) db

/-- The row that is shown is worth what comes back: nothing, if the refund's key is taken. -/
def ShowsBack (args : ChangePlanArgs) (now : Int) (row : Option Db.Subscription)
    (db : Database) : Prop :=
  match db.walletTransactions.find? (prorateKey args now) with
  | none => SameWorth args.userId now db row
  | some _ => WorthUnits now db row 0

/-- No half is taken off an odd price. If the key of the debit is taken, what is shown as due
is not compared with anything, or is nothing. -/
def ShowsDue (args : ChangePlanArgs) (now : Int) (target : Plan) (row : Option Db.Subscription)
    (db : Database) : Prop :=
  match db.walletTransactions.find? (changeKey args now) with
  | none => ¬(Halfway (worth now db row) ∧ target.priceVnd % 2 = 1 ∧
      worth now db row < target.priceVnd)
  | some _ => 0 < backVnd args now db ∨ target.priceVnd = 1 ∧ worth now db row = 1 / 2

structure SameTerms (args : ChangePlanArgs) (now : Int) (target : Plan)
    (row : Option Db.Subscription) (db : Database) : Prop where
  back : ShowsBack args now row db
  due : ShowsDue args now target row db

/-- The tokens drawn for new rows are not taken. -/
structure FreshIds (draws : ChangePlanDraws) (db : Database) : Prop where
  subscription : db.subscriptions.find? draws.purchase.subscriptionId = none
  invoice : db.invoices.find? draws.purchase.invoiceId = none

variable {text : CodeText} {args : ChangePlanArgs} {draws : ChangePlanDraws}
  {userId : String} {now : Int} {before after mid : Database} {user : User}

section Worth

end Worth

section Change

/-- What is left when the subscription has been given up. -/
structure Settled (args : ChangePlanArgs) (draws : ChangePlanDraws) (user : User)
    (before mid : Database) : Prop where
  known : mid.users.find? args.userId = some { user with
    balanceVnd := user.balanceVnd + backVnd args draws.purchase.now before }
  refunded : refunded args.userId mid =
    refunded args.userId before + backVnd args draws.purchase.now before
  plans : mid.plans = before.plans
  invoices : mid.invoices = before.invoices
  subscription : mid.subscriptions.find? draws.purchase.subscriptionId = none
  debitRow : mid.walletTransactions.find? (changeKey args draws.purchase.now) =
    before.walletTransactions.find? (changeKey args draws.purchase.now)
  refunds : 0 < refundVnd args.userId draws.purchase.now before →
    Repeats args.userId (prorateKey args draws.purchase.now) .refund
      (refundVnd args.userId draws.purchase.now before) before
  fits : 0 < backVnd args draws.purchase.now before →
    user.balanceVnd + backVnd args draws.purchase.now before < Wallet.vndLimit
  solvent : 0 < backVnd args draws.purchase.now before →
    0 ≤ user.balanceVnd + backVnd args draws.purchase.now before

theorem Settled.canceled (settled : Settled args draws user before mid) (subId : String) :
    Settled args draws user before { mid with
      subscriptions := mid.subscriptions.modify subId cancel id_cancel } := { settled with
  subscription := by
    rw [Table.find?_modify, settled.subscription]
    split <;> rfl }

variable {target : Plan} {result : Db.Subscription × Invoice}

end Change

section Agreement

variable {first : List Db.Subscription → Option Db.Subscription} {target : Plan}
  {shown : ChangePreview}

end Agreement

end ApiBank.Billing.PlanPreviews
