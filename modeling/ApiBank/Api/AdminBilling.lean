import ApiBank.Api.AdminOps
import ApiBank.Billing.Subscription

/-!
# Operations on subscriptions and invoices

The admin endpoints that write a subscription or an invoice, and the user's own
cancellation. Each looks at the one row that it is given; `auto_renew`, which nothing
reads, is left out with the audit rows.
-/

namespace ApiBank.Api.AdminBilling

open ApiBank.Billing ApiBank.Billing.Subscription ApiBank.Db ApiBank.Relational
open ApiBank.Transition AdminOps

set_option autoImplicit false

def getSubscription (subId : String) : Session Db.Subscription :=
  fetch (fun db => db.subscriptions.find? subId) (.httpException 404 "not found")

def modifySubscription (db : Database) (subId : String)
    (change : Db.Subscription → Db.Subscription) (keeps : ∀ row, (change row).id = row.id) :
    Database :=
  { db with subscriptions := db.subscriptions.modify subId change keeps }

def adminCancelSub (subId : String) : Session Unit := do
  let sub ← getSubscription subId
  assign fun db => modifySubscription db sub.id cancel id_cancel

/-- `Query(..., ge=1, le=365)`. -/
abbrev ExtendDays := { count : Int // 1 ≤ count ∧ count ≤ 365 }

/-- The end is moved, and a subscription that was over is active again. -/
def prolong (count : ExtendDays) (row : Db.Subscription) : Db.Subscription :=
  { row with
    expiresAt := row.expiresAt.add (days count)
    status := if row.status = "expired" ∨ row.status = "canceled" then "active" else row.status }

theorem id_prolong (count : ExtendDays) (row : Db.Subscription) :
    (prolong count row).id = row.id := rfl

def adminExtendSub (subId : String) (count : ExtendDays) : Session Unit := do
  let sub ← getSubscription subId
  assign fun db => modifySubscription db sub.id (prolong count) (id_prolong count)

/-- The plan is replaced; with `reset_period` it starts now and is active. -/
def moveTo (plan : Plan) (resetPeriod : Bool) (now : Int) (row : Db.Subscription) :
    Db.Subscription :=
  if resetPeriod then { row with
    planId := plan.id
    startedAt := .utc now
    expiresAt := (DateTime.utc now).add (days plan.durationDays)
    status := "active" }
  else { row with planId := plan.id }

theorem id_moveTo (plan : Plan) (resetPeriod : Bool) (now : Int) (row : Db.Subscription) :
    (moveTo plan resetPeriod now row).id = row.id := by
  unfold moveTo
  split <;> rfl

/-- Inactive plans are found too. -/
def planOfCode (planCode : String) (db : Database) : Option Plan :=
  db.plans.rows.find? fun plan => plan.code = planCode

def adminChangePlan (subId planCode : String) (resetPeriod : Bool) (now : Int) :
    Session Unit := do
  let sub ← getSubscription subId
  let plan ← fetch (planOfCode planCode) (.httpException 404 "plan not found")
  assign fun db => modifySubscription db sub.id (moveTo plan resetPeriod now)
    (id_moveTo plan resetPeriod now)

def setInvoiceStatus (status : String) (invoice : Invoice) : Invoice := { invoice with status }

theorem id_setInvoiceStatus (status : String) (invoice : Invoice) :
    (setInvoiceStatus status invoice).id = invoice.id := rfl

def modifyInvoice (db : Database) (invoiceId status : String) : Database :=
  { db with
    invoices := db.invoices.modify invoiceId (setInvoiceStatus status)
      (id_setInvoiceStatus status) }

def paidInvoices (subId : String) (db : Database) : List Invoice :=
  db.invoices.rows.filter fun invoice =>
    invoice.subscriptionId = some subId && invoice.status = "paid"

def newestPaidInvoice (subId : String) (db : Database) : Option Invoice :=
  firstBy (fun first second => second.issuedAt.instant < first.issuedAt.instant)
    (paidInvoices subId db)

/-- `amount_vnd` if it is given, else the amount of the invoice. -/
def subRefundAmount (amountVnd : Option Int) (invoice : Option Invoice) : Int :=
  (amountVnd.filter fun value => value ≠ 0).getD ((invoice.map Invoice.amountVnd).getD 0)

def subRefundArgs (sub : Db.Subscription) (amountVnd : Int) (note actorEmail : String)
    (draws : RefundDraws) : Wallet.WalletArgs where
  userId := sub.userId
  amountVnd := amountVnd
  idempotencyKey := s!"admin-refund-sub:{sub.id}:{draws.tokenHex}"
  refKind := some "admin_refund_sub"
  refId := some sub.id
  note := some note
  createdBy := some s!"admin:{actorEmail}"

def voidIfAny (invoice : Option Invoice) (db : Database) : Database :=
  match invoice with
  | some invoice => modifyInvoice db invoice.id "void"
  | none => db

def adminRefundSub (subId : String) (amountVnd : Option Int) (note actorEmail : String)
    (draws : RefundDraws) : Session Unit := do
  let sub ← getSubscription subId
  let db ← get
  let invoice := newestPaidInvoice sub.id db
  let refundAmount := subRefundAmount amountVnd invoice
  if refundAmount ≤ 0 then
    throw (.httpException 400 "refund_amount phải > 0 (truyền amount_vnd)")
  else do
    let _ ← Wallet.refund (subRefundArgs sub refundAmount note actorEmail draws) draws.row
    assign fun db => voidIfAny invoice (modifySubscription db sub.id cancel id_cancel)

/-- A refund that returns has credited the owner, canceled the row and voided the
invoice that was newest. -/
theorem adminRefundSub_ok {subId note actorEmail : String} {amountVnd : Option Int}
    {draws : RefundDraws} {before after : Database}
    (returned : adminRefundSub subId amountVnd note actorEmail draws before = .ok () after) :
    ∃ sub row credited, before.subscriptions.find? subId = some sub ∧
      0 < subRefundAmount amountVnd (newestPaidInvoice sub.id before) ∧
      Wallet.refund (subRefundArgs sub (subRefundAmount amountVnd
        (newestPaidInvoice sub.id before)) note actorEmail draws) draws.row before =
          .ok row credited ∧
      after = voidIfAny (newestPaidInvoice sub.id before)
        (modifySubscription credited sub.id cancel id_cancel) := by
  obtain ⟨sub, found, rest⟩ := (fetch_bind_ok_iff ..).mp returned
  simp only [bind, EStateM.bind, Effect.get_apply] at rest
  split at rest
  · cases rest
  · rename_i positive
    obtain ⟨row, credited, refunded, written⟩ := (Effect.bind_ok_iff ..).mp rest
    cases written
    exact ⟨sub, row, credited, found, Int.not_le.mp positive, refunded, rfl⟩

theorem subscriptions_voidIfAny (invoice : Option Invoice) (db : Database) :
    (voidIfAny invoice db).subscriptions = db.subscriptions := by
  cases invoice <;> rfl

def getInvoice (invoiceId : String) : Session Invoice :=
  fetch (fun db => db.invoices.find? invoiceId) (.httpException 404 "not found")

def adminVoidInvoice (invoiceId : String) : Session Unit := do
  let inv ← getInvoice invoiceId
  assign fun db => modifyInvoice db inv.id "void"

def adminMarkInvoicePaid (invoiceId : String) : Session Unit := do
  let inv ← getInvoice invoiceId
  assign fun db => modifyInvoice db inv.id "paid"

/-- `POST /me/subscription/cancel`: the active row with the latest end, over or not. -/
def cancelMySubscription (userId : String) : Session Unit := do
  let sub ← fetch (latestActive userId) (.httpException 404 "no active subscription")
  assign fun db => modifySubscription db sub.id cancel id_cancel

end ApiBank.Api.AdminBilling
