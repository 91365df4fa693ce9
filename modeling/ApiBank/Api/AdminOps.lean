import ApiBank.Billing.Wallet
import ApiBank.Core.Matcher
import ApiBank.Core.StateMachine

/-!
# Admin operations on orders and transactions

The endpoints that write an order or a transaction. Each reads its rows, refuses
or assigns, and commits; only the refund goes through the wallet.
-/

namespace ApiBank.Api.AdminOps

open ApiBank.Billing ApiBank.Core ApiBank.Db ApiBank.Relational ApiBank.Transition Matcher

set_option autoImplicit false

def getOrder (orderId : String) : Session Order :=
  fetch (fun db => db.orders.find? orderId) (.httpException 404 "order not found")

/-- `session.get(Transaction, ...)`; the detail of the 404 differs by endpoint. -/
def getTransaction (txId detail : String) : Session Transaction :=
  fetch (fun db => db.transactions.find? txId) (.httpException 404 detail)

def adminCancelOrder (orderId : String) (now : Int) : Session Unit := do
  let order ← getOrder orderId
  if order.status ≠ .pending then
    throw (.httpException 409
      s!"order status='{StateMachine.statusText order.status}' không thể hủy")
  else
    assign fun db => db.modifyOrder orderId (Order.setStatus .canceled now)
      (Order.id_setStatus .canceled now)

/-- The order becomes paid by the transaction whatever either was before. -/
def adminForceMatchOrder (orderId txId : String) (now : Int) : Session Unit := do
  let order ← getOrder orderId
  let tx ← getTransaction txId "transaction not found"
  if tx.bankAccountId ≠ order.bankAccountId then
    throw (.httpException 400 "transaction phải cùng bank_account với order")
  else
    assign fun db =>
      (db.modifyOrder order.id (Order.pay tx.id now) (Order.id_pay tx.id now)).modifyTransaction
        tx.id (Transaction.assign order.id) (Transaction.id_assign order.id)

def adminRejectTransaction (txId : String) : Session Unit := do
  let tx ← getTransaction txId "not found"
  assign fun db => db.modifyTransaction tx.id Transaction.reject Transaction.id_reject

/-- The assignments shared by match and rematch: the transaction takes the order,
the order takes the transaction if it is still pending. -/
def linkTransaction (order : Order) (tx : Transaction) (now : Int) (db : Database) : Database :=
  let linked := db.modifyTransaction tx.id (Transaction.assign order.id)
    (Transaction.id_assign order.id)
  if order.status = .pending then
    linked.modifyOrder order.id (Order.pay tx.id now) (Order.id_pay tx.id now)
  else linked

def adminMatchTransaction (txId orderId : String) (now : Int) : Session Unit := do
  let tx ← getTransaction txId "not found"
  let order ← getOrder orderId
  if order.bankAccountId ≠ tx.bankAccountId then
    throw (.httpException 400 "bank_account của tx và order phải khớp")
  else assign (linkTransaction order tx now)

def rematchCandidates (db : Database) (tx : Transaction) : List Order :=
  db.orders.rows.filter fun order =>
    order.bankAccountId = tx.bankAccountId && order.status = .pending

def rematchCandidate (order : Order) : MatchCandidate where
  id := order.id
  code := order.code
  amount := order.amountVnd
  status := .pending
  expiredAt := order.expiredAt

def rematchResult (unicode : UnicodeData) (db : Database) (tx : Transaction) (now : Int) :
    MatchResult :=
  findOrderMatch unicode now ⟨tx.amountVnd, tx.content⟩
    ((rematchCandidates db tx).map rematchCandidate)

def resultText : MatchResult → String
  | .matched _ => "matched"
  | .unmatched => "unmatched"
  | .ambiguous => "ambiguous"

def adminRematchTransaction (unicode : UnicodeData) (txId : String) (now : Int) :
    Session String := do
  let tx ← getTransaction txId "not found"
  let db ← get
  match rematchResult unicode db tx now with
  | .matched orderId =>
      match db.orders.find? orderId with
      | some matched =>
          assign (linkTransaction matched tx now)
          pure s!"matched to {matched.id}"
      | none => pure "no_match: matched"
  | result => pure s!"no_match: {resultText result}"

/-- `not value` for an optional token. -/
def present (value : Option String) : Option String :=
  if value = some "" then none else value

structure RefundDraws where
  tokenHex : String
  row : RowDefaults

def refundArgs (tx : Transaction) (userId note actorEmail : String) (draws : RefundDraws) :
    Wallet.WalletArgs where
  userId := userId
  amountVnd := tx.amountVnd
  idempotencyKey := s!"admin-refund-tx:{tx.id}:{draws.tokenHex}"
  refKind := some "admin_refund_tx"
  refId := some tx.id
  note := some note
  createdBy := some s!"admin:{actorEmail}"

def adminRefundTransaction (txId note actorEmail : String) (draws : RefundDraws) :
    Session Unit := do
  let tx ← getTransaction txId "not found"
  match present tx.matchedOrderId with
  | none => throw (.httpException 400 "tx chưa match order, không có target để refund")
  | some orderId =>
      let order ← fetch (fun db => db.orders.find? orderId)
        (.httpException 400 "order không có user → không refund được")
      match present order.userId with
      | none => throw (.httpException 400 "order không có user → không refund được")
      | some userId =>
          let _ ← Wallet.refund (refundArgs tx userId note actorEmail draws) draws.row
          assign fun db =>
            (db.modifyTransaction tx.id (.setState .refunded)
              (Transaction.id_setState .refunded)).modifyOrder order.id
                (Order.setStatus .refunded draws.row.now)
                (Order.id_setStatus .refunded draws.row.now)

/-- A refund that returns has credited the user of the order that the transaction is
matched to. -/
theorem adminRefundTransaction_ok {txId note actorEmail : String} {draws : RefundDraws}
    {before after : Database}
    (returned : adminRefundTransaction txId note actorEmail draws before = .ok () after) :
    ∃ tx order userId row credited, before.transactions.find? txId = some tx ∧
      present tx.matchedOrderId = some order.id ∧
      before.orders.find? order.id = some order ∧ present order.userId = some userId ∧
      Wallet.refund (refundArgs tx userId note actorEmail draws) draws.row before =
        .ok row credited ∧
      after = (credited.modifyTransaction tx.id (.setState .refunded)
        (Transaction.id_setState .refunded)).modifyOrder order.id
          (Order.setStatus .refunded draws.row.now)
          (Order.id_setStatus .refunded draws.row.now) := by
  obtain ⟨tx, foundTx, rest⟩ := (fetch_bind_ok_iff ..).mp returned
  cases matched : present tx.matchedOrderId with
  | none => simp [matched] at rest
  | some orderId =>
      simp only [matched] at rest
      obtain ⟨order, found, rest⟩ := (fetch_bind_ok_iff ..).mp rest
      cases payee : present order.userId with
      | none => simp [payee] at rest
      | some userId =>
          simp only [payee] at rest
          obtain ⟨row, credited, refund, written⟩ := (Effect.bind_ok_iff ..).mp rest
          simp only [assign_apply, EStateM.Result.ok.injEq, true_and] at written
          obtain rfl := Table.key_of_find? found
          exact ⟨tx, order, userId, row, credited, foundTx, matched, found, payee, refund,
            written.symm⟩

end ApiBank.Api.AdminOps
