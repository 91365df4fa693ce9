import ApiBank.Db.Session

/-!
# Batch reconciliation

The periodic job: overdue orders expire, and a report counts transactions by state
and suspected silent payments. Nothing is credited here.
-/

namespace ApiBank.Core.Reconcile

open ApiBank.Db ApiBank.Relational ApiBank.Transition

set_option autoImplicit false

def overdue (now : Int) (order : Order) : Bool :=
  order.status = .pending && order.expiredAt.instant ≤ now

def expireIfOverdue (now : Int) (order : Order) : Order :=
  if overdue now order then order.setStatus .expired now else order

theorem id_expireIfOverdue (now : Int) (order : Order) :
    (expireIfOverdue now order).id = order.id := by
  unfold expireIfOverdue
  split <;> rfl

theorem expireIfOverdue_cases (now : Int) (order : Order) :
    (order.status = .pending ∧ expireIfOverdue now order = order.setStatus .expired now) ∨
      expireIfOverdue now order = order := by
  unfold expireIfOverdue
  split
  · rename_i due
    simp only [overdue, Bool.and_eq_true, decide_eq_true_eq] at due
    exact .inl ⟨due.1, rfl⟩
  · exact .inr rfl

def expireOverdueOrders (now : Int) : Session Nat := fun db =>
  .ok (db.orders.rows.filter (overdue now)).length { db with
    orders := db.orders.update (expireIfOverdue now) (id_expireIfOverdue now) }

def detectSilentPayments (now : Int) : Session (List (String × String)) := fun db =>
  let midnight := now - now % days 1
  let expired := db.orders.rows.filter fun order =>
    order.status = .expired && midnight ≤ order.expiredAt.instant
  let suspects := expired.flatMap fun order =>
    (db.transactions.rows.filter fun tx =>
      tx.bankAccountId = order.bankAccountId && tx.amountVnd = order.amountVnd &&
        tx.matchedOrderId.isNone).map fun tx => (order.id, tx.id)
  .ok suspects db

structure ReconcileReport where
  importedTransactions : Nat
  matchedOrders : Nat
  unmatchedTransactions : Nat
  reviewTransactions : Nat

def reconcile (now : Int) : Session ReconcileReport := do
  let _ ← expireOverdueOrders now
  let suspects ← detectSilentPayments now
  let db ← get
  let count (state : TransactionState) :=
    (db.transactions.rows.filter fun tx => tx.state = state).length
  pure {
    importedTransactions := db.transactions.rows.length
    matchedOrders := count .matched
    unmatchedTransactions := count .unmatched
    reviewTransactions := count .review + suspects.length }

end ApiBank.Core.Reconcile
