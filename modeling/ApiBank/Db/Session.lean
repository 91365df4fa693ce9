import ApiBank.Db.Models
import ApiBank.Errors
import ApiBank.Transition.Effect

/-!
# Sessions and row assignments

Work on the state of one database session, and the assignments to order and
transaction rows that several endpoints share. Every `UPDATE` of an order renews
`updated_at`. One operation reads the clock once.
-/

namespace ApiBank.Db

open ApiBank.Relational ApiBank.Transition

set_option autoImplicit false

abbrev Session := EStateM Error Database

def liftResult {Value : Type} : Except Error Value → Session Value
  | .ok value => pure value
  | .error failure => throw failure

theorem liftResult_bind_ok_iff {Value Result : Type} (outcome : Except Error Value)
    (rest : Value → Session Result) (before after : Database) (result : Result) :
    (liftResult outcome >>= rest) before = .ok result after ↔
      ∃ value, outcome = .ok value ∧ rest value before = .ok result after := by
  cases outcome <;> simp [bind, EStateM.bind, liftResult]

def query {Value : Type} (read : Database → Except Error Value) : Session Value := fun db =>
  match read db with
  | .ok value => .ok value db
  | .error failure => .error failure db

theorem query_bind_ok_iff {Value Result : Type} (read : Database → Except Error Value)
    (rest : Value → Session Result) (before after : Database) (result : Result) :
    (query read >>= rest) before = .ok result after ↔
      ∃ value, read before = .ok value ∧ rest value before = .ok result after := by
  simp only [bind, EStateM.bind, query]
  cases read before <;> simp

/-- `session.get`, with the exception for a missing row. -/
def fetch {Row : Type} (select : Database → Option Row) (missing : Error) : Session Row :=
  fun db =>
    match select db with
    | some row => .ok row db
    | none => .error missing db

theorem fetch_ok_iff {Row : Type} (select : Database → Option Row) (missing : Error)
    (before after : Database) (row : Row) :
    fetch select missing before = .ok row after ↔ select before = some row ∧ after = before := by
  unfold fetch
  cases select before <;> simp [eq_comm]

theorem fetch_bind_ok_iff {Row Result : Type} (select : Database → Option Row) (missing : Error)
    (rest : Row → Session Result) (before after : Database) (result : Result) :
    (fetch select missing >>= rest) before = .ok result after ↔
      ∃ row, select before = some row ∧ rest row before = .ok result after := by
  simp only [bind, EStateM.bind, fetch]
  cases select before <;> simp

/-- Assignments that are flushed without a possible exception. -/
def assign (change : Database → Database) : Session Unit := fun db => .ok () (change db)

@[simp] theorem assign_apply (change : Database → Database) (db : Database) :
    assign change db = .ok () (change db) := rfl

def Order.pay (txId : String) (now : Int) (order : Order) : Order :=
  { order with
    status := .paid
    paidTxId := some txId
    paidAt := some (.utc now)
    updatedAt := .utc now }

/-- Paid without a bank transaction. -/
def Order.confirm (now : Int) (order : Order) : Order :=
  { order with
    status := .paid
    paidAt := some (.utc now)
    updatedAt := .utc now }

def Order.setStatus (status : OrderStatus) (now : Int) (order : Order) : Order :=
  { order with
    status
    updatedAt := .utc now }

/-- Paid, with the status that the transition check returned. -/
def Order.settle (txId : String) (status : OrderStatus) (now : Int) (order : Order) : Order :=
  (order.pay txId now).setStatus status now

def Transaction.assign (orderId : String) (tx : Transaction) : Transaction :=
  { tx with
    state := .matched
    matchedOrderId := some orderId }

def Transaction.reject (tx : Transaction) : Transaction :=
  { tx with
    state := .rejected
    matchedOrderId := none }

def Transaction.setState (state : TransactionState) (tx : Transaction) : Transaction :=
  { tx with state }

@[simp] theorem Order.id_pay (txId : String) (now : Int) (order : Order) :
    (order.pay txId now).id = order.id := rfl

@[simp] theorem Order.id_settle (txId : String) (status : OrderStatus) (now : Int)
    (order : Order) : (order.settle txId status now).id = order.id := rfl

@[simp] theorem Order.settle_paid (txId : String) (now : Int) :
    Order.settle txId .paid now = Order.pay txId now := rfl

@[simp] theorem Order.id_confirm (now : Int) (order : Order) :
    (order.confirm now).id = order.id := rfl

@[simp] theorem Order.id_setStatus (status : OrderStatus) (now : Int) (order : Order) :
    (order.setStatus status now).id = order.id := rfl

@[simp] theorem Transaction.id_assign (orderId : String) (tx : Transaction) :
    (tx.assign orderId).id = tx.id := rfl

@[simp] theorem Transaction.id_reject (tx : Transaction) : tx.reject.id = tx.id := rfl

@[simp] theorem Transaction.id_setState (state : TransactionState) (tx : Transaction) :
    (tx.setState state).id = tx.id := rfl

def Database.modifyOrder (db : Database) (id : String) (change : Order → Order)
    (keeps : ∀ order, (change order).id = order.id) : Database :=
  { db with orders := db.orders.modify id change keeps }

def Database.modifyTransaction (db : Database) (id : String)
    (change : Transaction → Transaction) (keeps : ∀ tx, (change tx).id = tx.id) : Database :=
  { db with transactions := db.transactions.modify id change keeps }

def Database.assigned (db : Database) (txId orderId : String) : Table Transaction.id :=
  db.transactions.modify txId (Transaction.assign orderId) (Transaction.id_assign orderId)

def Database.keptNames (db : Database) (order : Order) (now : Int) :
    Table PaymentNameReservation.key :=
  db.paymentNameReservations.modify (order.bankAccountId, order.publicCode)
    (.keepUntil ((DateTime.utc now).add (days 7))) (PaymentNameReservation.key_keepUntil _)

@[simp] theorem Database.orders_modifyTransaction (db : Database) (id : String)
    (change : Transaction → Transaction) (keeps : ∀ tx, (change tx).id = tx.id) :
    (db.modifyTransaction id change keeps).orders = db.orders := rfl

@[simp] theorem Database.transactions_modifyOrder (db : Database) (id : String)
    (change : Order → Order) (keeps : ∀ order, (change order).id = order.id) :
    (db.modifyOrder id change keeps).transactions = db.transactions := rfl

end ApiBank.Db
