import ApiBank.Orders.Operations
import ApiBank.Transition.Interleaving

/-!
# Order writers in concurrent sessions

Ingestion, the two cancellations and the expiry job read an order, decide on the
loaded object and send an `UPDATE` by primary key. Other sessions run between the
read, each `UPDATE` and the commit.

Of the stack, for Postgres under READ COMMITTED: a `SELECT` sees committed rows, an
`UPDATE` waits while another transaction has the row updated and then writes its own
columns to whatever the row holds, and the unique index of transactions refuses a
second bank reference. Every job reads its orders afresh. The wallet, the name
reservations and the webhook queue are left to the models of one session.
-/

namespace ApiBank.Orders.OrderSessions

open ApiBank.Api ApiBank.Core ApiBank.Db ApiBank.Relational ApiBank.Transition
open Ingest Matcher MatchDecision Operations Orders StateMachine

set_option autoImplicit false

/-- The committed rows, and who has an order row updated without having committed. -/
structure Shared where
  committed : Database
  rowOwner : String → Option SessionId

/-- The assignments to an order object. -/
inductive OrderWrite where
  | pay (txId : String) (now : Int)
  | cancel (now : Int)
  | expire (now : Int)

def OrderWrite.apply : OrderWrite → Order → Order
  | .pay txId now => Order.pay txId now
  | .cancel now => Order.setStatus .canceled now
  | .expire now => Order.setStatus .expired now

@[simp] theorem OrderWrite.id_apply (write : OrderWrite) (order : Order) :
    (write.apply order).id = order.id := by
  cases write <;> rfl

/-- `UPDATE orders SET ... WHERE id = ...`. -/
structure OrderUpdate where
  orderId : String
  write : OrderWrite

/-- Where a session stands: between two jobs, after the `INSERT` of a transaction,
or with decided `UPDATE`s of which some have been sent. -/
inductive Local where
  | ready
  | inserted (transaction : Transaction) (draws : IngestDraws)
  | writing (stored : Option Transaction) (waiting sent : List OrderUpdate)

inductive Action where
  | ingest (bankAccountId : String) (bankTransaction : BankTransaction) (draws : IngestDraws)
  | tryMatch
  | cancel (orderId : String) (now : Int)
  | cancelTopup (userId orderId : String) (now : Int)
  | expire (now : Int)
  | flush
  | commit
  | rollback

/-- The lookup of the reference and the `INSERT`. -/
def ingest (shared : Shared) (state : Local) (bankAccountId : String)
    (bankTransaction : BankTransaction) (draws : IngestDraws) : Option (Unit × Shared × Local) :=
  match state with
  | .ready =>
      match storedTransaction shared.committed bankAccountId bankTransaction.bankRefNo with
      | some _ => some ((), shared, .ready)
      | none =>
          let transaction := newTransaction bankAccountId bankTransaction draws
          if 0 < transaction.amountVnd then some ((), shared, .inserted transaction draws)
          else some ((), shared, .writing (some transaction) [] [])
  | _ => none

/-- The `SELECT` of `_try_match_transaction` and the assignments that follow. -/
def tryMatch (unicode : UnicodeData) (shared : Shared) (state : Local) :
    Option (Unit × Shared × Local) :=
  match state with
  | .inserted transaction draws =>
      match matchTransaction unicode shared.committed transaction draws.now with
      | .matched orderId =>
          match (candidateOrders shared.committed transaction).find? fun order =>
            order.id = orderId with
          | none => some ((), shared, .ready)
          | some order =>
              match transitionOrder order.status .paid with
              | .error _ => some ((), shared, .ready)
              | .ok _ => some ((), shared, .writing (some (transaction.assign order.id))
                  [⟨order.id, .pay transaction.id draws.now⟩] [])
      | .ambiguous => some ((), shared, .writing (some (transaction.setState .review)) [] [])
      | .unmatched => some ((), shared, .writing (some (transaction.setState .unmatched)) [] [])
  | _ => none

/-- The read and the status check of `cancel_order`. -/
def cancel (shared : Shared) (state : Local) (orderId : String) (now : Int) :
    Option (Unit × Shared × Local) :=
  match state with
  | .ready =>
      match shared.committed.orders.find? orderId with
      | none => some ((), shared, .ready)
      | some order =>
          if order.status = .pending then
            some ((), shared, .writing none [⟨orderId, .cancel now⟩] [])
          else some ((), shared, .ready)
  | _ => none

/-- The checks of `cancel_pending_topup`, on the rows it reads. -/
def cancelTopup (shared : Shared) (state : Local) (userId orderId : String) (now : Int) :
    Option (Unit × Shared × Local) :=
  match state with
  | .ready =>
      match cancelPendingTopup userId orderId now shared.committed with
      | .error _ _ => some ((), shared, .ready)
      | .ok _ _ => some ((), shared, .writing none [⟨orderId, .cancel now⟩] [])
  | _ => none

/-- The `SELECT` of `expire_overdue_orders`. -/
def expire (shared : Shared) (state : Local) (now : Int) : Option (Unit × Shared × Local) :=
  match state with
  | .ready =>
      let overdue := shared.committed.orders.rows.filter (Reconcile.overdue now)
      some ((), shared, .writing none (overdue.map fun order => ⟨order.id, .expire now⟩) [])
  | _ => none

/-- The next `UPDATE`. The session waits while another one has the row. -/
def flush (session : SessionId) (shared : Shared) (state : Local) :
    Option (Unit × Shared × Local) :=
  match state with
  | .writing stored (next :: waiting) sent =>
      if shared.rowOwner next.orderId = none ∨ shared.rowOwner next.orderId = some session then
        some ((), { shared with
            rowOwner := Function.update shared.rowOwner next.orderId (some session) },
          .writing stored waiting (sent ++ [next]))
      else none
  | _ => none

/-- The row after the `UPDATE`s that name it. -/
def written : List OrderUpdate → Order → Order
  | [], order => order
  | update :: rest, order =>
      written rest (if update.orderId = order.id then update.write.apply order else order)

theorem id_written (updates : List OrderUpdate) (order : Order) :
    (written updates order).id = order.id := by
  induction updates generalizing order with
  | nil => rfl
  | cons update rest ih =>
      rw [written, ih]
      split
      · exact update.write.id_apply order
      · rfl

/-- The unique index on the bank reference, then the primary key. -/
def storeTransaction (stored : Option Transaction) (db : Database) :
    Option (Table Transaction.id) :=
  match stored with
  | none => some db.transactions
  | some transaction =>
      match storedTransaction db transaction.bankAccountId transaction.bankRefNo with
      | some _ => none
      | none => db.transactions.insert? transaction

/-- The committed rows after the session's transaction. -/
def published (stored : Option Transaction) (sent : List OrderUpdate) (db : Database) :
    Option Database :=
  (storeTransaction stored db).map fun transactions => { db with
    transactions
    orders := db.orders.update (written sent) (id_written sent) }

/-- The end of the job. A refused transaction rolls everything back. -/
def commit (session : SessionId) (shared : Shared) (state : Local) :
    Option (Unit × Shared × Local) :=
  match state with
  | .writing stored [] sent =>
      some ((), { committed := (published stored sent shared.committed).getD shared.committed
                  rowOwner := release shared.rowOwner session }, .ready)
  | _ => none

def advance (unicode : UnicodeData) (session : SessionId) (shared : Shared) (state : Local) :
    Action → Option (Unit × Shared × Local)
  | .ingest bankAccountId bankTransaction draws =>
      ingest shared state bankAccountId bankTransaction draws
  | .tryMatch => tryMatch unicode shared state
  | .cancel orderId now => cancel shared state orderId now
  | .cancelTopup userId orderId now => cancelTopup shared state userId orderId now
  | .expire now => expire shared state now
  | .flush => flush session shared state
  | .commit => commit session shared state
  | .rollback => some ((), { shared with rowOwner := release shared.rowOwner session }, .ready)

abbrev System := Interleaved Shared Local

abbrev Event := SessionEvent Action Unit

def opened (db : Database) : System where
  shared := { committed := db, rowOwner := fun _ => none }
  sessions := fun _ => .ready

section Solo

/-! A session that runs alone does what the endpoint does. -/

variable {unicode : UnicodeData} {before after : Database}

def SameRows (left right : Database) : Prop :=
  left.orders = right.orders ∧ left.transactions = right.transactions

def Reaches (unicode : UnicodeData) (session : SessionId) (before after : Database) : Prop :=
  ∃ actions shared, Interleaved.alone (advance unicode) session (opened before).shared .ready
      actions = some (shared, .ready) ∧ SameRows shared.committed after

theorem written_one (update : OrderUpdate) (orders : Table Order.id) :
    orders.update (written [update]) (id_written [update]) =
      orders.modify update.orderId update.write.apply update.write.id_apply := by
  apply Table.ext_rows
  apply List.map_congr_left
  intro order _
  simp [written, eq_comm]

theorem written_nil (orders : Table Order.id) :
    orders.update (written []) (id_written []) = orders :=
  Table.ext_rows (List.map_id _)

/-- Undisturbed `UPDATE`s are sent one after the other. -/
theorem alone_flushes (unicode : UnicodeData) (session : SessionId) (stored : Option Transaction)
    (waiting sent : List OrderUpdate) (shared : Shared)
    (free : ∀ update ∈ waiting, shared.rowOwner update.orderId = none ∨
      shared.rowOwner update.orderId = some session) :
    ∃ rowOwner, Interleaved.alone (advance unicode) session shared (.writing stored waiting sent)
        (List.replicate waiting.length .flush) =
      some ({ shared with rowOwner }, .writing stored [] (sent ++ waiting)) := by
  induction waiting generalizing shared sent with
  | nil => exact ⟨shared.rowOwner, by simp [Interleaved.alone]⟩
  | cons next rest ih =>
      have taken : ∀ update ∈ rest,
          Function.update shared.rowOwner next.orderId (some session) update.orderId = none ∨
          Function.update shared.rowOwner next.orderId (some session) update.orderId =
            some session := by
        intro update member
        by_cases same : update.orderId = next.orderId
        · simp [same]
        · rw [Function.update_of_ne same]
          exact free update (by simp [member])
      obtain ⟨rowOwner, reached⟩ := ih (sent ++ [next]) { shared with
        rowOwner := Function.update shared.rowOwner next.orderId (some session) } taken
      refine ⟨rowOwner, ?_⟩
      rw [List.length_cons, List.replicate_succ]
      simp only [Interleaved.alone, advance, flush, free next (by simp), if_true]
      rw [reached, List.append_assoc]
      rfl

theorem reaches_of_decided {session : SessionId} {actions : List Action}
    {stored : Option Transaction} {updates : List OrderUpdate} {db : Database}
    (decided : Interleaved.alone (advance unicode) session (opened before).shared .ready actions =
      some ((opened before).shared, .writing stored updates []))
    (publishes : published stored updates before = some db) (same : SameRows db after) :
    Reaches unicode session before after := by
  obtain ⟨rowOwner, sent⟩ := alone_flushes unicode session stored updates [] (opened before).shared
    (fun _ _ => .inl rfl)
  refine ⟨actions ++ (List.replicate updates.length .flush ++ [.commit]),
    ⟨db, release rowOwner session⟩, ?_, same⟩
  rw [Interleaved.alone_append, decided]
  simp only [Option.bind_some]
  rw [Interleaved.alone_append, sent]
  simp [Interleaved.alone, advance, commit, opened, publishes]

theorem reaches_unchanged {session : SessionId} {action : Action}
    (refused : advance unicode session (opened before).shared .ready action =
      some ((), (opened before).shared, .ready)) : Reaches unicode session before before :=
  ⟨[action], (opened before).shared, by simp [Interleaved.alone, refused], rfl, rfl⟩

theorem alone_one {session : SessionId} {action : Action} {state : Local}
    (decided : advance unicode session (opened before).shared .ready action =
      some ((), (opened before).shared, state)) :
    Interleaved.alone (advance unicode) session (opened before).shared .ready [action] =
      some ((opened before).shared, state) := by
  simp [Interleaved.alone, decided]

theorem published_cancel (orderId : String) (now : Int) (db : Database) :
    published none [⟨orderId, .cancel now⟩] db = some { db with
      orders := db.orders.modify orderId (Order.setStatus .canceled now)
        (Order.id_setStatus .canceled now) } := by
  simp only [published, storeTransaction, Option.map_some]
  rw [written_one]
  rfl

theorem alone_cancels (unicode : UnicodeData) (session : SessionId) (before : Database)
    (orderId : String) (now : Int) :
    Reaches unicode session before (serve unicode before (.cancel orderId now)) := by
  have served : serve unicode before (.cancel orderId now) =
      Effect.commit (cancelOrder orderId now) before := commit_discard ..
  rw [served]
  unfold Effect.commit cancelOrder
  have start : advance unicode session (opened before).shared .ready (.cancel orderId now) =
      cancel (opened before).shared .ready orderId now := rfl
  cases found : before.orders.find? orderId with
  | none =>
      simp only [cancel, opened, found] at start
      exact reaches_unchanged start
  | some order =>
      by_cases pending : order.status = .pending
      · simp only [cancel, opened, found, if_pos pending] at start ⊢
        exact reaches_of_decided (alone_one start) (published_cancel orderId now before)
          ⟨rfl, rfl⟩
      · simp only [cancel, opened, found, if_neg pending] at start ⊢
        exact reaches_unchanged start

theorem alone_cancels_topup (unicode : UnicodeData) (session : SessionId) (before : Database)
    (userId orderId : String) (now : Int) :
    Reaches unicode session before (serve unicode before (.cancelTopup userId orderId now)) := by
  have start : advance unicode session (opened before).shared .ready
      (.cancelTopup userId orderId now) =
        cancelTopup (opened before).shared .ready userId orderId now := rfl
  cases answered : cancelPendingTopup userId orderId now before with
  | error failure after =>
      have served : serve unicode before (.cancelTopup userId orderId now) = before :=
        Effect.commit_of_error answered
      simp only [cancelTopup, opened, answered] at start
      rw [served]
      exact reaches_unchanged start
  | ok value after =>
      have served : serve unicode before (.cancelTopup userId orderId now) = after :=
        Effect.commit_of_ok answered
      obtain ⟨order, -, -, rfl⟩ := cancelPendingTopup_ok answered
      simp only [cancelTopup, opened, answered] at start
      rw [served]
      exact reaches_of_decided (alone_one start) (published_cancel orderId now before) ⟨rfl, rfl⟩

/-- Every overdue row gets its `UPDATE`, the others get none. -/
theorem written_expiry (overdue : List Order) (now : Int) (order : Order) :
    written (overdue.map fun other => ⟨other.id, .expire now⟩) order =
      if order.id ∈ overdue.map Order.id then order.setStatus .expired now else order := by
  induction overdue generalizing order with
  | nil => rfl
  | cons other rest ih =>
      rw [List.map_cons, written, ih]
      by_cases same : other.id = order.id
      · simp only [same, if_true, List.map_cons, List.mem_cons, true_or]
        split <;> rfl
      · have apart : ¬order.id = other.id := fun equal => same equal.symm
        simp [same, apart]

theorem alone_expires (unicode : UnicodeData) (session : SessionId) (before : Database)
    (now : Int) : Reaches unicode session before (serve unicode before (.expire now)) := by
  have served : serve unicode before (.expire now) = { before with
      orders := before.orders.update (Reconcile.expireIfOverdue now)
        (Reconcile.id_expireIfOverdue now) } := commit_discard ..
  rw [served]
  have start : advance unicode session (opened before).shared .ready (.expire now) =
      some ((), (opened before).shared, .writing none
        ((before.orders.rows.filter (Reconcile.overdue now)).map fun order =>
          ⟨order.id, .expire now⟩) []) := rfl
  refine reaches_of_decided (alone_one start) rfl ⟨?_, rfl⟩
  apply Table.ext_rows
  apply List.map_congr_left
  intro order member
  rw [written_expiry]
  have listed : order.id ∈ (before.orders.rows.filter (Reconcile.overdue now)).map Order.id ↔
      Reconcile.overdue now order := by
    rw [List.mem_map]
    constructor
    · rintro ⟨other, fitting, sameId⟩
      obtain ⟨stored, overdue⟩ := List.mem_filter.mp fitting
      exact before.orders.eq_of_key_eq stored member sameId ▸ overdue
    · intro overdue
      exact ⟨order, List.mem_filter.mpr ⟨member, overdue⟩, rfl⟩
  simp only [listed, Reconcile.expireIfOverdue]

theorem published_of_stored {stored : Option Transaction} {transactions : Table Transaction.id}
    (accepted : storeTransaction stored before = some transactions) (sent : List OrderUpdate) :
    published stored sent before = some { before with
      transactions
      orders := before.orders.update (written sent) (id_written sent) } := by
  simp [published, accepted]

section Ingest

variable {bankAccountId : String} {bankTransaction : BankTransaction} {draws : IngestDraws}
variable {entered : Database}

/-- The new row is accepted with whatever state and link it ends up with. -/
theorem storeTransaction_entered {change : Transaction → Transaction}
    (entry : Entered bankAccountId bankTransaction draws before entered)
    (keeps : ∀ transaction, (change transaction).id = transaction.id)
    (sameAccount : ∀ transaction, (change transaction).bankAccountId = transaction.bankAccountId)
    (sameReference : ∀ transaction, (change transaction).bankRefNo = transaction.bankRefNo) :
    storeTransaction (some (change (newTransaction bankAccountId bankTransaction draws))) before =
      some (entered.transactions.modify draws.txId change keeps) := by
  have fresh : storedTransaction before
      (change (newTransaction bankAccountId bankTransaction draws)).bankAccountId
      (change (newTransaction bankAccountId bankTransaction draws)).bankRefNo = none := by
    rw [sameAccount, sameReference]
    exact entry.fresh
  simp only [storeTransaction, fresh]
  exact Table.insert?_change entry.inserted keeps

theorem alone_matches (session : SessionId)
    (entry : Entered bankAccountId bankTransaction draws before entered)
    (positive : 0 < bankTransaction.amount) {state : Local}
    (decided : tryMatch unicode (opened before).shared
        (.inserted (newTransaction bankAccountId bankTransaction draws) draws) =
      some ((), (opened before).shared, state)) :
    Interleaved.alone (advance unicode) session (opened before).shared .ready
      [.ingest bankAccountId bankTransaction draws, .tryMatch] =
        some ((opened before).shared, state) := by
  have incoming : 0 < (newTransaction bankAccountId bankTransaction draws).amountVnd := positive
  have start : ingest (opened before).shared .ready bankAccountId bankTransaction draws =
      some ((), (opened before).shared,
        .inserted (newTransaction bankAccountId bankTransaction draws) draws) := by
    simp only [ingest, opened, entry.fresh, if_pos incoming]
  simp only [Interleaved.alone, advance, start, decided]

/-- An ingestion that leaves the new row without an order. -/
theorem reaches_undecided (session : SessionId)
    (entry : Entered bankAccountId bankTransaction draws before entered)
    (positive : 0 < bankTransaction.amount) (state : TransactionState)
    (decided : tryMatch unicode (opened before).shared
        (.inserted (newTransaction bankAccountId bankTransaction draws) draws) =
      some ((), (opened before).shared, .writing
        (some ((newTransaction bankAccountId bankTransaction draws).setState state)) [] [])) :
    Reaches unicode session before (entered.modifyTransaction draws.txId (.setState state)
      (Transaction.id_setState state)) := by
  have accepted := storeTransaction_entered entry (Transaction.id_setState state) (fun _ => rfl)
    (fun _ => rfl)
  refine reaches_of_decided (alone_matches session entry positive decided)
    (published_of_stored accepted []) ⟨?_, rfl⟩
  rw [written_nil]
  exact (orders_entered entry).symm

theorem alone_ingests (session : SessionId)
    (ingestion : Ingestion unicode bankAccountId bankTransaction draws before after) :
    Reaches unicode session before after := by
  cases ingestion with
  | known existing stored =>
      have start : advance unicode session (opened before).shared .ready
          (.ingest bankAccountId bankTransaction draws) =
            some ((), (opened before).shared, .ready) := by
        simp only [advance, ingest, opened, stored]
      exact reaches_unchanged start
  | outgoing entered entry negative =>
      have outgoing : ¬0 < (newTransaction bankAccountId bankTransaction draws).amountVnd :=
        Int.not_lt.mpr (Int.le_of_lt negative)
      have start : advance unicode session (opened before).shared .ready
          (.ingest bankAccountId bankTransaction draws) = some ((), (opened before).shared,
            .writing (some (newTransaction bankAccountId bankTransaction draws)) [] []) := by
        simp only [advance, ingest, opened, entry.fresh, if_neg outgoing]
      have accepted : storeTransaction
          (some (newTransaction bankAccountId bankTransaction draws)) before =
            some after.transactions := by
        have fresh : storedTransaction before
            (newTransaction bankAccountId bankTransaction draws).bankAccountId
            (newTransaction bankAccountId bankTransaction draws).bankRefNo = none := entry.fresh
        simp only [storeTransaction, fresh]
        exact entry.inserted
      refine reaches_of_decided (alone_one start) (published_of_stored accepted []) ⟨?_, rfl⟩
      rw [written_nil]
      exact (orders_entered entry).symm
  | unmatched entered entry positive none =>
      apply reaches_undecided session entry positive .unmatched
      have decided : matchTransaction unicode before
          (newTransaction bankAccountId bankTransaction draws) draws.now = .unmatched := by
        rw [matchTransaction_eq, none]
        rfl
      simp only [tryMatch, opened, decided]
  | ambiguous entered entry positive several =>
      apply reaches_undecided session entry positive .review
      have decided : matchTransaction unicode before
          (newTransaction bankAccountId bankTransaction draws) draws.now = .ambiguous := by
        rw [matchTransaction_eq, verdict_eq_ambiguous_iff, List.length_map]
        exact several
      simp only [tryMatch, opened, decided]
  | matched entered entry positive order unique webhookAttempts enqueued =>
      have pending := (candidate_of_unique unique).2.1
      have matched : matchTransaction unicode before
          (newTransaction bankAccountId bankTransaction draws) draws.now = .matched order.id := by
        rw [matchTransaction_eq, verdict_eq_matched_iff, unique]
        rfl
      have transition : transitionOrder order.status .paid = .ok .paid := by
        rw [pending]
        decide
      have decided : tryMatch unicode (opened before).shared
          (.inserted (newTransaction bankAccountId bankTransaction draws) draws) =
            some ((), (opened before).shared, .writing
              (some ((newTransaction bankAccountId bankTransaction draws).assign order.id))
              [⟨order.id, .pay draws.txId draws.now⟩] []) := by
        simp only [tryMatch, opened, matched, find_matched unique, transition]
        rfl
      have accepted := storeTransaction_entered entry (Transaction.id_assign order.id)
        (fun _ => rfl) (fun _ => rfl)
      refine reaches_of_decided (alone_matches session entry positive decided)
        (published_of_stored accepted _) ⟨?_, ?_⟩
      · rw [written_one, orders_afterMatch, orders_entered entry]
        rfl
      · rw [transactions_afterMatch]
        rfl

end Ingest

/-- The requests that the sessions model. -/
def Modelled : Op → Prop
  | .ingest _ _ _ => True
  | .cancel _ _ => True
  | .cancelTopup _ _ _ => True
  | .expire _ => True
  | _ => False

theorem alone_serves (unicode : UnicodeData) (session : SessionId) (before : Database) {op : Op}
    (modelled : Modelled op) : Reaches unicode session before (serve unicode before op) := by
  cases op with
  | cancel orderId now => exact alone_cancels unicode session before orderId now
  | cancelTopup userId orderId now =>
      exact alone_cancels_topup unicode session before userId orderId now
  | expire now => exact alone_expires unicode session before now
  | ingest bankAccountId bankTransaction draws =>
      have served : serve unicode before (.ingest bankAccountId bankTransaction draws) =
          Effect.commit (ingestTransaction unicode bankAccountId bankTransaction draws) before :=
        commit_discard ..
      rw [served]
      cases answered : ingestTransaction unicode bankAccountId bankTransaction draws before with
      | ok ingested after =>
          rw [Effect.commit_of_ok answered]
          exact alone_ingests session (ingestTransaction_ok answered)
      | error failure after =>
          rw [Effect.commit_of_error answered]
          exact ⟨[], (opened before).shared, rfl, rfl, rfl⟩
  | _ => exact modelled.elim

theorem run_of_serve (unicode : UnicodeData) (session : SessionId) (before : Database) {op : Op}
    (modelled : Modelled op) : ∃ events system,
      Run (Interleaved.Step (advance unicode)) (opened before) events system ∧
        SameRows system.shared.committed (serve unicode before op) := by
  obtain ⟨actions, shared, reached, same⟩ := alone_serves unicode session before modelled
  obtain ⟨events, system, run, rfl⟩ := Interleaved.run_of_alone (advance unicode) reached
  exact ⟨events, system, run, same⟩

end Solo

end ApiBank.Orders.OrderSessions
