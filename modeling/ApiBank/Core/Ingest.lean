import ApiBank.Billing.Topup
import ApiBank.Core.Matcher
import ApiBank.Core.StateMachine

/-!
# Ingestion of bank transactions

A transaction is stored once for each bank reference and, when money comes in, is
matched against the pending orders of its account. Audit rows, notifications and
metrics are left out: they are written best-effort and nothing here reads them.
-/

namespace ApiBank.Core.Ingest

open ApiBank.Billing ApiBank.Db ApiBank.Relational ApiBank.Transition
open Matcher StateMachine

set_option autoImplicit false

/-- What a bank adapter delivers; the constructor refuses a zero amount and an
empty reference. -/
structure BankTransaction where
  bankRefNo : String
  postedAt : DateTime
  amount : Int
  content : String
  timestampReliable : Bool
  nonzero : amount ≠ 0
  referenced : bankRefNo ≠ ""

/-- Tokens, the clock, and whether the credit of a top-up fails for a reason
outside the database. -/
structure IngestDraws where
  txId : String
  walletRowId : String
  attemptId : String → String
  now : Int
  creditRaises : Bool

/-- The event published on `topup:paid:…`. -/
structure PaidEvent where
  orderId : String
  code : String
  amountVnd : Int
  bankRefNo : String

/-- What the call returns and publishes after its commit. -/
structure Ingested where
  transaction : Transaction
  paidEvent : Option PaidEvent
  kickWebhook : Bool

def newTransaction (bankAccountId : String) (bankTransaction : BankTransaction)
    (draws : IngestDraws) : Transaction where
  id := draws.txId
  bankAccountId := bankAccountId
  bankRefNo := bankTransaction.bankRefNo
  amountVnd := bankTransaction.amount
  content := bankTransaction.content
  postedAt := bankTransaction.postedAt
  timestampReliable := bankTransaction.timestampReliable
  matchedOrderId := none
  state := .new
  insertedAt := .utc draws.now

/-- The `SELECT` of `_try_match_transaction`. -/
def pendingOrders (db : Database) (transaction : Transaction) : List Order :=
  db.orders.rows.filter fun order =>
    order.status = .pending && order.bankAccountId = transaction.bankAccountId &&
      order.amountVnd = transaction.amountVnd

/-- An order with a reusable name is only paid within its own lifetime. -/
def inWindow (transaction : Transaction) (order : Order) : Bool :=
  order.transferContent.isNone ||
    (transaction.timestampReliable &&
      order.createdAt.aware.instant ≤ transaction.postedAt.aware.instant &&
      transaction.postedAt.aware.instant < order.expiredAt.aware.instant)

def candidateOrders (db : Database) (transaction : Transaction) : List Order :=
  (pendingOrders db transaction).filter (inWindow transaction)

def matchCandidate (order : Order) : MatchCandidate where
  id := order.id
  code := order.publicCode
  amount := order.amountVnd
  status := order.status
  expiredAt := order.expiredAt

def matchInput (transaction : Transaction) : MatchInput where
  amount := transaction.amountVnd
  content := transaction.content

def matchTransaction (unicode : UnicodeData) (db : Database) (transaction : Transaction)
    (now : Int) : MatchResult :=
  findOrderMatch unicode now (matchInput transaction)
    ((candidateOrders db transaction).map matchCandidate)

/-- The assignments for a match: the order, its name reservation if it has one,
and the transaction. -/
def settle (order : Order) (transaction : Transaction) (status : OrderStatus) (now : Int)
    (db : Database) : Database :=
  { db with
    orders := db.orders.modify order.id
      (Order.settle transaction.id status now) (Order.id_settle transaction.id status now)
    paymentNameReservations := db.keptNames order now
    transactions := db.assigned transaction.id order.id }

def creditPaidTopup (order : Order) (draws : IngestDraws) : Session Unit :=
  if Topup.isTopupOrder order then
    if draws.creditRaises then throw .attributeError
    else do
      let _ ← Topup.creditWalletForTopup order ⟨draws.walletRowId, draws.now⟩
      pure ()
  else pure ()

def buildPayload (order : Order) (transaction : Transaction) (now : Int) : Payload where
  id := s!"evt_{transaction.id}"
  type := "payment.succeeded"
  createdAt := .utc now
  orderId := order.id
  transactionId := transaction.id
  code := order.publicCode
  amountVnd := order.amountVnd
  bankRefNo := transaction.bankRefNo
  postedAt := transaction.postedAt
  customerRef := order.customerRef
  metadata := order.metadataJson
  order := ⟨order.id, order.publicCode, order.amountVnd, order.status⟩
  transaction := ⟨transaction.id, transaction.bankRefNo, transaction.amountVnd,
    transaction.postedAt, transaction.content⟩

def newAttempt (webhook : Webhook) (order : Order) (transaction : Transaction)
    (draws : IngestDraws) : WebhookAttempt where
  id := draws.attemptId webhook.id
  webhookId := webhook.id
  orderId := order.id
  transactionId := transaction.id
  payload := buildPayload order transaction draws.now
  attempt := 0
  maxAttempts := 7
  status := "pending"
  nextRunAt := .utc draws.now
  claimedAt := none

def newAttempts (db : Database) (order : Order) (transaction : Transaction)
    (draws : IngestDraws) : List WebhookAttempt :=
  (db.webhooks.rows.filter Webhook.active).map fun webhook =>
    newAttempt webhook order transaction draws

def enqueueWebhook (order : Order) (transaction : Transaction) (draws : IngestDraws) :
    Session Nat := fun db =>
  let attempts := newAttempts db order transaction draws
  match db.webhookAttempts.insertAll? attempts with
  | some webhookAttempts => .ok attempts.length { db with webhookAttempts }
  | none => .error .integrityError db

def tryMatchTransaction (unicode : UnicodeData) (transaction : Transaction)
    (draws : IngestDraws) : Session (Option PaidEvent × Bool) := do
  let db ← get
  match matchTransaction unicode db transaction draws.now with
  | .matched orderId =>
      match (candidateOrders db transaction).find? fun order => order.id = orderId with
      | none => throw .stopIteration
      | some order =>
          let status ← liftResult (transitionOrder order.status .paid)
          assign (settle order transaction status draws.now)
          let paid := order.settle transaction.id status draws.now
          Effect.swallow Error.abortsTransaction (creditPaidTopup paid draws)
          let count ← enqueueWebhook paid transaction draws
          pure (some ⟨paid.id, paid.publicCode, paid.amountVnd, transaction.bankRefNo⟩, 0 < count)
  | .ambiguous =>
      assign fun db => db.modifyTransaction transaction.id (.setState .review)
        (Transaction.id_setState .review)
      pure (none, false)
  | .unmatched =>
      assign fun db => db.modifyTransaction transaction.id (.setState .unmatched)
        (Transaction.id_setState .unmatched)
      pure (none, false)

def storedTransaction (db : Database) (bankAccountId bankRefNo : String) : Option Transaction :=
  db.transactions.rows.find? fun row =>
    row.bankAccountId = bankAccountId && row.bankRefNo = bankRefNo

theorem storedTransaction_isSome_iff {db : Database} {bankAccountId bankRefNo : String} :
    (storedTransaction db bankAccountId bankRefNo).isSome = true ↔
      ∃ row ∈ db.transactions.rows, row.bankAccountId = bankAccountId ∧
        row.bankRefNo = bankRefNo := by
  simp [storedTransaction, List.find?_isSome]

def insertTransaction (transaction : Transaction) : Session Unit := fun db =>
  match db.transactions.insert? transaction with
  | some transactions => .ok () { db with transactions }
  | none => .error .integrityError db

/-- Only money that comes in is matched. -/
def matchIncoming (unicode : UnicodeData) (transaction : Transaction) (draws : IngestDraws) :
    Session (Option PaidEvent × Bool) :=
  if 0 < transaction.amountVnd then tryMatchTransaction unicode transaction draws
  else pure (none, false)

def ingestTransaction (unicode : UnicodeData) (bankAccountId : String)
    (bankTransaction : BankTransaction) (draws : IngestDraws) : Session Ingested := do
  let db ← get
  match storedTransaction db bankAccountId bankTransaction.bankRefNo with
  | some existing => pure ⟨existing, none, false⟩
  | none =>
      let transaction := newTransaction bankAccountId bankTransaction draws
      insertTransaction transaction
      let outcome ← matchIncoming unicode transaction draws
      let refreshed ← fetch (fun db => db.transactions.find? transaction.id) .stopIteration
      pure ⟨refreshed, outcome.1, outcome.2⟩

section Matching

variable {unicode : UnicodeData} {db : Database} {transaction : Transaction} {now : Int}

/-- The orders that pass the query, the window and the matcher. -/
def fittingOrders (unicode : UnicodeData) (db : Database) (transaction : Transaction)
    (now : Int) : List Order :=
  (candidateOrders db transaction).filter fun order =>
    fits unicode now (matchInput transaction) (matchCandidate order)

theorem matchTransaction_eq (unicode : UnicodeData) (db : Database) (transaction : Transaction)
    (now : Int) :
    matchTransaction unicode db transaction now =
      verdict ((fittingOrders unicode db transaction now).map Order.id) :=
  findOrderMatch_map unicode now (matchInput transaction) matchCandidate
    (candidateOrders db transaction)

theorem candidate_of_fitting {order : Order}
    (fitting : order ∈ fittingOrders unicode db transaction now) :
    order ∈ db.orders.rows ∧ order.status = .pending ∧
      order.bankAccountId = transaction.bankAccountId := by
  simp only [fittingOrders, candidateOrders, pendingOrders, List.mem_filter, Bool.and_eq_true,
    decide_eq_true_eq] at fitting
  exact ⟨fitting.1.1.1, fitting.1.1.2.1.1, fitting.1.1.2.1.2⟩

theorem candidate_of_unique {order : Order}
    (unique : fittingOrders unicode db transaction now = [order]) :
    order ∈ db.orders.rows ∧ order.status = .pending ∧
      order.bankAccountId = transaction.bankAccountId := by
  apply candidate_of_fitting
  rw [unique]
  exact List.mem_singleton_self order

theorem find_matched {order : Order}
    (unique : fittingOrders unicode db transaction now = [order]) :
    (candidateOrders db transaction).find? (fun other => other.id = order.id) = some order := by
  have fitting : order ∈ fittingOrders unicode db transaction now := by simp [unique]
  have candidate : order ∈ candidateOrders db transaction := List.mem_of_mem_filter fitting
  cases found : (candidateOrders db transaction).find? (fun other => other.id = order.id) with
  | none => simpa using List.find?_eq_none.mp found order candidate
  | some other =>
      have otherCandidate := List.mem_of_find?_eq_some found
      have sameId : other.id = order.id := by simpa using List.find?_some found
      have stored (row : Order) (member : row ∈ candidateOrders db transaction) :
          row ∈ db.orders.rows := List.mem_of_mem_filter (List.mem_of_mem_filter member)
      rw [db.orders.eq_of_key_eq (stored _ otherCandidate) (stored _ candidate) sameId]

end Matching

section Credit

variable {order : Order} {draws : IngestDraws} {before after : Database}

theorem creditPaidTopup_error {failure : Error}
    (raised : creditPaidTopup order draws before = .error failure after) : after = before := by
  unfold creditPaidTopup at raised
  split at raised
  · split at raised
    · simp only [Effect.throw_apply, EStateM.Result.error.injEq] at raised
      exact raised.2.symm
    · rcases (Effect.bind_error_iff ..).mp raised with called | ⟨_, _, _, done⟩
      · exact Topup.creditWalletForTopup_error called
      · simp at done
  · simp at raised

def BreaksIngestion (draws : IngestDraws) (db : Database) (order : Order) : Prop :=
  draws.creditRaises = false ∧ Topup.BreaksCredit db order

theorem creditPaidTopup_breaks_iff (order : Order) (draws : IngestDraws) (db : Database) :
    Effect.raises Error.abortsTransaction (creditPaidTopup order draws) db = true ↔
      BreaksIngestion draws db order := by
  unfold BreaksIngestion creditPaidTopup
  by_cases topup : Topup.isTopupOrder order = true
  · cases raised : draws.creditRaises with
    | true => simp [Effect.raises, topup, Error.abortsTransaction]
    | false =>
        rw [if_pos topup, if_neg Bool.false_ne_true, Effect.raises_bind_pure,
          Topup.creditWalletForTopup_breaks_iff]
        exact (and_iff_right rfl).symm
  · have funds : ¬Topup.BreaksCredit db order := fun breaks => topup breaks.1
    simp [Effect.raises, topup, funds]

theorem breaksIngestion_congr {draws : IngestDraws} {left right : Database} {first second : Order}
    (users : left.users = right.users)
    (rows : left.walletTransactions = right.walletTransactions) (id : first.id = second.id)
    (amountVnd : first.amountVnd = second.amountVnd)
    (metadataJson : first.metadataJson = second.metadataJson) :
    BreaksIngestion draws left first ↔ BreaksIngestion draws right second := by
  simp only [BreaksIngestion, Topup.BreaksCredit, Topup.isTopupOrder, Topup.referencedUserId, users,
    rows, id, amountVnd, metadataJson]

def topupRequest (order : Order) (userId : String) : Wallet.WalletRequest where
  userId := userId
  type := .topup
  amountVnd := order.amountVnd
  idempotencyKey := Topup.topupKey order.id
  refKind := some "order"
  refId := some order.id
  note := some s!"Topup từ đơn {order.code}"
  createdBy := some "system:ingest"

theorem creditRequest_topup {userId : String} (positive : 0 < order.amountVnd) :
    Wallet.creditRequest (Topup.topupCredit order userId) = .ok (topupRequest order userId) := by
  have accepted : ¬order.amountVnd ≤ 0 := Int.not_le.mpr positive
  simp [Wallet.creditRequest, Wallet.positiveRequest, accepted, topupRequest, Topup.topupCredit]

theorem request_of_credit {userId : String} {request : Wallet.WalletRequest}
    (requested : Wallet.creditRequest (Topup.topupCredit order userId) = .ok request) :
    request = topupRequest order userId := by
  obtain ⟨-, rfl⟩ := Wallet.positiveRequest_ok requested
  simp [topupRequest, Topup.topupCredit]

theorem credited_cases (order : Order) (draws : IngestDraws) (before : Database) :
    Effect.commit (creditPaidTopup order draws) before = before ∨
      draws.creditRaises = false ∧ ∃ userId row,
        Topup.fundedUserId before order = some userId ∧
        Wallet.Posted (topupRequest order userId) ⟨draws.walletRowId, draws.now⟩ before row
          (Effect.commit (creditPaidTopup order draws) before) := by
  cases ran : creditPaidTopup order draws before with
  | error failure after => exact .inl (Effect.commit_of_error ran)
  | ok value after =>
      rw [Effect.commit_of_ok ran]
      unfold creditPaidTopup at ran
      split at ran
      · split at ran
        · simp at ran
        · rename_i raises
          obtain ⟨first, middle, called, done⟩ := (Effect.bind_ok_iff ..).mp ran
          obtain rfl : middle = after := by simpa using done
          rcases Topup.creditWalletForTopup_ok called with
            ⟨-, unchanged⟩ | ⟨userId, row, funded, credited⟩
          · exact .inl unchanged
          · obtain ⟨request, requested, applied⟩ := Wallet.perform_ok credited
            rcases Wallet.apply_ok applied with ⟨-, -, unchanged⟩ | posted
            · exact .inl unchanged
            · rw [request_of_credit requested] at posted
              exact .inr ⟨by simpa using raises, userId, row, funded, posted⟩
      · simp only [Effect.pure_apply, EStateM.Result.ok.injEq] at ran
        exact .inl ran.2.symm

theorem credited_of_funded {userId : String} {user : User} (quiet : draws.creditRaises = false)
    (positive : 0 < order.amountVnd) (funded : Topup.fundedUserId before order = some userId)
    (known : before.users.find? userId = some user) (solvent : 0 ≤ user.balanceVnd)
    (unused : before.walletTransactions.find? (Topup.topupKey order.id) = none)
    (survives : ¬BreaksIngestion draws before order) :
    ∃ row, Wallet.Posted (topupRequest order userId) ⟨draws.walletRowId, draws.now⟩ before row
      (Effect.commit (creditPaidTopup order draws) before) := by
  have fits : ¬Wallet.Overflows (topupRequest order userId)
      (user.balanceVnd + (topupRequest order userId).amountVnd) := by
    intro overflow
    obtain ⟨topup, referenced, -⟩ := (Topup.fundedUserId_eq_some_iff ..).mp funded
    apply survives
    refine ⟨quiet, topup, userId, referenced, ?_⟩
    rw [known]
    exact ⟨positive, unused, overflow.2⟩
  obtain ⟨row, last, applied⟩ : ∃ row last, Wallet.apply (topupRequest order userId)
      ⟨draws.walletRowId, draws.now⟩ before = .ok row last :=
    Wallet.apply_returns _ (by simp only [topupRequest]; omega) unused known
      (by simp only [topupRequest]; omega) fits
  have credited : Wallet.credit (Topup.topupCredit order userId) ⟨draws.walletRowId, draws.now⟩
      before = .ok row last := by
    simp [Wallet.credit, Wallet.perform, Wallet.WalletOperation.request,
      creditRequest_topup positive, liftResult, applied]
  obtain ⟨first, returned⟩ := Topup.creditWalletForTopup_of_funded funded credited
  have ran : creditPaidTopup order draws before = .ok () last := by
    have topup := Topup.isTopup_of_funded funded
    simp [creditPaidTopup, topup, quiet, bind, EStateM.bind, returned]
  rw [Effect.commit_of_ok ran]
  rcases Wallet.apply_ok applied with ⟨found, -, -⟩ | posted
  · rw [show (topupRequest order userId).idempotencyKey = Topup.topupKey order.id from rfl,
      unused] at found
    contradiction
  · exact ⟨row, posted⟩

/-- The credit touches the users and the wallet rows, nothing else. -/
theorem credited_frame (order : Order) (draws : IngestDraws) (before : Database) :
    Effect.commit (creditPaidTopup order draws) before = { before with
      users := (Effect.commit (creditPaidTopup order draws) before).users
      walletTransactions :=
        (Effect.commit (creditPaidTopup order draws) before).walletTransactions } := by
  rcases credited_cases order draws before with unchanged | ⟨-, userId, row, -, posted⟩
  · rw [unchanged]
  · exact posted.frame

end Credit

section Cases

variable (unicode : UnicodeData) (bankAccountId : String) (bankTransaction : BankTransaction)
variable (draws : IngestDraws)

/-- The new transaction has been stored, nothing else yet. -/
structure Entered (before entered : Database) : Prop where
  fresh : storedTransaction before bankAccountId bankTransaction.bankRefNo = none
  inserted : before.transactions.insert? (newTransaction bankAccountId bankTransaction draws) =
    some entered.transactions
  frame : entered = { before with transactions := entered.transactions }

/-- The state after the assignments for a match and the credit of a top-up. -/
def creditedState (order : Order) (transaction : Transaction) (entered : Database) : Database :=
  Effect.commit (creditPaidTopup (order.pay transaction.id draws.now) draws)
    (settle order transaction .paid draws.now entered)

def afterMatch (order : Order) (transaction : Transaction)
    (webhookAttempts : Table WebhookAttempt.id) (entered : Database) : Database :=
  { creditedState draws order transaction entered with webhookAttempts }

theorem creditedState_frame (order : Order) (transaction : Transaction) (entered : Database) :
    creditedState draws order transaction entered =
      { settle order transaction .paid draws.now entered with
        users := (creditedState draws order transaction entered).users
        walletTransactions :=
          (creditedState draws order transaction entered).walletTransactions } :=
  credited_frame ..

/-- What a returning ingestion does. -/
inductive Ingestion (before : Database) : Database → Prop where
  | known (existing : Transaction)
      (stored : storedTransaction before bankAccountId bankTransaction.bankRefNo =
        some existing) : Ingestion before before
  | outgoing (entered : Database)
      (entry : Entered bankAccountId bankTransaction draws before entered)
      (negative : bankTransaction.amount < 0) : Ingestion before entered
  | unmatched (entered : Database)
      (entry : Entered bankAccountId bankTransaction draws before entered)
      (positive : 0 < bankTransaction.amount)
      (none : fittingOrders unicode before
        (newTransaction bankAccountId bankTransaction draws) draws.now = []) :
      Ingestion before
        (entered.modifyTransaction draws.txId (.setState .unmatched)
        (Transaction.id_setState .unmatched))
  | ambiguous (entered : Database)
      (entry : Entered bankAccountId bankTransaction draws before entered)
      (positive : 0 < bankTransaction.amount)
      (several : 2 ≤ (fittingOrders unicode before
        (newTransaction bankAccountId bankTransaction draws) draws.now).length) :
      Ingestion before (entered.modifyTransaction draws.txId (.setState .review)
        (Transaction.id_setState .review))
  | matched (entered : Database)
      (entry : Entered bankAccountId bankTransaction draws before entered)
      (positive : 0 < bankTransaction.amount) (order : Order)
      (unique : fittingOrders unicode before
        (newTransaction bankAccountId bankTransaction draws) draws.now = [order])
      (webhookAttempts : Table WebhookAttempt.id)
      (enqueued : before.webhookAttempts.insertAll? (newAttempts before
        (order.pay draws.txId draws.now)
        (newTransaction bankAccountId bankTransaction draws) draws) = some webhookAttempts)
      (survives : ¬BreaksIngestion draws before order) :
      Ingestion before (afterMatch draws order
        (newTransaction bankAccountId bankTransaction draws) webhookAttempts entered)

variable {unicode bankAccountId bankTransaction draws} {before after entered : Database}

theorem fitting_entered (unicode : UnicodeData)
    (entry : Entered bankAccountId bankTransaction draws before entered)
    (transaction : Transaction) (now : Int) :
    fittingOrders unicode entered transaction now = fittingOrders unicode before transaction now := by
  rw [entry.frame]
  rfl

theorem matched_of_unique {transaction : Transaction} {order : Order}
    (unique : fittingOrders unicode entered transaction draws.now = [order]) :
    matchTransaction unicode entered transaction draws.now = .matched order.id ∧
      transitionOrder order.status .paid = .ok .paid := by
  have fitting : order ∈ fittingOrders unicode entered transaction draws.now := by simp [unique]
  have pending := (candidate_of_fitting fitting).2.1
  constructor
  · rw [matchTransaction_eq, verdict_eq_matched_iff, unique]
    rfl
  · rw [pending]
    decide

theorem survives_settled {transaction : Transaction} {order : Order} :
    BreaksIngestion draws (settle order transaction .paid draws.now entered)
        (order.pay transaction.id draws.now) ↔
      BreaksIngestion draws entered order :=
  breaksIngestion_congr rfl rfl rfl rfl rfl

theorem swallow_of_survives (transaction : Transaction) {order : Order}
    (survives : ¬BreaksIngestion draws entered order) :
    Effect.swallow Error.abortsTransaction
        (creditPaidTopup (order.pay transaction.id draws.now) draws)
        (settle order transaction .paid draws.now entered) =
      .ok () (creditedState draws order transaction entered) := by
  have usable : Effect.raises Error.abortsTransaction
      (creditPaidTopup (order.pay transaction.id draws.now) draws)
      (settle order transaction .paid draws.now entered) = false := by
    rw [Bool.eq_false_iff, Ne, creditPaidTopup_breaks_iff, survives_settled]
    exact survives
  exact Effect.swallow_eq_commit usable fun _ _ raised => creditPaidTopup_error raised

theorem tryMatch_of_unique {transaction : Transaction} {order : Order}
    (unique : fittingOrders unicode entered transaction draws.now = [order])
    (survives : ¬BreaksIngestion draws entered order) :
    tryMatchTransaction unicode transaction draws entered =
      match entered.webhookAttempts.insertAll?
          (newAttempts entered (order.pay transaction.id draws.now) transaction draws) with
      | some webhookAttempts => .ok
          (some ⟨order.id, order.publicCode, order.amountVnd, transaction.bankRefNo⟩,
            decide (0 < (newAttempts entered (order.pay transaction.id draws.now) transaction
              draws).length))
          (afterMatch draws order transaction webhookAttempts entered)
      | none => .error .integrityError (creditedState draws order transaction entered) := by
  obtain ⟨matched, transition⟩ := matched_of_unique unique
  have credited := swallow_of_survives transaction survives
  have sameAttempts : (creditedState draws order transaction entered).webhookAttempts =
      entered.webhookAttempts := by
    rw [creditedState_frame]
    rfl
  have attempts : newAttempts (creditedState draws order transaction entered)
      (order.pay transaction.id draws.now) transaction draws =
        newAttempts entered (order.pay transaction.id draws.now) transaction draws := by
    rw [creditedState_frame]
    rfl
  simp only [tryMatchTransaction, bind, EStateM.bind, Effect.get_apply, matched,
    find_matched unique, transition, liftResult, Effect.pure_apply, assign_apply,
    Order.settle_paid, credited, enqueueWebhook, attempts, sameAttempts]
  cases entered.webhookAttempts.insertAll?
      (newAttempts entered (order.pay transaction.id draws.now) transaction draws) <;> rfl

theorem tryMatch_of_breaks {transaction : Transaction} {order : Order}
    (unique : fittingOrders unicode entered transaction draws.now = [order])
    (breaks : BreaksIngestion draws entered order) :
    ∃ failure after, tryMatchTransaction unicode transaction draws entered =
      .error failure after := by
  obtain ⟨matched, transition⟩ := matched_of_unique unique
  have broken := (creditPaidTopup_breaks_iff (order.pay transaction.id draws.now) draws
    (settle order transaction .paid draws.now entered)).mpr (survives_settled.mpr breaks)
  obtain ⟨failure, after, raised⟩ := Effect.swallow_of_raises broken
  refine ⟨failure, after, ?_⟩
  simp only [tryMatchTransaction, bind, EStateM.bind, Effect.get_apply, matched,
    find_matched unique, transition, liftResult, Effect.pure_apply, assign_apply,
    Order.settle_paid, raised]

theorem tryMatch_of_none {transaction : Transaction}
    (none : fittingOrders unicode entered transaction draws.now = []) :
    tryMatchTransaction unicode transaction draws entered = .ok (Option.none, false)
      (entered.modifyTransaction transaction.id (.setState .unmatched)
        (Transaction.id_setState .unmatched)) := by
  have unmatched : matchTransaction unicode entered transaction draws.now = .unmatched := by
    rw [matchTransaction_eq, none]
    rfl
  simp [tryMatchTransaction, bind, EStateM.bind, unmatched]

theorem tryMatch_of_several {transaction : Transaction}
    (several : 2 ≤ (fittingOrders unicode entered transaction draws.now).length) :
    tryMatchTransaction unicode transaction draws entered = .ok (none, false)
      (entered.modifyTransaction transaction.id (.setState .review)
        (Transaction.id_setState .review)) := by
  have ambiguous : matchTransaction unicode entered transaction draws.now = .ambiguous := by
    rw [matchTransaction_eq, verdict_eq_ambiguous_iff, List.length_map]
    exact several
  simp [tryMatchTransaction, bind, EStateM.bind, ambiguous]

theorem fitting_cases (orders : List Order) :
    orders = [] ∨ (∃ order, orders = [order]) ∨ 2 ≤ orders.length := by
  match orders with
  | [] => exact .inl rfl
  | [order] => exact .inr (.inl ⟨order, rfl⟩)
  | _ :: _ :: _ => exact .inr (.inr (by simp))

/-- Before the final reload, an ingestion that stores a transaction has done one
of four things. -/
theorem matchIncoming_ok (entry : Entered bankAccountId bankTransaction draws before entered)
    {outcome : Option PaidEvent × Bool}
    (returned : matchIncoming unicode (newTransaction bankAccountId bankTransaction draws) draws
      entered = .ok outcome after) :
    Ingestion unicode bankAccountId bankTransaction draws before after := by
  unfold matchIncoming at returned
  split at returned
  · rename_i positive
    have same := fitting_entered unicode entry
      (newTransaction bankAccountId bankTransaction draws) draws.now
    rcases fitting_cases (fittingOrders unicode before
      (newTransaction bankAccountId bankTransaction draws) draws.now) with
      none | ⟨order, unique⟩ | several
    · rw [tryMatch_of_none (same.trans none)] at returned
      simp only [EStateM.Result.ok.injEq] at returned
      obtain ⟨-, rfl⟩ := returned
      exact .unmatched entered entry positive none
    · by_cases breaks : BreaksIngestion draws entered order
      · obtain ⟨failure, final, raised⟩ := tryMatch_of_breaks (same.trans unique) breaks
        rw [raised] at returned
        cases returned
      rw [tryMatch_of_unique (same.trans unique) breaks] at returned
      split at returned
      · rename_i webhookAttempts enqueued
        simp only [EStateM.Result.ok.injEq] at returned
        obtain ⟨-, rfl⟩ := returned
        rw [entry.frame] at enqueued breaks
        exact .matched entered entry positive order unique webhookAttempts enqueued breaks
      · contradiction
    · rw [tryMatch_of_several (same ▸ several)] at returned
      simp only [EStateM.Result.ok.injEq] at returned
      obtain ⟨-, rfl⟩ := returned
      exact .ambiguous entered entry positive several
  · rename_i notPositive
    simp only [Effect.pure_apply, EStateM.Result.ok.injEq] at returned
    obtain ⟨-, rfl⟩ := returned
    have nonzero := bankTransaction.nonzero
    have notIncoming : ¬0 < bankTransaction.amount := notPositive
    exact .outgoing entered entry (by omega)

theorem insertTransaction_ok_iff (transaction : Transaction) :
    insertTransaction transaction before = .ok () after ↔
      before.transactions.insert? transaction = some after.transactions ∧
        after = { before with transactions := after.transactions } := by
  unfold insertTransaction
  cases before.transactions.insert? transaction with
  | none => simp
  | some stored =>
      constructor
      · intro returned
        simp only [EStateM.Result.ok.injEq, true_and] at returned
        subst returned
        exact ⟨rfl, rfl⟩
      · rintro ⟨same, frame⟩
        cases same
        rw [frame]

theorem ingestTransaction_ok {ingested : Ingested}
    (returned : ingestTransaction unicode bankAccountId bankTransaction draws before =
      .ok ingested after) :
    Ingestion unicode bankAccountId bankTransaction draws before after := by
  simp only [ingestTransaction, bind, EStateM.bind, Effect.get_apply] at returned
  cases stored : storedTransaction before bankAccountId bankTransaction.bankRefNo with
  | some existing =>
      simp only [stored, Effect.pure_apply, EStateM.Result.ok.injEq] at returned
      obtain ⟨-, rfl⟩ := returned
      exact .known existing stored
  | none =>
      simp only [stored] at returned
      obtain ⟨⟨⟩, entered, inserted, rest⟩ := (Effect.bind_ok_iff ..).mp returned
      obtain ⟨outcome, decided, matching, rest⟩ := (Effect.bind_ok_iff ..).mp rest
      obtain ⟨refreshed, last, reloaded, done⟩ := (Effect.bind_ok_iff ..).mp rest
      obtain ⟨-, rfl⟩ := (fetch_ok_iff ..).mp reloaded
      obtain rfl : last = after := by
        simp only [Effect.pure_apply, EStateM.Result.ok.injEq] at done
        exact done.2
      obtain ⟨row, frame⟩ := (insertTransaction_ok_iff ..).mp inserted
      exact matchIncoming_ok ⟨stored, row, frame⟩ matching

end Cases

end ApiBank.Core.Ingest
