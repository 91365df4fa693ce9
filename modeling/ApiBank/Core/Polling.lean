import ApiBank.Core.MatchDecision

/-!
# The polls of one bank account

A poll opens a session and hands the transactions of its window, one after the
other, to `ingest_transaction`, which commits each new one. Here the call is cut
into its statements. The process may stop between any two of them; what the session
has not committed is lost then, and the next poll opens another session.

The cursor is left out: a window may begin anywhere before the first transaction
that is not ingested yet, and end anywhere.
-/

namespace ApiBank.Core.Polling

open ApiBank.Db ApiBank.Relational ApiBank.Transition
open Ingest MatchDecision Matcher StateMachine

set_option autoImplicit false

/-- The transactions of the account in the order in which the bank lists them. The
clock stands still, and a credit fails for the same transactions in every poll. -/
structure Feed where
  unicode : UnicodeData
  bankAccountId : String
  listed : List BankTransaction
  now : Int
  creditRaises : String → Bool

/-- The ids that one call generates. -/
structure Tokens where
  txId : String
  walletRowId : String
  attemptId : String → String

def Feed.draws (feed : Feed) (bankRefNo : String) (tokens : Tokens) : IngestDraws where
  txId := tokens.txId
  walletRowId := tokens.walletRowId
  attemptId := tokens.attemptId
  now := feed.now
  creditRaises := feed.creditRaises bankRefNo

/-- The next statement of `ingest_transaction`. After `known` the call returns
without a commit, after `closing` it commits. -/
inductive Stage where
  | looking
  | known
  | storing (transaction : Transaction)
  | matching (transaction : Transaction)
  | settling (order : Order) (transaction : Transaction)
  | crediting (paid : Order) (transaction : Transaction)
  | enqueueing (paid : Order) (transaction : Transaction)
  | filing (state : TransactionState) (transaction : Transaction)
  | closing

section Stages

variable (unicode : UnicodeData) (bankAccountId : String) (bankTransaction : BankTransaction)
variable (draws : IngestDraws)

def Stage.advance : Stage → Session Stage
  | .looking => do
      let db ← get
      match storedTransaction db bankAccountId bankTransaction.bankRefNo with
      | some _ => pure .known
      | none => pure (.storing (newTransaction bankAccountId bankTransaction draws))
  | .known => pure .known
  | .storing transaction => do
      insertTransaction transaction
      pure (.matching transaction)
  | .matching transaction => do
      let db ← get
      if 0 < transaction.amountVnd then
        match matchTransaction unicode db transaction draws.now with
        | .matched orderId =>
            match (candidateOrders db transaction).find? fun order => order.id = orderId with
            | none => throw .stopIteration
            | some order => pure (.settling order transaction)
        | .ambiguous => pure (.filing .review transaction)
        | .unmatched => pure (.filing .unmatched transaction)
      else pure .closing
  | .settling order transaction => do
      let status ← liftResult (transitionOrder order.status .paid)
      assign (settle order transaction status draws.now)
      pure (.crediting (order.settle transaction.id status draws.now) transaction)
  | .crediting paid transaction => do
      Effect.swallow Error.abortsTransaction (creditPaidTopup paid draws)
      pure (.enqueueing paid transaction)
  | .enqueueing paid transaction => do
      let _ ← enqueueWebhook paid transaction draws
      pure .closing
  | .filing state transaction => do
      assign fun db => db.modifyTransaction transaction.id (.setState state)
        (Transaction.id_setState state)
      pure .closing
  | .closing => pure .closing

/-- A match of the new transaction, decided. -/
structure Decision (before entered : Database) (order : Order) (transaction : Transaction) :
    Prop where
  entry : Entered bankAccountId bankTransaction draws before entered
  new : transaction = newTransaction bankAccountId bankTransaction draws
  positive : 0 < bankTransaction.amount
  unique : fittingOrders unicode before transaction draws.now = [order]

/-- What the statements up to a stage have made of the state at the start of the call. -/
def Reached (before working : Database) : Stage → Prop
  | .looking => working = before
  | .known => working = before ∧ ∃ existing,
      storedTransaction before bankAccountId bankTransaction.bankRefNo = some existing
  | .storing transaction => working = before ∧
      storedTransaction before bankAccountId bankTransaction.bankRefNo = none ∧
        transaction = newTransaction bankAccountId bankTransaction draws
  | .matching transaction => Entered bankAccountId bankTransaction draws before working ∧
      transaction = newTransaction bankAccountId bankTransaction draws
  | .settling order transaction =>
      Decision unicode bankAccountId bankTransaction draws before working order transaction
  | .crediting paid transaction => ∃ entered order,
      Decision unicode bankAccountId bankTransaction draws before entered order transaction ∧
        paid = order.pay transaction.id draws.now ∧
          working = settle order transaction .paid draws.now entered
  | .enqueueing paid transaction => ∃ entered order,
      Decision unicode bankAccountId bankTransaction draws before entered order transaction ∧
        paid = order.pay transaction.id draws.now ∧ ¬BreaksIngestion draws before order ∧
          working = creditedState draws order transaction entered
  | .filing state transaction => Entered bankAccountId bankTransaction draws before working ∧
      transaction = newTransaction bankAccountId bankTransaction draws ∧
        0 < bankTransaction.amount ∧
          let orders := fittingOrders unicode before transaction draws.now
          state = .unmatched ∧ orders = [] ∨ state = .review ∧ 2 ≤ orders.length
  | .closing => Ingestion unicode bankAccountId bankTransaction draws before working ∧
      storedTransaction before bankAccountId bankTransaction.bankRefNo = none

end Stages

section Statements

variable {unicode : UnicodeData} {bankAccountId : String} {bankTransaction : BankTransaction}
variable {draws : IngestDraws} {before working after : Database} {next : Stage}

theorem reached_of_looking
    (advanced : Stage.advance unicode bankAccountId bankTransaction draws .looking before =
      .ok next after) :
    Reached unicode bankAccountId bankTransaction draws before after next := by
  simp only [Stage.advance, bind, EStateM.bind, Effect.get_apply] at advanced
  cases stored : storedTransaction before bankAccountId bankTransaction.bankRefNo with
  | none =>
      simp only [stored] at advanced
      cases advanced
      exact ⟨rfl, stored, rfl⟩
  | some existing =>
      simp only [stored] at advanced
      cases advanced
      exact ⟨rfl, existing, stored⟩

theorem reached_of_storing {transaction : Transaction}
    (fresh : storedTransaction before bankAccountId bankTransaction.bankRefNo = none)
    (new : transaction = newTransaction bankAccountId bankTransaction draws)
    (advanced : Stage.advance unicode bankAccountId bankTransaction draws (.storing transaction)
      before = .ok next after) :
    Reached unicode bankAccountId bankTransaction draws before after next := by
  obtain ⟨⟨⟩, entered, inserted, done⟩ := (Effect.bind_ok_iff ..).mp advanced
  cases done
  subst new
  obtain ⟨row, frame⟩ := (insertTransaction_ok_iff ..).mp inserted
  exact ⟨⟨fresh, row, frame⟩, rfl⟩

/-- The matcher decides on the orders that fit. -/
theorem reached_of_matching {transaction : Transaction}
    (entry : Entered bankAccountId bankTransaction draws before working)
    (new : transaction = newTransaction bankAccountId bankTransaction draws)
    (advanced : Stage.advance unicode bankAccountId bankTransaction draws (.matching transaction)
      working = .ok next after) :
    Reached unicode bankAccountId bankTransaction draws before after next := by
  have fitting := fitting_entered unicode entry transaction draws.now
  have amount : transaction.amountVnd = bankTransaction.amount := by rw [new]; rfl
  simp only [Stage.advance, bind, EStateM.bind, Effect.get_apply] at advanced
  split at advanced
  · rename_i positive
    rw [amount] at positive
    cases decision : matchTransaction unicode working transaction draws.now with
    | matched orderId =>
        simp only [decision] at advanced
        rw [matchTransaction_eq, verdict_eq_matched_iff, List.map_eq_singleton_iff] at decision
        obtain ⟨order, unique, rfl⟩ := decision
        simp only [find_matched unique] at advanced
        cases advanced
        exact ⟨entry, new, positive, fitting ▸ unique⟩
    | ambiguous =>
        simp only [decision] at advanced
        cases advanced
        rw [matchTransaction_eq, verdict_eq_ambiguous_iff, List.length_map, fitting] at decision
        exact ⟨entry, new, positive, .inr ⟨rfl, decision⟩⟩
    | unmatched =>
        simp only [decision] at advanced
        cases advanced
        rw [matchTransaction_eq, verdict_eq_unmatched_iff, List.map_eq_nil_iff, fitting] at decision
        exact ⟨entry, new, positive, .inl ⟨rfl, decision⟩⟩
  · rename_i notPositive
    cases advanced
    have nonzero := bankTransaction.nonzero
    exact ⟨.outgoing working entry (by omega), entry.fresh⟩

theorem reached_of_settling {order : Order} {transaction : Transaction}
    (decision : Decision unicode bankAccountId bankTransaction draws before working order
      transaction)
    (advanced : Stage.advance unicode bankAccountId bankTransaction draws
      (.settling order transaction) working = .ok next after) :
    Reached unicode bankAccountId bankTransaction draws before after next := by
  have transition : transitionOrder order.status .paid = .ok .paid := by
    rw [(candidate_of_unique decision.unique).2.1]
    decide
  simp only [Stage.advance, transition, liftResult, bind, EStateM.bind, Effect.pure_apply,
    assign_apply, Order.settle_paid] at advanced
  cases advanced
  exact ⟨working, order, decision, rfl, rfl⟩

theorem reached_of_crediting {entered : Database} {order : Order} {transaction : Transaction}
    (decision : Decision unicode bankAccountId bankTransaction draws before entered order
      transaction)
    (advanced : Stage.advance unicode bankAccountId bankTransaction draws
      (.crediting (order.pay transaction.id draws.now) transaction)
        (settle order transaction .paid draws.now entered) = .ok next after) :
    Reached unicode bankAccountId bankTransaction draws before after next := by
  obtain ⟨⟨⟩, middle, swallowed, done⟩ := (Effect.bind_ok_iff ..).mp advanced
  cases done
  have usable := Effect.survives_of_swallow swallowed
  rw [Bool.eq_false_iff, Ne, creditPaidTopup_breaks_iff, survives_settled] at usable
  rw [swallow_of_survives _ usable] at swallowed
  cases swallowed
  rw [breaks_entered decision.entry] at usable
  exact ⟨entered, order, decision, rfl, usable, rfl⟩

theorem reached_of_enqueueing {entered : Database} {order : Order} {transaction : Transaction}
    (decision : Decision unicode bankAccountId bankTransaction draws before entered order
      transaction)
    (survives : ¬BreaksIngestion draws before order)
    (advanced : Stage.advance unicode bankAccountId bankTransaction draws
      (.enqueueing (order.pay transaction.id draws.now) transaction)
        (creditedState draws order transaction entered) = .ok next after) :
    Reached unicode bankAccountId bankTransaction draws before after next := by
  obtain ⟨count, last, enqueued, done⟩ := (Effect.bind_ok_iff ..).mp advanced
  cases done
  obtain ⟨entry, rfl, positive, unique⟩ := decision
  -- neither the match nor the credit touches the webhooks and their attempts
  have attempts (paid : Order) : newAttempts (creditedState draws order
      (newTransaction bankAccountId bankTransaction draws) entered) paid
        (newTransaction bankAccountId bankTransaction draws) draws =
          newAttempts before paid (newTransaction bankAccountId bankTransaction draws) draws := by
    rw [creditedState_frame, entry.frame]
    rfl
  have sameAttempts : (creditedState draws order
      (newTransaction bankAccountId bankTransaction draws) entered).webhookAttempts =
        before.webhookAttempts := by
    rw [creditedState_frame, entry.frame]
    rfl
  simp only [enqueueWebhook, attempts, sameAttempts] at enqueued
  split at enqueued
  · rename_i webhookAttempts inserted
    cases enqueued
    exact ⟨.matched entered entry positive order unique webhookAttempts inserted survives,
      entry.fresh⟩
  · cases enqueued

theorem reached_of_filing {state : TransactionState} {transaction : Transaction}
    (reached : Reached unicode bankAccountId bankTransaction draws before working
      (.filing state transaction))
    (advanced : Stage.advance unicode bankAccountId bankTransaction draws
      (.filing state transaction) working = .ok next after) :
    Reached unicode bankAccountId bankTransaction draws before after next := by
  cases advanced
  obtain ⟨entry, rfl, positive, ⟨rfl, none⟩ | ⟨rfl, several⟩⟩ := reached
  · exact ⟨.unmatched working entry positive none, entry.fresh⟩
  · exact ⟨.ambiguous working entry positive several, entry.fresh⟩

theorem reached_of_advance {stage : Stage}
    (reached : Reached unicode bankAccountId bankTransaction draws before working stage)
    (advanced : Stage.advance unicode bankAccountId bankTransaction draws stage working =
      .ok next after) :
    Reached unicode bankAccountId bankTransaction draws before after next := by
  cases stage with
  | looking =>
      cases reached
      exact reached_of_looking advanced
  | known =>
      cases advanced
      exact reached
  | storing transaction =>
      obtain ⟨rfl, fresh, new⟩ := reached
      exact reached_of_storing fresh new advanced
  | matching transaction => exact reached_of_matching reached.1 reached.2 advanced
  | settling order transaction => exact reached_of_settling reached advanced
  | crediting paid transaction =>
      obtain ⟨entered, order, decision, rfl, rfl⟩ := reached
      exact reached_of_crediting decision advanced
  | enqueueing paid transaction =>
      obtain ⟨entered, order, decision, rfl, survives, rfl⟩ := reached
      exact reached_of_enqueueing decision survives advanced
  | filing state transaction => exact reached_of_filing reached advanced
  | closing =>
      cases advanced
      exact reached

end Statements

/-- What the worker is at: nothing, between two transactions of a window, or in a call
of `ingest_transaction`. A session has its own view of the rows. -/
inductive Activity where
  | idle
  | polling (working : Database) (position : Nat)
  | ingesting (working : Database) (position : Nat) (bankTransaction : BankTransaction)
      (draws : IngestDraws) (stage : Stage)

/-- The committed rows and the activity. The first `covered` transactions of the list
have been ingested. -/
structure Worker where
  committed : Database
  covered : Nat
  activity : Activity

inductive Event where
  | poll (start : Nat)
  | receive (tokens : Tokens)
  | advance
  | finish
  | crash

/-- A new session, for a window that leaves no transaction out. -/
def Worker.poll (worker : Worker) (start : Nat) : Worker :=
  match worker.activity with
  | .idle =>
      if start ≤ worker.covered then
        { worker with activity := .polling worker.committed start }
      else worker
  | _ => worker

/-- The adapter yields the next transaction of the window. -/
def Feed.receive (feed : Feed) (worker : Worker) (tokens : Tokens) : Worker :=
  match worker.activity with
  | .polling working position =>
      match feed.listed[position]? with
      | none => worker
      | some bankTransaction => { worker with
          activity := .ingesting working position bankTransaction
            (feed.draws bankTransaction.bankRefNo tokens) .looking }
  | _ => worker

/-- The call has returned. -/
def Worker.proceed (worker : Worker) (working : Database) (position : Nat) : Worker :=
  { worker with
    covered := max worker.covered (position + 1)
    activity := .polling working (position + 1) }

/-- The next statement of the call, the commit included. An exception ends the poll:
its session is closed and what it holds is rolled back. -/
def Feed.advance (feed : Feed) (worker : Worker) : Worker :=
  match worker.activity with
  | .ingesting working position bankTransaction draws stage =>
      match stage with
      | .known => worker.proceed working position
      | .closing => Worker.proceed { worker with committed := working } working position
      | stage =>
          match stage.advance feed.unicode feed.bankAccountId bankTransaction draws working with
          | .ok next after => { worker with
              activity := .ingesting after position bankTransaction draws next }
          | .error _ _ => { worker with activity := .idle }
  | _ => worker

/-- The end of the window. -/
def Worker.finish (worker : Worker) : Worker :=
  match worker.activity with
  | .polling _ _ => { worker with activity := .idle }
  | _ => worker

/-- The process stops: nothing but the committed rows is left. -/
def Worker.crash (worker : Worker) : Worker :=
  { worker with activity := .idle }

/-- One event. One that is not possible now changes nothing. -/
def Feed.next (feed : Feed) (worker : Worker) : Event → Worker
  | .poll start => worker.poll start
  | .receive tokens => feed.receive worker tokens
  | .advance => feed.advance worker
  | .finish => worker.finish
  | .crash => worker.crash

/-- Nothing has been polled yet. -/
def opened (db : Database) : Worker where
  committed := db
  covered := 0
  activity := .idle

/-- One call after the other, none of which fails. -/
def Feed.ingestAll (feed : Feed) (tokens : String → Tokens)
    (bankTransactions : List BankTransaction) : Session Unit :=
  bankTransactions.forM fun bankTransaction =>
    Effect.discard (ingestTransaction feed.unicode feed.bankAccountId bankTransaction
      (feed.draws bankTransaction.bankRefNo (tokens bankTransaction.bankRefNo)))

/-- One run over the list without its repeats. -/
def Feed.uninterrupted (feed : Feed) (tokens : String → Tokens) : Session Unit :=
  feed.ingestAll tokens (firstOfEach BankTransaction.bankRefNo feed.listed)

end ApiBank.Core.Polling
