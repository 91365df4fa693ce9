import ApiBank.Core.MatchDecision
import Mathlib.Data.List.Forall2

/-!
# States that agree up to generated ids

Two runs over the same transactions generate different ids. Where a row names a bank
transaction by its id, the ids in the two states belong to rows for the same account
and bank reference. Ingesting one transaction in both states keeps them alike.
-/

namespace ApiBank.Core.SameButIds

open ApiBank.Billing ApiBank.Db ApiBank.Relational ApiBank.Transition
open Ingest MatchDecision

set_option autoImplicit false

def anonymousRow (row : WalletTransaction) : WalletTransaction :=
  { row with id := "" }

def anonymousTransaction (transaction : Transaction) : Transaction :=
  { transaction with id := "" }

def unlinked (order : Order) : Order :=
  { order with paidTxId := none }

def transactionIds (attempt : WebhookAttempt) : List String :=
  [attempt.transactionId, attempt.payload.id, attempt.payload.transactionId,
    attempt.payload.transaction.id]

def idsOf (txId : String) : List String :=
  [txId, s!"evt_{txId}", txId, txId]

def anonymousAttempt (attempt : WebhookAttempt) : WebhookAttempt :=
  { attempt with
    id := ""
    transactionId := ""
    payload := { attempt.payload with
      id := ""
      transactionId := ""
      transaction := { attempt.payload.transaction with id := "" } } }

def references (db : Database) : List (String × String × String) :=
  db.transactions.rows.map fun row => (row.id, row.bankAccountId, row.bankRefNo)

/-- The ids are of rows for one bank transaction. -/
def SameReference (left right : Database) (first second : String) : Prop :=
  ∃ bankAccountId bankRefNo, (first, bankAccountId, bankRefNo) ∈ references left ∧
    (second, bankAccountId, bankRefNo) ∈ references right

structure SameOrder (left right : Database) (order other : Order) : Prop where
  columns : unlinked order = unlinked other
  paid : order.paidTxId = other.paidTxId ∨ ∃ first second, SameReference left right first second ∧
    order.paidTxId = some first ∧ other.paidTxId = some second

structure SameAttempt (left right : Database) (attempt other : WebhookAttempt) : Prop where
  columns : anonymousAttempt attempt = anonymousAttempt other
  ids : transactionIds attempt = transactionIds other ∨ ∃ first second,
    SameReference left right first second ∧ transactionIds attempt = idsOf first ∧
      transactionIds other = idsOf second

structure SameWallets (left right : Database) : Prop where
  users : left.users = right.users
  rows : left.walletTransactions.rows.map anonymousRow =
    right.walletTransactions.rows.map anonymousRow

/-- The tables without generated ids. -/
def otherTables (db : Database) : Database :=
  { db with
    users := .empty
    walletTransactions := .empty
    orders := .empty
    transactions := .empty
    webhookAttempts := .empty }

structure Same (left right : Database) : Prop where
  wallets : SameWallets left right
  orders : List.Forall₂ (SameOrder left right) left.orders.rows right.orders.rows
  transactions : left.transactions.rows.map anonymousTransaction =
    right.transactions.rows.map anonymousTransaction
  attempts : List.Forall₂ (SameAttempt left right) left.webhookAttempts.rows
    right.webhookAttempts.rows
  others : otherTables left = otherTables right

theorem same_self (db : Database) : Same db db where
  wallets := ⟨rfl, rfl⟩
  orders := List.forall₂_same.mpr fun _ _ => ⟨rfl, .inl rfl⟩
  transactions := rfl
  attempts := List.forall₂_same.mpr fun _ _ => ⟨rfl, .inl rfl⟩
  others := rfl

section Wallets

variable {left right : Database}

theorem find_same (same : SameWallets left right) (key : String) :
    (left.walletTransactions.find? key).map anonymousRow =
      (right.walletTransactions.find? key).map anonymousRow := by
  have found (db : Database) : (db.walletTransactions.find? key).map anonymousRow =
      (db.walletTransactions.rows.map anonymousRow).find? fun row => row.idempotencyKey = key := by
    rw [List.find?_map]
    rfl
  rw [found, found, same.rows]

/-- The kernel takes an amount that the user's balance covers, and that fits on it. -/
def Accepts (db : Database) (request : Wallet.WalletRequest) : Prop :=
  request.amountVnd ≠ 0 ∧ ∃ user, db.users.find? request.userId = some user ∧
    0 ≤ user.balanceVnd + request.amountVnd ∧
      ¬Wallet.Overflows request (user.balanceVnd + request.amountVnd)

theorem apply_of_used {db : Database} {request : Wallet.WalletRequest} (fresh : RowDefaults)
    {existing : WalletTransaction}
    (found : db.walletTransactions.find? request.idempotencyKey = some existing) :
    Effect.commit (Wallet.apply request fresh) db = db := by
  cases ran : Wallet.apply request fresh db with
  | error failure after => exact Effect.commit_of_error ran
  | ok row after =>
      rw [Effect.commit_of_ok ran]
      rcases Wallet.apply_ok ran with ⟨-, -, unchanged⟩ | posted
      · exact unchanged
      · rw [posted.unused] at found
        contradiction

theorem apply_of_refused {db : Database} {request : Wallet.WalletRequest} (fresh : RowDefaults)
    (refused : ¬Accepts db request) :
    Effect.commit (Wallet.apply request fresh) db = db := by
  cases ran : Wallet.apply request fresh db with
  | error failure after => exact Effect.commit_of_error ran
  | ok row after =>
      rw [Effect.commit_of_ok ran]
      rcases Wallet.apply_ok ran with ⟨-, -, unchanged⟩ | posted
      · exact unchanged
      · obtain ⟨user, known, balance⟩ := posted.known
        have nonzero : request.amountVnd ≠ 0 := by
          intro zero
          simp [Wallet.apply, zero] at ran
        have solvent := posted.solvent
        have fits := posted.fits
        rw [balance] at solvent fits
        exact absurd ⟨nonzero, user, known, solvent, fits⟩ refused

theorem apply_of_accepted {db : Database} {request : Wallet.WalletRequest} (fresh : RowDefaults)
    (unused : db.walletTransactions.find? request.idempotencyKey = none)
    (accepted : Accepts db request) :
    ∃ row, Wallet.Posted request fresh db row (Effect.commit (Wallet.apply request fresh) db) := by
  obtain ⟨nonzero, user, known, solvent, fits⟩ := accepted
  obtain ⟨row, after, ran⟩ := Wallet.apply_returns fresh nonzero unused known solvent fits
  rw [Effect.commit_of_ok ran]
  rcases Wallet.apply_ok ran with ⟨found, -, -⟩ | posted
  · rw [unused] at found
    contradiction
  · exact ⟨row, posted⟩

/-- The wallet kernel treats alike states alike. -/
theorem apply_same (same : SameWallets left right) (request : Wallet.WalletRequest)
    {first second : RowDefaults} (clock : first.now = second.now) :
    SameWallets (Effect.commit (Wallet.apply request first) left)
      (Effect.commit (Wallet.apply request second) right) := by
  have keyed := find_same same request.idempotencyKey
  cases foundLeft : left.walletTransactions.find? request.idempotencyKey with
  | some existing =>
      rw [foundLeft] at keyed
      obtain ⟨other, foundRight, -⟩ := Option.map_eq_some_iff.mp keyed.symm
      rw [apply_of_used first foundLeft, apply_of_used second foundRight]
      exact same
  | none =>
      rw [foundLeft, Option.map_none, eq_comm, Option.map_eq_none_iff] at keyed
      by_cases accepted : Accepts left request
      · have acceptedRight : Accepts right request := by
          unfold Accepts
          rw [← same.users]
          exact accepted
        obtain ⟨row, posted⟩ := apply_of_accepted first foundLeft accepted
        obtain ⟨other, postedRight⟩ := apply_of_accepted second keyed acceptedRight
        obtain ⟨user, known, balance⟩ := posted.known
        obtain ⟨sameUser, knownRight, balanceRight⟩ := postedRight.known
        have balances : row.balanceAfter = other.balanceAfter := by
          rw [← same.users, known, Option.some.injEq] at knownRight
          rw [balance, balanceRight, knownRight]
        have records : anonymousRow row = anonymousRow other := by
          rw [posted.shape, postedRight.shape, ← balances]
          simp only [anonymousRow, Wallet.newRecord, clock]
        constructor
        · rw [posted.users, postedRight.users, same.users, balances]
        · rw [Table.rows_of_insert? posted.inserted, Table.rows_of_insert? postedRight.inserted,
            List.map_append, List.map_append, same.rows, List.map_singleton, List.map_singleton,
            records]
      · have refused : ¬Accepts right request := by
          unfold Accepts
          rw [← same.users]
          exact accepted
        rw [apply_of_refused first accepted, apply_of_refused second refused]
        exact same

def creditCall (db : Database) (order : Order) : Option Wallet.WalletRequest :=
  (Topup.fundedUserId db order).bind fun userId =>
    (Wallet.creditRequest (Topup.topupCredit order userId)).toOption

theorem creditPaidTopup_ok {order : Order} {draws : IngestDraws} {before after : Database}
    (returned : creditPaidTopup order draws before = .ok () after) :
    after = before ∧ (draws.creditRaises = true ∨ creditCall before order = none) ∨
      draws.creditRaises = false ∧ ∃ request row, creditCall before order = some request ∧
        Wallet.apply request ⟨draws.walletRowId, draws.now⟩ before = .ok row after := by
  unfold creditPaidTopup at returned
  split at returned
  · split at returned
    · cases returned
    · rename_i quiet
      obtain ⟨first, middle, called, done⟩ := (Effect.bind_ok_iff ..).mp returned
      cases done
      rcases Topup.creditWalletForTopup_ok called with
        ⟨unfunded, unchanged⟩ | ⟨userId, row, funded, credited⟩
      · exact .inl ⟨unchanged, .inr (by simp [creditCall, unfunded])⟩
      · obtain ⟨request, requested, applied⟩ := Wallet.perform_ok credited
        have accepted : Wallet.creditRequest (Topup.topupCredit order userId) = .ok request :=
          requested
        refine .inr ⟨by simpa using quiet, request, row, ?_, applied⟩
        simp [creditCall, funded, accepted, Except.toOption]
  · rename_i other
    cases returned
    refine .inl ⟨rfl, .inr ?_⟩
    simp [creditCall, Topup.fundedUserId, Topup.fundedUser, other]

theorem credit_of_call (order : Order) (draws : IngestDraws) (db : Database) :
    Effect.commit (creditPaidTopup order draws) db =
      if draws.creditRaises then db
      else (creditCall db order).elim db fun request =>
        Effect.commit (Wallet.apply request ⟨draws.walletRowId, draws.now⟩) db := by
  cases ran : creditPaidTopup order draws db with
  | ok value after =>
      rw [Effect.commit_of_ok ran]
      rcases creditPaidTopup_ok ran with
        ⟨rfl, raises | uncalled⟩ | ⟨quiet, request, row, call, applied⟩
      · simp [raises]
      · simp [uncalled]
      · simp [quiet, call, Effect.commit_of_ok applied]
  | error failure after =>
      rw [Effect.commit_of_error ran]
      by_cases raises : draws.creditRaises = true
      · simp [raises]
      · have quiet : draws.creditRaises = false := by simpa using raises
        cases call : creditCall db order with
        | none => simp [quiet]
        | some request =>
            obtain ⟨userId, funded, requested⟩ := Option.bind_eq_some_iff.mp call
            have accepted : Wallet.creditRequest (Topup.topupCredit order userId) =
                .ok request := by
              cases refused : Wallet.creditRequest (Topup.topupCredit order userId) with
              | error refusal => simp [refused, Except.toOption] at requested
              | ok request => simpa [refused, Except.toOption] using requested
            cases applied : Wallet.apply request ⟨draws.walletRowId, draws.now⟩ db with
            | error refusal later => simp [quiet, Effect.commit_of_error applied]
            | ok row later =>
                have credited : Wallet.credit (Topup.topupCredit order userId)
                    ⟨draws.walletRowId, draws.now⟩ db = .ok row later := by
                  simp [Wallet.credit, Wallet.perform, Wallet.WalletOperation.request, accepted,
                    liftResult, applied]
                obtain ⟨first, returned⟩ := Topup.creditWalletForTopup_of_funded funded credited
                have topup := Topup.isTopup_of_funded funded
                simp [creditPaidTopup, topup, quiet, bind, EStateM.bind, returned] at ran

theorem creditCall_same (same : SameWallets left right) {order other : Order}
    (alike : unlinked order = unlinked other) :
    creditCall left order = creditCall right other := by
  have columns (row : Order) : creditCall right row = creditCall right (unlinked row) := rfl
  have users : creditCall left order = creditCall right order := by
    simp only [creditCall, Topup.fundedUserId, Topup.fundedUser, same.users]
  rw [users, columns, alike, ← columns]

/-- The credit of one top-up in both states. -/
theorem credit_same (same : SameWallets left right) {order other : Order}
    (alike : unlinked order = unlinked other) {first second : IngestDraws}
    (clock : first.now = second.now) (raises : first.creditRaises = second.creditRaises) :
    SameWallets (Effect.commit (creditPaidTopup order first) left)
      (Effect.commit (creditPaidTopup other second) right) := by
  rw [credit_of_call, credit_of_call, ← creditCall_same same alike, ← raises]
  split
  · exact same
  · cases creditCall left order with
    | none => exact same
    | some request => exact apply_same same request clock

end Wallets

section Steps

variable {unicode : Matcher.UnicodeData} {bankAccountId : String}
variable {bankTransaction : BankTransaction} {first second : IngestDraws}
variable {left right left' right' : Database}

theorem anonymous_new (clock : first.now = second.now) :
    anonymousTransaction (newTransaction bankAccountId bankTransaction first) =
      anonymousTransaction (newTransaction bankAccountId bankTransaction second) := by
  simp only [anonymousTransaction, newTransaction, clock]

theorem stored_same (same : Same left right) (bankAccountId bankRefNo : String) :
    (storedTransaction left bankAccountId bankRefNo).isSome =
      (storedTransaction right bankAccountId bankRefNo).isSome := by
  have found (db : Database) : (storedTransaction db bankAccountId bankRefNo).isSome =
      ((db.transactions.rows.map anonymousTransaction).find? fun row =>
        row.bankAccountId = bankAccountId && row.bankRefNo = bankRefNo).isSome := by
    rw [List.find?_map, Option.isSome_map]
    rfl
  rw [found, found, same.transactions]

/-- The same orders fit, whatever ids the transaction has. -/
theorem fitting_same (same : Same left right) {transaction other : Transaction}
    (alike : anonymousTransaction transaction = anonymousTransaction other) (now : Int) :
    List.Forall₂ (SameOrder left right) (fittingOrders unicode left transaction now)
      (fittingOrders unicode right other now) := by
  have rows (db : Database) (row : Transaction) : fittingOrders unicode db row now =
      fittingOrders unicode db (anonymousTransaction row) now := rfl
  have blind (passes : Order → Bool) (reads : ∀ row, passes row = passes (unlinked row)) :
      ∀ ⦃row other⦄, SameOrder left right row other → (passes row ↔ passes other) := by
    intro row other same
    rw [reads row, reads other, same.columns]
  rw [rows left, rows right, alike]
  exact List.rel_filter (blind _ fun _ => rfl) (List.rel_filter (blind _ fun _ => rfl)
    (List.rel_filter (blind _ fun _ => rfl) same.orders))

/-- Ids that stand for one bank transaction do so in every later state. -/
theorem sameReference_later {addedLeft addedRight : List (String × String × String)}
    (keepsLeft : references left' = references left ++ addedLeft)
    (keepsRight : references right' = references right ++ addedRight) {one other : String}
    (same : SameReference left right one other) : SameReference left' right' one other := by
  obtain ⟨bankAccountId, bankRefNo, inLeft, inRight⟩ := same
  refine ⟨bankAccountId, bankRefNo, ?_, ?_⟩
  · rw [keepsLeft]
    exact List.mem_append_left _ inLeft
  · rw [keepsRight]
    exact List.mem_append_left _ inRight

theorem sameOrder_later (later : ∀ {one other}, SameReference left right one other →
      SameReference left' right' one other) {order other : Order}
    (same : SameOrder left right order other) : SameOrder left' right' order other := by
  refine ⟨same.columns, ?_⟩
  rcases same.paid with equal | ⟨one, two, reference, paidOne, paidTwo⟩
  · exact .inl equal
  · exact .inr ⟨one, two, later reference, paidOne, paidTwo⟩

theorem sameAttempt_later (later : ∀ {one other}, SameReference left right one other →
      SameReference left' right' one other) {attempt other : WebhookAttempt}
    (same : SameAttempt left right attempt other) : SameAttempt left' right' attempt other := by
  refine ⟨same.columns, ?_⟩
  rcases same.ids with equal | ⟨one, two, reference, idsOne, idsTwo⟩
  · exact .inl equal
  · exact .inr ⟨one, two, later reference, idsOne, idsTwo⟩

theorem rows_of_entry {before entered : Database} {draws : IngestDraws}
    (entry : Entered bankAccountId bankTransaction draws before entered)
    {change : Transaction → Transaction} (keeps : ∀ row, (change row).id = row.id) :
    (entered.transactions.modify draws.txId change keeps).rows =
      before.transactions.rows ++
        [change (newTransaction bankAccountId bankTransaction draws)] :=
  Table.rows_of_insert? (Table.insert?_change entry.inserted keeps)

/-- What an ingestion adds to the transactions of a state. -/
structure Stored (bankAccountId : String) (bankTransaction : BankTransaction)
    (draws : IngestDraws) (before after : Database) (row : Transaction) : Prop where
  rows : after.transactions.rows = before.transactions.rows ++ [row]
  id : row.id = draws.txId
  bankAccountId : row.bankAccountId = bankAccountId
  bankRefNo : row.bankRefNo = bankTransaction.bankRefNo

theorem references_of_stored {before after : Database} {draws : IngestDraws} {row : Transaction}
    (stored : Stored bankAccountId bankTransaction draws before after row) :
    references after = references before ++
      [(draws.txId, bankAccountId, bankTransaction.bankRefNo)] := by
  simp [references, stored.rows, stored.id, stored.bankAccountId, stored.bankRefNo]

section Added

variable {rowLeft rowRight : Transaction}
variable (addedLeft : Stored bankAccountId bankTransaction first left left' rowLeft)
variable (addedRight : Stored bankAccountId bankTransaction second right right' rowRight)

include addedLeft addedRight

theorem reference_added : SameReference left' right' first.txId second.txId := by
  refine ⟨bankAccountId, bankTransaction.bankRefNo, ?_, ?_⟩
  · rw [references_of_stored addedLeft]
    exact List.mem_append_right _ (List.mem_singleton_self _)
  · rw [references_of_stored addedRight]
    exact List.mem_append_right _ (List.mem_singleton_self _)

theorem reference_later {one other : String} (same : SameReference left right one other) :
    SameReference left' right' one other :=
  sameReference_later (references_of_stored addedLeft) (references_of_stored addedRight) same

theorem transactions_added (same : Same left right)
    (alike : anonymousTransaction rowLeft = anonymousTransaction rowRight) :
    left'.transactions.rows.map anonymousTransaction =
      right'.transactions.rows.map anonymousTransaction := by
  rw [addedLeft.rows, addedRight.rows, List.map_append, List.map_append, same.transactions,
    List.map_singleton, List.map_singleton, alike]

/-- The new transaction is all that changes. -/
theorem same_of_stored (same : Same left right)
    (alike : anonymousTransaction rowLeft = anonymousTransaction rowRight)
    (frameLeft : left' = { left with transactions := left'.transactions })
    (frameRight : right' = { right with transactions := right'.transactions }) :
    Same left' right' where
  wallets := by
    rw [frameLeft, frameRight]
    exact ⟨same.wallets.users, same.wallets.rows⟩
  orders := by
    have orders := same.orders.imp fun _ _ =>
      sameOrder_later (reference_later addedLeft addedRight)
    rw [show left'.orders = left.orders by rw [frameLeft],
      show right'.orders = right.orders by rw [frameRight]]
    exact orders
  transactions := transactions_added addedLeft addedRight same alike
  attempts := by
    have attempts := same.attempts.imp fun _ _ =>
      sameAttempt_later (reference_later addedLeft addedRight)
    rw [show left'.webhookAttempts = left.webhookAttempts by rw [frameLeft],
      show right'.webhookAttempts = right.webhookAttempts by rw [frameRight]]
    exact attempts
  others := by
    rw [frameLeft, frameRight]
    exact same.others

theorem orders_paid (same : Same left right) {order other : Order}
    (alike : unlinked order = unlinked other) (clock : first.now = second.now) :
    List.Forall₂ (SameOrder left' right')
      (left.orders.modify order.id (Order.pay first.txId first.now)
        (Order.id_pay first.txId first.now)).rows
      (right.orders.modify other.id (Order.pay second.txId second.now)
        (Order.id_pay second.txId second.now)).rows := by
  have target : (unlinked order).id = (unlinked other).id := congrArg Order.id alike
  simp only [Table.modify, Table.rows_update, List.forall₂_map_left_iff,
    List.forall₂_map_right_iff]
  refine same.orders.imp ?_
  intro row twin sameRow
  have id : (unlinked row).id = (unlinked twin).id := congrArg Order.id sameRow.columns
  rw [show row.id = twin.id from id, show order.id = other.id from target]
  split
  · have columns (paid : Order) (txId : String) : unlinked (paid.pay txId second.now) =
        unlinked ((unlinked paid).pay "" second.now) := rfl
    refine ⟨?_, .inr ⟨_, _, reference_added addedLeft addedRight, rfl, rfl⟩⟩
    rw [clock, columns row, columns twin, sameRow.columns]
  · exact sameOrder_later (reference_later addedLeft addedRight) sameRow

theorem attempts_added (same : Same left right) {order other : Order}
    (alike : unlinked order = unlinked other) (clock : first.now = second.now) :
    List.Forall₂ (SameAttempt left' right')
      (left.webhookAttempts.rows ++ newAttempts left (order.pay first.txId first.now)
        (newTransaction bankAccountId bankTransaction first) first)
      (right.webhookAttempts.rows ++ newAttempts right (other.pay second.txId second.now)
        (newTransaction bankAccountId bankTransaction second) second) := by
  have tables : (otherTables left).webhooks = (otherTables right).webhooks :=
    congrArg Database.webhooks same.others
  have webhooks : left.webhooks = right.webhooks := tables
  apply List.rel_append (same.attempts.imp fun _ _ =>
    sameAttempt_later (reference_later addedLeft addedRight))
  simp only [newAttempts, webhooks, List.forall₂_map_left_iff, List.forall₂_map_right_iff]
  refine List.forall₂_same.mpr ?_
  intro webhook _
  refine ⟨?_, .inr ⟨_, _, reference_added addedLeft addedRight, rfl, rfl⟩⟩
  have columns (paid : Order) (row : Transaction) (draws : IngestDraws) (txId : String) :
      anonymousAttempt (newAttempt webhook (paid.pay txId draws.now) row draws) =
        anonymousAttempt (newAttempt webhook ((unlinked paid).pay "" draws.now)
          (anonymousTransaction row) ⟨"", "", fun _ => "", draws.now, false⟩) := rfl
  rw [columns, columns other, anonymous_new clock, alike, clock]

end Added

section Outcomes

variable {before entered : Database} {draws : IngestDraws}

theorem stored_entered (entry : Entered bankAccountId bankTransaction draws before entered) :
    Stored bankAccountId bankTransaction draws before entered
      (newTransaction bankAccountId bankTransaction draws) :=
  ⟨Table.rows_of_insert? entry.inserted, rfl, rfl, rfl⟩

theorem stored_filed (entry : Entered bankAccountId bankTransaction draws before entered)
    (state : TransactionState) :
    Stored bankAccountId bankTransaction draws before
      (entered.modifyTransaction draws.txId (.setState state) (Transaction.id_setState state))
      ((newTransaction bankAccountId bankTransaction draws).setState state) :=
  ⟨rows_of_entry entry (Transaction.id_setState state), rfl, rfl, rfl⟩

theorem stored_matched (entry : Entered bankAccountId bankTransaction draws before entered)
    (order : Order) (webhookAttempts : Table WebhookAttempt.id) :
    Stored bankAccountId bankTransaction draws before
      (afterMatch draws order (newTransaction bankAccountId bankTransaction draws) webhookAttempts
        entered)
      ((newTransaction bankAccountId bankTransaction draws).assign order.id) := by
  refine ⟨?_, rfl, rfl, rfl⟩
  rw [transactions_afterMatch]
  exact rows_of_entry entry (Transaction.id_assign order.id)

theorem frame_filed (entry : Entered bankAccountId bankTransaction draws before entered)
    (state : TransactionState) :
    entered.modifyTransaction draws.txId (.setState state) (Transaction.id_setState state) =
      { before with transactions := (entered.modifyTransaction draws.txId (.setState state)
        (Transaction.id_setState state)).transactions } := by
  rw [entry.frame]
  rfl

theorem row_of_ingestion {after : Database}
    (fresh : storedTransaction before bankAccountId bankTransaction.bankRefNo = none)
    (ingestion : Ingestion unicode bankAccountId bankTransaction draws before after) :
    ∃ row, Stored bankAccountId bankTransaction draws before after row ∧
      row.amountVnd = bankTransaction.amount ∧ row.content = bankTransaction.content := by
  cases ingestion with
  | known existing stored =>
      rw [fresh] at stored
      contradiction
  | outgoing _ entry => exact ⟨_, stored_entered entry, rfl, rfl⟩
  | unmatched _ entry => exact ⟨_, stored_filed entry .unmatched, rfl, rfl⟩
  | ambiguous _ entry => exact ⟨_, stored_filed entry .review, rfl, rfl⟩
  | matched _ entry _ order _ webhookAttempts =>
      exact ⟨_, stored_matched entry order webhookAttempts, rfl, rfl⟩

theorem stored_of_ingestion {after : Database}
    (fresh : storedTransaction before bankAccountId bankTransaction.bankRefNo = none)
    (ingestion : Ingestion unicode bankAccountId bankTransaction draws before after) :
    ∃ row, Stored bankAccountId bankTransaction draws before after row := by
  obtain ⟨row, stored, -, -⟩ := row_of_ingestion fresh ingestion
  exact ⟨row, stored⟩

end Outcomes

theorem same_of_match (same : Same left right) (clock : first.now = second.now)
    (raises : first.creditRaises = second.creditRaises) {enteredLeft enteredRight : Database}
    (entryLeft : Entered bankAccountId bankTransaction first left enteredLeft)
    (entryRight : Entered bankAccountId bankTransaction second right enteredRight)
    {order other : Order} (alike : unlinked order = unlinked other)
    {attemptsLeft attemptsRight : Table WebhookAttempt.id}
    (enqueuedLeft : left.webhookAttempts.insertAll? (newAttempts left
      (order.pay first.txId first.now) (newTransaction bankAccountId bankTransaction first) first) =
        some attemptsLeft)
    (enqueuedRight : right.webhookAttempts.insertAll? (newAttempts right
      (other.pay second.txId second.now) (newTransaction bankAccountId bankTransaction second)
        second) = some attemptsRight) :
    Same (afterMatch first order (newTransaction bankAccountId bankTransaction first) attemptsLeft
        enteredLeft)
      (afterMatch second other (newTransaction bankAccountId bankTransaction second) attemptsRight
        enteredRight) := by
  have addedLeft := stored_matched entryLeft order attemptsLeft
  have addedRight := stored_matched entryRight other attemptsRight
  have assigned : anonymousTransaction
      ((newTransaction bankAccountId bankTransaction first).assign order.id) =
        anonymousTransaction
          ((newTransaction bankAccountId bankTransaction second).assign other.id) := by
    have target : (unlinked order).id = (unlinked other).id := congrArg Order.id alike
    have columns (row : Transaction) (orderId : String) : anonymousTransaction
        (row.assign orderId) = (anonymousTransaction row).assign orderId := rfl
    rw [columns, columns, anonymous_new clock, show order.id = other.id from target]
  have columns (paid : Order) (txId : String) : unlinked (paid.pay txId second.now) =
    unlinked ((unlinked paid).pay "" second.now) := rfl
  have paid : unlinked (order.pay first.txId first.now) =
      unlinked (other.pay second.txId second.now) := by
    rw [clock, columns, columns other, alike]
  constructor
  · have settled : SameWallets
        (settle order (newTransaction bankAccountId bankTransaction first) .paid first.now
          enteredLeft)
        (settle other (newTransaction bankAccountId bankTransaction second) .paid second.now
          enteredRight) := by
      rw [entryLeft.frame, entryRight.frame]
      exact ⟨same.wallets.users, same.wallets.rows⟩
    have credited := credit_same settled paid clock raises
    exact ⟨credited.users, credited.rows⟩
  · rw [orders_afterMatch, orders_afterMatch, orders_entered entryLeft, orders_entered entryRight]
    exact orders_paid addedLeft addedRight same alike clock
  · exact transactions_added addedLeft addedRight same assigned
  · have attempts := attempts_added addedLeft addedRight same alike clock
    rw [← Table.rows_of_insertAll? enqueuedLeft, ← Table.rows_of_insertAll? enqueuedRight]
      at attempts
    exact attempts
  · have tables {before entered : Database} {draws : IngestDraws} (target : Order)
        (webhookAttempts : Table WebhookAttempt.id)
        (entry : Entered bankAccountId bankTransaction draws before entered) :
        otherTables (afterMatch draws target (newTransaction bankAccountId bankTransaction draws)
          webhookAttempts entered) = { otherTables before with
            paymentNameReservations := (otherTables before).keptNames (unlinked target)
              draws.now } := by
      unfold afterMatch
      rw [creditedState_frame, entry.frame]
      rfl
    rw [tables order attemptsLeft entryLeft, tables other attemptsRight entryRight, same.others,
      alike, clock]

theorem same_of_filing (same : Same left right) (clock : first.now = second.now)
    {enteredLeft enteredRight : Database}
    (entryLeft : Entered bankAccountId bankTransaction first left enteredLeft)
    (entryRight : Entered bankAccountId bankTransaction second right enteredRight)
    (state : TransactionState) :
    Same
      (enteredLeft.modifyTransaction first.txId (.setState state) (Transaction.id_setState state))
      (enteredRight.modifyTransaction second.txId (.setState state)
        (Transaction.id_setState state)) := by
  have columns (row : Transaction) : anonymousTransaction (row.setState state) =
    (anonymousTransaction row).setState state := rfl
  have filed : anonymousTransaction
      ((newTransaction bankAccountId bankTransaction first).setState state) =
        anonymousTransaction
          ((newTransaction bankAccountId bankTransaction second).setState state) := by
    rw [columns, columns, anonymous_new clock]
  exact same_of_stored (stored_filed entryLeft state) (stored_filed entryRight state) same filed
    (frame_filed entryLeft state) (frame_filed entryRight state)

/-- One transaction, ingested in both states with ids of their own. -/
theorem same_of_ingestion (same : Same left right) (clock : first.now = second.now)
    (raises : first.creditRaises = second.creditRaises)
    (ingestedLeft : Ingestion unicode bankAccountId bankTransaction first left left')
    (ingestedRight : Ingestion unicode bankAccountId bankTransaction second right right') :
    Same left' right' := by
  have known := stored_same same bankAccountId bankTransaction.bankRefNo
  have fitting : List.Forall₂ (SameOrder left right)
      (fittingOrders unicode left (newTransaction bankAccountId bankTransaction first) first.now)
      (fittingOrders unicode right (newTransaction bankAccountId bankTransaction second)
        second.now) := by
    rw [← clock]
    exact fitting_same same (anonymous_new clock) first.now
  have lengths := fitting.length_eq
  cases ingestedLeft with
  | known existing stored =>
      rw [stored] at known
      cases ingestedRight with
      | known => exact same
      | outgoing _ entry | unmatched _ entry | ambiguous _ entry | matched _ entry =>
          rw [entry.fresh] at known
          contradiction
  | outgoing _ entry negative =>
      cases ingestedRight with
      | known _ stored =>
          rw [entry.fresh, stored] at known
          contradiction
      | outgoing _ entryRight =>
          exact same_of_stored (stored_entered entry) (stored_entered entryRight) same
            (anonymous_new clock) entry.frame entryRight.frame
      | unmatched _ _ positive | ambiguous _ _ positive | matched _ _ positive => omega
  | unmatched _ entry positive none =>
      rw [none] at fitting lengths
      cases ingestedRight with
      | known _ stored =>
          rw [entry.fresh, stored] at known
          contradiction
      | outgoing _ _ negative => omega
      | unmatched _ entryRight => exact same_of_filing same clock entry entryRight .unmatched
      | ambiguous _ _ _ several =>
          rw [List.length_nil] at lengths
          omega
      | matched _ _ _ other unique =>
          rw [unique] at fitting
          cases fitting
  | ambiguous _ entry positive several =>
      cases ingestedRight with
      | known _ stored =>
          rw [entry.fresh, stored] at known
          contradiction
      | outgoing _ _ negative => omega
      | unmatched _ _ _ none =>
          rw [none, List.length_nil] at lengths
          omega
      | ambiguous _ entryRight => exact same_of_filing same clock entry entryRight .review
      | matched _ _ _ other unique =>
          rw [unique, List.length_singleton] at lengths
          omega
  | matched _ entry positive order unique webhookAttempts enqueued =>
      rw [unique] at fitting lengths
      cases ingestedRight with
      | known _ stored =>
          rw [entry.fresh, stored] at known
          contradiction
      | outgoing _ _ negative => omega
      | unmatched _ _ _ none =>
          rw [none] at fitting
          cases fitting
      | ambiguous _ _ _ several =>
          rw [List.length_singleton] at lengths
          omega
      | matched _ entryRight _ other uniqueRight _ enqueuedRight =>
          rw [uniqueRight, List.forall₂_cons] at fitting
          exact same_of_match same clock raises entry entryRight fitting.1.columns enqueued
            enqueuedRight

end Steps

end ApiBank.Core.SameButIds
