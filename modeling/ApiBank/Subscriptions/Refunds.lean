import ApiBank.Accounting.OnceEach
import ApiBank.Api.AdminBilling
import ApiBank.Transition.Run
import Mathlib.Algebra.Order.Ring.Int

/-!
# Refunds and what was paid

Neither refund endpoint asks whether the transaction or the invoice has been refunded:
the key of the wallet row is drawn anew, the state of a refunded transaction is not
looked at, and a voided invoice can be marked paid again. Refunds stay within what was
paid exactly as long as nothing is refunded twice.
-/

namespace ApiBank.Subscriptions.Refunds

open ApiBank.Accounting ApiBank.Api ApiBank.Billing ApiBank.Db ApiBank.Relational
open ApiBank.Transition AdminBilling AdminOps

set_option autoImplicit false

/-- The requests; a subscription is refunded without an explicit amount. -/
inductive Request where
  | refundTransaction (txId note actorEmail : String) (draws : RefundDraws)
  | refundSub (subId note actorEmail : String) (draws : RefundDraws)
  | voidInvoice (invoiceId : String)
  | markInvoicePaid (invoiceId : String)

def perform : Request → Session Unit
  | .refundTransaction txId note actorEmail draws =>
      adminRefundTransaction txId note actorEmail draws
  | .refundSub subId note actorEmail draws => adminRefundSub subId none note actorEmail draws
  | .voidInvoice invoiceId => adminVoidInvoice invoiceId
  | .markInvoicePaid invoiceId => adminMarkInvoicePaid invoiceId

/-- The database, and beside it the transactions and invoices refunded so far. -/
structure Books where
  db : Database
  transactions : List String
  invoices : List String

def opened (db : Database) : Books := ⟨db, [], []⟩

def refundedInvoice (db : Database) (subId : String) : Option String :=
  (newestPaidInvoice subId db).map Invoice.id

def serve (books : Books) (request : Request) : Books :=
  let db := Effect.commit (perform request) books.db
  if Effect.returns (perform request) books.db then
    match request with
    | .refundTransaction txId _ _ _ => ⟨db, txId :: books.transactions, books.invoices⟩
    | .refundSub subId _ _ _ =>
        ⟨db, books.transactions, (refundedInvoice books.db subId).toList ++ books.invoices⟩
    | _ => ⟨db, books.transactions, books.invoices⟩
  else ⟨db, books.transactions, books.invoices⟩

/-- What the ledger says was refunded under the reference. -/
def refundedFor (kind : String) (db : Database) (ref : Option String) : Int :=
  ((db.walletTransactions.rows.filter fun row =>
    row.refKind = some kind && row.refId = ref).map WalletTransaction.amountVnd).sum

def refundedSince (start : Database) (kind : String) (db : Database) (ref : Option String) : Int :=
  refundedFor kind db ref - refundedFor kind start ref

/-- Nothing can be refunded of an amount that is not positive. -/
def refundable (amountVnd : Int) : Int := max 0 amountVnd

def amountOf (tx : Transaction) : Int := refundable tx.amountVnd

def amountOfInvoice (invoice : Invoice) : Int := refundable invoice.amountVnd

/-- Since the start no more was refunded for a transaction than its amount, and for a
subscription than the amounts of its invoices. -/
structure Bounded (start : Database) (books : Books) : Prop where
  transactions : ∀ tx ∈ start.transactions.rows,
    refundedSince start "admin_refund_tx" books.db (some tx.id) ≤ amountOf tx
  subscriptions : ∀ subId, refundedSince start "admin_refund_sub" books.db (some subId) ≤
    held Invoice.subscriptionId amountOfInvoice start.invoices.rows (some subId)

def RefundsAgain (books : Books) : Request → Prop
  | .refundTransaction txId _ _ _ => txId ∈ books.transactions
  | .refundSub subId _ _ _ => ∃ invoice, newestPaidInvoice subId books.db = some invoice ∧
      invoice.id ∈ books.invoices
  | _ => False

/-- After the request everything is bounded, and if it refunds something again, no balance
has changed. -/
structure Sound (start : Database) (books : Books) (request : Request) : Prop where
  bounded : Bounded start (serve books request)
  again : RefundsAgain books request → (serve books request).db.users = books.db.users

/-- What the request asks of the wallet. -/
inductive AsksFor (db : Database) : Request → Wallet.WalletArgs → Prop where
  | transaction (txId note actorEmail : String) (draws : RefundDraws) (tx : Transaction)
      (order : Order) (userId : String) (foundTx : db.transactions.find? txId = some tx)
      (matched : present tx.matchedOrderId = some order.id)
      (found : db.orders.find? order.id = some order)
      (payee : present order.userId = some userId) :
      AsksFor db (.refundTransaction txId note actorEmail draws)
        (refundArgs tx userId note actorEmail draws)
  | subscription (subId note actorEmail : String) (draws : RefundDraws) (sub : Subscription)
      (invoice : Invoice) (found : db.subscriptions.find? subId = some sub)
      (newest : newestPaidInvoice subId db = some invoice) :
      AsksFor db (.refundSub subId note actorEmail draws)
        (subRefundArgs sub invoice.amountVnd note actorEmail draws)

def Credited (db : Database) (args : Wallet.WalletArgs) : Prop :=
  0 < args.amountVnd ∧ db.walletTransactions.find? args.idempotencyKey = none ∧
    ∃ user, db.users.find? args.userId = some user ∧ 0 ≤ user.balanceVnd + args.amountVnd ∧
      user.balanceVnd + args.amountVnd < Wallet.vndLimit

def OnceEach (books : Books) (request : Request) : Prop :=
  RefundsAgain books request → ∀ args, AsksFor books.db request args →
    ¬Credited books.db args

variable {start before after : Database} {books : Books} {request : Request}

section Wallet

def Entered (args : Wallet.WalletArgs) (before after : Database) : Prop :=
  ∃ row, before.walletTransactions.insert? row = some after.walletTransactions ∧
    row.refKind = args.refKind ∧ row.refId = args.refId ∧ row.amountVnd = args.amountVnd

theorem refund_cases {args : Wallet.WalletArgs} {fresh : RowDefaults} {row : WalletTransaction}
    (returned : Wallet.refund args fresh before = .ok row after) :
    after = before ∨ Credited before args ∧ Entered args before after := by
  obtain ⟨request, requested, applied⟩ := Wallet.perform_ok returned
  obtain ⟨positive, rfl⟩ := Wallet.positiveRequest_ok requested
  rcases Wallet.apply_ok applied with ⟨-, -, same⟩ | posted
  · exact .inl same
  · obtain ⟨user, known, balance⟩ := posted.known
    have solvent := posted.solvent
    have fits := posted.fits
    rw [balance] at solvent fits
    simp only [one_mul, Wallet.Overflows, positive, true_and, not_le] at solvent fits
    refine .inr ⟨⟨positive, posted.unused, user, known, solvent, fits⟩, row, posted.inserted,
      ?_, ?_, ?_⟩
    · rw [posted.shape]
      rfl
    · rw [posted.shape]
      rfl
    · rw [posted.shape]
      exact one_mul _

/-- A credited refund returns and changes the balance. -/
theorem refund_of_credited {args : Wallet.WalletArgs} (fresh : RowDefaults)
    (credited : Credited before args) :
    ∃ row after, Wallet.refund args fresh before = .ok row after ∧
      after.users ≠ before.users := by
  obtain ⟨positive, unused, user, known, solvent, fits⟩ := credited
  have accepted : ¬args.amountVnd ≤ 0 := Int.not_le.mpr positive
  obtain ⟨request, requested⟩ : ∃ request, Wallet.refundRequest args = .ok request ∧
      request.userId = args.userId ∧ request.amountVnd = args.amountVnd ∧
        request.idempotencyKey = args.idempotencyKey := by
    refine ⟨_, if_neg accepted, rfl, one_mul _, rfl⟩
  obtain ⟨shape, sameUser, sameAmount, sameKey⟩ := requested
  rw [← sameKey] at unused
  rw [← sameUser] at known
  rw [← sameAmount] at solvent positive fits
  have stored : ¬Wallet.Overflows request (user.balanceVnd + request.amountVnd) :=
    fun overflow => absurd overflow.2 (not_le.mpr fits)
  obtain ⟨row, after, applied⟩ :=
    Wallet.apply_returns fresh (by omega) unused known solvent stored
  refine ⟨row, after, ?_, ?_⟩
  · simp [Wallet.refund, Wallet.perform, Wallet.WalletOperation.request, shape, liftResult,
      applied]
  · intro same
    rcases Wallet.apply_ok applied with ⟨found, -, -⟩ | posted
    · rw [unused] at found
      cases found
    · obtain ⟨other, knownOther, balance⟩ := posted.known
      rw [known, Option.some.injEq] at knownOther
      subst knownOther
      have written := posted.users
      have found := Table.find?_modify before.users request.userId request.userId
        (Wallet.setBalance row.balanceAfter) (Wallet.id_setBalance row.balanceAfter)
      rw [← written, same, if_pos rfl, known, Option.map_some, Option.some.injEq] at found
      have balances := congrArg User.balanceVnd found
      simp only [Wallet.setBalance] at balances
      omega

end Wallet

section Ledger

theorem refundedFor_same (same : after.walletTransactions = before.walletTransactions)
    (kind : String) : refundedFor kind after = refundedFor kind before := by
  unfold refundedFor
  rw [same]

theorem refundedFor_entered {args : Wallet.WalletArgs} (entered : Entered args before after)
    (kind : String) (ref : Option String) :
    refundedFor kind after ref = refundedFor kind before ref +
      if args.refKind = some kind ∧ args.refId = ref then args.amountVnd else 0 := by
  obtain ⟨row, inserted, sameKind, sameRef, sameAmount⟩ := entered
  unfold refundedFor
  rw [Table.rows_of_insert? inserted, List.filter_append, List.map_append, List.sum_append,
    ← sameKind, ← sameRef, ← sameAmount]
  by_cases counted : row.refKind = some kind ∧ row.refId = ref
  · simp [counted]
  · rw [if_neg counted]
    simp only [not_and] at counted
    simp only [Int.add_right_inj]
    by_cases sort : row.refKind = some kind
    · simp [sort, counted sort]
    · simp [sort]

end Ledger

section Step

def txRef (tx : Transaction) : Option String := some tx.id

/-- What was refunded is within what the refunded rows hold, and no row has another
amount than at the start. -/
structure Accounted (start : Database) (books : Books) : Prop where
  transactions : ∀ ref, refundedSince start "admin_refund_tx" books.db ref ≤
    settled Transaction.id txRef amountOf start.transactions.rows books.transactions ref
  subscriptions : ∀ ref, refundedSince start "admin_refund_sub" books.db ref ≤
    settled Invoice.id Invoice.subscriptionId amountOfInvoice start.invoices.rows books.invoices
      ref
  sameTransactions : ∀ txId tx, books.db.transactions.find? txId = some tx →
    ∃ old, start.transactions.find? txId = some old ∧ old.amountVnd = tx.amountVnd
  sameInvoices : ∀ invoiceId invoice, books.db.invoices.find? invoiceId = some invoice →
    ∃ old, start.invoices.find? invoiceId = some old ∧
      old.subscriptionId = invoice.subscriptionId ∧ old.amountVnd = invoice.amountVnd

theorem accounted_opened (start : Database) : Accounted start (opened start) where
  transactions := by simp [refundedSince, opened, settled_nil]
  subscriptions := by simp [refundedSince, opened, settled_nil]
  sameTransactions := fun _ tx found => ⟨tx, found, rfl⟩
  sameInvoices := fun _ invoice found => ⟨invoice, found, rfl, rfl⟩

theorem bounded_of_accounted (accounted : Accounted start books) : Bounded start books where
  transactions := by
    intro tx member
    have nonneg : ∀ row ∈ start.transactions.rows, 0 ≤ amountOf row :=
      fun row _ => le_max_left 0 row.amountVnd
    have within := (accounted.transactions (some tx.id)).trans
      (settled_le_held Transaction.id txRef amountOf nonneg books.transactions (some tx.id))
    have own : held txRef amountOf start.transactions.rows (txRef tx) = amountOf tx :=
      held_of_sole Transaction.id txRef amountOf start.transactions.distinct member
        fun other _ same => Option.some.inj same
    exact within.trans own.le
  subscriptions := by
    intro subId
    have nonneg : ∀ row ∈ start.invoices.rows, 0 ≤ amountOfInvoice row :=
      fun row _ => le_max_left 0 row.amountVnd
    exact (accounted.subscriptions (some subId)).trans
      (settled_le_held Invoice.id Invoice.subscriptionId amountOfInvoice nonneg books.invoices
        (some subId))

theorem refundTransaction_done {txId note actorEmail : String} {draws : RefundDraws}
    (returned : perform (.refundTransaction txId note actorEmail draws) before = .ok () after) :
    ∃ tx args, before.transactions.find? txId = some tx ∧
      AsksFor before (.refundTransaction txId note actorEmail draws) args ∧
      args.refKind = some "admin_refund_tx" ∧ args.refId = some tx.id ∧
      args.amountVnd = tx.amountVnd ∧
      (after.users = before.users ∧ after.walletTransactions = before.walletTransactions ∨
        Credited before args ∧ Entered args before after) ∧
      after.invoices = before.invoices ∧
      after.transactions = before.transactions.modify tx.id (.setState .refunded)
        (Transaction.id_setState .refunded) := by
  obtain ⟨tx, order, userId, row, credited, foundTx, matched, found, payee, refund, rfl⟩ :=
    adminRefundTransaction_ok returned
  have frame := Wallet.perform_frame refund
  refine ⟨tx, refundArgs tx userId note actorEmail draws, foundTx,
    .transaction txId note actorEmail draws tx order userId foundTx matched found payee,
    rfl, rfl, rfl, ?_, ?_, ?_⟩
  · rcases refund_cases refund with same | ⟨posted, entered⟩
    · exact .inl ⟨by rw [← same]; rfl, by rw [← same]; rfl⟩
    · exact .inr ⟨posted, entered⟩
  · rw [frame]
    rfl
  · rw [frame]
    rfl

theorem refundSub_done {subId note actorEmail : String} {draws : RefundDraws}
    (returned : perform (.refundSub subId note actorEmail draws) before = .ok () after) :
    ∃ invoice args, newestPaidInvoice subId before = some invoice ∧
      AsksFor before (.refundSub subId note actorEmail draws) args ∧
      args.refKind = some "admin_refund_sub" ∧ args.refId = some subId ∧
      args.amountVnd = invoice.amountVnd ∧
      (after.users = before.users ∧ after.walletTransactions = before.walletTransactions ∨
        Credited before args ∧ Entered args before after) ∧
      after.transactions = before.transactions ∧
      after.invoices = before.invoices.modify invoice.id (setInvoiceStatus "void")
        (id_setInvoiceStatus "void") := by
  obtain ⟨sub, row, credited, found, positive, refund, rfl⟩ := adminRefundSub_ok returned
  obtain rfl := Table.key_of_find? found
  cases newest : newestPaidInvoice sub.id before with
  | none => simp [newest, subRefundAmount] at positive
  | some invoice =>
      have amount : subRefundAmount none (some invoice) = invoice.amountVnd := rfl
      rw [newest, amount] at refund
      have frame := Wallet.perform_frame refund
      refine ⟨invoice, subRefundArgs sub invoice.amountVnd note actorEmail draws, rfl,
        .subscription sub.id note actorEmail draws sub invoice found newest, rfl, rfl, rfl,
        ?_, ?_, ?_⟩
      · rcases refund_cases refund with same | ⟨posted, entered⟩
        · exact .inl ⟨by rw [← same]; rfl, by rw [← same]; rfl⟩
        · exact .inr ⟨posted, entered⟩
      · rw [frame]
        rfl
      · rw [frame]
        rfl

theorem newest_mem {subId : String} {invoice : Invoice}
    (newest : newestPaidInvoice subId before = some invoice) :
    invoice ∈ before.invoices.rows ∧ invoice.subscriptionId = some subId := by
  obtain ⟨member, paid⟩ := List.mem_filter.mp (mem_of_firstBy newest)
  simp only [Bool.and_eq_true, decide_eq_true_eq] at paid
  exact ⟨member, paid.1⟩

theorem serve_of_error {failure : Error}
    (raised : perform request books.db = .error failure after) : serve books request = books := by
  simp [serve, Effect.returns, raised, Effect.commit_of_error raised]

theorem refundable_of_positive {amountVnd : Int} (positive : 0 < amountVnd) :
    refundable amountVnd = amountVnd := max_eq_right positive.le

/-- A total grows by what was entered for the row, if anything was. -/
theorem grows_of_outcome (start : Database) {kind : String} {args : Wallet.WalletArgs}
    {amountVnd : Int}
    (sort : args.refKind = some kind) (amount : args.amountVnd = amountVnd)
    (outcome : after.walletTransactions = before.walletTransactions ∨
      Credited before args ∧ Entered args before after) :
    refundedSince start kind after = refundedSince start kind before ∨
      Credited before args ∧ ∀ ref, refundedSince start kind after ref ≤
        refundedSince start kind before ref +
          if args.refId = ref then refundable amountVnd else 0 := by
  rcases outcome with same | ⟨credited, entered⟩
  · left
    funext ref
    unfold refundedSince
    rw [refundedFor_same same]
  · refine .inr ⟨credited, fun ref => ?_⟩
    unfold refundedSince
    rw [refundedFor_entered entered, ← amount, refundable_of_positive credited.1]
    simp only [sort, true_and]
    omega

theorem since_other {kind sort : String} {args : Wallet.WalletArgs}
    (named : args.refKind = some sort) (different : sort ≠ kind)
    (outcome : after.walletTransactions = before.walletTransactions ∨
      Credited before args ∧ Entered args before after) :
    refundedSince start kind after = refundedSince start kind before := by
  funext ref
  unfold refundedSince
  rcases outcome with same | ⟨-, entered⟩
  · rw [refundedFor_same same]
  · rw [refundedFor_entered entered, named]
    simp [different]

theorem sameInvoices_modify (accounted : Accounted start books) {invoiceId status : String}
    (changed : after.invoices = books.db.invoices.modify invoiceId (setInvoiceStatus status)
      (id_setInvoiceStatus status)) (wanted : String) (invoice : Invoice)
    (found : after.invoices.find? wanted = some invoice) :
    ∃ old, start.invoices.find? wanted = some old ∧
      old.subscriptionId = invoice.subscriptionId ∧ old.amountVnd = invoice.amountVnd := by
  rw [changed, Table.find?_modify] at found
  split at found
  · obtain ⟨before, foundBefore, rfl⟩ := Option.map_eq_some_iff.mp found
    exact accounted.sameInvoices wanted before foundBefore
  · exact accounted.sameInvoices wanted invoice found

theorem accounted_refundTransaction {txId note actorEmail : String} {draws : RefundDraws}
    (accounted : Accounted start books)
    (once : OnceEach books (.refundTransaction txId note actorEmail draws))
    (ran : perform (.refundTransaction txId note actorEmail draws) books.db = .ok () after) :
    Accounted start ⟨after, txId :: books.transactions, books.invoices⟩ := by
  obtain ⟨tx, args, found, asks, kind, ref, amount, outcome, invoices, transactions⟩ :=
    refundTransaction_done ran
  have ledger := outcome.imp_left And.right
  obtain rfl := Table.key_of_find? found
  obtain ⟨old, foundOld, sameAmount⟩ := accounted.sameTransactions tx.id tx found
  have sameId := Table.key_of_find? foundOld
  refine ⟨?_, ?_, ?_, ?_⟩
  · rw [← sameId]
    apply settled_grows Transaction.id txRef amountOf start.transactions.distinct
      (Table.mem_of_find? foundOld) (le_max_left 0 old.amountVnd) accounted.transactions
    rcases grows_of_outcome start kind amount ledger with same | ⟨credited, more⟩
    · exact .inl same
    · refine .inr ⟨fun marked => once (sameId ▸ marked) args asks credited, ?_⟩
      intro account
      rw [txRef, sameId, amountOf, sameAmount, ← ref]
      exact more account
  · rw [since_other kind (by decide) ledger]
    exact accounted.subscriptions
  · intro wanted row foundRow
    rw [transactions, Table.find?_modify] at foundRow
    split at foundRow
    · obtain ⟨before, foundBefore, rfl⟩ := Option.map_eq_some_iff.mp foundRow
      exact accounted.sameTransactions wanted before foundBefore
    · exact accounted.sameTransactions wanted row foundRow
  · intro wanted row foundRow
    rw [invoices] at foundRow
    exact accounted.sameInvoices wanted row foundRow

theorem accounted_refundSub {subId note actorEmail : String} {draws : RefundDraws}
    (accounted : Accounted start books)
    (once : OnceEach books (.refundSub subId note actorEmail draws))
    (ran : perform (.refundSub subId note actorEmail draws) books.db = .ok () after) :
    Accounted start ⟨after, books.transactions,
      (refundedInvoice books.db subId).toList ++ books.invoices⟩ := by
  obtain ⟨invoice, args, newest, asks, kind, ref, amount, outcome, transactions, invoices⟩ :=
    refundSub_done ran
  have ledger := outcome.imp_left And.right
  obtain ⟨member, owner⟩ := newest_mem newest
  obtain ⟨old, foundOld, sameSub, sameAmount⟩ :=
    accounted.sameInvoices invoice.id invoice (Table.find?_of_mem member)
  have sameId := Table.key_of_find? foundOld
  have marks : (refundedInvoice books.db subId).toList ++ books.invoices =
      old.id :: books.invoices := by
    rw [refundedInvoice, newest, sameId]
    rfl
  rw [marks]
  refine ⟨?_, ?_, ?_, ?_⟩
  · rw [since_other kind (by decide) ledger]
    exact accounted.transactions
  · apply settled_grows Invoice.id Invoice.subscriptionId amountOfInvoice
      start.invoices.distinct (Table.mem_of_find? foundOld) (le_max_left 0 old.amountVnd)
      accounted.subscriptions
    rcases grows_of_outcome start kind amount ledger with same | ⟨credited, more⟩
    · exact .inl same
    · refine .inr ⟨?_, ?_⟩
      · intro marked
        exact once ⟨invoice, newest, sameId ▸ marked⟩ args asks credited
      intro account
      rw [sameSub, owner, amountOfInvoice, sameAmount, ← ref]
      exact more account
  · intro wanted row foundRow
    rw [transactions] at foundRow
    exact accounted.sameTransactions wanted row foundRow
  · exact sameInvoices_modify accounted invoices

theorem accounted_modifyInvoice (accounted : Accounted start books) (invoiceId status : String) :
    Accounted start ⟨modifyInvoice books.db invoiceId status, books.transactions,
      books.invoices⟩ where
  transactions := accounted.transactions
  subscriptions := accounted.subscriptions
  sameTransactions := accounted.sameTransactions
  sameInvoices := sameInvoices_modify accounted rfl

/-- The step lemma: as long as nothing is refunded twice the books stay in order. -/
theorem accounted_serve (accounted : Accounted start books) (once : OnceEach books request) :
    Accounted start (serve books request) := by
  cases ran : perform request books.db with
  | error failure after =>
      rw [serve_of_error ran]
      exact accounted
  | ok value after =>
      cases request with
      | refundTransaction txId note actorEmail draws =>
          have served : serve books (.refundTransaction txId note actorEmail draws) =
              ⟨after, txId :: books.transactions, books.invoices⟩ := by
            simp [serve, Effect.returns, ran, Effect.commit_of_ok ran]
          rw [served]
          exact accounted_refundTransaction accounted once ran
      | refundSub subId note actorEmail draws =>
          have served : serve books (.refundSub subId note actorEmail draws) =
              ⟨after, books.transactions,
                (refundedInvoice books.db subId).toList ++ books.invoices⟩ := by
            simp [serve, Effect.returns, ran, Effect.commit_of_ok ran]
          rw [served]
          exact accounted_refundSub accounted once ran
      | voidInvoice invoiceId =>
          have served : serve books (.voidInvoice invoiceId) =
              ⟨after, books.transactions, books.invoices⟩ := by
            simp [serve, Effect.commit_of_ok ran]
          obtain ⟨inv, found, rest⟩ := (fetch_bind_ok_iff ..).mp ran
          cases rest
          rw [served]
          exact accounted_modifyInvoice accounted inv.id "void"
      | markInvoicePaid invoiceId =>
          have served : serve books (.markInvoicePaid invoiceId) =
              ⟨after, books.transactions, books.invoices⟩ := by
            simp [serve, Effect.commit_of_ok ran]
          obtain ⟨inv, found, rest⟩ := (fetch_bind_ok_iff ..).mp ran
          cases rest
          rw [served]
          exact accounted_modifyInvoice accounted inv.id "paid"

/-- A refund that is not credited leaves every balance. -/
theorem users_of_once (again : RefundsAgain books request) (once : OnceEach books request) :
    (serve books request).db.users = books.db.users := by
  have refused := once again
  cases ran : perform request books.db with
  | error failure after => rw [serve_of_error ran]
  | ok value after =>
      cases request with
      | refundTransaction txId note actorEmail draws =>
          have served : (serve books (.refundTransaction txId note actorEmail draws)).db =
              after := by
            simp [serve, Effect.returns, ran, Effect.commit_of_ok ran]
          obtain ⟨tx, args, -, asks, -, -, -, outcome, -⟩ := refundTransaction_done ran
          rw [served]
          rcases outcome with ⟨users, -⟩ | ⟨credited, -⟩
          · exact users
          · exact absurd credited (refused args asks)
      | refundSub subId note actorEmail draws =>
          have served : (serve books (.refundSub subId note actorEmail draws)).db = after := by
            simp [serve, Effect.returns, ran, Effect.commit_of_ok ran]
          obtain ⟨invoice, args, -, asks, -, -, -, outcome, -⟩ := refundSub_done ran
          rw [served]
          rcases outcome with ⟨users, -⟩ | ⟨credited, -⟩
          · exact users
          · exact absurd credited (refused args asks)
      | voidInvoice invoiceId => exact absurd again id
      | markInvoicePaid invoiceId => exact absurd again id

theorem db_serve (books : Books) (request : Request) :
    (serve books request).db = Effect.commit (perform request) books.db := by
  unfold serve
  cases request <;> dsimp only <;> split <;> rfl

theorem users_of_credited {args : Wallet.WalletArgs} (asks : AsksFor books.db request args)
    (credited : Credited books.db args) :
    (serve books request).db.users ≠ books.db.users := by
  rw [db_serve]
  cases asks with
  | transaction txId note actorEmail draws tx order userId foundTx matched found payee =>
      obtain ⟨row, after, refunded, changed⟩ := refund_of_credited draws.row credited
      simpa [perform, adminRefundTransaction, getTransaction, fetch, bind, EStateM.bind, foundTx,
        matched, found, payee, refunded, Effect.commit, Database.modifyOrder,
        Database.modifyTransaction] using changed
  | subscription subId note actorEmail draws sub invoice found newest =>
      obtain rfl := Table.key_of_find? found
      obtain ⟨row, after, refunded, changed⟩ := refund_of_credited draws.row credited
      have amount : subRefundAmount none (some invoice) = invoice.amountVnd := rfl
      have positive : ¬invoice.amountVnd ≤ 0 := Int.not_le.mpr credited.1
      simpa [perform, adminRefundSub, getSubscription, fetch, bind, EStateM.bind, found, newest,
        amount, positive, refunded, Effect.commit, voidIfAny, modifyInvoice,
        modifySubscription] using changed

theorem sound_iff (accounted : Accounted start books) :
    Sound start books request ↔ OnceEach books request := by
  constructor
  · intro sound again args asks credited
    exact users_of_credited asks credited (sound.again again)
  · intro once
    exact ⟨bounded_of_accounted (accounted_serve accounted once),
      fun again => users_of_once again once⟩

end Step

/-- Over every sequence of requests, refunds stay within what was paid and a repeated
refund changes no balance, if and only if nothing is credited twice. -/
theorem refunds_bounded_iff (start : Database) (requests : List Request) :
    Run.Along (Sound start) serve (opened start) requests ↔
      Run.Along OnceEach serve (opened start) requests := by
  apply Run.along_iff (Accounted start) ?exact_guard ?keeps (accounted_opened start)
  case exact_guard =>
    intro books request accounted
    exact sound_iff accounted
  case keeps =>
    intro books request accounted sound
    exact accounted_serve accounted ((sound_iff accounted).mp sound)

/-- A top-up of 50000 that has been paid. -/
def paidTopup : Database := { Database.empty with
  users := ⟨[⟨"u1", "customer@example.com", 50000⟩], by decide⟩
  orders := ⟨[⟨"o1", "AA", none, 50000, .paid, "b1", some "u1", .utc 900, some "t1",
    some (.utc 1), none, [], .utc 0, .utc 1⟩], by simp⟩
  transactions := ⟨[⟨"t1", "b1", "FT1", 50000, "chuyen tien", .utc 1, true, some "o1", .matched,
    .utc 1⟩], by decide⟩ }

def refundTopup (token : String) : Request :=
  .refundTransaction "t1" "hoan tien" "admin@example.com" ⟨token, s!"w{token}", 2⟩

/-- The same request twice credits twice. -/
theorem transaction_refunded_twice : ¬∀ (start : Database) (requests : List Request),
    Run.Along (Sound start) serve (opened start) requests := by
  intro claim
  have along := claim paidTopup [refundTopup "1", refundTopup "2"]
  have same := along.2.1.again List.mem_cons_self
  have balances := congrArg (fun users => users.rows.map User.balanceVnd) same
  have once : (serve (opened paidTopup) (refundTopup "1")).db.users.rows.map User.balanceVnd =
      [100000] := rfl
  have twice : (serve (serve (opened paidTopup) (refundTopup "1"))
      (refundTopup "2")).db.users.rows.map User.balanceVnd = [150000] := rfl
  rw [once, twice] at balances
  contradiction

end ApiBank.Subscriptions.Refunds
