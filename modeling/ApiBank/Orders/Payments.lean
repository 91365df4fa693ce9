import ApiBank.Orders.Operations

/-!
# The ledger of an ingestion

An ingestion reaches the wallet in one place, the credit of the order it pays. Seen
from the state before the whole ingestion, the ledger stays or takes one posting
for the user whom the paid order funds.
-/

namespace ApiBank.Orders.Payments

open ApiBank.Api ApiBank.Billing ApiBank.Core ApiBank.Db ApiBank.Relational ApiBank.Transition
open AdminOps Ingest MatchDecision Matcher Operations Topup

set_option autoImplicit false

variable {unicode : UnicodeData} {bankAccountId : String} {bankTransaction : BankTransaction}
variable {draws : IngestDraws} {before after entered : Database}

def CreditPosted (draws : IngestDraws) (before after : Database) (order : Order)
    (userId : String) (row : WalletTransaction) : Prop :=
  Wallet.Posted (topupRequest order userId) ⟨draws.walletRowId, draws.now⟩ before row
    { before with
      users := after.users
      walletTransactions := after.walletTransactions }

theorem sameLedger_entered
    (entry : Entered bankAccountId bankTransaction draws before entered) :
    SameLedger before entered := by
  rw [entry.frame]
  exact ⟨rfl, rfl, rfl⟩

theorem funded_settled (entry : Entered bankAccountId bankTransaction draws before entered)
    (order : Order) :
    fundedUserId (settle order (newTransaction bankAccountId bankTransaction draws) .paid
      draws.now entered) (order.pay draws.txId draws.now) = fundedUserId before order := by
  apply fundedUserId_congr rfl
  intro userId
  exact congrArg (fun users => (users.find? userId).map User.id) (sameLedger_entered entry).users

theorem ledger_of_payment
    (entry : Entered bankAccountId bankTransaction draws before entered) (order : Order)
    (webhookAttempts : Table WebhookAttempt.id) :
    let paid := afterMatch draws order (newTransaction bankAccountId bankTransaction draws)
      webhookAttempts entered
    SameLedger before paid ∨ draws.creditRaises = false ∧ ∃ userId row,
      fundedUserId before order = some userId ∧ CreditPosted draws before paid order userId row := by
  have ledger := sameLedger_entered entry
  rcases credited_cases (order.pay draws.txId draws.now) draws (settle order
    (newTransaction bankAccountId bankTransaction draws) .paid draws.now entered) with
    unchanged | ⟨quiet, userId, row, funded, posted⟩
  · refine .inl ⟨?_, ?_, ?_⟩
    · exact (congrArg Database.users unchanged).trans ledger.users
    · exact (congrArg Database.walletTransactions unchanged).trans ledger.walletTransactions
    · rw [bankAccounts_afterMatch]
      exact ledger.bankAccounts
  · rw [funded_settled entry] at funded
    exact .inr ⟨quiet, userId, row, funded,
      posted.transport ledger.users ledger.walletTransactions⟩

theorem credit_of_payment
    (entry : Entered bankAccountId bankTransaction draws before entered) {order : Order}
    {userId : String} {user : User} (webhookAttempts : Table WebhookAttempt.id)
    (quiet : draws.creditRaises = false) (positive : 0 < order.amountVnd)
    (survives : ¬BreaksIngestion draws before order) (funded : fundedUserId before order = some userId)
    (known : before.users.find? userId = some user) (solvent : 0 ≤ user.balanceVnd)
    (unused : before.walletTransactions.find? (topupKey order.id) = none) :
    ∃ row, CreditPosted draws before (afterMatch draws order
      (newTransaction bankAccountId bankTransaction draws) webhookAttempts entered) order userId
      row := by
  have ledger := sameLedger_entered entry
  have accepted : 0 < (order.pay draws.txId draws.now).amountVnd := positive
  have users : (settle order (newTransaction bankAccountId bankTransaction draws) .paid draws.now
    entered).users = before.users := ledger.users
  have rows : (settle order (newTransaction bankAccountId bankTransaction draws) .paid draws.now
    entered).walletTransactions = before.walletTransactions := ledger.walletTransactions
  have usable : ¬BreaksIngestion draws (settle order
      (newTransaction bankAccountId bankTransaction draws) .paid draws.now entered)
      (order.pay draws.txId draws.now) := fun breaks =>
    survives ((breaksIngestion_congr users rows rfl rfl rfl).mp breaks)
  obtain ⟨row, posted⟩ := credited_of_funded quiet accepted
    ((funded_settled entry order).trans funded) (users.symm ▸ known) solvent
    (rows.symm ▸ unused) usable
  exact ⟨row, posted.transport users rows⟩

theorem ledger_of_ingestion
    (ingestion : Ingestion unicode bankAccountId bankTransaction draws before after) :
    SameLedger before after ∨ ∃ order userId row,
      Pays unicode bankAccountId bankTransaction draws before order ∧
      draws.creditRaises = false ∧ fundedUserId before order = some userId ∧
      CreditPosted draws before after order userId row ∧
      after.bankAccounts = before.bankAccounts := by
  cases ingestion with
  | known existing stored => exact .inl ⟨rfl, rfl, rfl⟩
  | outgoing entered entry negative => exact .inl (sameLedger_entered entry)
  | unmatched entered entry positive none =>
      have ledger := sameLedger_entered entry
      exact .inl ⟨ledger.users, ledger.walletTransactions, ledger.bankAccounts⟩
  | ambiguous entered entry positive several =>
      have ledger := sameLedger_entered entry
      exact .inl ⟨ledger.users, ledger.walletTransactions, ledger.bankAccounts⟩
  | matched entered entry positive order unique webhookAttempts enqueued survives =>
      rcases ledger_of_payment entry order webhookAttempts with
        ledger | ⟨quiet, userId, row, funded, posted⟩
      · exact .inl ledger
      · refine .inr ⟨order, userId, row, ⟨entry.fresh, Table.fresh_of_insert? entry.inserted,
          positive, unique, ⟨webhookAttempts, enqueued⟩, survives⟩, quiet, funded, posted, ?_⟩
        rw [bankAccounts_afterMatch]
        exact (sameLedger_entered entry).bankAccounts

theorem ledger_of_change {op : Op} (change : Change unicode before op after)
    (noRefund : ∀ txId note actorEmail draws, op ≠ .refund txId note actorEmail draws) :
    SameLedger before after ∨ ∃ bankAccountId bankTransaction draws order userId row,
      op = .ingest bankAccountId bankTransaction draws ∧
      Pays unicode bankAccountId bankTransaction draws before order ∧
      draws.creditRaises = false ∧ fundedUserId before order = some userId ∧
      CreditPosted draws before after order userId row ∧
      after.bankAccounts = before.bankAccounts := by
  cases change with
  | nothing op => exact .inl ⟨rfl, rfl, rfl⟩
  | topupCreated userId amountVnd ttlSeconds draws after user bank order known bounds configured
      returned allocated =>
      rw [allocated.frame]
      exact .inl ⟨rfl, rfl, rfl⟩
  | orderCreated client payload draws after order allocated =>
      rw [allocated.frame]
      exact .inl ⟨rfl, rfl, rfl⟩
  | ingested bankAccountId bankTransaction draws after ingestion =>
      rcases ledger_of_ingestion ingestion with ledger | ⟨order, userId, row, posting⟩
      · exact .inl ledger
      · exact .inr ⟨bankAccountId, bankTransaction, draws, order, userId, row, rfl, posting⟩
  | canceled op orderId now after order found pending orders transactions ledger =>
      exact .inl ledger
  | forceMatched orderId txId now order tx found foundTx sameBank => exact .inl ⟨rfl, rfl, rfl⟩
  | rejected txId tx foundTx => exact .inl ⟨rfl, rfl, rfl⟩
  | linked op now order tx found foundTx sameBank cause =>
      unfold linkTransaction
      split
      · exact .inl ⟨rfl, rfl, rfl⟩
      · exact .inl ⟨rfl, rfl, rfl⟩
  | confirmed data adminChatId now order found pending target admitted =>
      exact .inl ⟨rfl, rfl, rfl⟩
  | refunded txId note actorEmail draws tx order userId row credited foundTx matched found payee
      refund => exact absurd rfl (noRefund txId note actorEmail draws)
  | expired op now cause => exact .inl ⟨rfl, rfl, rfl⟩

end ApiBank.Orders.Payments
