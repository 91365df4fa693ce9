import ApiBank.Db.Session
import ApiBank.Numeric.Rounding

/-!
# Crypto tables

Networks, tokens, wallets, invoices, observed transfers and their matches, beside
the tables of the bank. Token amounts are the rational numbers that the decimals
denote. Only SQL compares these datetimes, so they are instants.

Primary keys and unique constraints are enforced by the tables. A transfer is kept
under its place on the chain, a match under its two ends and a cursor under what it
scans; the tokens of matches and cursors are never looked up.
-/

namespace ApiBank.Crypto

open ApiBank.Db ApiBank.Numeric ApiBank.Relational ApiBank.Transition

set_option autoImplicit false

structure CryptoNetwork where
  id : String
  key : String
  name : String
  chainType : String
  minConfirmations : Int
  scanBatchSize : Int
  status : String
deriving DecidableEq, Repr

structure CryptoToken where
  id : String
  networkId : String
  symbol : String
  contractAddress : String
  decimals : Nat
  minInvoiceAmount : ℚ
  maxInvoiceAmount : ℚ
  dustPrecision : Nat
  status : String
deriving DecidableEq, Repr

structure CryptoRpcEndpoint where
  id : String
  networkId : String
  status : String
  priority : Int
  lastOkAt : Option Int
  lastError : Option String
deriving DecidableEq, Repr

structure CryptoWallet where
  id : String
  ownerType : String
  ownerId : Option String
  networkId : String
  address : String
  label : Option String
  status : String
  maxActiveInvoices : Int
  activeInvoiceCount : Int
  createdAt : Int
deriving DecidableEq, Repr

/-- The strings written to or compared with `crypto_invoices.status`. -/
inductive InvoiceStatus where
  | waiting
  | partlyPaid
  | completed
  | overpaid
  | expired
  | canceled
  | failedReview
deriving DecidableEq, Repr

def InvoiceStatus.isWaiting : InvoiceStatus → Bool
  | .waiting => true
  | .partlyPaid => true
  | _ => false

structure CryptoInvoice where
  id : String
  transId : String
  requestId : String
  merchantId : String
  userId : Option String
  name : String
  networkId : String
  tokenId : String
  walletId : String
  address : String
  requestedAmount : ℚ
  payAmount : ℚ
  receivedAmount : ℚ
  currencyAmountVnd : Option Int
  fxRate : Option ℚ
  fxSource : Option String
  fxLockedAt : Option Int
  status : InvoiceStatus
  expiresAt : Int
  paidAt : Option Int
  canceledAt : Option Int
  callbackUrl : Option String
  fromAddress : Option String
  transactionId : Option String
  confirmations : Int
  metadataJson : Metadata
  createdAt : Int

inductive TransferStatus where
  | seen
  | confirmed
  | matched
deriving DecidableEq, Repr

structure CryptoChainTransfer where
  id : String
  networkId : String
  tokenId : String
  txHash : String
  logIndex : Nat
  fromAddress : String
  toAddress : String
  amountRaw : Nat
  amountDecimal : ℚ
  blockNumber : Int
  blockHash : Option String
  blockTime : Option Int
  confirmations : Int
  status : TransferStatus
deriving DecidableEq, Repr

/-- `uq_crypto_transfer_log`. -/
def CryptoChainTransfer.log (transfer : CryptoChainTransfer) : String × String × Nat :=
  (transfer.networkId, transfer.txHash, transfer.logIndex)

structure CryptoInvoiceMatch where
  invoiceId : String
  transferId : String
  matchedAmount : ℚ
  matchType : String
deriving DecidableEq, Repr

/-- `uq_crypto_invoice_transfer`. -/
def CryptoInvoiceMatch.ends (paired : CryptoInvoiceMatch) : String × String :=
  (paired.invoiceId, paired.transferId)

/-- The payload of a callback: the invoice at the moment of the event. -/
structure InvoiceEvent where
  event : String
  transId : String
  requestId : String
  merchantId : String
  amount : ℚ
  payAmount : ℚ
  received : ℚ
  token : Option Json
  network : Option Json
  address : String
  status : InvoiceStatus
  fromAddress : Option String
  transactionId : Option String
  confirmations : Int
  paidAt : Option Int
  timestamp : Int

structure CryptoCallback where
  id : String
  invoiceId : String
  eventType : String
  payloadJson : InvoiceEvent
  state : String
  nextRetryAt : Int

structure CryptoWatcherCursor where
  networkId : String
  tokenId : String
  walletGroupHash : String
  lastScannedBlock : Int
  lastFinalizedBlock : Int
  updatedAt : Int
deriving DecidableEq, Repr

/-- `uq_crypto_watcher_cursor`. -/
def CryptoWatcherCursor.scope (cursor : CryptoWatcherCursor) : String × String × String :=
  (cursor.networkId, cursor.tokenId, cursor.walletGroupHash)

def contextDigits : Nat := 28

def CryptoWallet.occupy (wallet : CryptoWallet) : CryptoWallet :=
  { wallet with activeInvoiceCount := wallet.activeInvoiceCount + 1 }

def CryptoWallet.release (wallet : CryptoWallet) : CryptoWallet :=
  if 0 < wallet.activeInvoiceCount then
    { wallet with activeInvoiceCount := wallet.activeInvoiceCount - 1 }
  else wallet

def CryptoInvoice.cancel (now : Int) (invoice : CryptoInvoice) : CryptoInvoice :=
  { invoice with
    status := .canceled
    canceledAt := some now }

def CryptoInvoice.expire (invoice : CryptoInvoice) : CryptoInvoice :=
  { invoice with status := .expired }

def CryptoInvoice.receive (transfer : CryptoChainTransfer) (now : Int) (invoice : CryptoInvoice) :
    CryptoInvoice :=
  let received := significant contextDigits (invoice.receivedAmount + transfer.amountDecimal)
  let paid := decide (invoice.payAmount ≤ received)
  { invoice with
    receivedAmount := received
    fromAddress := some transfer.fromAddress
    transactionId := some transfer.txHash
    confirmations := transfer.confirmations
    status := if paid then .completed else .partlyPaid
    paidAt := if paid then some now else invoice.paidAt }

def CryptoChainTransfer.markMatched (transfer : CryptoChainTransfer) : CryptoChainTransfer :=
  { transfer with status := .matched }

def CryptoWatcherCursor.advance (toBlock finalized now : Int) (cursor : CryptoWatcherCursor) :
    CryptoWatcherCursor :=
  { cursor with
    lastScannedBlock := toBlock
    lastFinalizedBlock := finalized
    updatedAt := now }

@[simp] theorem CryptoWallet.id_occupy (wallet : CryptoWallet) : wallet.occupy.id = wallet.id := rfl

@[simp] theorem CryptoWallet.id_release (wallet : CryptoWallet) :
    wallet.release.id = wallet.id := by
  unfold CryptoWallet.release
  split <;> rfl

@[simp] theorem CryptoInvoice.id_cancel (now : Int) (invoice : CryptoInvoice) :
    (invoice.cancel now).id = invoice.id := rfl

@[simp] theorem CryptoInvoice.id_expire (invoice : CryptoInvoice) :
    invoice.expire.id = invoice.id := rfl

@[simp] theorem CryptoInvoice.id_receive (transfer : CryptoChainTransfer) (now : Int)
    (invoice : CryptoInvoice) : (invoice.receive transfer now).id = invoice.id := rfl

@[simp] theorem CryptoChainTransfer.log_markMatched (transfer : CryptoChainTransfer) :
    transfer.markMatched.log = transfer.log := rfl

structure CryptoDb where
  bank : Database
  networks : Table CryptoNetwork.id
  tokens : Table CryptoToken.id
  rpcEndpoints : Table CryptoRpcEndpoint.id
  wallets : Table CryptoWallet.id
  invoices : Table CryptoInvoice.id
  transfers : Table CryptoChainTransfer.log
  matchRows : Table CryptoInvoiceMatch.ends
  callbacks : Table CryptoCallback.id
  cursors : Table CryptoWatcherCursor.scope

def CryptoDb.opening (bank : Database) : CryptoDb where
  bank
  networks := .empty
  tokens := .empty
  rpcEndpoints := .empty
  wallets := .empty
  invoices := .empty
  transfers := .empty
  matchRows := .empty
  callbacks := .empty
  cursors := .empty

/-- Work on the state of one database session. -/
abbrev CryptoSession := EStateM Error CryptoDb

def onBank {Value : Type} (work : Session Value) : CryptoSession Value := fun db =>
  match work db.bank with
  | .ok value bank => .ok value { db with bank }
  | .error failure bank => .error failure { db with bank }

theorem onBank_ok_iff {Value : Type} (work : Session Value) (before after : CryptoDb)
    (value : Value) :
    onBank work before = .ok value after ↔
      ∃ bank, work before.bank = .ok value bank ∧ after = { before with bank } := by
  unfold onBank
  cases work before.bank <;> simp [eq_comm]

/-- The value of a computation without writes, or its exception. -/
def outcome {Value : Type} (result : Except Error Value) : CryptoSession Value := fun db =>
  match result with
  | .ok value => .ok value db
  | .error failure => .error failure db

theorem outcome_ok_iff {Value : Type} (result : Except Error Value) (before after : CryptoDb)
    (value : Value) :
    outcome result before = .ok value after ↔ result = .ok value ∧ after = before := by
  unfold outcome
  cases result <;> simp [eq_comm]

/-- A flush: it goes through, or a constraint refuses it. -/
def flush (insert? : CryptoDb → Option CryptoDb) : CryptoSession Unit := fun db =>
  match insert? db with
  | some next => .ok () next
  | none => .error .integrityError db

theorem flush_ok_iff (insert? : CryptoDb → Option CryptoDb) (before after : CryptoDb) :
    flush insert? before = .ok () after ↔ insert? before = some after := by
  unfold flush
  cases insert? before <;> simp

/-- `SELECT`, with the exception for a missing row. -/
def select {Row : Type} (read : CryptoDb → Option Row) (missing : Error) : CryptoSession Row :=
  fun db =>
    match read db with
    | some row => .ok row db
    | none => .error missing db

theorem select_ok_iff {Row : Type} (read : CryptoDb → Option Row) (missing : Error)
    (before after : CryptoDb) (row : Row) :
    select read missing before = .ok row after ↔ read before = some row ∧ after = before := by
  unfold select
  cases read before <;> simp [eq_comm]

section Carries

variable {change : CryptoDb → CryptoDb}

theorem carries_flush {insert? : CryptoDb → Option CryptoDb}
    (commutes : ∀ db, insert? (change db) = (insert? db).map change) :
    Effect.Carries change (flush insert?) := by
  intro before value after returned
  have inserted := (flush_ok_iff ..).mp returned
  apply (flush_ok_iff ..).mpr
  rw [commutes, inserted]
  rfl

theorem carries_onBank {Value : Type} (work : Session Value)
    (apart : ∀ db bank, change { db with bank } = { change db with bank }) :
    Effect.Carries change (onBank work) := by
  intro before value after returned
  obtain ⟨bank, ran, rfl⟩ := (onBank_ok_iff ..).mp returned
  have same : (change before).bank = before.bank := by
    have kept := congrArg CryptoDb.bank (apart before before.bank)
    exact kept
  exact (onBank_ok_iff ..).mpr ⟨bank, same ▸ ran, apart before bank⟩

end Carries

end ApiBank.Crypto
