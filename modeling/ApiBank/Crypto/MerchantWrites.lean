import ApiBank.Crypto.MerchantParts
import ApiBank.Relational.Amounts
import Mathlib.Algebra.Order.BigOperators.Group.List

/-!
# Writes to invoices

A cancelation, an expiry and a match as touches of one invoice, with every row that they
add, and when they return. A match returns if the credit of each waiting invoice can be
posted and the token of its callback is new.
-/

namespace ApiBank.Crypto.MerchantWrites

open ApiBank.Billing ApiBank.Db ApiBank.Relational ApiBank.Transition
open History Invoices InvoiceTurns MerchantParts Operations Settlement Watchers

set_option autoImplicit false

variable {merchant : String} {before after : CryptoDb} {invoice : CryptoInvoice}

section Announcements

def announcement (invoice : CryptoInvoice) (eventType : String) (draws : EventDraws) :
    Option CryptoCallback :=
  (given invoice.callbackUrl).map fun _ => newCallback invoice eventType draws

variable {eventType : String} {draws : EventDraws}

theorem tells_announcement : ∀ row ∈ (announcement invoice eventType draws).toList,
    row.invoiceId = invoice.id := by
  intro row listed
  obtain ⟨url, -, rfl⟩ := Option.map_eq_some_iff.mp (Option.mem_toList.mp listed)
  rfl

theorem announced_ok
    (returned : enqueueInvoiceCallback invoice eventType draws before = .ok () after) :
    after = { before with callbacks := after.callbacks } ∧
      after.callbacks.rows =
        before.callbacks.rows ++ (announcement invoice eventType draws).toList := by
  refine ⟨enqueueInvoiceCallback_ok returned, ?_⟩
  unfold enqueueInvoiceCallback at returned
  unfold announcement
  cases called : given invoice.callbackUrl with
  | none =>
      simp only [called] at returned
      cases returned
      simp
  | some url =>
      simp only [called] at returned
      obtain ⟨callbacks, inserted, rfl⟩ :=
        Option.map_eq_some_iff.mp ((flush_ok_iff ..).mp returned)
      simp [Table.rows_of_insert? inserted]

end Announcements

section Endings

variable {change : CryptoInvoice → CryptoInvoice} {eventType : String} {draws : EventDraws}

end Endings

section Matches

variable {transfer : CryptoChainTransfer} {draws : MatchDraws}

def receiptEvent (invoice : CryptoInvoice) : String :=
  if invoice.status = .completed then "crypto.invoice.completed" else "crypto.invoice.partial"

def receiptTold (transfer : CryptoChainTransfer) (draws : MatchDraws) (invoice : CryptoInvoice) :
    List CryptoCallback :=
  let paid := invoice.receive transfer draws.now
  (announcement paid (receiptEvent paid) draws.event).toList

/-- A transfer that has come to an invoice. -/
structure Received (transfer : CryptoChainTransfer) (draws : MatchDraws) (before : CryptoDb)
    (invoice : CryptoInvoice) (after : CryptoDb) : Prop where
  receipt : Receipt transfer draws before invoice after
  touched : Touched invoice.id (CryptoInvoice.receive transfer draws.now)
    [newMatch invoice transfer] (receiptTold transfer draws invoice) [transfer.log] before after

theorem announced_of_receipt (returned : announceReceipt invoice draws before = .ok () after) :
    after.callbacks.rows = before.callbacks.rows ++
      (announcement invoice (receiptEvent invoice) draws.event).toList := by
  unfold announceReceipt at returned
  unfold receiptEvent
  by_cases completed : invoice.status = .completed
  · rw [if_pos completed] at returned ⊢
    obtain ⟨⟨⟩, released, freed, rest⟩ := (Effect.bind_ok_iff ..).mp returned
    cases freed
    obtain ⟨credited, middle, credit, announced⟩ := (Effect.bind_ok_iff ..).mp rest
    rw [(announced_ok announced).2]
    rcases creditWallet_ok credit with rfl | ⟨userId, amountVnd, row, bank, -, -, -, rfl⟩
    · rfl
    · rfl
  · rw [if_neg completed] at returned ⊢
    exact (announced_ok returned).2

theorem mark_one (transfer : CryptoChainTransfer) (rows : List CryptoChainTransfer) :
    rows.map (fun row => if row.log = transfer.log then row.markMatched else row) =
      rows.map (mark [transfer.log]) := by
  apply List.map_congr_left
  intro row _
  simp [mark]

/-- A match changes nothing, for want of an invoice or because it was made before, or
brings the transfer to the invoice that it fits. -/
theorem match_cases {result : Option CryptoInvoice}
    (returned : matchTransfer transfer draws before = .ok result after) :
    (after = before ∧ ∀ invoice, fittingInvoice transfer draws.now before = some invoice →
        (before.matchRows.find? (invoice.id, transfer.id)).isSome = true) ∨
      ∃ invoice, Received transfer draws before invoice after := by
  rcases matchTransfer_cases returned with idle | ⟨paid, payment⟩
  · exact .inl idle
  · right
    obtain ⟨matchRows, announced⟩ := announced_of_paid payment returned
    have callbacks := announced_of_receipt announced
    have turned := announceReceipt_exact announced
    refine ⟨paid, ⟨payment, turned.1, turned.2⟩, ?_⟩
    refine ⟨faithful_receive transfer draws.now, ?_, ?_, ?_, callbacks, ?_, ?_, ?_⟩
    · rw [payment.frame]
      exact ⟨rfl, rfl, rfl, rfl⟩
    · rw [payment.invoices]
      rfl
    · exact Table.rows_of_insert? payment.inserted
    · rw [payment.transfers]
      exact mark_one transfer before.transfers.rows
    · intro row listed
      rw [List.mem_singleton.mp listed]
      rfl
    · exact tells_announcement

end Matches

section Credits

/-- Nothing but the bound of the balance keeps the credit of the invoice from being posted. -/
def Fundable (bank : Database) (invoice : CryptoInvoice) : Prop :=
  ∀ userId amountVnd, given invoice.userId = some userId →
    invoice.currencyAmountVnd = some amountVnd →
      0 < amountVnd ∧ bank.walletTransactions.find? (cryptoTopupKey invoice.id) = none ∧
        ∃ user, bank.users.find? userId = some user ∧ 0 ≤ user.balanceVnd

def dueTo (userId : String) (invoice : CryptoInvoice) : Int :=
  if invoice.status.isWaiting ∧ given invoice.userId = some userId then
    invoice.currencyAmountVnd.getD 0
  else 0

/-- Every balance fits its column when all that waits has been paid. -/
def HasRoom (db : CryptoDb) : Prop :=
  ∀ user ∈ db.bank.users.rows,
    user.balanceVnd + db.invoices.total (dueTo user.id) < Wallet.vndLimit

def Payable (db : CryptoDb) : Prop :=
  (∀ invoice ∈ db.invoices.rows, invoice.status.isWaiting = true → Fundable db.bank invoice) ∧
    HasRoom db

variable {transfer : CryptoChainTransfer} {draws : MatchDraws}

section Due

variable {userId : String} {amountVnd : Int}

end Due

/-- A posted credit adds its amount to one balance. -/
structure CreditPosted (args : Wallet.WalletArgs) (bank other : Database)
    (row : WalletTransaction) (user : User) : Prop where
  known : bank.users.find? args.userId = some user
  solvent : 0 ≤ user.balanceVnd + args.amountVnd
  fits : user.balanceVnd + args.amountVnd < Wallet.vndLimit
  keyed : row.idempotencyKey = args.idempotencyKey
  inserted : bank.walletTransactions.insert? row = some other.walletTransactions
  users : other.users = bank.users.modify args.userId
    (Wallet.setBalance (user.balanceVnd + args.amountVnd))
    (Wallet.id_setBalance (user.balanceVnd + args.amountVnd))

/-- The tokens that are drawn for callbacks are new. -/
structure Unclashing (db : CryptoDb) (tokens : List String) : Prop where
  distinct : tokens.Nodup
  unused : ∀ token ∈ tokens, db.callbacks.find? token = none

/-- Matches that draw these tokens will return. -/
structure Ready (db : CryptoDb) (tokens : List String) : Prop where
  payable : Payable db
  clear : Unclashing db tokens

end Credits

end ApiBank.Crypto.MerchantWrites
