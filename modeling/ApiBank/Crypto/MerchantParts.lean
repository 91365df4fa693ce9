import ApiBank.Crypto.DistinctAmounts

/-!
# One merchant's part of the crypto tables

What belongs to a merchant, when two states hold the same of it, and what the writes to
one invoice do to it. Wallets are shared between merchants, so the wallet of an invoice
is no part of what is compared, and a transfer at a till of others may have been matched
in one state and not in the other.
-/

namespace ApiBank.Crypto.MerchantParts

open ApiBank.Db ApiBank.Relational ApiBank.Transition
open History Invoices InvoiceTurns Operations Settlement Watchers

set_option autoImplicit false

/-- The invoice without the wallet that keeps its slot. -/
def terms (invoice : CryptoInvoice) : CryptoInvoice := { invoice with walletId := "" }

def ownInvoices (merchant : String) (db : CryptoDb) : List CryptoInvoice :=
  db.invoices.rows.filter fun invoice => invoice.merchantId = merchant

def ownIds (merchant : String) (db : CryptoDb) : List String :=
  (ownInvoices merchant db).map CryptoInvoice.id

def ownMatches (merchant : String) (db : CryptoDb) : List CryptoInvoiceMatch :=
  db.matchRows.rows.filter fun paired => paired.invoiceId ∈ ownIds merchant db

def ownCallbacks (merchant : String) (db : CryptoDb) : List CryptoCallback :=
  db.callbacks.rows.filter fun callback => callback.invoiceId ∈ ownIds merchant db

def Foreign (merchant : String) (db : CryptoDb) (till : Till) : Prop :=
  ∃ invoice ∈ db.invoices.rows, invoice.merchantId ≠ merchant ∧ invoiceTill invoice = till

def transfersAt (till : Till) (db : CryptoDb) : List CryptoChainTransfer :=
  db.transfers.rows.filter fun transfer => transferTill transfer = till

/-- The tables that no invoice touches. -/
structure SameConfig (left right : CryptoDb) : Prop where
  networks : left.networks = right.networks
  tokens : left.tokens = right.tokens
  rpcEndpoints : left.rpcEndpoints = right.rpcEndpoints
  cursors : left.cursors = right.cursors

/-- Both states hold the same of the merchant, and the same transfers but for what others
have been paid with. -/
structure SameFor (merchant : String) (left right : CryptoDb) : Prop where
  config : SameConfig left right
  invoices : (ownInvoices merchant left).map terms = (ownInvoices merchant right).map terms
  matchRows : ownMatches merchant left = ownMatches merchant right
  callbacks : ownCallbacks merchant left = ownCallbacks merchant right
  sighted : left.transfers.rows.map CryptoChainTransfer.markMatched =
    right.transfers.rows.map CryptoChainTransfer.markMatched
  statuses : ∀ till, ¬Foreign merchant left till → ¬Foreign merchant right till →
    transfersAt till left = transfersAt till right

def Apart (merchant : String) (db : CryptoDb) : Prop :=
  ∀ invoice ∈ db.invoices.rows, invoice.merchantId = merchant →
    ¬Foreign merchant db (invoiceTill invoice)

/-- What the unique index on `trans_id` and the foreign keys promise. -/
structure Filed (db : CryptoDb) : Prop where
  transIds : ∀ invoice ∈ db.invoices.rows, ∀ other ∈ db.invoices.rows,
    invoice.transId = other.transId → invoice = other
  matched : ∀ paired ∈ db.matchRows.rows,
    paired.invoiceId ∈ db.invoices.rows.map CryptoInvoice.id
  told : ∀ callback ∈ db.callbacks.rows,
    callback.invoiceId ∈ db.invoices.rows.map CryptoInvoice.id

structure Sound (merchant : String) (db : CryptoDb) : Prop where
  apart : Apart merchant db
  filed : Filed db

variable {merchant : String} {left right middle before after : CryptoDb}

section Sameness

theorem SameConfig.symm (same : SameConfig left right) : SameConfig right left :=
  ⟨same.networks.symm, same.tokens.symm, same.rpcEndpoints.symm, same.cursors.symm⟩

theorem SameConfig.trans (first : SameConfig left middle) (second : SameConfig middle right) :
    SameConfig left right :=
  ⟨first.networks.trans second.networks, first.tokens.trans second.tokens,
    first.rpcEndpoints.trans second.rpcEndpoints, first.cursors.trans second.cursors⟩

theorem SameFor.refl (merchant : String) (db : CryptoDb) : SameFor merchant db db :=
  ⟨⟨rfl, rfl, rfl, rfl⟩, rfl, rfl, rfl, rfl, fun _ _ _ => rfl⟩

theorem SameFor.symm (same : SameFor merchant left right) : SameFor merchant right left where
  config := same.config.symm
  invoices := same.invoices.symm
  matchRows := same.matchRows.symm
  callbacks := same.callbacks.symm
  sighted := same.sighted.symm
  statuses := fun till here there => (same.statuses till there here).symm

theorem SameFor.trans (first : SameFor merchant left middle)
    (second : SameFor merchant middle right)
    (stay : ∀ till, Foreign merchant middle till → Foreign merchant right till) :
    SameFor merchant left right where
  config := first.config.trans second.config
  invoices := first.invoices.trans second.invoices
  matchRows := first.matchRows.trans second.matchRows
  callbacks := first.callbacks.trans second.callbacks
  sighted := first.sighted.trans second.sighted
  statuses := by
    intro till here there
    have between : ¬Foreign merchant middle till := fun foreign => there (stay till foreign)
    exact (first.statuses till here between).trans (second.statuses till between there)

theorem ownIds_eq (same : SameFor merchant left right) :
    ownIds merchant left = ownIds merchant right := by
  have ids := congrArg (List.map CryptoInvoice.id) same.invoices
  simpa [ownIds, List.map_map, Function.comp_def, terms] using ids

theorem SameFor.invoice (same : SameFor merchant left right) {invoice : CryptoInvoice}
    (member : invoice ∈ left.invoices.rows) (own : invoice.merchantId = merchant) :
    ∃ other ∈ right.invoices.rows, other.merchantId = merchant ∧ terms other = terms invoice := by
  have listed : terms invoice ∈ (ownInvoices merchant left).map terms :=
    List.mem_map_of_mem (List.mem_filter.mpr ⟨member, by simpa using own⟩)
  rw [same.invoices] at listed
  obtain ⟨other, found, equal⟩ := List.mem_map.mp listed
  obtain ⟨otherMember, otherOwn⟩ := List.mem_filter.mp found
  exact ⟨other, otherMember, by simpa using otherOwn, equal⟩

end Sameness

/-- A change of one invoice that leaves what it is and where it is paid. -/
structure Faithful (change : CryptoInvoice → CryptoInvoice) : Prop where
  id : ∀ invoice, (change invoice).id = invoice.id
  merchantId : ∀ invoice, (change invoice).merchantId = invoice.merchantId
  transId : ∀ invoice, (change invoice).transId = invoice.transId
  till : ∀ invoice, invoiceTill (change invoice) = invoiceTill invoice
  terms : ∀ invoice, terms (change invoice) = change (terms invoice)

theorem faithful_receive (transfer : CryptoChainTransfer) (now : Int) :
    Faithful (CryptoInvoice.receive transfer now) :=
  ⟨fun _ => rfl, fun _ => rfl, fun _ => rfl, fun _ => rfl, fun _ => rfl⟩

def alter (invoiceId : String) (change : CryptoInvoice → CryptoInvoice) (row : CryptoInvoice) :
    CryptoInvoice :=
  if row.id = invoiceId then change row else row

def mark (logs : List LogKey) (row : CryptoChainTransfer) : CryptoChainTransfer :=
  if row.log ∈ logs then row.markMatched else row

/-- One invoice is changed, with the rows that are about it and the transfers that it has
been paid with. -/
structure Touched (invoiceId : String) (change : CryptoInvoice → CryptoInvoice)
    (paired : List CryptoInvoiceMatch) (told : List CryptoCallback) (logs : List LogKey)
    (before after : CryptoDb) : Prop where
  faithful : Faithful change
  config : SameConfig before after
  invoices : after.invoices.rows = before.invoices.rows.map (alter invoiceId change)
  matchRows : after.matchRows.rows = before.matchRows.rows ++ paired
  callbacks : after.callbacks.rows = before.callbacks.rows ++ told
  transfers : after.transfers.rows = before.transfers.rows.map (mark logs)
  pairs : ∀ row ∈ paired, row.invoiceId = invoiceId
  tells : ∀ row ∈ told, row.invoiceId = invoiceId

section Touches

variable {invoiceId : String} {change : CryptoInvoice → CryptoInvoice}
  {paired : List CryptoInvoiceMatch} {told : List CryptoCallback} {logs : List LogKey}

theorem markMatched_mark (row : CryptoChainTransfer) :
    (mark logs row).markMatched = row.markMatched := by
  unfold mark
  split <;> rfl

theorem transferTill_mark (row : CryptoChainTransfer) :
    transferTill (mark logs row) = transferTill row := by
  unfold mark
  split <;> rfl

theorem column_alter {Value : Type} (read : CryptoInvoice → Value)
    (keeps : ∀ invoice, read (change invoice) = read invoice) (row : CryptoInvoice) :
    read (alter invoiceId change row) = read row := by
  unfold alter
  split
  · exact keeps row
  · rfl

theorem terms_alter (faithful : Faithful change) (row : CryptoInvoice) :
    terms (alter invoiceId change row) = alter invoiceId change (terms row) := by
  unfold alter
  by_cases own : row.id = invoiceId
  · rw [if_pos own, faithful.terms, if_pos (show (terms row).id = invoiceId from own)]
  · rw [if_neg own, if_neg (show ¬(terms row).id = invoiceId from own)]

variable (touched : Touched invoiceId change paired told logs before after)

include touched

theorem ownInvoices_touched :
    ownInvoices merchant after = (ownInvoices merchant before).map (alter invoiceId change) := by
  unfold ownInvoices
  rw [touched.invoices, List.filter_map]
  congr 1
  apply List.filter_congr
  intro row _
  rw [Function.comp_apply, column_alter CryptoInvoice.merchantId touched.faithful.merchantId]

theorem ids_touched :
    after.invoices.rows.map CryptoInvoice.id = before.invoices.rows.map CryptoInvoice.id := by
  rw [touched.invoices, List.map_map]
  exact List.map_congr_left fun row _ => column_alter CryptoInvoice.id touched.faithful.id row

theorem ownIds_touched : ownIds merchant after = ownIds merchant before := by
  unfold ownIds
  rw [ownInvoices_touched touched, List.map_map]
  exact List.map_congr_left fun row _ => column_alter CryptoInvoice.id touched.faithful.id row

theorem foreign_touched {till : Till} (foreign : Foreign merchant before till) :
    Foreign merchant after till := by
  obtain ⟨invoice, member, other, here⟩ := foreign
  refine ⟨alter invoiceId change invoice, ?_, ?_, ?_⟩
  · rw [touched.invoices]
    exact List.mem_map_of_mem member
  · rw [column_alter CryptoInvoice.merchantId touched.faithful.merchantId]
    exact other
  · rw [column_alter invoiceTill touched.faithful.till]
    exact here

theorem foreign_of_touched {till : Till} (foreign : Foreign merchant after till) :
    Foreign merchant before till := by
  obtain ⟨invoice, member, other, here⟩ := foreign
  rw [touched.invoices] at member
  obtain ⟨old, stored, rfl⟩ := List.mem_map.mp member
  rw [column_alter CryptoInvoice.merchantId touched.faithful.merchantId] at other
  rw [column_alter invoiceTill touched.faithful.till] at here
  exact ⟨old, stored, other, here⟩

theorem transfersAt_touched (till : Till) :
    transfersAt till after = (transfersAt till before).map (mark logs) := by
  unfold transfersAt
  rw [touched.transfers, List.filter_map]
  congr 1
  apply List.filter_congr
  intro row _
  rw [Function.comp_apply, transferTill_mark]

theorem sighted_touched : after.transfers.rows.map CryptoChainTransfer.markMatched =
    before.transfers.rows.map CryptoChainTransfer.markMatched := by
  rw [touched.transfers, List.map_map]
  exact List.map_congr_left fun row _ => markMatched_mark row

theorem ownMatches_touched : ownMatches merchant after =
    ownMatches merchant before ++
      paired.filter fun row => row.invoiceId ∈ ownIds merchant before := by
  unfold ownMatches
  rw [touched.matchRows, ownIds_touched touched, List.filter_append]

theorem ownCallbacks_touched : ownCallbacks merchant after =
    ownCallbacks merchant before ++
      told.filter fun row => row.invoiceId ∈ ownIds merchant before := by
  unfold ownCallbacks
  rw [touched.callbacks, ownIds_touched touched, List.filter_append]

theorem apart_touched (apart : Apart merchant before) : Apart merchant after := by
  intro invoice member own foreign
  rw [touched.invoices] at member
  obtain ⟨old, oldMember, rfl⟩ := List.mem_map.mp member
  rw [column_alter CryptoInvoice.merchantId touched.faithful.merchantId] at own
  rw [column_alter invoiceTill touched.faithful.till] at foreign
  exact apart old oldMember own (foreign_of_touched touched foreign)

theorem filed_touched (filed : Filed before)
    (stored : invoiceId ∈ before.invoices.rows.map CryptoInvoice.id) : Filed after where
  transIds := by
    intro invoice member other otherMember same
    rw [touched.invoices] at member otherMember
    obtain ⟨old, oldMember, rfl⟩ := List.mem_map.mp member
    obtain ⟨otherOld, otherOldMember, rfl⟩ := List.mem_map.mp otherMember
    rw [column_alter CryptoInvoice.transId touched.faithful.transId,
      column_alter CryptoInvoice.transId touched.faithful.transId] at same
    rw [filed.transIds old oldMember otherOld otherOldMember same]
  matched := by
    intro row listed
    rw [ids_touched touched]
    rw [touched.matchRows] at listed
    rcases List.mem_append.mp listed with old | new
    · exact filed.matched row old
    · exact touched.pairs row new ▸ stored
  told := by
    intro row listed
    rw [ids_touched touched]
    rw [touched.callbacks] at listed
    rcases List.mem_append.mp listed with old | new
    · exact filed.told row old
    · exact touched.tells row new ▸ stored

omit touched

theorem same_touched {left' right' : CryptoDb} (same : SameFor merchant left right)
    (first : Touched invoiceId change paired told logs left left')
    (second : Touched invoiceId change paired told logs right right') :
    SameFor merchant left' right' where
  config := first.config.symm.trans (same.config.trans second.config)
  invoices := by
    have commute (db : CryptoDb) : ((ownInvoices merchant db).map (alter invoiceId change)).map
        terms = ((ownInvoices merchant db).map terms).map (alter invoiceId change) := by
      rw [List.map_map, List.map_map]
      exact List.map_congr_left fun row _ => terms_alter first.faithful row
    rw [ownInvoices_touched first, ownInvoices_touched second, commute, commute, same.invoices]
  matchRows := by
    rw [ownMatches_touched first, ownMatches_touched second, same.matchRows, ownIds_eq same]
  callbacks := by
    rw [ownCallbacks_touched first, ownCallbacks_touched second, same.callbacks, ownIds_eq same]
  sighted := by rw [sighted_touched first, sighted_touched second, same.sighted]
  statuses := by
    intro till here there
    rw [transfersAt_touched first, transfersAt_touched second, same.statuses till
      (fun foreign => here (foreign_touched first foreign))
      fun foreign => there (foreign_touched second foreign)]

end Touches

end ApiBank.Crypto.MerchantParts
