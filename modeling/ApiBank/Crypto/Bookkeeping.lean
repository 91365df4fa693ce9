import ApiBank.Crypto.History

/-!
# The tables as the history tells them

Invoices agree with the bills of their till and matches with its payments, after every
request of a sound history. The books know of no expiry, so an expired invoice agrees
with a bill whatever became of the bill; a match in time never meets one.
-/

namespace ApiBank.Crypto.Bookkeeping

open ApiBank.Db ApiBank.Relational ApiBank.Transition
open History Invoices Operations Settlement Watchers

set_option autoImplicit false

def rowsAt (till : Till) (db : CryptoDb) : List CryptoInvoice :=
  db.invoices.rows.filter fun invoice => invoiceTill invoice = till

def Paired (transfer : CryptoChainTransfer) (invoiceId : String) (db : CryptoDb) : Prop :=
  (db.matchRows.find? (invoiceId, transfer.id)).isSome = true

/-- An invoice and its bill. The books of the chain know nothing of an expiry. -/
structure Agrees (invoice : CryptoInvoice) (bill : Bill) : Prop where
  id : bill.id = invoice.id
  createdAt : bill.createdAt = invoice.createdAt
  expiresAt : bill.expiresAt = invoice.expiresAt
  live : invoice.status = .expired ∨
    bill.isOpen = invoice.status.isWaiting ∧ bill.received = invoice.receivedAmount

def Event.mined? : Event → Option (LogKey × Till)
  | .mined log till => some (log, till)
  | _ => none

/-- The tables are as the events say. -/
structure Tells (blocks : Blocks) (events : List Event) (db : CryptoDb) : Prop where
  bills : ∀ till, List.Forall₂ Agrees (rowsAt till db) (settle blocks events till).bills
  pairs : ∀ till log id, (log, id) ∈ (settle blocks events till).pairs ↔
    ∃ transfer ∈ db.transfers.rows, transfer.log = log ∧ transferTill transfer = till ∧
      Paired transfer id db
  mined : events.filterMap Event.mined? =
    db.transfers.rows.map fun transfer => (transfer.log, transferTill transfer)
  ids : ∀ transfer ∈ db.transfers.rows, ∀ other ∈ db.transfers.rows, transfer.id = other.id →
    transfer = other
  stored : ∀ paired ∈ db.matchRows.rows, ∃ transfer ∈ db.transfers.rows,
    transfer.id = paired.transferId

/-- A history so far, as long as it is sound. -/
def Follows (blocks : Blocks) (notes : List Note) (db : CryptoDb) : Prop :=
  Sound blocks notes → Tells blocks (eventsOf notes) db

variable {blocks : Blocks} {events : List Event} {before after : CryptoDb}

/-- Only three tables are told of. -/
theorem tells_of_same (tells : Tells blocks events before)
    (invoices : after.invoices = before.invoices) (transfers : after.transfers = before.transfers)
    (matchRows : after.matchRows = before.matchRows) : Tells blocks events after where
  bills := by
    unfold rowsAt
    rw [invoices]
    exact tells.bills
  pairs := by
    unfold Paired
    rw [transfers, matchRows]
    exact tells.pairs
  mined := by
    rw [transfers]
    exact tells.mined
  ids := by
    rw [transfers]
    exact tells.ids
  stored := by
    rw [transfers, matchRows]
    exact tells.stored

theorem tells_of_request {event : Event} (tells : Tells blocks events before)
    (request : event.isMined = false)
    (bills : ∀ till, List.Forall₂ Agrees (rowsAt till after)
      (settle blocks (events ++ [event]) till).bills)
    (transfers : after.transfers = before.transfers)
    (matchRows : after.matchRows = before.matchRows) :
    Tells blocks (events ++ [event]) after where
  bills := bills
  pairs := by
    intro till log id
    unfold Paired
    rw [pairs_of_request request, transfers, matchRows]
    exact tells.pairs till log id
  mined := by
    have unmined : Event.mined? event = none := by
      cases event with
      | opened id till createdAt expiresAt => rfl
      | canceled id till now => rfl
      | mined log till => cases request
    rw [List.filterMap_append, transfers, tells.mined]
    simp [unmined]
  ids := by
    rw [transfers]
    exact tells.ids
  stored := by
    rw [transfers, matchRows]
    exact tells.stored

theorem bill_of_row {rows : List CryptoInvoice} {bills : List Bill} {invoice : CryptoInvoice}
    (agree : List.Forall₂ Agrees rows bills) (listed : invoice ∈ rows) :
    ∃ bill ∈ bills, Agrees invoice bill := by
  induction agree with
  | nil => cases listed
  | cons same rest ih =>
      rcases List.mem_cons.mp listed with rfl | later
      · exact ⟨_, List.mem_cons_self, same⟩
      · obtain ⟨bill, member, agrees⟩ := ih later
        exact ⟨bill, List.mem_cons_of_mem _ member, agrees⟩

theorem row_of_bill {rows : List CryptoInvoice} {bills : List Bill} {bill : Bill}
    (agree : List.Forall₂ Agrees rows bills) (listed : bill ∈ bills) :
    ∃ invoice ∈ rows, Agrees invoice bill := by
  induction agree with
  | nil => cases listed
  | cons same rest ih =>
      rcases List.mem_cons.mp listed with rfl | later
      · exact ⟨_, List.mem_cons_self, same⟩
      · obtain ⟨invoice, member, agrees⟩ := ih later
        exact ⟨invoice, List.mem_cons_of_mem _ member, agrees⟩

theorem agrees_amend {id : String} {rows : List CryptoInvoice} {bills : List Bill}
    {change : CryptoInvoice → CryptoInvoice} {adjust : Bill → Bill}
    (agree : List.Forall₂ Agrees rows bills)
    (step : ∀ invoice ∈ rows, ∀ bill, invoice.id = id → Agrees invoice bill →
      Agrees (change invoice) (adjust bill)) :
    List.Forall₂ Agrees (rows.map fun invoice => if invoice.id = id then change invoice
      else invoice) (amend id adjust bills) := by
  induction agree with
  | nil => exact .nil
  | @cons invoice bill rest others same listed ih =>
      apply List.Forall₂.cons
      · simp only [same.id]
        split
        · rename_i own
          exact step invoice List.mem_cons_self bill own same
        · exact same
      · exact ih fun other member => step other (List.mem_cons_of_mem _ member)

theorem rowsAt_modify {id : String}
    {change : CryptoInvoice → CryptoInvoice} {keeps : ∀ invoice, (change invoice).id = invoice.id}
    (till : Till) (changed : after.invoices = before.invoices.modify id change keeps)
    (stays : ∀ invoice, invoiceTill (change invoice) = invoiceTill invoice) :
    rowsAt till after =
      (rowsAt till before).map fun invoice => if invoice.id = id then change invoice
        else invoice := by
  unfold rowsAt
  rw [changed, Table.modify, Table.rows_update, List.filter_map]
  congr 1
  apply List.filter_congr
  intro invoice _
  simp only [Function.comp_apply]
  split
  · rw [stays]
  · rfl

theorem apart_of_till {invoice row : CryptoInvoice} {till : Till}
    (member : invoice ∈ before.invoices.rows) (apart : invoiceTill invoice ≠ till)
    (listed : row ∈ rowsAt till before) : row.id ≠ invoice.id := by
  obtain ⟨rowMember, own⟩ := List.mem_filter.mp listed
  simp only [decide_eq_true_eq] at own
  intro same
  obtain rfl := before.invoices.eq_of_key_eq rowMember member same
  exact apart own

theorem bills_of_modify {event : Event} {invoice : CryptoInvoice}
    {change : CryptoInvoice → CryptoInvoice} {keeps : ∀ invoice, (change invoice).id = invoice.id}
    (adjust : Bill → Bill) (tells : Tells blocks events before)
    (member : invoice ∈ before.invoices.rows) (own : event.till = invoiceTill invoice)
    (settled : ((settle blocks events event.till).settle blocks event).bills =
      amend invoice.id adjust (settle blocks events event.till).bills)
    (changed : after.invoices = before.invoices.modify invoice.id change keeps)
    (stays : ∀ invoice, invoiceTill (change invoice) = invoiceTill invoice)
    (step : ∀ bill, Agrees invoice bill → Agrees (change invoice) (adjust bill)) (till : Till) :
    List.Forall₂ Agrees (rowsAt till after) (settle blocks (events ++ [event]) till).bills := by
  rw [rowsAt_modify till changed stays]
  by_cases here : event.till = till
  · subst here
    rw [settle_own, settled]
    apply agrees_amend (tells.bills _)
    intro row listed bill same agrees
    obtain rfl := before.invoices.eq_of_key_eq (List.mem_filter.mp listed).1 member same
    exact step bill agrees
  · rw [settle_apart here]
    have untouched : (rowsAt till before).map (fun row => if row.id = invoice.id then change row
        else row) = rowsAt till before := by
      conv_rhs => rw [← List.map_id (rowsAt till before)]
      apply List.map_congr_left
      intro row listed
      rw [if_neg (apart_of_till member (fun same => here (own.trans same)) listed)]
      rfl
    rw [untouched]
    exact tells.bills till

theorem tells_opened {invoice : CryptoInvoice} (tells : Tells blocks events before)
    (rows : after.invoices.rows = before.invoices.rows ++ [invoice])
    (waiting : invoice.status = .waiting) (unpaid : invoice.receivedAmount = 0)
    (transfers : after.transfers = before.transfers)
    (matchRows : after.matchRows = before.matchRows) :
    Tells blocks (events ++ [.opened invoice.id (invoiceTill invoice) invoice.createdAt
      invoice.expiresAt]) after := by
  have new : Agrees invoice ⟨invoice.id, invoice.createdAt, invoice.expiresAt, 0, true⟩ :=
    ⟨rfl, rfl, rfl, .inr ⟨by rw [waiting]; rfl, unpaid.symm⟩⟩
  apply tells_of_request tells rfl ?_ transfers matchRows
  intro till
  have grown : rowsAt till after =
      rowsAt till before ++ if invoiceTill invoice = till then [invoice] else [] := by
    unfold rowsAt
    rw [rows, List.filter_append]
    by_cases here : invoiceTill invoice = till
    · simp [here]
    · simp [here]
  rw [grown, settle_snoc, Event.till]
  split
  · exact List.rel_append (tells.bills till) (.cons new .nil)
  · rw [List.append_nil]
    exact tells.bills till

theorem tells_canceled {invoice : CryptoInvoice} {now : Int}
    (tells : Tells blocks events before) (member : invoice ∈ before.invoices.rows)
    (ended : Ended (CryptoInvoice.cancel now) (CryptoInvoice.id_cancel now) invoice before after)
    (waiting : invoice.status.isWaiting = true) :
    Tells blocks (events ++ [.canceled invoice.id (invoiceTill invoice) now]) after := by
  have transfers : after.transfers = before.transfers := by rw [ended.frame]; rfl
  have matchRows : after.matchRows = before.matchRows := by rw [ended.frame]; rfl
  apply tells_of_request tells rfl ?_ transfers matchRows
  apply bills_of_modify Bill.withdraw tells member rfl rfl ended.invoices (fun _ => rfl)
  intro bill agrees
  refine ⟨agrees.id, agrees.createdAt, agrees.expiresAt, .inr ⟨rfl, ?_⟩⟩
  rcases agrees.live with expired | ⟨-, received⟩
  · rw [expired] at waiting
    cases waiting
  · exact received

/-- A cancelation that comes too late finds the bill closed, or the invoice expired. -/
theorem tells_refused {invoice : CryptoInvoice} {now : Int}
    (tells : Tells blocks events before) (member : invoice ∈ before.invoices.rows)
    (late : invoice.status.isWaiting = false) :
    Tells blocks (events ++ [.canceled invoice.id (invoiceTill invoice) now]) before := by
  have unchanged : before.invoices = before.invoices.modify invoice.id (fun row => row)
      (fun _ => rfl) := ((Table.modify_eq_self_iff ..).mpr fun _ _ => rfl).symm
  apply tells_of_request tells rfl ?_ rfl rfl
  apply bills_of_modify Bill.withdraw tells member rfl rfl unchanged (fun _ => rfl)
  intro bill agrees
  refine ⟨agrees.id, agrees.createdAt, agrees.expiresAt, ?_⟩
  rcases agrees.live with expired | ⟨-, received⟩
  · exact .inl expired
  · exact .inr ⟨late.symm, received⟩

theorem tells_expired {invoice : CryptoInvoice} (tells : Tells blocks events before)
    (ended : Ended CryptoInvoice.expire CryptoInvoice.id_expire invoice before after) :
    Tells blocks events after := by
  have transfers : after.transfers = before.transfers := by rw [ended.frame]; rfl
  have matchRows : after.matchRows = before.matchRows := by rw [ended.frame]; rfl
  refine ⟨?_, ?_, transfers ▸ tells.mined, transfers ▸ tells.ids, ?_⟩
  · intro till
    rw [rowsAt_modify till ended.invoices fun _ => rfl]
    refine List.forall₂_map_left_iff.mpr ((tells.bills till).imp ?_)
    intro row bill agrees
    split
    · exact ⟨agrees.id, agrees.createdAt, agrees.expiresAt, .inl rfl⟩
    · exact agrees
  · unfold Paired
    rw [transfers, matchRows]
    exact tells.pairs
  · rw [transfers, matchRows]
    exact tells.stored

section Taken

variable {transfer : CryptoChainTransfer} {now : Int}

theorem opened_before {till : Till} {log : LogKey} {invoice : CryptoInvoice}
    (tells : Tells blocks events before)
    (ordered : InChainOrder blocks (events ++ [.mined log till]))
    (listed : invoice ∈ rowsAt till before) : invoice.createdAt ≤ blocks.time log := by
  obtain ⟨earlier, -, last⟩ := List.pairwise_append.mp ordered
  obtain ⟨bill, member, agrees⟩ := bill_of_row (tells.bills till) listed
  have opened := (explained_settle earlier).terms bill member
  have place := last _ opened _ (List.mem_singleton_self _) rfl
  rw [← agrees.createdAt]
  simp only [Event.opens, Event.place, Prod.Lex.toLex_le_toLex] at place
  omega

theorem filter_fits (db : CryptoDb) :
    db.invoices.rows.filter (fits transfer now) =
      (rowsAt (transferTill transfer) db).filter fun invoice =>
        invoice.status.isWaiting && decide (invoice.createdAt ≤ transferTime transfer now ∧
          transferTime transfer now ≤ invoice.expiresAt) := by
  rw [rowsAt, List.filter_filter]
  apply List.filter_congr
  intro invoice _
  rw [Bool.eq_iff_iff, fits_iff]
  simp only [Bool.and_eq_true, decide_eq_true_eq]
  tauto

theorem due_rows (tells : Tells blocks events before)
    (inTime : (Note.taken transfer now before).InTime blocks)
    (ordered : InChainOrder blocks (events ++ [.mined transfer.log (transferTill transfer)])) :
    List.Forall₂ (fun invoice bill => (invoice.createdAt ≤ blocks.time transfer.log ∧
        (invoice.status.isWaiting = true ∨ invoice.status = .expired →
          blocks.time transfer.log ≤ invoice.expiresAt →
            invoice.status.isWaiting = true ∧ transferTime transfer now ≤ invoice.expiresAt)) ∧
          Agrees invoice bill)
      (rowsAt (transferTill transfer) before)
      (settle blocks events (transferTill transfer)).bills := by
  apply (List.forall₂_and_left ..).mpr
  refine ⟨?_, tells.bills _⟩
  intro invoice listed
  obtain ⟨member, own⟩ := List.mem_filter.mp listed
  exact ⟨opened_before tells ordered listed, inTime.2 invoice member (by simpa using own)⟩

theorem choice_agrees (tells : Tells blocks events before)
    (inTime : (Note.taken transfer now before).InTime blocks)
    (ordered : InChainOrder blocks (events ++ [.mined transfer.log (transferTill transfer)])) :
    Option.Rel Agrees (fittingInvoice transfer now before)
      (payee (blocks.time transfer.log) (settle blocks events (transferTill transfer)).bills) := by
  unfold fittingInvoice payee
  rw [filter_fits]
  apply firstBy_rel
  · refine (List.rel_filter ?_ (due_rows tells inTime ordered)).imp fun _ _ same => same.2
    rintro invoice bill ⟨⟨created, due⟩, agrees⟩
    simp only [Bool.and_eq_true, decide_eq_true_eq, Bill.covers, agrees.createdAt,
      agrees.expiresAt]
    constructor
    · rintro ⟨waiting, -, deadline⟩
      rcases agrees.live with expired | ⟨isOpen, -⟩
      · rw [expired] at waiting
        cases waiting
      · exact ⟨isOpen.trans waiting, created, inTime.1.trans deadline⟩
    · rintro ⟨isOpen, -, deadline⟩
      have live : invoice.status.isWaiting = true ∨ invoice.status = .expired := by
        rcases agrees.live with expired | ⟨same, -⟩
        · exact .inr expired
        · exact .inl (same.symm.trans isOpen)
      obtain ⟨waiting, inWindow⟩ := due live deadline
      exact ⟨waiting, created.trans inTime.1, inWindow⟩
  · intro invoice other bill otherBill same otherSame
    rw [same.createdAt, otherSame.createdAt]

/-- The invoice that a fresh transfer has paid, if any. -/
structure Settles (transfer : CryptoChainTransfer) (payee : Option String)
    (before after : CryptoDb) : Prop where
  transfers : ∃ row, row.log = transfer.log ∧ row.id = transfer.id ∧
    transferTill row = transferTill transfer ∧
      after.transfers.rows = before.transfers.rows ++ [row]
  fresh : ∀ other ∈ before.transfers.rows, transfer.id ≠ other.id
  paired : ∀ (other : CryptoChainTransfer) id, Paired other id after ↔
    Paired other id before ∨ (other.id = transfer.id ∧ payee = some id)
  matchRows : ∀ row ∈ after.matchRows.rows,
    row ∈ before.matchRows.rows ∨ row.transferId = transfer.id

theorem unpaired_of_fresh (tells : Tells blocks events before)
    (fresh : ∀ other ∈ before.transfers.rows, transfer.id ≠ other.id) (id : String) :
    ¬Paired transfer id before := by
  intro paired
  obtain ⟨row, found⟩ := Option.isSome_iff_exists.mp paired
  obtain ⟨member, ends⟩ := (Table.find?_eq_some_iff ..).mp found
  obtain ⟨other, otherMember, same⟩ := tells.stored row member
  have named : row.transferId = transfer.id := congrArg Prod.snd ends
  exact fresh other otherMember (named.symm.trans same.symm)

theorem tells_of_settled {payee : Option String} (tells : Tells blocks events before)
    (settles : Settles transfer payee before after)
    (bills : ∀ till, List.Forall₂ Agrees (rowsAt till after)
      (settle blocks (events ++ [.mined transfer.log (transferTill transfer)]) till).bills)
    (pairs : ∀ till log id,
      (log, id) ∈ (settle blocks (events ++ [.mined transfer.log (transferTill transfer)])
          till).pairs ↔
        (log, id) ∈ (settle blocks events till).pairs ∨
          (transfer.log = log ∧ transferTill transfer = till ∧ payee = some id)) :
    Tells blocks (events ++ [.mined transfer.log (transferTill transfer)]) after := by
  obtain ⟨row, log, id, till, rows⟩ := settles.transfers
  have unpaired := unpaired_of_fresh tells settles.fresh
  refine ⟨bills, ?_, ?_, ?_, ?_⟩
  · intro home key invoiceId
    rw [pairs, tells.pairs, rows]
    constructor
    · rintro (⟨other, member, keyed, own, paired⟩ | ⟨rfl, rfl, paid⟩)
      · exact ⟨other, List.mem_append_left _ member, keyed, own,
          (settles.paired ..).mpr (.inl paired)⟩
      · exact ⟨row, List.mem_append_right _ (List.mem_singleton_self _), log, till,
          (settles.paired ..).mpr (.inr ⟨id, paid⟩)⟩
    · rintro ⟨other, member, keyed, own, paired⟩
      rcases List.mem_append.mp member with old | new
      · rcases (settles.paired ..).mp paired with paired | ⟨same, -⟩
        · exact .inl ⟨other, old, keyed, own, paired⟩
        · exact absurd same.symm (settles.fresh other old)
      · obtain rfl := List.mem_singleton.mp new
        rcases (settles.paired ..).mp paired with paired | ⟨-, paid⟩
        · unfold Paired at paired
          rw [id] at paired
          exact absurd paired (unpaired invoiceId)
        · exact .inr ⟨log.symm.trans keyed, till.symm.trans own, paid⟩
  · rw [List.filterMap_append, tells.mined, rows]
    simp [Event.mined?, log, till]
  · rw [rows]
    intro first member second secondMember same
    rcases List.mem_append.mp member with old | new
    · rcases List.mem_append.mp secondMember with secondOld | secondNew
      · exact tells.ids first old second secondOld same
      · obtain rfl := List.mem_singleton.mp secondNew
        exact absurd (id.symm.trans same.symm) (settles.fresh first old)
    · obtain rfl := List.mem_singleton.mp new
      rcases List.mem_append.mp secondMember with secondOld | secondNew
      · exact absurd (id.symm.trans same) (settles.fresh second secondOld)
      · exact (List.mem_singleton.mp secondNew).symm
  · intro paired member
    rw [rows]
    rcases settles.matchRows paired member with old | new
    · obtain ⟨other, otherMember, same⟩ := tells.stored paired old
      exact ⟨other, List.mem_append_left _ otherMember, same⟩
    · exact ⟨row, List.mem_append_right _ (List.mem_singleton_self _), id.trans new.symm⟩

/-- A record without a match. -/
theorem settles_recorded {recorded : CryptoDb}
    (inserted : insertTransfer? transfer before = some recorded) :
    Settles transfer none before recorded := by
  obtain ⟨unused, grown, frame⟩ := transfers_of_recorded inserted
  have matchRows : recorded.matchRows = before.matchRows := by rw [frame]
  refine ⟨⟨transfer, rfl, rfl, rfl, Table.rows_of_insert? grown⟩, ?_, ?_, ?_⟩
  · intro other member
    simpa [sameId] using unused other member
  · intro other id
    unfold Paired
    rw [matchRows]
    simp
  · intro row member
    rw [matchRows] at member
    exact .inl member

theorem settles_paid {recorded : CryptoDb} {draws : MatchDraws} {invoice : CryptoInvoice}
    (inserted : insertTransfer? transfer before = some recorded)
    (payment : Paid transfer draws recorded invoice after) :
    Settles transfer (some invoice.id) before after := by
  obtain ⟨unused, grown, frame⟩ := transfers_of_recorded inserted
  have matchRows : recorded.matchRows = before.matchRows := by rw [frame]
  have marked := Table.insert?_change grown CryptoChainTransfer.log_markMatched
  have rows : after.transfers.rows = before.transfers.rows ++ [transfer.markMatched] := by
    rw [payment.transfers]
    exact Table.rows_of_insert? marked
  have added := payment.inserted
  rw [matchRows] at added
  refine ⟨⟨transfer.markMatched, rfl, rfl, rfl, rows⟩, ?_, ?_, ?_⟩
  · intro other member
    simpa [sameId] using unused other member
  · intro other id
    unfold Paired
    rw [Table.find?_insert? added]
    simp only [CryptoInvoiceMatch.ends, newMatch, Prod.mk.injEq]
    by_cases same : invoice.id = id ∧ transfer.id = other.id
    · simp [same]
    · rw [if_neg same]
      have apart : ¬(other.id = transfer.id ∧ some invoice.id = some id) := by
        rintro ⟨named, paid⟩
        exact same ⟨Option.some.inj paid, named.symm⟩
      exact (or_iff_left apart).symm
  · intro row member
    rw [Table.rows_of_insert? added] at member
    rcases List.mem_append.mp member with old | new
    · exact .inl old
    · obtain rfl := List.mem_singleton.mp new
      exact .inr rfl

theorem tells_unclaimed {recorded : CryptoDb} (tells : Tells blocks events before)
    (inserted : insertTransfer? transfer before = some recorded)
    (unclaimed : payee (blocks.time transfer.log)
      (settle blocks events (transferTill transfer)).bills = none) :
    Tells blocks (events ++ [.mined transfer.log (transferTill transfer)]) recorded := by
  have invoices : recorded.invoices = before.invoices := by
    rw [(transfers_of_recorded inserted).2.2]
  have settled : ∀ till, settle blocks (events ++ [.mined transfer.log (transferTill transfer)])
      till = settle blocks events till := by
    intro till
    rw [settle_snoc]
    split
    · rename_i own
      obtain rfl : transferTill transfer = till := own
      exact Desk.settle_unclaimed unclaimed
    · rfl
  apply tells_of_settled tells (settles_recorded inserted)
  · intro till
    rw [settled, rowsAt, invoices]
    exact tells.bills till
  · intro till log id
    rw [settled]
    simp

theorem agrees_receive {invoice : CryptoInvoice} {bill : Bill}
    (own : invoiceTill invoice = transferTill transfer) (waiting : invoice.status.isWaiting = true)
    (agrees : Agrees invoice bill) :
    Agrees (invoice.receive transfer now) (bill.receive (transferTill transfer).amount) := by
  refine ⟨agrees.id, agrees.createdAt, agrees.expiresAt, .inr ?_⟩
  rcases agrees.live with expired | ⟨-, received⟩
  · rw [expired] at waiting
    cases waiting
  · have amount : invoice.payAmount = transfer.amountDecimal := congrArg Till.amount own
    simp only [Bill.receive, CryptoInvoice.receive, transferTill, received, amount, and_true]
    split
    · rename_i paid
      simp [InvoiceStatus.isWaiting, of_decide_eq_true paid]
    · rename_i unpaid
      simp [InvoiceStatus.isWaiting, of_decide_eq_false (Bool.eq_false_iff.mpr unpaid)]

theorem tells_claimed {draws : MatchDraws} {recorded : CryptoDb} {invoice : CryptoInvoice}
    {bill : Bill} (tells : Tells blocks events before)
    (inserted : insertTransfer? transfer before = some recorded)
    (payment : Paid transfer draws recorded invoice after)
    (claimed : payee (blocks.time transfer.log)
      (settle blocks events (transferTill transfer)).bills = some bill)
    (agrees : Agrees invoice bill) :
    Tells blocks (events ++ [.mined transfer.log (transferTill transfer)]) after := by
  have invoices : recorded.invoices = before.invoices := by
    rw [(transfers_of_recorded inserted).2.2]
  have changed := payment.invoices
  rw [invoices] at changed
  obtain ⟨member, fit⟩ := mem_of_fitting payment.fitting
  rw [invoices] at member
  obtain ⟨own, waiting, -, -⟩ := (fits_iff ..).mp fit
  have settled : (settle blocks events (transferTill transfer)).settle blocks
      (.mined transfer.log (transferTill transfer)) = _ := Desk.settle_claimed claimed
  apply tells_of_settled tells (settles_paid inserted payment)
  · refine bills_of_modify (Bill.receive (transferTill transfer).amount) tells member own.symm ?_
      changed (fun _ => rfl) ?_
    · rw [← agrees.id]
      exact congrArg Desk.bills settled
    · intro bill same
      exact agrees_receive own waiting same
  · intro till log id
    rw [settle_snoc, Event.till]
    by_cases here : transferTill transfer = till
    · subst here
      rw [if_pos rfl, settled, List.mem_append, List.mem_singleton,
        Prod.mk.injEq, agrees.id]
      constructor
      · rintro (old | ⟨rfl, rfl⟩)
        · exact .inl old
        · exact .inr ⟨rfl, rfl, rfl⟩
      · rintro (old | ⟨rfl, -, paid⟩)
        · exact .inl old
        · exact .inr ⟨rfl, (Option.some.inj paid).symm⟩
    · rw [if_neg here]
      simp [here]

theorem tells_taken {draws : MatchDraws} {recorded : CryptoDb} {result : Option CryptoInvoice}
    (tells : Tells blocks events before)
    (inserted : insertTransfer? transfer before = some recorded)
    (returned : matchTransfer transfer draws recorded = .ok result after)
    (inTime : (Note.taken transfer draws.now recorded).InTime blocks)
    (ordered : InChainOrder blocks (events ++ [.mined transfer.log (transferTill transfer)])) :
    Tells blocks (events ++ [.mined transfer.log (transferTill transfer)]) after := by
  have frame := (transfers_of_recorded inserted).2.2
  have invoices : recorded.invoices = before.invoices := by rw [frame]
  have matchRows : recorded.matchRows = before.matchRows := by rw [frame]
  have fitting : fittingInvoice transfer draws.now recorded =
      fittingInvoice transfer draws.now before := by rw [fittingInvoice, invoices, fittingInvoice]
  have timely : (Note.taken transfer draws.now before).InTime blocks :=
    ⟨inTime.1, fun invoice member => inTime.2 invoice (invoices ▸ member)⟩
  have choice := choice_agrees tells timely ordered
  generalize claimed : payee (blocks.time transfer.log)
    (settle blocks events (transferTill transfer)).bills = bill? at choice
  generalize chosen : fittingInvoice transfer draws.now before = invoice? at choice
  rcases matchTransfer_cases returned with ⟨rfl, unpaid⟩ | ⟨invoice, payment⟩
  · cases choice with
    | none => exact tells_unclaimed tells inserted claimed
    | @some invoice bill agrees =>
        -- a fresh transfer is paired with nothing, so the match had something to pay
        have paired := unpaid invoice (fitting.trans chosen)
        rw [matchRows] at paired
        exact absurd paired (unpaired_of_fresh tells (settles_recorded inserted).fresh invoice.id)
  · have found := payment.fitting
    rw [fitting, chosen] at found
    subst found
    cases choice with
    | some agrees => exact tells_claimed tells inserted payment claimed agrees

/-- What finds no further invoice changes nothing. -/
theorem idle_of_again {draws : MatchDraws} {result : Option CryptoInvoice}
    (inTime : (Note.again transfer draws.now before).InTime blocks)
    (returned : matchTransfer transfer draws before = .ok result after) : after = before := by
  rcases matchTransfer_cases returned with ⟨same, -⟩ | ⟨invoice, payment⟩
  · exact same
  · have paired := inTime invoice (by rw [payment.fitting]; exact List.mem_singleton_self _)
    rw [payment.unpaired] at paired
    cases paired

end Taken

section Follows

variable {runtime : Runtime} {notes : List Note}

theorem follows_snoc {note : Note} {event : Event} (told : note.event = some event)
    (follows : Follows blocks notes before)
    (step : Tells blocks (eventsOf notes) before → note.InTime blocks →
      InChainOrder blocks (eventsOf notes ++ [event]) →
        Tells blocks (eventsOf notes ++ [event]) after) :
    Follows blocks (notes ++ [note]) after := by
  intro sound
  have events : eventsOf (notes ++ [note]) = eventsOf notes ++ [event] := by
    rw [eventsOf_append]
    simp [eventsOf, told]
  have ordered := sound.ordered
  rw [events] at ordered ⊢
  exact step (follows sound.front)
    (sound.inTime note (List.mem_append_right _ (List.mem_singleton_self note))) ordered

theorem follows_scan {base : CryptoDb} {attached expired : Bool} {sightings : List Sighting}
    {made : List Note} {count : Nat} (fallback : Follows blocks notes base)
    (follows : Follows blocks (notes ++ made) before)
    (returned : scanTransfers base attached expired sightings before = .ok count after) :
    Follows blocks (notes ++ scanNotes base attached expired sightings made before) after := by
  induction sightings generalizing expired made before count with
  | nil =>
      cases expired <;> cases returned <;> exact follows
  | cons sighting rest ih =>
      obtain ⟨transfer, draws⟩ := sighting
      cases expired with
      | true => cases returned
      | false =>
          simp only [scanTransfers] at returned
          simp only [scanNotes]
          cases inserted : insertTransfer? transfer before with
          | none =>
              simp only [inserted] at returned
              exact ih (by simpa using fallback) returned
          | some recorded =>
              simp only [inserted] at returned
              obtain ⟨result, next, paired, counted⟩ := (Effect.bind_ok_iff ..).mp returned
              obtain ⟨others, final, scanned, done⟩ := (Effect.bind_ok_iff ..).mp counted
              cases done
              simp only [paired]
              apply ih ?_ scanned
              rw [← List.append_assoc]
              apply follows_snoc rfl follows
              intro tells inTime ordered
              exact tells_taken tells inserted paired inTime ordered

theorem eventsOf_matchNotes (draws : String → MatchDraws) (transfers : List CryptoChainTransfer)
    (db : CryptoDb) : eventsOf (matchNotes draws transfers db) = [] := by
  induction transfers generalizing db with
  | nil => rfl
  | cons transfer rest ih =>
      unfold matchNotes
      split
      · rename_i next _
        exact ih next
      · rfl

theorem idle_of_matchNotes {draws : String → MatchDraws} {transfers : List CryptoChainTransfer}
    {count : Nat} (inTime : ∀ note ∈ matchNotes draws transfers before, note.InTime blocks)
    (returned : matchAll draws transfers before = .ok count after) : after = before := by
  induction transfers generalizing count with
  | nil =>
      cases returned
      rfl
  | cons transfer rest ih =>
      unfold matchAll at returned
      obtain ⟨result, next, paired, counted⟩ := (Effect.bind_ok_iff ..).mp returned
      obtain ⟨later, final, scanned, done⟩ := (Effect.bind_ok_iff ..).mp counted
      cases done
      simp only [matchNotes, paired] at inTime
      obtain rfl := idle_of_again (inTime _ List.mem_cons_self) paired
      exact ih (fun note listed => inTime note (List.mem_cons_of_mem _ listed)) scanned

theorem follows_matchAll {draws : String → MatchDraws} {transfers : List CryptoChainTransfer}
    {count : Nat} (follows : Follows blocks notes before)
    (returned : matchAll draws transfers before = .ok count after) :
    Follows blocks (notes ++ matchNotes draws transfers before) after := by
  intro sound
  have unchanged := idle_of_matchNotes
    (fun note listed => sound.inTime note (List.mem_append_right _ listed)) returned
  rw [eventsOf_append, eventsOf_matchNotes, List.append_nil, unchanged]
  exact follows sound.front

theorem follows_of_same (follows : Follows blocks notes before)
    (invoices : after.invoices = before.invoices) (transfers : after.transfers = before.transfers)
    (matchRows : after.matchRows = before.matchRows) : Follows blocks notes after :=
  fun sound => tells_of_same (follows sound) invoices transfers matchRows

theorem follows_created {payload : CryptoInvoiceCreate} {merchantId : String}
    {userId : Option String} {draws : InvoiceDraws} {invoice : CryptoInvoice}
    (follows : Follows blocks notes before)
    (creation : Creation runtime payload merchantId userId draws before invoice after) :
    Follows blocks
      (notes ++ (after.invoices.rows.drop before.invoices.rows.length).map .opened) after := by
  cases creation with
  | replayed invoice found same => simpa using follows
  | opened network token wallet pay middle opened unused pair choice priced inserted =>
      obtain ⟨grown, frame⟩ := insertInvoice_ok inserted
      have invoices : middle.invoices = before.invoices := by rw [frame_of_choice choice]
      have transfers : (occupyWallet wallet.id opened).transfers = before.transfers := by
        rw [occupyWallet, frame, frame_of_choice choice]
      have matchRows : (occupyWallet wallet.id opened).matchRows = before.matchRows := by
        rw [occupyWallet, frame, frame_of_choice choice]
      have rows := Table.rows_of_insert? grown
      rw [invoices] at rows
      have added : (occupyWallet wallet.id opened).invoices.rows.drop
          before.invoices.rows.length =
            [newInvoice payload merchantId userId network token wallet pay draws] := by
        rw [occupyWallet, rows, List.drop_left]
      rw [added]
      apply follows_snoc rfl follows
      intro tells _ _
      exact tells_opened tells rows rfl rfl transfers matchRows

theorem follows_expired {now : Int} {limit : Nat} {callbackIds : String → String} {count : Nat}
    (follows : Follows blocks notes before)
    (returned : expireDueInvoices now limit callbackIds before = .ok count after) :
    Follows blocks notes after := by
  apply expireDueInvoices_keeps follows ?_ returned
  intro invoice db next kept ended sound
  exact tells_expired (kept sound) ended

theorem rpc_of_evm {scope : Scope} {startBlock now : Int} {chain : Chain} {count : Nat}
    (returned : runEvmOnce runtime scope startBlock chain now before = .ok count after) :
    ∃ rpc, activeRpc scope.network.id before = some rpc := by
  unfold runEvmOnce at returned
  obtain ⟨base, start, read, asked⟩ := (Effect.bind_ok_iff ..).mp returned
  cases read
  obtain ⟨rpc, start, selected, -⟩ := (Effect.bind_ok_iff ..).mp asked
  exact ⟨rpc, ((select_ok_iff ..).mp selected).1⟩

theorem follows_evm {scope : Scope} {startBlock now : Int} {chain : Chain} {count : Nat}
    (follows : Follows blocks notes before)
    (returned : runEvmOnce runtime scope startBlock chain now before = .ok count after) :
    Follows blocks (notes ++ notesOf runtime (.runEvmOnce scope startBlock chain now) before)
      after := by
  obtain ⟨rpc, active⟩ := rpc_of_evm returned
  have pointedSame : ∀ {cursor opened}, getOrCreateCursor scope.network.id scope.token.id startBlock
      now before = .ok cursor opened → Follows blocks notes opened := by
    intro cursor opened pointed
    rcases getOrCreateCursor_ok pointed with rfl | ⟨-, cursors, -, rfl⟩
    · exact follows
    · exact follows_of_same follows rfl rfl rfl
  cases runEvmOnce_ok returned with
  | idle latest cursor opened answered pointed scanned =>
      have nothing : notesOf runtime (.runEvmOnce scope startBlock chain now) before = [] := by
        simp [notesOf, feed, active, answered, pointed, scanned]
      rw [nothing, List.append_nil]
      exact pointedSame pointed
  | scanned rpc latest cursor opened logs count final answered pointed behind fetched ran =>
      have noted : notesOf runtime (.runEvmOnce scope startBlock chain now) before =
          scanNotes before scope.attached false (evmSightings runtime scope.network scope.token
            (toBlock scope.network (finalizedBlock scope.network latest) cursor) logs) []
            opened := by
        simp [notesOf, feed, Feed.notes, active, answered, pointed, Int.not_le.mpr behind, fetched]
      rw [noted]
      have opening : Follows blocks (notes ++ []) opened := by simpa using pointedSame pointed
      exact follows_of_same (follows_scan follows opening ran) rfl rfl rfl

theorem follows_perform {op : Op} (follows : Follows blocks notes before)
    (returned : perform runtime op before = .ok () after) (served : serve runtime before op = after) :
    Follows blocks (notes ++ notesOf runtime op before) after := by
  cases op with
  | createInvoice payload merchantId userId draws =>
      obtain ⟨invoice, ran⟩ := Effect.discard_ok returned
      simp only [notesOf, served]
      exact follows_created follows (createInvoice_ok ran)
  | cancelInvoice transId merchantId draws =>
      obtain ⟨canceled, ran⟩ := Effect.discard_ok returned
      obtain ⟨invoice, found, waiting, ended⟩ := cancelInvoice_ok ran
      simp only [notesOf, found, Option.toList_some, List.map_cons, List.map_nil]
      apply follows_snoc rfl follows
      intro tells _ _
      exact tells_canceled tells (List.mem_of_find?_eq_some found) ended waiting
  | expireDueInvoices now limit callbackIds =>
      obtain ⟨count, ran⟩ := Effect.discard_ok returned
      simp only [notesOf, feed, Option.elim_none, List.append_nil]
      exact follows_expired follows ran
  | adminCreateWallet payload fresh =>
      obtain ⟨wallet, ran⟩ := Effect.discard_ok returned
      obtain ⟨network, inserted⟩ := adminCreateWallet_ok ran
      obtain ⟨wallets, -, rfl⟩ := Option.map_eq_some_iff.mp inserted
      simp only [notesOf, feed, Option.elim_none, List.append_nil]
      exact follows_of_same follows rfl rfl rfl
  | scanTokenLogs scope toBlock logs =>
      obtain ⟨count, ran⟩ := Effect.discard_ok returned
      have opening : Follows blocks (notes ++ []) before := by simpa using follows
      exact follows_scan follows opening ran
  | runEvmOnce scope startBlock chain now =>
      obtain ⟨count, ran⟩ := Effect.discard_ok returned
      exact follows_evm follows ran
  | ingestTronEvents scope events =>
      obtain ⟨count, ran⟩ := Effect.discard_ok returned
      have opening : Follows blocks (notes ++ []) before := by simpa using follows
      exact follows_scan follows opening ran
  | reconcileInvoice invoiceId draws =>
      obtain ⟨invoice, start, selected, rest⟩ := (Effect.bind_ok_iff ..).mp returned
      obtain ⟨found, rfl⟩ := (select_ok_iff ..).mp selected
      obtain ⟨count, ran⟩ := Effect.discard_ok rest
      simp only [notesOf, found]
      exact follows_matchAll follows ran
  | reconcileTxHash txHash draws =>
      obtain ⟨count, ran⟩ := Effect.discard_ok returned
      exact follows_matchAll follows ran

/-- A refused cancelation leaves the tables, and closes a bill that is out of reach. -/
theorem follows_refused {op : Op} (follows : Follows blocks notes before)
    (late : refused op before = true) :
    Follows blocks (notes ++ notesOf runtime op before) before := by
  cases op with
  | cancelInvoice transId merchantId draws =>
      obtain ⟨invoice, found, late⟩ := (Option.any_eq_true ..).mp late
      simp only [notesOf, found, Option.toList_some, List.map_cons, List.map_nil]
      apply follows_snoc rfl follows
      intro tells _ _
      exact tells_refused tells (List.mem_of_find?_eq_some found) (by simpa using late)
  | _ => cases late

theorem follows_serve {op : Op} (follows : Follows blocks notes before) :
    Follows blocks (notes ++ told runtime op before) (serve runtime before op) := by
  unfold told
  cases ran : perform runtime op before with
  | ok value after =>
      have served : serve runtime before op = after := Effect.commit_of_ok ran
      have returns : Effect.returns (perform runtime op) before = true := by
        simp [Effect.returns, ran]
      rw [if_pos (by simp [returns]), served]
      exact follows_perform follows ran served
  | error failure after =>
      have served : serve runtime before op = before := Effect.commit_of_error ran
      have raises : Effect.returns (perform runtime op) before = false := by
        simp [Effect.returns, ran]
      rw [served]
      by_cases late : refused op before = true
      · rw [if_pos (by simp [late])]
        exact follows_refused follows late
      · rw [if_neg (by simp [raises, late]), List.append_nil]
        exact follows

theorem follows_run (ops : List Op) (follows : Follows blocks notes before) :
    Follows blocks (notes ++ account runtime before ops) (ops.foldl (serve runtime) before) := by
  induction ops generalizing notes before with
  | nil => simpa [account] using follows
  | cons op rest ih =>
      rw [account, ← List.append_assoc]
      exact ih (follows_serve follows)

end Follows

end ApiBank.Crypto.Bookkeeping
