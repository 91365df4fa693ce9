import ApiBank.Crypto.InvoiceTurns
import ApiBank.Transition.Interleaving
import ApiBank.Webhook.Dispatcher

/-!
# Invoice writers in concurrent sessions

Cancellation, expiry, the match of a transfer and the override of an admin read an
invoice, decide on the loaded object and send an `UPDATE` by primary key. Other
sessions run between the read, each `UPDATE` and the commit, and one transaction may
hold several such jobs, as a scan does.

Of the stack, for Postgres under READ COMMITTED: a `SELECT` sees the committed rows and
the session's own changes, an `UPDATE` names the columns that were assigned another
value, waits while another transaction has the row updated and writes its columns to
whatever the row holds. Every job reads its invoices afresh. Wallets, credits and
transfers are left to the models of one session.
-/

namespace ApiBank.Crypto.InvoiceSessions

open ApiBank.Db ApiBank.Relational ApiBank.Transition
open Invoices InvoiceTurns
open Webhook.Dispatcher (column)

set_option autoImplicit false

/-- The committed rows, and who has an invoice row updated without having committed. -/
structure Shared where
  committed : CryptoDb
  rowOwner : String → Option SessionId

/-- `UPDATE crypto_invoices SET ... WHERE id = ...`, with the rows that are inserted
beside it: a match, and the callback of an event. -/
structure InvoiceUpdate where
  loaded : CryptoInvoice
  assigned : CryptoInvoice
  keeps : assigned.id = loaded.id
  paired : Option CryptoInvoiceMatch
  event : Option (String × EventDraws)

def InvoiceUpdate.apply (update : InvoiceUpdate) (row : CryptoInvoice) : CryptoInvoice :=
  let loaded := update.loaded
  let assigned := update.assigned
  { row with
    receivedAmount := column loaded.receivedAmount assigned.receivedAmount row.receivedAmount
    status := column loaded.status assigned.status row.status
    paidAt := column loaded.paidAt assigned.paidAt row.paidAt
    canceledAt := column loaded.canceledAt assigned.canceledAt row.canceledAt
    fromAddress := column loaded.fromAddress assigned.fromAddress row.fromAddress
    transactionId := column loaded.transactionId assigned.transactionId row.transactionId
    confirmations := column loaded.confirmations assigned.confirmations row.confirmations }

@[simp] theorem InvoiceUpdate.id_apply (update : InvoiceUpdate) (row : CryptoInvoice) :
    (update.apply row).id = row.id := rfl

def InvoiceUpdate.callback (update : InvoiceUpdate) : Option CryptoCallback :=
  match given update.assigned.callbackUrl, update.event with
  | some _, some (eventType, draws) => some (newCallback update.assigned eventType draws)
  | _, _ => none

theorem InvoiceUpdate.invoiceId_callback {update : InvoiceUpdate} {callback : CryptoCallback}
    (queued : update.callback = some callback) : callback.invoiceId = update.loaded.id := by
  unfold InvoiceUpdate.callback at queued
  split at queued
  · cases queued
    exact update.keeps
  · cases queued

inductive Job where
  | cancelInvoice (transId : String) (merchantId : Option String) (draws : EventDraws)
  | expireDueInvoices (now : Int) (limit : Nat) (callbackIds : String → String)
  | matchTransfer (transfer : CryptoChainTransfer) (draws : MatchDraws)
  | adminForceCompleteInvoice (invoiceId : String)

def cancellation (draws : EventDraws) (invoice : CryptoInvoice) : InvoiceUpdate :=
  ⟨invoice, invoice.cancel draws.now, rfl, none, some ("crypto.invoice.canceled", draws)⟩

def expiration (draws : EventDraws) (invoice : CryptoInvoice) : InvoiceUpdate :=
  ⟨invoice, invoice.expire, rfl, none, some ("crypto.invoice.expired", draws)⟩

def receipt (transfer : CryptoChainTransfer) (draws : MatchDraws) (invoice : CryptoInvoice) :
    InvoiceUpdate :=
  let paid := invoice.receive transfer draws.now
  let eventType :=
    if paid.status = .completed then "crypto.invoice.completed" else "crypto.invoice.partial"
  ⟨invoice, paid, rfl, some (newMatch invoice transfer), some (eventType, draws.event)⟩

def override (invoice : CryptoInvoice) : InvoiceUpdate :=
  ⟨invoice, forceComplete invoice, rfl, none, none⟩

def decided (view : CryptoDb) : Job → List InvoiceUpdate
  | .cancelInvoice transId merchantId draws =>
      match invoiceOf transId merchantId view with
      | none => []
      | some invoice => if invoice.status.isWaiting then [cancellation draws invoice] else []
  | .expireDueInvoices now limit callbackIds =>
      (dueInvoices now limit view).map fun invoice =>
        expiration ⟨callbackIds invoice.id, now⟩ invoice
  | .matchTransfer transfer draws =>
      match fittingInvoice transfer draws.now view with
      | none => []
      | some invoice =>
          match view.matchRows.find? (invoice.id, transfer.id) with
          | some _ => []
          | none => [receipt transfer draws invoice]
  | .adminForceCompleteInvoice invoiceId =>
      match view.invoices.find? invoiceId with
      | none => []
      | some invoice => if invoice.status = .completed then [] else [override invoice]

/-- The decided `UPDATE`s of a session that have yet to be sent, and the sent ones. -/
structure Local where
  waiting : List InvoiceUpdate
  sent : List InvoiceUpdate

inductive Action where
  | begin (job : Job)
  | flush
  | commit
  | rollback

/-- The row after the `UPDATE`s that name it. -/
def written : List InvoiceUpdate → CryptoInvoice → CryptoInvoice
  | [], row => row
  | update :: rest, row =>
      written rest (if update.loaded.id = row.id then update.apply row else row)

theorem id_written (updates : List InvoiceUpdate) (row : CryptoInvoice) :
    (written updates row).id = row.id := by
  induction updates generalizing row with
  | nil => rfl
  | cons update rest ih =>
      rw [written, ih]
      split <;> rfl

/-- The rows after the session's changes; a unique index may refuse one of them. -/
def published (sent : List InvoiceUpdate) (db : CryptoDb) : Option CryptoDb :=
  match db.matchRows.insertAll? (sent.filterMap InvoiceUpdate.paired),
    db.callbacks.insertAll? (sent.filterMap InvoiceUpdate.callback) with
  | some matchRows, some callbacks => some { db with
      matchRows
      callbacks
      invoices := db.invoices.update (written sent) (id_written sent) }
  | _, _ => none

/-- The read and the assignments of a job. -/
def begin (shared : Shared) (state : Local) (job : Job) : Option (Unit × Shared × Local) :=
  match state.waiting with
  | [] =>
      let view := (published state.sent shared.committed).getD shared.committed
      some ((), shared, { state with waiting := decided view job })
  | _ :: _ => none

/-- The next `UPDATE`. The session waits while another one has the row. -/
def flush (session : SessionId) (shared : Shared) (state : Local) :
    Option (Unit × Shared × Local) :=
  match state.waiting with
  | [] => none
  | next :: waiting =>
      if shared.rowOwner next.loaded.id = none ∨
          shared.rowOwner next.loaded.id = some session then
        some ((), { shared with
            rowOwner := Function.update shared.rowOwner next.loaded.id (some session) },
          ⟨waiting, state.sent ++ [next]⟩)
      else none

/-- The end of the transaction. A refused one rolls everything back. -/
def commit (session : SessionId) (shared : Shared) (state : Local) :
    Option (Unit × Shared × Local) :=
  match state.waiting with
  | [] =>
      some ((), { committed := (published state.sent shared.committed).getD shared.committed
                  rowOwner := release shared.rowOwner session }, ⟨[], []⟩)
  | _ :: _ => none

def advance (session : SessionId) (shared : Shared) (state : Local) :
    Action → Option (Unit × Shared × Local)
  | .begin job => begin shared state job
  | .flush => flush session shared state
  | .commit => commit session shared state
  | .rollback =>
      some ((), { shared with rowOwner := release shared.rowOwner session }, ⟨[], []⟩)

abbrev System := Interleaved Shared Local

abbrev Event := SessionEvent Action Unit

def opened (db : CryptoDb) : System where
  shared := { committed := db, rowOwner := fun _ => none }
  sessions := fun _ => ⟨[], []⟩

section Solo

/-! A session that runs alone does what the job does. -/

variable {before after : CryptoDb}

def SameRows (left right : CryptoDb) : Prop :=
  left.invoices = right.invoices ∧ left.callbacks = right.callbacks ∧
    left.matchRows = right.matchRows

def Reaches (session : SessionId) (before after : CryptoDb) : Prop :=
  ∃ actions shared, Interleaved.alone advance session (opened before).shared ⟨[], []⟩ actions =
    some (shared, ⟨[], []⟩) ∧ SameRows shared.committed after

def perform : Job → CryptoSession Unit
  | .cancelInvoice transId merchantId draws => discard (cancelInvoice transId merchantId draws)
  | .expireDueInvoices now limit callbackIds => discard (expireDueInvoices now limit callbackIds)
  | .matchTransfer transfer draws => discard (matchTransfer transfer draws)
  | .adminForceCompleteInvoice invoiceId => adminForceCompleteInvoice invoiceId

theorem published_nil (db : CryptoDb) : published [] db = some db := by
  have same : db.invoices.update (written []) (id_written []) = db.invoices :=
    Table.ext_rows (List.map_id _)
  simp [published, Table.insertAll?, same]

/-- Undisturbed `UPDATE`s are sent one after the other. -/
theorem alone_flushes (session : SessionId) (waiting sent : List InvoiceUpdate) (shared : Shared)
    (free : ∀ update ∈ waiting, shared.rowOwner update.loaded.id = none ∨
      shared.rowOwner update.loaded.id = some session) :
    ∃ rowOwner, Interleaved.alone advance session shared ⟨waiting, sent⟩
        (List.replicate waiting.length .flush) =
      some ({ shared with rowOwner }, ⟨[], sent ++ waiting⟩) := by
  induction waiting generalizing shared sent with
  | nil => exact ⟨shared.rowOwner, by simp [Interleaved.alone]⟩
  | cons next rest ih =>
      have taken : ∀ update ∈ rest,
          Function.update shared.rowOwner next.loaded.id (some session) update.loaded.id = none ∨
          Function.update shared.rowOwner next.loaded.id (some session) update.loaded.id =
            some session := by
        intro update member
        by_cases same : update.loaded.id = next.loaded.id
        · simp [same]
        · rw [Function.update_of_ne same]
          exact free update (List.mem_cons_of_mem next member)
      obtain ⟨rowOwner, reached⟩ := ih (sent ++ [next]) { shared with
        rowOwner := Function.update shared.rowOwner next.loaded.id (some session) } taken
      have own := free next List.mem_cons_self
      refine ⟨rowOwner, ?_⟩
      rw [List.length_cons, List.replicate_succ]
      simp only [Interleaved.alone, advance, flush, if_pos own]
      rw [reached, List.append_assoc]
      rfl

theorem reaches_of_published (session : SessionId) (job : Job) {committed : CryptoDb}
    (publishes : published (decided before job) before = some committed)
    (same : SameRows committed after) : Reaches session before after := by
  obtain ⟨rowOwner, sent⟩ := alone_flushes session (decided before job) [] (opened before).shared
    (fun _ _ => .inl rfl)
  have start : advance session (opened before).shared ⟨[], []⟩ (.begin job) =
      some ((), (opened before).shared, ⟨decided before job, []⟩) := by
    simp [advance, begin, opened, published_nil]
  refine ⟨.begin job :: (List.replicate (decided before job).length .flush ++ [.commit]),
    ⟨committed, release rowOwner session⟩, ?_, same⟩
  simp only [Interleaved.alone, start]
  rw [Interleaved.alone_append, sent]
  simp [Interleaved.alone, advance, commit, opened, publishes]

theorem reaches_unchanged (session : SessionId) (before : CryptoDb) :
    Reaches session before before :=
  ⟨[], (opened before).shared, rfl, rfl, rfl, rfl⟩

theorem callbacks_of_enqueue (update : InvoiceUpdate) {eventType : String} {draws : EventDraws}
    (announced : update.event = some (eventType, draws))
    (returned : enqueueInvoiceCallback update.assigned eventType draws before = .ok () after) :
    before.callbacks.insertAll? update.callback.toList = some after.callbacks := by
  unfold enqueueInvoiceCallback at returned
  unfold InvoiceUpdate.callback
  cases called : given update.assigned.callbackUrl with
  | none =>
      simp only [called] at returned
      cases returned
      rfl
  | some url =>
      simp only [called] at returned
      obtain ⟨callbacks, inserted, rfl⟩ :=
        Option.map_eq_some_iff.mp ((Crypto.flush_ok_iff ..).mp returned)
      simp [announced, Table.insertAll?, inserted]

theorem callbacks_of_receipt {transfer : CryptoChainTransfer} {draws : MatchDraws}
    (invoice : CryptoInvoice)
    (returned : announceReceipt (invoice.receive transfer draws.now) draws before = .ok () after) :
    before.callbacks.insertAll? (receipt transfer draws invoice).callback.toList =
      some after.callbacks := by
  unfold announceReceipt at returned
  by_cases completed : (invoice.receive transfer draws.now).status = .completed
  · rw [if_pos completed] at returned
    obtain ⟨⟨⟩, freed, slot, rest⟩ := (Effect.bind_ok_iff ..).mp returned
    cases slot
    obtain ⟨credited, settled, credit, announced⟩ := (Effect.bind_ok_iff ..).mp rest
    have event : (receipt transfer draws invoice).event =
        some ("crypto.invoice.completed", draws.event) := by
      simp [receipt, completed]
    have queued := callbacks_of_enqueue (receipt transfer draws invoice) event announced
    rcases creditWallet_ok credit with rfl | ⟨userId, amountVnd, row, bank, -, -, -, rfl⟩
    · exact queued
    · exact queued
  · rw [if_neg completed] at returned
    have event : (receipt transfer draws invoice).event =
        some ("crypto.invoice.partial", draws.event) := by
      simp [receipt, completed]
    exact callbacks_of_enqueue (receipt transfer draws invoice) event returned

/-- An `UPDATE` of a stored row is the assignment to the loaded object. -/
theorem written_one {update : InvoiceUpdate} {change : CryptoInvoice → CryptoInvoice}
    (keeps : ∀ invoice, (change invoice).id = invoice.id)
    (member : update.loaded ∈ before.invoices.rows)
    (assigns : update.apply update.loaded = change update.loaded) :
    before.invoices.update (written [update]) (id_written [update]) =
      before.invoices.modify update.loaded.id change keeps := by
  apply Table.ext_rows
  apply List.map_congr_left
  intro row stored
  by_cases same : update.loaded.id = row.id
  · have equal := before.invoices.eq_of_key_eq member stored same
    simp [written, ← equal, assigns]
  · have apart : row.id ≠ update.loaded.id := fun named => same named.symm
    simp [written, same, apart]

theorem filterMap_one {Row : Type} (row : InvoiceUpdate → Option Row) (update : InvoiceUpdate) :
    [update].filterMap row = (row update).toList := by
  cases inserted : row update <;> simp [inserted]

theorem published_of_inserts {sent : List InvoiceUpdate}
    {matchRows : Table CryptoInvoiceMatch.ends} {callbacks : Table CryptoCallback.id}
    (pairs : before.matchRows.insertAll? (sent.filterMap InvoiceUpdate.paired) = some matchRows)
    (queues : before.callbacks.insertAll? (sent.filterMap InvoiceUpdate.callback) =
      some callbacks) :
    published sent before = some { before with
      matchRows
      callbacks
      invoices := before.invoices.update (written sent) (id_written sent) } := by
  simp only [published, pairs, queues]

theorem published_one (update : InvoiceUpdate) {matchRows : Table CryptoInvoiceMatch.ends}
    {callbacks : Table CryptoCallback.id}
    (pairs : before.matchRows.insertAll? update.paired.toList = some matchRows)
    (queues : before.callbacks.insertAll? update.callback.toList = some callbacks) :
    published [update] before = some { before with
      matchRows
      callbacks
      invoices := before.invoices.update (written [update]) (id_written [update]) } := by
  rw [← filterMap_one] at pairs queues
  exact published_of_inserts pairs queues

theorem alone_cancels (session : SessionId) {transId : String} {merchantId : Option String}
    {draws : EventDraws} {canceled : CryptoInvoice}
    (returned : cancelInvoice transId merchantId draws before = .ok canceled after) :
    Reaches session before after := by
  obtain ⟨invoice, selected, waiting, ending⟩ := cancelInvoice_ok returned
  have member := List.mem_of_find?_eq_some selected
  have queues : before.callbacks.insertAll? (cancellation draws invoice).callback.toList =
      some after.callbacks := by
    unfold cancelInvoice at returned
    obtain ⟨loaded, start, read, rest⟩ := (Effect.bind_ok_iff ..).mp returned
    obtain ⟨found, rfl⟩ := (select_ok_iff ..).mp read
    obtain rfl : invoice = loaded := Option.some.inj (selected.symm.trans found)
    rw [if_neg (by simp [waiting])] at rest
    obtain ⟨⟨⟩, ended, assign, rest⟩ := (Effect.bind_ok_iff ..).mp rest
    cases assign
    obtain ⟨⟨⟩, freed, slot, rest⟩ := (Effect.bind_ok_iff ..).mp rest
    cases slot
    obtain ⟨⟨⟩, announced, enqueued, done⟩ := (Effect.bind_ok_iff ..).mp rest
    cases done
    have queued := callbacks_of_enqueue (cancellation draws invoice) rfl enqueued
    exact queued
  have decides : decided before (.cancelInvoice transId merchantId draws) =
      [cancellation draws invoice] := by
    simp [decided, selected, waiting]
  have publishes := published_one (cancellation draws invoice) rfl queues
  rw [← decides] at publishes
  refine reaches_of_published session _ publishes ⟨?_, rfl, ?_⟩
  · rw [ending.invoices]
    simp only [decides]
    apply written_one _ member
    simp [InvoiceUpdate.apply, cancellation, CryptoInvoice.cancel]
  · rw [ending.frame]
    rfl

theorem alone_matches (session : SessionId) {transfer : CryptoChainTransfer} {draws : MatchDraws}
    {result : Option CryptoInvoice}
    (returned : matchTransfer transfer draws before = .ok result after) :
    Reaches session before after := by
  rcases matchTransfer_ok returned with rfl | ⟨invoice, payment⟩
  · exact reaches_unchanged session after
  · have member := (mem_of_fitting payment.fitting).1
    have queues : before.callbacks.insertAll? (receipt transfer draws invoice).callback.toList =
        some after.callbacks := by
      obtain ⟨matchRows, announced⟩ := announced_of_paid payment returned
      have queued := callbacks_of_receipt invoice announced
      exact queued
    have decides : decided before (.matchTransfer transfer draws) =
        [receipt transfer draws invoice] := by
      simp [decided, payment.fitting, payment.unpaired]
    have pairs : before.matchRows.insertAll? (receipt transfer draws invoice).paired.toList =
        some after.matchRows := by
      simp [receipt, Table.insertAll?, payment.inserted]
    have publishes := published_one (receipt transfer draws invoice) pairs queues
    rw [← decides] at publishes
    refine reaches_of_published session _ publishes ⟨?_, rfl, rfl⟩
    rw [payment.invoices]
    simp only [decides]
    apply written_one _ member
    simp [InvoiceUpdate.apply, receipt, CryptoInvoice.receive]

theorem alone_overrides (session : SessionId) {invoiceId : String}
    (returned : adminForceCompleteInvoice invoiceId before = .ok () after) :
    Reaches session before after := by
  unfold adminForceCompleteInvoice at returned
  obtain ⟨invoice, start, read, rest⟩ := (Effect.bind_ok_iff ..).mp returned
  obtain ⟨found, same⟩ := (select_ok_iff ..).mp read
  subst same
  cases rest
  obtain rfl := Table.key_of_find? found
  by_cases completed : invoice.status = .completed
  · have unchanged : forceComplete invoice = invoice := by
      rw [forceComplete, ← completed]
    refine ⟨[], (opened start).shared, rfl, ?_, rfl, rfl⟩
    apply Eq.symm
    apply (Table.modify_eq_self_iff _ _ _ id_forceComplete).mpr
    intro row stored
    rw [found, Option.some.injEq] at stored
    rw [← stored, unchanged]
  · have decides : decided start (.adminForceCompleteInvoice invoice.id) =
        [override invoice] := by
      simp [decided, found, completed]
    have pairs : start.matchRows.insertAll? (override invoice).paired.toList =
        some start.matchRows := rfl
    have queues : start.callbacks.insertAll? (override invoice).callback.toList =
        some start.callbacks := by
      simp [InvoiceUpdate.callback, override, Table.insertAll?]
    have publishes := published_one (override invoice) pairs queues
    rw [← decides] at publishes
    refine reaches_of_published session _ publishes ⟨?_, rfl, rfl⟩
    simp only [decides]
    apply written_one id_forceComplete (Table.mem_of_find? found)
    simp [InvoiceUpdate.apply, override, forceComplete]

theorem expired_of_loop {draws : CryptoInvoice → EventDraws} {due : List CryptoInvoice}
    (waiting : ∀ invoice ∈ due, invoice.status.isWaiting = true)
    (looped : due.forM (expireInvoice draws) before = .ok () after) :
    let updates := due.map fun invoice => expiration (draws invoice) invoice
    after.invoices = before.invoices.update (written updates) (id_written updates) ∧
      before.callbacks.insertAll? (updates.filterMap InvoiceUpdate.callback) =
        some after.callbacks ∧ after.matchRows = before.matchRows := by
  induction due generalizing before with
  | nil =>
      cases looped
      exact ⟨(Table.ext_rows (List.map_id _)).symm, rfl, rfl⟩
  | cons invoice rest ih =>
      obtain ⟨⟨⟩, middle, first, later⟩ := (Effect.bind_ok_iff ..).mp looped
      obtain ⟨invoices, callbacks, matchRows⟩ :=
        ih (fun other member => waiting other (List.mem_cons_of_mem _ member)) later
      have ending := expireInvoice_ok first
      have assigns : ∀ row, (expiration (draws invoice) invoice).apply row = row.expire := by
        intro row
        have changes : InvoiceStatus.expired ≠ invoice.status := by
          intro same
          have own := waiting invoice List.mem_cons_self
          rw [← same] at own
          cases own
        simp [InvoiceUpdate.apply, expiration, CryptoInvoice.expire, column, changes]
      have queued : before.callbacks.insertAll?
          (expiration (draws invoice) invoice).callback.toList = some middle.callbacks := by
        unfold expireInvoice at first
        simp only [bind, EStateM.bind, Effect.modify_apply] at first
        have enqueued := callbacks_of_enqueue (expiration (draws invoice) invoice) rfl first
        exact enqueued
      refine ⟨?_, ?_, ?_⟩
      · rw [invoices, ending.invoices]
        apply Table.ext_rows
        simp only [Table.modify, Table.rows_update, List.map_map]
        apply List.map_congr_left
        intro row _
        simp only [Function.comp_apply, List.map_cons, written, assigns]
        have named : (expiration (draws invoice) invoice).loaded.id = invoice.id := rfl
        by_cases same : invoice.id = row.id
        · rw [if_pos same.symm, if_pos (named.trans same)]
        · rw [if_neg (Ne.symm same), if_neg (named ▸ same)]
      · rw [List.map_cons, ← List.singleton_append, List.filterMap_append, filterMap_one,
          Table.insertAll?_append, queued]
        exact callbacks
      · rw [matchRows, ending.frame]
        rfl

theorem alone_expires (session : SessionId) {now : Int} {limit : Nat}
    {callbackIds : String → String} {count : Nat}
    (returned : expireDueInvoices now limit callbackIds before = .ok count after) :
    Reaches session before after := by
  have looped := expireDueInvoices_ok returned
  have waiting : ∀ invoice ∈ dueInvoices now limit before, invoice.status.isWaiting = true :=
    fun _ listed => (waiting_of_due listed).2
  obtain ⟨invoices, callbacks, matchRows⟩ := expired_of_loop waiting looped
  have pairs : before.matchRows.insertAll?
      ((decided before (.expireDueInvoices now limit callbackIds)).filterMap
        InvoiceUpdate.paired) = some before.matchRows := by
    simp [decided, expiration, List.filterMap_map, Table.insertAll?]
  have publishes := published_of_inserts pairs callbacks
  exact reaches_of_published session _ publishes ⟨invoices.symm, rfl, matchRows.symm⟩

/-- Whatever a job does to these rows, the only session does. -/
theorem alone_serves (session : SessionId) (before : CryptoDb) (job : Job) :
    Reaches session before (Effect.commit (perform job) before) := by
  cases ran : perform job before with
  | error failure after =>
      rw [Effect.commit_of_error ran]
      exact reaches_unchanged session before
  | ok value after =>
      rw [Effect.commit_of_ok ran]
      cases job with
      | cancelInvoice transId merchantId draws =>
          obtain ⟨canceled, returned⟩ := Effect.discard_ok ran
          exact alone_cancels session returned
      | expireDueInvoices now limit callbackIds =>
          obtain ⟨count, returned⟩ := Effect.discard_ok ran
          exact alone_expires session returned
      | matchTransfer transfer draws =>
          obtain ⟨result, returned⟩ := Effect.discard_ok ran
          exact alone_matches session returned
      | adminForceCompleteInvoice invoiceId => exact alone_overrides session ran

end Solo

end ApiBank.Crypto.InvoiceSessions
