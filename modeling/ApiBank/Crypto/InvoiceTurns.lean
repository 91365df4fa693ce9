import ApiBank.Crypto.History

/-!
# Turns of an invoice

What endings, matches and scans do to the invoices, the slots and the bank, exactly: an
ending meets an invoice that is waiting, and a receipt that completes an invoice gives
the slot back and makes the credit in the same step. The override of an admin writes the
status and nothing else; its audit row is left out.
-/

namespace ApiBank.Crypto.InvoiceTurns

open ApiBank.Billing ApiBank.Db ApiBank.Relational ApiBank.Transition Invoices Operations Watchers

set_option autoImplicit false

variable {runtime : Runtime} {before after : CryptoDb}

/-- What completion does to the bank: a credit, if the invoice names a payee and an amount. -/
def Settles (invoice : CryptoInvoice) (draws : MatchDraws) (before after : Database) : Prop :=
  match given invoice.userId, invoice.currencyAmountVnd with
  | some userId, some amountVnd => ∃ row,
      Wallet.credit (cryptoCredit invoice userId amountVnd) ⟨draws.creditId, draws.now⟩ before =
        .ok row after
  | _, _ => after = before

theorem settles_of_credit {invoice : CryptoInvoice} {draws : MatchDraws} {credited : Bool}
    (completed : invoice.status = .completed)
    (returned : creditWalletForCryptoInvoice invoice ⟨draws.creditId, draws.now⟩ before =
      .ok credited after) : Settles invoice draws before.bank after.bank := by
  unfold creditWalletForCryptoInvoice at returned
  rw [if_neg (fun ended => ended.1 completed)] at returned
  unfold Settles
  cases payee : given invoice.userId with
  | none =>
      simp only [payee] at returned ⊢
      cases returned
      rfl
  | some userId =>
      cases priced : invoice.currencyAmountVnd with
      | none =>
          simp only [payee, priced] at returned ⊢
          cases returned
          rfl
      | some amountVnd =>
          simp only [payee, priced] at returned ⊢
          obtain ⟨row, middle, credit, rest⟩ := (Effect.bind_ok_iff ..).mp returned
          cases rest
          obtain ⟨bank, posted, rfl⟩ := (onBank_ok_iff ..).mp credit
          exact ⟨row, posted⟩

/-- A transfer added to an invoice, with all that follows from the new status. -/
structure Receipt (transfer : CryptoChainTransfer) (draws : MatchDraws) (before : CryptoDb)
    (invoice : CryptoInvoice) (after : CryptoDb) : Prop where
  payment : Paid transfer draws before invoice after
  slot : after.wallets =
    if (invoice.receive transfer draws.now).status = .completed then
      (releaseWalletSlot invoice.walletId before).wallets
    else before.wallets
  bank :
    if (invoice.receive transfer draws.now).status = .completed then
      Settles (invoice.receive transfer draws.now) draws before.bank after.bank
    else after.bank = before.bank

theorem announceReceipt_exact {invoice : CryptoInvoice} {draws : MatchDraws}
    (returned : announceReceipt invoice draws before = .ok () after) :
    (after.wallets =
      if invoice.status = .completed then (releaseWalletSlot invoice.walletId before).wallets
      else before.wallets) ∧
      if invoice.status = .completed then Settles invoice draws before.bank after.bank
      else after.bank = before.bank := by
  unfold announceReceipt at returned
  by_cases completed : invoice.status = .completed
  · rw [if_pos completed] at returned ⊢
    rw [if_pos completed]
    obtain ⟨⟨⟩, released, freed, rest⟩ := (Effect.bind_ok_iff ..).mp returned
    cases freed
    obtain ⟨credited, middle, credit, announced⟩ := (Effect.bind_ok_iff ..).mp rest
    have settled := settles_of_credit completed credit
    have callbacks := enqueueInvoiceCallback_ok announced
    rw [callbacks]
    rcases creditWallet_ok credit with rfl | ⟨userId, amountVnd, row, bank, -, -, -, rfl⟩
    · exact ⟨rfl, settled⟩
    · exact ⟨rfl, settled⟩
  · rw [if_neg completed] at returned ⊢
    rw [if_neg completed, enqueueInvoiceCallback_ok returned]
    exact ⟨rfl, rfl⟩

theorem receipt_of_match {transfer : CryptoChainTransfer} {draws : MatchDraws}
    {result : Option CryptoInvoice}
    (returned : matchTransfer transfer draws before = .ok result after) :
    after = before ∨ ∃ invoice, Receipt transfer draws before invoice after := by
  rcases matchTransfer_ok returned with same | ⟨invoice, payment⟩
  · exact .inl same
  · right
    obtain ⟨matchRows, announced⟩ := announced_of_paid payment returned
    have exact_receipt := announceReceipt_exact announced
    exact ⟨invoice, payment, exact_receipt.1, exact_receipt.2⟩

/-- The smallest changes that requests are made of, but for the new rows of a request. -/
inductive Turn (before : CryptoDb) : CryptoDb → Prop where
  | ended (change : CryptoInvoice → CryptoInvoice)
      (keeps : ∀ invoice, (change invoice).id = invoice.id) (invoice : CryptoInvoice)
      (after : CryptoDb) (kind : change = CryptoInvoice.expire ∨ ∃ now, change = CryptoInvoice.cancel now)
      (found : before.invoices.find? invoice.id = some invoice)
      (waiting : invoice.status.isWaiting = true)
      (ending : Ended change keeps invoice before after) : Turn before after
  | recorded (transfer : CryptoChainTransfer) (after : CryptoDb)
      (inserted : insertTransfer? transfer before = some after) : Turn before after
  | received (transfer : CryptoChainTransfer) (draws : MatchDraws) (invoice : CryptoInvoice)
      (after : CryptoDb) (found : before.invoices.find? invoice.id = some invoice)
      (waiting : invoice.status.isWaiting = true)
      (receipt : Receipt transfer draws before invoice after) : Turn before after
  | noted (cursors : Table CryptoWatcherCursor.scope) (rpcEndpoints : Table CryptoRpcEndpoint.id) :
      Turn before { before with cursors, rpcEndpoints }

/-- Any number of turns, one after another. -/
abbrev Turns := Relation.ReflTransGen Turn

theorem turns_of_match {transfer : CryptoChainTransfer} {draws : MatchDraws}
    {result : Option CryptoInvoice}
    (returned : matchTransfer transfer draws before = .ok result after) : Turns before after := by
  rcases receipt_of_match returned with rfl | ⟨invoice, receipt⟩
  · exact .refl
  · have fitting := mem_of_fitting receipt.payment.fitting
    have waiting := ((History.fits_iff ..).mp fitting.2).2.1
    exact .single (.received transfer draws invoice after (Table.find?_of_mem fitting.1) waiting
      receipt)

theorem turns_of_scan {base : CryptoDb} {attached expired : Bool} {sightings : List Sighting}
    {count : Nat} (opened : Turns base before)
    (returned : scanTransfers base attached expired sightings before = .ok count after) :
    Turns base after := by
  apply scanTransfers_keeps .refl ?_ opened returned
  intro transfer draws _ db recorded next result reached inserted paired
  exact (reached.tail (.recorded transfer recorded inserted)).trans (turns_of_match paired)

theorem turns_of_matchAll {draws : String → MatchDraws} {transfers : List CryptoChainTransfer}
    {count : Nat} (returned : matchAll draws transfers before = .ok count after) :
    Turns before after := by
  let Holds (_ : List CryptoChainTransfer) (db : CryptoDb) : Prop := Turns before db
  have start : Holds transfers before := .refl
  have kept : Holds [] after := by
    apply matchAll_keeps ?_ start returned
    intro transfer rest db next result reached paired
    exact Relation.ReflTransGen.trans reached (turns_of_match paired)
  exact kept

theorem turns_of_cursor {networkId tokenId : String} {startBlock now : Int}
    {cursor : CryptoWatcherCursor}
    (pointed : getOrCreateCursor networkId tokenId startBlock now before = .ok cursor after) :
    Turns before after := by
  rcases getOrCreateCursor_ok pointed with rfl | ⟨-, cursors, -, rfl⟩
  · exact .refl
  · exact .single (.noted cursors before.rpcEndpoints)

theorem turns_of_evm {scope : Scope} {startBlock now : Int} {chain : Chain} {count : Nat}
    (returned : runEvmOnce runtime scope startBlock chain now before = .ok count after) :
    Turns before after := by
  cases runEvmOnce_ok returned with
  | idle latest cursor opened answered pointed scanned => exact turns_of_cursor pointed
  | scanned rpc latest cursor opened logs count final answered pointed behind fetched ran =>
      exact (turns_of_scan (turns_of_cursor pointed) ran).tail (.noted _ _)

theorem found_of_ended {change : CryptoInvoice → CryptoInvoice}
    {keeps : ∀ invoice, (change invoice).id = invoice.id} {invoice other : CryptoInvoice}
    (ending : Ended change keeps invoice before after) (apart : invoice.id ≠ other.id)
    (found : before.invoices.find? other.id = some other) :
    after.invoices.find? other.id = some other := by
  rw [ending.invoices, Table.find?_modify, if_neg apart.symm]
  exact found

theorem turns_of_expiry {draws : CryptoInvoice → EventDraws} {due : List CryptoInvoice}
    (distinct : (due.map CryptoInvoice.id).Nodup)
    (listed : ∀ invoice ∈ due, before.invoices.find? invoice.id = some invoice ∧
      invoice.status.isWaiting = true)
    (looped : due.forM (expireInvoice draws) before = .ok () after) : Turns before after := by
  induction due generalizing before with
  | nil =>
      cases looped
      exact .refl
  | cons invoice rest ih =>
      rw [List.map_cons, List.nodup_cons] at distinct
      obtain ⟨⟨⟩, middle, first, later⟩ := (Effect.bind_ok_iff ..).mp looped
      have own := listed invoice (List.mem_cons_self ..)
      have ending := expireInvoice_ok first
      have turn : Turn before middle := .ended _ _ invoice middle (.inl rfl) own.1 own.2 ending
      have remaining : ∀ other ∈ rest, middle.invoices.find? other.id = some other ∧
          other.status.isWaiting = true := by
        intro other member
        have waiting := listed other (List.mem_cons_of_mem _ member)
        have apart : invoice.id ≠ other.id := by
          intro same
          exact distinct.1 (same ▸ List.mem_map_of_mem member)
        exact ⟨found_of_ended ending apart waiting.1, waiting.2⟩
      exact (ih distinct.2 remaining later).head turn

theorem turns_of_expire {now : Int} {limit : Nat} {callbackIds : String → String} {count : Nat}
    (returned : expireDueInvoices now limit callbackIds before = .ok count after) :
    Turns before after := by
  have looped := expireDueInvoices_ok returned
  have part : (dueInvoices now limit before).Sublist before.invoices.rows :=
    (List.take_sublist _ _).trans List.filter_sublist
  have distinct : ((dueInvoices now limit before).map CryptoInvoice.id).Nodup :=
    before.invoices.distinct.sublist (part.map _)
  apply turns_of_expiry distinct ?_ looped
  intro invoice listed
  obtain ⟨member, waiting⟩ := waiting_of_due listed
  exact ⟨Table.find?_of_mem member, waiting⟩

/-- What a request does: create an invoice, register a wallet, or take turns. -/
inductive Attended (runtime : Runtime) (before : CryptoDb) : Op → CryptoDb → Prop where
  | created (payload : CryptoInvoiceCreate) (merchantId : String) (userId : Option String)
      (draws : InvoiceDraws) (invoice : CryptoInvoice) (after : CryptoDb)
      (returned : createInvoice runtime payload merchantId userId draws before =
        .ok invoice after) :
      Attended runtime before (.createInvoice payload merchantId userId draws) after
  | registered (payload : CryptoWalletCreate) (fresh : RowDefaults) (network : CryptoNetwork)
      (after : CryptoDb)
      (inserted : insertWallet? (registeredWallet runtime payload network fresh) before =
        some after) :
      Attended runtime before (.adminCreateWallet payload fresh) after
  | turned (op : Op) (after : CryptoDb) (turns : Turns before after) :
      Attended runtime before op after

theorem attended_of_perform {op : Op} (returned : perform runtime op before = .ok () after) :
    Attended runtime before op after := by
  cases op with
  | createInvoice payload merchantId userId draws =>
      obtain ⟨invoice, ran⟩ := Effect.discard_ok returned
      exact .created payload merchantId userId draws invoice after ran
  | cancelInvoice transId merchantId draws =>
      obtain ⟨canceled, ran⟩ := Effect.discard_ok returned
      obtain ⟨invoice, selected, waiting, ending⟩ := cancelInvoice_ok ran
      have found := Table.find?_of_mem (List.mem_of_find?_eq_some selected)
      exact .turned _ after
        (.single (.ended _ _ invoice after (.inr ⟨draws.now, rfl⟩) found waiting ending))
  | expireDueInvoices now limit callbackIds =>
      obtain ⟨count, ran⟩ := Effect.discard_ok returned
      exact .turned _ after (turns_of_expire ran)
  | adminCreateWallet payload fresh =>
      obtain ⟨wallet, ran⟩ := Effect.discard_ok returned
      obtain ⟨network, inserted⟩ := adminCreateWallet_ok ran
      exact .registered payload fresh network _ inserted
  | scanTokenLogs scope toBlock logs =>
      obtain ⟨count, ran⟩ := Effect.discard_ok returned
      exact .turned _ after (turns_of_scan .refl ran)
  | runEvmOnce scope startBlock chain now =>
      obtain ⟨count, ran⟩ := Effect.discard_ok returned
      exact .turned _ after (turns_of_evm ran)
  | ingestTronEvents scope events =>
      obtain ⟨count, ran⟩ := Effect.discard_ok returned
      exact .turned _ after (turns_of_scan .refl ran)
  | reconcileInvoice invoiceId draws =>
      obtain ⟨invoice, start, selected, rest⟩ := (Effect.bind_ok_iff ..).mp returned
      obtain ⟨-, rfl⟩ := (select_ok_iff ..).mp selected
      obtain ⟨count, ran⟩ := Effect.discard_ok rest
      exact .turned _ after (turns_of_matchAll ran)
  | reconcileTxHash txHash draws =>
      obtain ⟨count, ran⟩ := Effect.discard_ok returned
      exact .turned _ after (turns_of_matchAll ran)

theorem attended_of_serve (runtime : Runtime) (before : CryptoDb) (op : Op) :
    Attended runtime before op (serve runtime before op) := by
  unfold serve
  cases ran : perform runtime op before with
  | ok value after =>
      rw [Effect.commit_of_ok ran]
      exact attended_of_perform ran
  | error failure after =>
      rw [Effect.commit_of_error ran]
      exact .turned op before .refl

theorem turns_keep {Holds : CryptoDb → Prop}
    (keeps : ∀ db next, Holds db → Turn db next → Holds next) (holds : Holds before)
    (turns : Turns before after) : Holds after := by
  induction turns with
  | refl => exact holds
  | tail earlier turn ih => exact keeps _ _ ih turn

/-- The override of an admin. -/
def forceComplete (invoice : CryptoInvoice) : CryptoInvoice :=
  { invoice with status := .completed }

@[simp] theorem id_forceComplete (invoice : CryptoInvoice) :
    (forceComplete invoice).id = invoice.id := rfl

def adminForceCompleteInvoice (invoiceId : String) : CryptoSession Unit := do
  let invoice ← select (fun db => db.invoices.find? invoiceId)
    (.httpException 404 "invoice not found")
  modify (modifyInvoice invoice.id forceComplete id_forceComplete)

/-- A request, or the override. -/
inductive DeskOp where
  | request (op : Op)
  | adminForceCompleteInvoice (invoiceId : String)

def attend (runtime : Runtime) (before : CryptoDb) : DeskOp → CryptoDb
  | .request op => serve runtime before op
  | .adminForceCompleteInvoice invoiceId =>
      Effect.commit (adminForceCompleteInvoice invoiceId) before

theorem attend_missing {invoiceId : String} (missing : before.invoices.find? invoiceId = none) :
    attend runtime before (.adminForceCompleteInvoice invoiceId) = before := by
  simp [attend, adminForceCompleteInvoice, Effect.commit, bind, EStateM.bind, select, missing]

theorem attend_forced {invoiceId : String} {invoice : CryptoInvoice}
    (found : before.invoices.find? invoiceId = some invoice) :
    attend runtime before (.adminForceCompleteInvoice invoiceId) =
      modifyInvoice invoice.id forceComplete id_forceComplete
        before := by
  simp [attend, adminForceCompleteInvoice, Effect.commit, bind, EStateM.bind, select, found]

end ApiBank.Crypto.InvoiceTurns
