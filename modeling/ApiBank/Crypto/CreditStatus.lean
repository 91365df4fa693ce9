import ApiBank.Crypto.InvoiceTurns

/-!
# Statuses and credits

An invoice that was paid has its credit, and no other has one. A match completes and
credits in one step. The override of an admin completes an invoice without a credit.
-/

namespace ApiBank.Crypto.CreditStatus

open ApiBank.Billing ApiBank.Db ApiBank.Relational ApiBank.Transition
open Invoices Operations InvoiceTurns

set_option autoImplicit false

variable {runtime : Runtime} {before after : CryptoDb}

def IsPaid (status : InvoiceStatus) : Prop := status = .completed ∨ status = .overpaid

instance (status : InvoiceStatus) : Decidable (IsPaid status) :=
  inferInstanceAs (Decidable (_ ∨ _))

theorem not_paid_of_waiting {status : InvoiceStatus} (waiting : status.isWaiting = true) :
    ¬IsPaid status := by
  cases status with
  | waiting => decide
  | partlyPaid => decide
  | _ => cases waiting

def creditRows (bank : Database) (invoiceId : String) : List WalletTransaction :=
  bank.walletTransactions.rows.filter fun row => row.idempotencyKey = cryptoTopupKey invoiceId

/-- An invoice with a payee and a positive amount is paid just when its credit is there,
for that user and that amount; one that is not paid has none. -/
structure CreditMatches (bank : Database) (invoice : CryptoInvoice) : Prop where
  credited : ∀ userId amountVnd, given invoice.userId = some userId →
    invoice.currencyAmountVnd = some amountVnd → 0 < amountVnd →
      (IsPaid invoice.status ↔ ∃ row, creditRows bank invoice.id = [row] ∧ row.userId = userId ∧
        row.amountVnd = amountVnd)
  uncredited : ¬IsPaid invoice.status → creditRows bank invoice.id = []

def CreditsMatch (db : CryptoDb) : Prop :=
  ∀ invoice ∈ db.invoices.rows, CreditMatches db.bank invoice

def CreditsKnown (db : CryptoDb) : Prop :=
  ∀ invoiceId, creditRows db.bank invoiceId ≠ [] → (db.invoices.find? invoiceId).isSome

theorem creditMatches_unpaid {bank : Database} {invoice : CryptoInvoice}
    (unpaid : ¬IsPaid invoice.status) (vacant : creditRows bank invoice.id = []) :
    CreditMatches bank invoice where
  credited := by
    intro userId amountVnd payee priced positive
    refine iff_of_false unpaid ?_
    rintro ⟨row, rows, -⟩
    rw [vacant] at rows
    cases rows
  uncredited := fun _ => vacant

/-- Only the status, the payee, the amount and the rows of the invoice count. -/
theorem creditMatches_congr {bank other : Database} {invoice : CryptoInvoice}
    (rows : creditRows other invoice.id = creditRows bank invoice.id)
    (credits : CreditMatches bank invoice) : CreditMatches other invoice where
  credited := by
    rw [rows]
    exact credits.credited
  uncredited := by
    rw [rows]
    exact credits.uncredited

section Bank

variable {bank other : Database} {row : WalletTransaction}

theorem creditRows_insert {invoiceId : String}
    (inserted : bank.walletTransactions.insert? row = some other.walletTransactions) :
    creditRows other invoiceId = creditRows bank invoiceId ++
      if row.idempotencyKey = cryptoTopupKey invoiceId then [row] else [] := by
  unfold creditRows
  rw [Table.rows_of_insert? inserted, List.filter_append, List.filter_singleton]
  simp

theorem creditRows_of_settles {invoice : CryptoInvoice} {draws : MatchDraws}
    (settles : Settles invoice draws bank other) (vacant : creditRows bank invoice.id = []) :
    (∀ invoiceId, invoiceId ≠ invoice.id →
      creditRows other invoiceId = creditRows bank invoiceId) ∧
        ∀ userId amountVnd, given invoice.userId = some userId →
          invoice.currencyAmountVnd = some amountVnd → ∃ row,
            creditRows other invoice.id = [row] ∧ row.userId = userId ∧
              row.amountVnd = amountVnd := by
  unfold Settles at settles
  cases payee : given invoice.userId with
  | none =>
      simp only [payee] at settles
      rw [settles]
      exact ⟨fun _ _ => rfl, nofun⟩
  | some userId =>
      cases priced : invoice.currencyAmountVnd with
      | none =>
          simp only [payee, priced] at settles
          rw [settles]
          exact ⟨fun _ _ => rfl, nofun⟩
      | some amountVnd =>
          simp only [payee, priced] at settles
          obtain ⟨row, credited⟩ := settles
          rcases Wallet.credit_posts credited with ⟨found, -⟩ | ⟨inserted, keyed, user, amount⟩
          · have key : row.idempotencyKey = cryptoTopupKey invoice.id := Table.key_of_find? found
            have listed : row ∈ creditRows bank invoice.id :=
              List.mem_filter.mpr ⟨Table.mem_of_find? found, by simpa using key⟩
            rw [vacant] at listed
            cases listed
          · have key : row.idempotencyKey = cryptoTopupKey invoice.id := keyed
            constructor
            · intro invoiceId apart
              have otherKey : row.idempotencyKey ≠ cryptoTopupKey invoiceId := by
                intro same
                exact apart (cryptoTopupKey_injective (same.symm.trans key))
              rw [creditRows_insert inserted, if_neg otherKey, List.append_nil]
            · intro namedUser namedAmount sameUser sameAmount
              refine ⟨row, ?_, ?_, ?_⟩
              · rw [creditRows_insert inserted, if_pos key, vacant, List.nil_append]
              · exact user.trans (Option.some.inj sameUser)
              · exact amount.trans (Option.some.inj sameAmount)

end Bank

section Turns

variable {invoices : Table CryptoInvoice.id} {bank other : Database} {invoice : CryptoInvoice}
  {change : CryptoInvoice → CryptoInvoice} (keeps : ∀ invoice, (change invoice).id = invoice.id)

/-- One invoice is changed and the rows of the others are as before: the changed invoice
is all that has to be looked at. -/
theorem matches_modify (found : invoices.find? invoice.id = some invoice)
    (apart : ∀ invoiceId, invoiceId ≠ invoice.id →
      creditRows other invoiceId = creditRows bank invoiceId)
    (credits : ∀ row ∈ invoices.rows, CreditMatches bank row)
    (changed : CreditMatches other (change invoice)) :
    ∀ row ∈ (invoices.modify invoice.id change keeps).rows, CreditMatches other row := by
  intro row member
  obtain ⟨old, oldMember, rfl⟩ := (Table.mem_modify_iff ..).mp member
  by_cases own : old.id = invoice.id
  · obtain rfl : old = invoice :=
      Option.some.inj ((own ▸ Table.find?_of_mem oldMember).symm.trans found)
    rw [if_pos rfl]
    exact changed
  · rw [if_neg own]
    exact creditMatches_congr (apart old.id own) (credits old oldMember)

theorem known_modify (apart : ∀ invoiceId, invoiceId ≠ invoice.id →
      creditRows other invoiceId = creditRows bank invoiceId)
    (found : invoices.find? invoice.id = some invoice)
    (known : ∀ invoiceId, creditRows bank invoiceId ≠ [] → (invoices.find? invoiceId).isSome) :
    ∀ invoiceId, creditRows other invoiceId ≠ [] →
      ((invoices.modify invoice.id change keeps).find? invoiceId).isSome := by
  intro invoiceId some
  rw [Table.find?_modify]
  by_cases own : invoiceId = invoice.id
  · rw [if_pos own, own, found]
    rfl
  · rw [if_neg own]
    rw [apart invoiceId own] at some
    exact known invoiceId some

end Turns

theorem paid_of_receipt {transfer : CryptoChainTransfer} {now : Int} {invoice : CryptoInvoice} :
    IsPaid (invoice.receive transfer now).status ↔
      (invoice.receive transfer now).status = .completed := by
  simp only [CryptoInvoice.receive, IsPaid]
  split <;> simp

theorem credited_of_receipt {transfer : CryptoChainTransfer} {draws : MatchDraws}
    {invoice : CryptoInvoice} (receipt : Receipt transfer draws before invoice after)
    (vacant : creditRows before.bank invoice.id = []) :
    (∀ invoiceId, invoiceId ≠ invoice.id →
      creditRows after.bank invoiceId = creditRows before.bank invoiceId) ∧
        CreditMatches after.bank (invoice.receive transfer draws.now) := by
  have bank := receipt.bank
  by_cases completed : (invoice.receive transfer draws.now).status = .completed
  · rw [if_pos completed] at bank
    have rows := creditRows_of_settles bank vacant
    refine ⟨rows.1, ?_, ?_⟩
    · intro userId amountVnd payee priced positive
      exact iff_of_true (.inl completed) (rows.2 userId amountVnd payee priced)
    · intro unpaid
      exact absurd (.inl completed) unpaid
  · rw [if_neg completed] at bank
    rw [bank]
    have unpaid : ¬IsPaid (invoice.receive transfer draws.now).status := by
      rw [paid_of_receipt]
      exact completed
    exact ⟨fun _ _ => rfl, creditMatches_unpaid unpaid vacant⟩

/-- The invariant of the credits. -/
structure CreditsKept (db : CryptoDb) : Prop where
  credits : CreditsMatch db
  known : CreditsKnown db

theorem kept_turn (turn : Turn before after) (kept : CreditsKept before) : CreditsKept after := by
  cases turn with
  | ended change keeps invoice after kind found waiting ending =>
      have vacant := (kept.credits invoice (Table.mem_of_find? found)).uncredited
        (not_paid_of_waiting waiting)
      have bank : after.bank = before.bank := by rw [ending.frame]; rfl
      have ended : CreditMatches before.bank (change invoice) := by
        apply creditMatches_unpaid
        · rcases kind with rfl | ⟨now, rfl⟩ <;> simp [IsPaid, CryptoInvoice.expire,
            CryptoInvoice.cancel]
        · rw [keeps]
          exact vacant
      constructor
      · unfold CreditsMatch
        rw [ending.invoices, bank]
        exact matches_modify _ found (fun _ _ => rfl) kept.credits ended
      · unfold CreditsKnown
        rw [ending.invoices, bank]
        exact known_modify _ (fun _ _ => rfl) found kept.known
  | recorded transfer after inserted =>
      rw [(transfers_of_recorded inserted).2.2]
      exact ⟨kept.credits, kept.known⟩
  | received transfer draws invoice after found waiting receipt =>
      have vacant := (kept.credits invoice (Table.mem_of_find? found)).uncredited
        (not_paid_of_waiting waiting)
      have credited := credited_of_receipt receipt vacant
      constructor
      · unfold CreditsMatch
        rw [receipt.payment.invoices]
        exact matches_modify _ found credited.1 kept.credits credited.2
      · unfold CreditsKnown
        rw [receipt.payment.invoices]
        exact known_modify _ credited.1 found kept.known
  | noted cursors rpcEndpoints => exact ⟨kept.credits, kept.known⟩

theorem kept_created {payload : CryptoInvoiceCreate} {merchantId : String}
    {userId : Option String} {draws : InvoiceDraws} {invoice : CryptoInvoice}
    (creation : Creation runtime payload merchantId userId draws before invoice after)
    (kept : CreditsKept before) : CreditsKept after := by
  cases creation with
  | replayed invoice found same => exact kept
  | opened network token wallet pay middle opened unused pair choice priced inserted =>
      have grown := (insertInvoice_ok inserted).1
      have frame : opened = { middle with invoices := opened.invoices } := (insertInvoice_ok inserted).2
      rw [frame_of_choice choice] at grown frame
      have bank : (occupyWallet wallet.id opened).bank = before.bank := by rw [occupyWallet, frame]
      have absent : (before.invoices.find? draws.id) = none := Table.fresh_of_insert? grown
      constructor
      · intro row member
        rw [bank]
        have listed : row ∈ opened.invoices.rows := member
        rw [Table.rows_of_insert? grown] at listed
        rcases List.mem_append.mp listed with old | new
        · exact kept.credits row old
        · obtain rfl := List.mem_singleton.mp new
          apply creditMatches_unpaid (not_paid_of_waiting rfl)
          by_contra credited
          have found := kept.known draws.id credited
          rw [absent] at found
          cases found
      · intro invoiceId credited
        rw [bank] at credited
        have found := kept.known invoiceId credited
        have later : (opened.invoices.find? invoiceId).isSome := by
          rw [Table.find?_insert? grown]
          split
          · rfl
          · exact found
        exact later

theorem kept_serve {op : Op} (kept : CreditsKept before) :
    CreditsKept (serve runtime before op) := by
  have attended := attended_of_serve runtime before op
  generalize serve runtime before op = after at attended
  cases attended with
  | created payload merchantId userId draws invoice after returned =>
      exact kept_created (createInvoice_ok returned) kept
  | registered payload fresh network after inserted =>
      obtain ⟨wallets, -, rfl⟩ := Option.map_eq_some_iff.mp inserted
      exact ⟨kept.credits, kept.known⟩
  | turned op after turns => exact turns_keep (fun _ _ holds turn => kept_turn turn holds) kept turns

def CompletesCredited (db : CryptoDb) : DeskOp → Prop
  | .adminForceCompleteInvoice invoiceId => ∀ invoice, db.invoices.find? invoiceId = some invoice →
      IsPaid invoice.status ∨ ∀ userId amountVnd, given invoice.userId = some userId →
        invoice.currencyAmountVnd = some amountVnd → amountVnd ≤ 0
  | .request _ => True

theorem credits_forced_iff {invoice : CryptoInvoice} (kept : CreditsKept before)
    (found : before.invoices.find? invoice.id = some invoice) :
    CreditsMatch (modifyInvoice invoice.id forceComplete id_forceComplete before) ↔
      (IsPaid invoice.status ∨ ∀ userId amountVnd, given invoice.userId = some userId →
        invoice.currencyAmountVnd = some amountVnd → amountVnd ≤ 0) := by
  have own := kept.credits invoice (Table.mem_of_find? found)
  constructor
  · intro credits
    by_cases paid : IsPaid invoice.status
    · exact .inl paid
    · refine .inr fun userId amountVnd payee priced => ?_
      by_contra positive
      have member : forceComplete invoice ∈
          (before.invoices.modify invoice.id forceComplete id_forceComplete).rows :=
        (Table.mem_modify_iff ..).mpr ⟨invoice, Table.mem_of_find? found, by rw [if_pos rfl]⟩
      have forced := (credits (forceComplete invoice) member).credited userId amountVnd payee priced
        (Int.not_le.mp positive)
      obtain ⟨row, rows, -⟩ := forced.mp (.inl rfl)
      have vacant : creditRows before.bank invoice.id = [] := own.uncredited paid
      have credited : creditRows before.bank invoice.id = [row] := rows
      rw [vacant] at credited
      cases credited
  · intro covered
    apply matches_modify id_forceComplete found (fun _ _ => rfl) kept.credits
    constructor
    · intro userId amountVnd payee priced positive
      rcases covered with paid | unpriced
      · exact iff_of_true (.inl rfl) ((own.credited userId amountVnd payee priced positive).mp paid)
      · have bound := unpriced userId amountVnd payee priced
        omega
    · intro unpaid
      exact absurd (.inl rfl) unpaid

theorem creditsMatch_attend_iff (db : CryptoDb) (op : DeskOp) (kept : CreditsKept db) :
    CreditsMatch (attend runtime db op) ↔ CompletesCredited db op := by
  cases op with
  | request op => exact iff_of_true (kept_serve kept).credits trivial
  | adminForceCompleteInvoice invoiceId =>
      cases found : db.invoices.find? invoiceId with
      | none =>
          rw [attend_missing found]
          refine iff_of_true kept.credits ?_
          intro invoice other
          rw [found] at other
          cases other
      | some invoice =>
          obtain rfl := Table.key_of_find? found
          rw [attend_forced found, credits_forced_iff kept found]
          constructor
          · intro covered other same
            obtain rfl := Option.some.inj (found.symm.trans same)
            exact covered
          · intro guarded
            exact guarded invoice found

theorem kept_attend (db : CryptoDb) (op : DeskOp) (kept : CreditsKept db)
    (credits : CreditsMatch (attend runtime db op)) : CreditsKept (attend runtime db op) := by
  refine ⟨credits, ?_⟩
  cases op with
  | request op => exact (kept_serve kept).known
  | adminForceCompleteInvoice invoiceId =>
      cases found : db.invoices.find? invoiceId with
      | none =>
          rw [attend_missing found]
          exact kept.known
      | some invoice =>
          obtain rfl := Table.key_of_find? found
          rw [attend_forced found]
          exact known_modify id_forceComplete (fun _ _ => rfl) found kept.known

/-- From a state with the invariant, credits match statuses after every request of a run
if and only if every override is for an invoice that is paid already or credits nobody. -/
theorem credits_match_iff (runtime : Runtime) (start : CryptoDb) (kept : CreditsKept start)
    (events : List DeskOp) :
    Run.Along (fun db op => CreditsMatch (attend runtime db op)) (attend runtime) start events ↔
      Run.Along CompletesCredited (attend runtime) start events :=
  Run.along_iff CreditsKept (fun db op holds => creditsMatch_attend_iff db op holds)
    (fun db op holds credits => kept_attend db op holds credits) kept

theorem kept_market : CreditsKept market where
  credits := by
    intro invoice member
    cases member
  known := by
    intro invoiceId credited
    exact absurd rfl credited

/-- Ten units for 250000 VND to the user's wallet. -/
def topupOrder : DeskOp :=
  .request (.createInvoice { order "r1" (some merchantAddress) with
    currencyAmountVnd := some 250000 } "m1" (some "u1") (drawsAt 1 "i1" "w1"))

/-- An invoice is paid, and then completed by hand as well. -/
def completedTwice : List DeskOp := [
  topupOrder, .request (scan "0x01" merchantAddress "tr1" 2), .adminForceCompleteInvoice "i1"]

theorem credits_match_completed_twice :
    Run.Along (fun db op => CreditsMatch (attend .ascii db op)) (attend .ascii) market
      completedTwice := by
  apply (credits_match_iff .ascii market kept_market completedTwice).mpr
  have paid : ∀ invoice ∈ ((completedTwice.take 2).foldl (attend .ascii) market).invoices.rows,
      IsPaid invoice.status := by decide +kernel
  refine ⟨trivial, trivial, ?_, trivial⟩
  intro invoice found
  exact .inl (paid invoice (Table.mem_of_find? found))

/-- An admin completes an invoice that nobody has paid. -/
theorem override_without_credit : ¬∀ runtime start (events : List DeskOp), CreditsKept start →
    CreditsMatch (events.foldl (attend runtime) start) := by
  intro always
  have credits := always .ascii market [topupOrder, .adminForceCompleteInvoice "i1"] kept_market
  have uncredited : ∃ invoice ∈ ([topupOrder, .adminForceCompleteInvoice "i1"].foldl
      (attend .ascii) market).invoices.rows, IsPaid invoice.status ∧
        given invoice.userId = some "u1" ∧ invoice.currencyAmountVnd = some 250000 ∧
          creditRows ([topupOrder, .adminForceCompleteInvoice "i1"].foldl
            (attend .ascii) market).bank invoice.id = [] := by decide +kernel
  obtain ⟨invoice, member, paid, payee, priced, vacant⟩ := uncredited
  obtain ⟨row, rows, -⟩ :=
    ((credits invoice member).credited "u1" 250000 payee priced (by decide)).mp paid
  rw [vacant] at rows
  cases rows

end ApiBank.Crypto.CreditStatus
