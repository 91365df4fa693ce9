import ApiBank.Crypto.Operations

/-!
# What a transfer pays for

A transfer is spent when it is matched. Scans match what they have just recorded and
the reconciliation of an invoice asks for unmatched transfers, but the one of a
transaction hash takes every transfer of the hash: there a spent transfer pays again
as soon as another waiting invoice fits it.
-/

namespace ApiBank.Crypto.Spending

open ApiBank.Db ApiBank.Relational ApiBank.Transition Invoices Operations Watchers

set_option autoImplicit false

def matchesOf (transfer : CryptoChainTransfer) (db : CryptoDb) : List CryptoInvoiceMatch :=
  db.matchRows.rows.filter fun paired => paired.transferId = transfer.id

def SpentOnce (db : CryptoDb) : Prop :=
  ∀ transfer ∈ db.transfers.rows, (matchesOf transfer db).length ≤ 1 ∧
    ((matchesOf transfer db).map CryptoInvoiceMatch.matchedAmount).sum ≤ transfer.amountDecimal

def Unspent (transfer : CryptoChainTransfer) (db : CryptoDb) : Prop :=
  ∀ paired ∈ db.matchRows.rows, paired.transferId ≠ transfer.id

def Settled (transfer : CryptoChainTransfer) (now : Int) (db : CryptoDb) : Prop :=
  Unspent transfer db ∨ ∀ invoice ∈ db.invoices.rows, fits transfer now invoice = true →
    (db.matchRows.find? (invoice.id, transfer.id)).isSome

/-- A hash is reconciled only when its spent transfers fit no further invoice. -/
def hashSettled (runtime : Runtime) (db : CryptoDb) : Op → Prop
  | .reconcileTxHash txHash draws => ∀ transfer ∈ transfersOf runtime txHash db,
      Settled transfer (draws transfer.id).now db
  | _ => True

/-- Transfers and their matches, in order. -/
structure Ledger (transfers : Table CryptoChainTransfer.log)
    (matchRows : Table CryptoInvoiceMatch.ends) : Prop where
  ids : ∀ transfer ∈ transfers.rows, ∀ other ∈ transfers.rows, transfer.id = other.id →
    transfer = other
  nonneg : ∀ transfer ∈ transfers.rows, 0 ≤ transfer.amountDecimal
  marked : ∀ paired ∈ matchRows.rows, ∃ transfer ∈ transfers.rows,
    transfer.id = paired.transferId ∧ transfer.status = .matched ∧
      transfer.amountDecimal = paired.matchedAmount
  once : ∀ paired ∈ matchRows.rows, ∀ other ∈ matchRows.rows,
    paired.transferId = other.transferId → paired = other

/-- Nothing has been recorded or matched. -/
structure Unscanned (db : CryptoDb) : Prop where
  transfers : db.transfers.rows = []
  matchRows : db.matchRows.rows = []

variable {runtime : Runtime} {before after : CryptoDb}

theorem ledger_unscanned (unscanned : Unscanned before) :
    Ledger before.transfers before.matchRows where
  ids := by
    intro transfer member
    rw [unscanned.transfers] at member
    cases member
  nonneg := by
    intro transfer member
    rw [unscanned.transfers] at member
    cases member
  marked := by
    intro paired member
    rw [unscanned.matchRows] at member
    cases member
  once := by
    intro paired member
    rw [unscanned.matchRows] at member
    cases member

/-- At most one element: the list is empty or a singleton. -/
theorem length_of_all_equal {Row : Type} {rows : List Row} (distinct : rows.Nodup)
    (equal : ∀ row ∈ rows, ∀ other ∈ rows, row = other) : rows = [] ∨ ∃ row, rows = [row] := by
  match rows with
  | [] => exact .inl rfl
  | [row] => exact .inr ⟨row, rfl⟩
  | row :: other :: rest =>
      have same := equal row (by simp) other (by simp)
      simp [same] at distinct

theorem spentOnce_of_ledger (ledger : Ledger before.transfers before.matchRows) :
    SpentOnce before := by
  intro transfer member
  have distinct : (matchesOf transfer before).Nodup :=
    (List.Nodup.of_map _ before.matchRows.distinct).filter _
  have equal : ∀ paired ∈ matchesOf transfer before, ∀ other ∈ matchesOf transfer before,
      paired = other := by
    intro paired listed other otherListed
    obtain ⟨listed, own⟩ := List.mem_filter.mp listed
    obtain ⟨otherListed, otherOwn⟩ := List.mem_filter.mp otherListed
    simp only [decide_eq_true_eq] at own otherOwn
    exact ledger.once paired listed other otherListed (own.trans otherOwn.symm)
  rcases length_of_all_equal distinct equal with none | ⟨paired, only⟩
  · rw [none]
    exact ⟨Nat.zero_le 1, ledger.nonneg transfer member⟩
  · have listed : paired ∈ matchesOf transfer before := only ▸ List.mem_singleton_self paired
    obtain ⟨listed, own⟩ := List.mem_filter.mp listed
    simp only [decide_eq_true_eq] at own
    obtain ⟨spent, spentMember, id, -, amount⟩ := ledger.marked paired listed
    obtain rfl := ledger.ids spent spentMember transfer member (id.trans own)
    rw [only]
    simp [amount]

theorem ledger_recorded {transfer : CryptoChainTransfer}
    (inserted : insertTransfer? transfer before = some after)
    (nonneg : 0 ≤ transfer.amountDecimal)
    (ledger : Ledger before.transfers before.matchRows) :
    Ledger after.transfers after.matchRows ∧ Unspent transfer after := by
  obtain ⟨unused, grown, frame⟩ := transfers_of_recorded inserted
  have rows := Table.rows_of_insert? grown
  have matchRows : after.matchRows = before.matchRows := by rw [frame]
  have fresh : ∀ other ∈ before.transfers.rows, transfer.id ≠ other.id := by
    intro other member
    simpa [sameId] using unused other member
  rw [matchRows]
  refine ⟨⟨?_, ?_, ?_, ledger.once⟩, ?_⟩
  · intro first member second secondMember same
    rw [rows] at member secondMember
    rcases List.mem_append.mp member with old | new
    · rcases List.mem_append.mp secondMember with secondOld | secondNew
      · exact ledger.ids first old second secondOld same
      · obtain rfl := List.mem_singleton.mp secondNew
        exact absurd same.symm (fresh first old)
    · obtain rfl := List.mem_singleton.mp new
      rcases List.mem_append.mp secondMember with secondOld | secondNew
      · exact absurd same (fresh second secondOld)
      · exact (List.mem_singleton.mp secondNew).symm
  · intro row member
    rw [rows] at member
    rcases List.mem_append.mp member with old | new
    · exact ledger.nonneg row old
    · exact List.mem_singleton.mp new ▸ nonneg
  · intro paired listed
    obtain ⟨row, member, settled⟩ := ledger.marked paired listed
    exact ⟨row, rows ▸ List.mem_append_left _ member, settled⟩
  · intro paired listed own
    rw [matchRows] at listed
    obtain ⟨row, member, id, -⟩ := ledger.marked paired listed
    exact fresh row member (own.symm.trans id.symm)

theorem markTransfer_rows {transfer row : CryptoChainTransfer}
    (member : row ∈ (markTransfer transfer before).transfers.rows) :
    ∃ old ∈ before.transfers.rows, row = if old.log = transfer.log then old.markMatched else old :=
  (Table.mem_modify_iff _ _ _ CryptoChainTransfer.log_markMatched _).mp member

theorem ledger_paid {transfer row : CryptoChainTransfer} {draws : MatchDraws}
    {invoice : CryptoInvoice} (stored : row ∈ before.transfers.rows)
    (same : SameTransfer row transfer) (unspent : Unspent transfer before)
    (payment : Paid transfer draws before invoice after)
    (ledger : Ledger before.transfers before.matchRows) :
    Ledger after.transfers after.matchRows := by
  have kept (old : CryptoChainTransfer) :
      (if old.log = transfer.log then old.markMatched else old).id = old.id ∧
        (if old.log = transfer.log then old.markMatched else old).amountDecimal =
          old.amountDecimal := by
    split <;> exact ⟨rfl, rfl⟩
  have listed (old : CryptoChainTransfer) (member : old ∈ before.transfers.rows) :
      (if old.log = transfer.log then old.markMatched else old) ∈
        (markTransfer transfer before).transfers.rows :=
    (Table.mem_modify_iff _ _ _ CryptoChainTransfer.log_markMatched _).mpr ⟨old, member, rfl⟩
  have rows := Table.rows_of_insert? payment.inserted
  rw [payment.transfers]
  refine ⟨?_, ?_, ?_, ?_⟩
  · intro first member second secondMember sameId
    obtain ⟨old, oldMember, rfl⟩ := markTransfer_rows member
    obtain ⟨other, otherMember, rfl⟩ := markTransfer_rows secondMember
    rw [(kept old).1, (kept other).1] at sameId
    rw [ledger.ids old oldMember other otherMember sameId]
  · intro first member
    obtain ⟨old, oldMember, rfl⟩ := markTransfer_rows member
    rw [(kept old).2]
    exact ledger.nonneg old oldMember
  · intro paired member
    rw [rows] at member
    rcases List.mem_append.mp member with earlier | new
    · obtain ⟨old, oldMember, id, status, amount⟩ := ledger.marked paired earlier
      refine ⟨_, listed old oldMember, (kept old).1.trans id, ?_, (kept old).2.trans amount⟩
      split
      · rfl
      · exact status
    · obtain rfl := List.mem_singleton.mp new
      have log : row.log = transfer.log := same.column CryptoChainTransfer.log fun _ => rfl
      have id : row.id = transfer.id := same.column CryptoChainTransfer.id fun _ => rfl
      have amount : row.amountDecimal = transfer.amountDecimal :=
        same.column CryptoChainTransfer.amountDecimal fun _ => rfl
      refine ⟨_, listed row stored, (kept row).1.trans id, ?_, (kept row).2.trans amount⟩
      rw [if_pos log]
      rfl
  · intro paired member other otherMember sameTransfer
    rw [rows] at member otherMember
    rcases List.mem_append.mp member with earlier | new
    · rcases List.mem_append.mp otherMember with otherEarlier | otherNew
      · exact ledger.once paired earlier other otherEarlier sameTransfer
      · obtain rfl := List.mem_singleton.mp otherNew
        exact absurd sameTransfer (unspent paired earlier)
    · obtain rfl := List.mem_singleton.mp new
      rcases List.mem_append.mp otherMember with otherEarlier | otherNew
      · exact absurd sameTransfer.symm (unspent other otherEarlier)
      · exact (List.mem_singleton.mp otherNew).symm

theorem ledger_match {transfer row : CryptoChainTransfer} {draws : MatchDraws}
    {result : Option CryptoInvoice} (stored : row ∈ before.transfers.rows)
    (same : SameTransfer row transfer) (unspent : Unspent transfer before)
    (returned : matchTransfer transfer draws before = .ok result after)
    (ledger : Ledger before.transfers before.matchRows) :
    Ledger after.transfers after.matchRows := by
  rcases matchTransfer_ok returned with rfl | ⟨invoice, payment⟩
  · exact ledger
  · exact ledger_paid stored same unspent payment ledger

theorem ledger_scan {base : CryptoDb} {attached expired : Bool} {sightings : List Sighting}
    {count : Nat} (nonneg : ∀ sighting ∈ sightings, 0 ≤ sighting.1.amountDecimal)
    (fallback : Ledger base.transfers base.matchRows)
    (ledger : Ledger before.transfers before.matchRows)
    (returned : scanTransfers base attached expired sightings before = .ok count after) :
    Ledger after.transfers after.matchRows := by
  apply scanTransfers_keeps fallback ?_ ledger returned
  intro transfer draws seen db recorded next result kept inserted paired
  obtain ⟨grown, unspent⟩ := ledger_recorded inserted (nonneg _ seen) kept
  have stored : transfer ∈ recorded.transfers.rows := by
    rw [Table.rows_of_insert? (transfers_of_recorded inserted).2.1]
    exact List.mem_append_right _ (List.mem_singleton_self transfer)
  exact ledger_match stored rfl unspent paired grown

theorem settled_paid {transfer other : CryptoChainTransfer} {draws : MatchDraws} {now : Int}
    {invoice : CryptoInvoice} (payment : Paid transfer draws before invoice after)
    (different : other.id ≠ transfer.id) (settled : Settled other now before) :
    Settled other now after := by
  have rows := Table.rows_of_insert? payment.inserted
  rcases settled with unspent | own
  · refine .inl ?_
    intro paired member
    rw [rows] at member
    rcases List.mem_append.mp member with earlier | new
    · exact unspent paired earlier
    · rw [List.mem_singleton.mp new]
      exact different.symm
  · refine .inr ?_
    intro later member fit
    rw [payment.invoices] at member
    obtain ⟨old, oldMember, rfl⟩ := (Table.mem_modify_iff ..).mp member
    have waiting : (fits transfer draws.now invoice) = true := (mem_of_fitting payment.fitting).2
    have oldFit : fits other now old = true := by
      split at fit
      · rename_i same
        obtain rfl := before.invoices.eq_of_key_eq oldMember (mem_of_fitting payment.fitting).1 same
        simp only [fits, Bool.and_eq_true] at fit waiting ⊢
        obtain ⟨⟨⟨⟨⟨⟨network, token⟩, address⟩, -⟩, opened⟩, open'⟩, amount⟩ := fit
        obtain ⟨⟨⟨⟨-, status⟩, -⟩, -⟩, -⟩ := waiting
        exact ⟨⟨⟨⟨⟨⟨network, token⟩, address⟩, status⟩, opened⟩, open'⟩, amount⟩
      · exact fit
    have id : (if old.id = invoice.id then old.receive transfer draws.now else old).id = old.id := by
      split <;> rfl
    rw [id, Table.find?_insert? payment.inserted]
    split
    · rfl
    · exact own old oldMember oldFit

theorem unspent_of_paid {transfer : CryptoChainTransfer} {draws : MatchDraws}
    {invoice : CryptoInvoice} (payment : Paid transfer draws before invoice after)
    (settled : Settled transfer draws.now before) : Unspent transfer before := by
  rcases settled with unspent | own
  · exact unspent
  · obtain ⟨member, fit⟩ := mem_of_fitting payment.fitting
    have paired := own invoice member fit
    rw [payment.unpaired] at paired
    cases paired

theorem ledger_matchAll {draws : String → MatchDraws} {transfers : List CryptoChainTransfer}
    {count : Nat} (stored : ∀ transfer ∈ transfers, transfer ∈ before.transfers.rows)
    (distinct : (transfers.map CryptoChainTransfer.log).Nodup)
    (settled : ∀ transfer ∈ transfers, Settled transfer (draws transfer.id).now before)
    (ledger : Ledger before.transfers before.matchRows)
    (returned : matchAll draws transfers before = .ok count after) :
    Ledger after.transfers after.matchRows := by
  let Holds (rest : List CryptoChainTransfer) (db : CryptoDb) : Prop :=
    Ledger db.transfers db.matchRows ∧ (rest.map CryptoChainTransfer.log).Nodup ∧
      ∀ other ∈ rest, (∃ row ∈ db.transfers.rows, SameTransfer row other) ∧
        Settled other (draws other.id).now db
  have start : Holds transfers before :=
    ⟨ledger, distinct, fun transfer listed =>
      ⟨⟨transfer, stored transfer listed, rfl⟩, settled transfer listed⟩⟩
  have kept : Holds [] after := by
    apply matchAll_keeps ?_ start returned
    intro transfer rest db next result holds paired
    obtain ⟨ledger, distinct, listed⟩ := holds
    rw [List.map_cons, List.nodup_cons] at distinct
    obtain ⟨⟨row, member, same⟩, settled⟩ := listed transfer (List.mem_cons_self ..)
    rcases matchTransfer_ok paired with rfl | ⟨invoice, payment⟩
    · exact ⟨ledger, distinct.2, fun other later => listed other (List.mem_cons_of_mem _ later)⟩
    · have unspent := unspent_of_paid payment settled
      refine ⟨ledger_paid member same unspent payment ledger, distinct.2, ?_⟩
      intro other later
      obtain ⟨⟨otherRow, otherMember, otherSame⟩, otherSettled⟩ :=
        listed other (List.mem_cons_of_mem _ later)
      refine ⟨stored_of_paid payment ⟨otherRow, otherMember, otherSame⟩, ?_⟩
      apply settled_paid payment ?_ otherSettled
      intro sameId
      have rowId : row.id = transfer.id := same.column CryptoChainTransfer.id fun _ => rfl
      have otherId : otherRow.id = other.id := otherSame.column CryptoChainTransfer.id fun _ => rfl
      obtain rfl := ledger.ids otherRow otherMember row member
        (otherId.trans (sameId.trans rowId.symm))
      have log : other.log = transfer.log :=
        (otherSame.column CryptoChainTransfer.log fun _ => rfl).symm.trans
          (same.column CryptoChainTransfer.log fun _ => rfl)
      exact distinct.1 (log ▸ List.mem_map_of_mem later)
  exact kept.1

theorem distinct_logs (keep : CryptoChainTransfer → Bool) (db : CryptoDb) :
    ((db.transfers.rows.filter keep).map CryptoChainTransfer.log).Nodup :=
  db.transfers.distinct.sublist (List.filter_sublist.map _)

theorem settled_candidate {invoice : CryptoInvoice} {transfer : CryptoChainTransfer} {now : Int}
    (ledger : Ledger before.transfers before.matchRows)
    (listed : transfer ∈ candidateTransfers invoice before) : Settled transfer now before := by
  obtain ⟨member, candidate⟩ := List.mem_filter.mp listed
  simp only [Bool.and_eq_true, Bool.or_eq_true, decide_eq_true_eq] at candidate
  refine .inl ?_
  intro paired pairedMember own
  obtain ⟨spent, spentMember, id, status, -⟩ := ledger.marked paired pairedMember
  obtain rfl := ledger.ids spent spentMember transfer member (id.trans own)
  rcases candidate.2 with seen | confirmed
  · rw [status] at seen
    cases seen
  · rw [status] at confirmed
    cases confirmed

theorem ledger_ended {change : CryptoInvoice → CryptoInvoice}
    {keeps : ∀ invoice, (change invoice).id = invoice.id} {invoice : CryptoInvoice}
    (ending : Ended change keeps invoice before after)
    (ledger : Ledger before.transfers before.matchRows) :
    Ledger after.transfers after.matchRows := by
  rw [ending.frame]
  exact ledger

theorem ledger_evm {scope : Scope} {startBlock now : Int} {chain : Chain} {count : Nat}
    (run : EvmRun runtime scope startBlock chain now before count after)
    (ledger : Ledger before.transfers before.matchRows) :
    Ledger after.transfers after.matchRows := by
  have opening {cursor : CryptoWatcherCursor} {opened : CryptoDb}
      (pointed : getOrCreateCursor scope.network.id scope.token.id startBlock now before =
        .ok cursor opened) : Ledger opened.transfers opened.matchRows := by
    rcases getOrCreateCursor_ok pointed with rfl | ⟨-, cursors, -, rfl⟩
    · exact ledger
    · exact ledger
  cases run with
  | idle latest cursor opened answered pointed scanned => exact opening pointed
  | scanned rpc latest cursor opened logs count final answered pointed behind fetched ran =>
      have kept : Ledger final.transfers final.matchRows :=
        ledger_scan (fun _ seen => amount_of_evmSighting seen) ledger (opening pointed) ran
      exact kept

theorem ledger_perform {op : Op} (guard : hashSettled runtime before op)
    (ledger : Ledger before.transfers before.matchRows)
    (returned : perform runtime op before = .ok () after) :
    Ledger after.transfers after.matchRows := by
  cases op with
  | createInvoice payload merchantId userId draws =>
      obtain ⟨invoice, ran⟩ := Effect.discard_ok returned
      rw [frame_of_creation (createInvoice_ok ran)]
      exact ledger
  | cancelInvoice transId merchantId draws =>
      obtain ⟨canceled, ran⟩ := Effect.discard_ok returned
      obtain ⟨invoice, -, -, ending⟩ := cancelInvoice_ok ran
      exact ledger_ended ending ledger
  | expireDueInvoices now limit callbackIds =>
      obtain ⟨count, ran⟩ := Effect.discard_ok returned
      exact expireDueInvoices_keeps ledger
        (fun invoice db next kept ended => ledger_ended ended kept) ran
  | adminCreateWallet payload fresh =>
      obtain ⟨wallet, ran⟩ := Effect.discard_ok returned
      obtain ⟨network, inserted⟩ := adminCreateWallet_ok ran
      obtain ⟨wallets, -, rfl⟩ := Option.map_eq_some_iff.mp inserted
      exact ledger
  | scanTokenLogs scope toBlock logs =>
      obtain ⟨count, ran⟩ := Effect.discard_ok returned
      exact ledger_scan (fun _ seen => amount_of_evmSighting seen) ledger ledger ran
  | runEvmOnce scope startBlock chain now =>
      obtain ⟨count, ran⟩ := Effect.discard_ok returned
      exact ledger_evm (runEvmOnce_ok ran) ledger
  | ingestTronEvents scope events =>
      obtain ⟨count, ran⟩ := Effect.discard_ok returned
      exact ledger_scan (fun _ seen => amount_of_tronSighting seen) ledger ledger ran
  | reconcileInvoice invoiceId draws =>
      obtain ⟨invoice, start, selected, rest⟩ := (Effect.bind_ok_iff ..).mp returned
      obtain ⟨-, rfl⟩ := (select_ok_iff ..).mp selected
      obtain ⟨count, ran⟩ := Effect.discard_ok rest
      exact ledger_matchAll (fun _ listed => List.mem_of_mem_filter listed) (distinct_logs _ _)
        (fun _ listed => settled_candidate ledger listed) ledger ran
  | reconcileTxHash txHash draws =>
      obtain ⟨count, ran⟩ := Effect.discard_ok returned
      exact ledger_matchAll (fun _ listed => List.mem_of_mem_filter listed) (distinct_logs _ _)
        guard ledger ran

theorem ledger_serve {op : Op} (guard : hashSettled runtime before op)
    (ledger : Ledger before.transfers before.matchRows) :
    Ledger (serve runtime before op).transfers (serve runtime before op).matchRows := by
  unfold serve
  cases ran : perform runtime op before with
  | ok value after =>
      rw [Effect.commit_of_ok ran]
      exact ledger_perform guard ledger ran
  | error failure after =>
      rw [Effect.commit_of_error ran]
      exact ledger

theorem transfers_spent_once (runtime : Runtime) (start : CryptoDb) (events : List Op)
    (unscanned : Unscanned start)
    (guarded : Run.Along (hashSettled runtime) (serve runtime) start events) :
    SpentOnce (events.foldl (serve runtime) start) := by
  apply spentOnce_of_ledger
  apply (Run.of_guarded guarded).invariant (fun db => Ledger db.transfers db.matchRows)
  · exact ledger_unscanned unscanned
  · intro db op next ledger taken
    obtain ⟨guard, rfl⟩ := taken
    exact ledger_serve guard ledger

def onePayment : List Op := [
  .createInvoice (order "r1" (some merchantAddress)) "m1" none (drawsAt 1 "i1" "w1"),
  .createInvoice (order "r2" (some merchantAddress)) "m1" none (drawsAt 2 "i2" "w2"),
  scan "0x01" merchantAddress "tr1" 3]

def reconcile (now : Int) : Op :=
  .reconcileTxHash "0x01" fun transferId => ⟨"credit-" ++ transferId, "callback-" ++ transferId, now⟩

def canceledFirst : List Op :=
  onePayment ++ [.cancelInvoice "TXi2" (some "m1") ⟨"callback", 4⟩, reconcile 5]

theorem canceled_first_spent_once : SpentOnce (canceledFirst.foldl (serve .ascii) market) := by
  apply transfers_spent_once .ascii market canceledFirst ⟨rfl, rfl⟩
  have settled : ∀ transfer ∈ transfersOf .ascii "0x01"
      ((canceledFirst.take 4).foldl (serve .ascii) market),
      ∀ invoice ∈ ((canceledFirst.take 4).foldl (serve .ascii) market).invoices.rows,
        fits transfer 5 invoice = true →
          (((canceledFirst.take 4).foldl (serve .ascii) market).matchRows.find?
            (invoice.id, transfer.id)).isSome := by decide +kernel
  exact And.intro trivial (And.intro trivial (And.intro trivial (And.intro trivial
    (And.intro (fun transfer listed => .inr (settled transfer listed)) trivial))))

theorem payment_spent_twice : ¬∀ runtime start (events : List Op), Unscanned start →
    SpentOnce (events.foldl (serve runtime) start) := by
  intro always
  have spent := always .ascii market (onePayment ++ [reconcile 4]) ⟨rfl, rfl⟩
  have recorded : ((onePayment ++ [reconcile 4]).foldl (serve .ascii) market).transfers.rows.map
      CryptoChainTransfer.id = ["tr1"] := by decide +kernel
  have pairs : (((onePayment ++ [reconcile 4]).foldl (serve .ascii) market).matchRows.rows.filter
      fun paired => paired.transferId = "tr1").length = 2 := by decide +kernel
  have listed : "tr1" ∈ ((onePayment ++ [reconcile 4]).foldl (serve .ascii) market).transfers.rows.map
      CryptoChainTransfer.id := by
    rw [recorded]
    exact List.mem_singleton_self _
  obtain ⟨transfer, member, named⟩ := List.mem_map.mp listed
  have bound := (spent transfer member).1
  rw [matchesOf, named, pairs] at bound
  omega

end ApiBank.Crypto.Spending
