import ApiBank.Crypto.Bookkeeping
import Mathlib.Logic.Equiv.List

/-!
# Does chain time decide who is paid

The matcher compares the window of an invoice with `transfer.block_time or utcnow()`.
The EVM watcher stores the time of its scan as the block time and the TRON watcher
stores none, so it is the scan that must fall into the window; and an invoice that the
expiry job has ended is no longer asked. Runs over one chain agree as long as every
transfer is scanned before anything else happens at its till.
-/

namespace ApiBank.Crypto.ChainTime

open ApiBank.Db ApiBank.Relational ApiBank.Transition
open Bookkeeping History Invoices Operations Settlement Watchers

set_option autoImplicit false

/-- Nothing has been ordered or paid. -/
structure Blank (db : CryptoDb) : Prop where
  invoices : db.invoices.rows = []
  transfers : db.transfers.rows = []
  matchRows : db.matchRows.rows = []

/-- What the chain shows a request that scans. -/
def sighted (runtime : Runtime) (op : Op) (before : CryptoDb) : List (LogKey × Till) :=
  (feed runtime op before).elim [] fun feed =>
    feed.sightings.map fun sighting => (sighting.1.log, transferTill sighting.1)

def sightedIn (runtime : Runtime) : CryptoDb → List Op → List (LogKey × Till)
  | _, [] => []
  | db, op :: rest => sighted runtime op db ++ sightedIn runtime (serve runtime db op) rest

/-- The openings and cancelations of a run. -/
def requestsIn (runtime : Runtime) (start : CryptoDb) (ops : List Op) : List Event :=
  (eventsOf (account runtime start ops)).filter fun event => !event.isMined

/-- The same invoices and cancelations, and the same transfers on the chain. -/
structure SameChain (runtime : Runtime) (start : CryptoDb) (first second : List Op) : Prop where
  requests : requestsIn runtime start first = requestsIn runtime start second
  sighted : ∀ sight, sight ∈ sightedIn runtime start first ↔ sight ∈ sightedIn runtime start second

/-- Every transfer is recorded by its scan, in time and before the next event of its till. -/
structure Timely (blocks : Blocks) (runtime : Runtime) (start : CryptoDb) (ops : List Op) :
    Prop where
  sound : Sound blocks (account runtime start ops)
  recorded : ∀ sight ∈ sightedIn runtime start ops,
    .mined sight.1 sight.2 ∈ eventsOf (account runtime start ops)

def Matched (db : CryptoDb) (log : LogKey) (invoiceId : String) : Prop :=
  ∃ transfer ∈ db.transfers.rows, transfer.log = log ∧ Paired transfer invoiceId db

/-- A block pays inside the window of an invoice of its till and never outside, and what
lies in the window pays unless the cancelation was asked for by then, another transfer
has paid the invoice, or the transfer has paid another invoice. -/
structure PaidByChainTime (blocks : Blocks) (events : List Event) (db : CryptoDb) : Prop where
  within : ∀ transfer ∈ db.transfers.rows, ∀ invoice ∈ db.invoices.rows,
    Paired transfer invoice.id db → invoiceTill invoice = transferTill transfer ∧
      invoice.createdAt ≤ blocks.time transfer.log ∧ blocks.time transfer.log ≤ invoice.expiresAt
  pays : ∀ transfer ∈ db.transfers.rows, ∀ invoice ∈ db.invoices.rows,
    invoiceTill invoice = transferTill transfer →
      invoice.createdAt ≤ blocks.time transfer.log →
        blocks.time transfer.log ≤ invoice.expiresAt →
          (∃ now ≤ blocks.time transfer.log,
              .canceled invoice.id (invoiceTill invoice) now ∈ events) ∨
            (∃ log, Matched db log invoice.id) ∨ ∃ id, Matched db transfer.log id

instance (db : CryptoDb) (log : LogKey) (invoiceId : String) :
    Decidable (Matched db log invoiceId) :=
  inferInstanceAs (Decidable (∃ transfer ∈ db.transfers.rows, transfer.log = log ∧
    (db.matchRows.find? (invoiceId, transfer.id)).isSome = true))

variable {blocks : Blocks} {runtime : Runtime} {start : CryptoDb} {ops first second : List Op}

theorem tells_blank (blank : Blank start) : Tells blocks [] start where
  bills := by
    intro till
    rw [rowsAt, blank.invoices]
    exact .nil
  pairs := by
    intro till log id
    rw [blank.transfers]
    simp [settle_nil, Desk.vacant]
  mined := by
    rw [blank.transfers]
    rfl
  ids := by simp [blank.transfers]
  stored := by simp [blank.matchRows]

theorem tells_run (blank : Blank start) (sound : Sound blocks (account runtime start ops)) :
    Tells blocks (eventsOf (account runtime start ops)) (ops.foldl (serve runtime) start) := by
  have follows : Follows blocks [] start := fun _ => tells_blank blank
  exact follows_run ops follows sound

/-- A scan tells of no transfer that it was not shown. -/
theorem taken_of_scanNotes {base db : CryptoDb} {attached expired : Bool}
    {sightings : List Sighting} {made : List Note} {note : Note}
    (listed : note ∈ scanNotes base attached expired sightings made db) :
    note ∈ made ∨ ∃ sighting ∈ sightings, ∃ now recorded, note = .taken sighting.1 now recorded := by
  induction sightings generalizing expired made db with
  | nil =>
      cases expired <;> exact .inl listed
  | cons sighting rest ih =>
      obtain ⟨transfer, draws⟩ := sighting
      have later : (∃ sighting ∈ rest, ∃ now recorded, note = .taken sighting.1 now recorded) →
          ∃ sighting ∈ (transfer, draws) :: rest, ∃ now recorded,
            note = .taken sighting.1 now recorded := by
        rintro ⟨sighting, member, taken⟩
        exact ⟨sighting, List.mem_cons_of_mem _ member, taken⟩
      cases expired with
      | true => cases listed
      | false =>
          simp only [scanNotes] at listed
          split at listed
          · rcases ih listed with none | taken
            · cases none
            · exact .inr (later taken)
          · rename_i recorded _
            split at listed
            · rcases ih listed with known | taken
              · rcases List.mem_append.mp known with known | new
                · exact .inl known
                · exact .inr ⟨_, List.mem_cons_self, draws.now, recorded, List.mem_singleton.mp new⟩
              · exact .inr (later taken)
            · cases listed

theorem mined_of_feed {op : Op} {before : CryptoDb} {log : LogKey} {till : Till}
    (mined : .mined log till ∈ eventsOf ((feed runtime op before).elim [] (Feed.notes before))) :
    (log, till) ∈ sighted runtime op before := by
  unfold sighted
  cases fed : feed runtime op before with
  | none =>
      rw [fed] at mined
      cases mined
  | some feed =>
      rw [fed] at mined
      obtain ⟨note, listed, shown⟩ := List.mem_filterMap.mp mined
      rcases taken_of_scanNotes listed with none | ⟨sighting, member, now, recorded, rfl⟩
      · cases none
      · obtain ⟨rfl, rfl⟩ := Event.mined.inj (Option.some.inj shown)
        exact List.mem_map_of_mem member

/-- Every transfer that is told of was on the chain. -/
theorem mined_of_notes {op : Op} {before : CryptoDb} {log : LogKey} {till : Till}
    (mined : .mined log till ∈ eventsOf (notesOf runtime op before)) :
    (log, till) ∈ sighted runtime op before := by
  cases op with
  | createInvoice payload merchantId userId draws =>
      obtain ⟨note, listed, shown⟩ := List.mem_filterMap.mp mined
      obtain ⟨invoice, -, rfl⟩ := List.mem_map.mp listed
      cases shown
  | cancelInvoice transId merchantId draws =>
      obtain ⟨note, listed, shown⟩ := List.mem_filterMap.mp mined
      obtain ⟨invoice, -, rfl⟩ := List.mem_map.mp listed
      cases shown
  | expireDueInvoices now limit callbackIds => exact mined_of_feed mined
  | adminCreateWallet payload fresh => exact mined_of_feed mined
  | scanTokenLogs scope toBlock logs => exact mined_of_feed mined
  | runEvmOnce scope startBlock chain now => exact mined_of_feed mined
  | ingestTronEvents scope events => exact mined_of_feed mined
  | reconcileInvoice invoiceId draws =>
      simp only [notesOf] at mined
      cases found : before.invoices.find? invoiceId with
      | none =>
          rw [found] at mined
          cases mined
      | some invoice =>
          simp only [found, eventsOf_matchNotes] at mined
          cases mined
  | reconcileTxHash txHash draws =>
      simp only [notesOf, eventsOf_matchNotes] at mined
      cases mined

theorem sighted_of_mined {log : LogKey} {till : Till}
    (mined : .mined log till ∈ eventsOf (account runtime start ops)) :
    (log, till) ∈ sightedIn runtime start ops := by
  induction ops generalizing start with
  | nil => cases mined
  | cons op rest ih =>
      rw [account, eventsOf_append] at mined
      rw [sightedIn]
      rcases List.mem_append.mp mined with here | later
      · unfold told at here
        split at here
        · exact List.mem_append_left _ (mined_of_notes here)
        · cases here
      · exact List.mem_append_right _ (ih later)

/-- The blocks of a history are its transfers, in the order of their records. -/
theorem filter_mined (events : List Event) :
    events.filter Event.isMined =
      (events.filterMap Event.mined?).map fun sight => .mined sight.1 sight.2 := by
  induction events with
  | nil => rfl
  | cons event rest ih =>
      cases event with
      | opened id till createdAt expiresAt => exact ih
      | canceled id till now => exact ih
      | mined log till => exact congrArg (Event.mined log till :: ·) ih

theorem blocks_of_run (blank : Blank start) (sound : Sound blocks (account runtime start ops)) :
    (eventsOf (account runtime start ops)).filter Event.isMined =
      (ops.foldl (serve runtime) start).transfers.rows.map fun transfer =>
        .mined transfer.log (transferTill transfer) := by
  rw [filter_mined, (tells_run blank sound).mined, List.map_map]
  rfl

theorem blocks_distinct (blank : Blank start) (sound : Sound blocks (account runtime start ops)) :
    ((eventsOf (account runtime start ops)).filter Event.isMined).Nodup := by
  rw [blocks_of_run blank sound]
  apply List.Nodup.of_map (fun event => (Event.mined? event).map Prod.fst)
  have logs := (ops.foldl (serve runtime) start).transfers.distinct.map (Option.some_injective _)
  rw [List.map_map] at logs ⊢
  exact logs

theorem same_books (blank : Blank start) (same : SameChain runtime start first second)
    (timely : Timely blocks runtime start first) (timelyToo : Timely blocks runtime start second)
    (till : Till) :
    settle blocks (eventsOf (account runtime start first)) till =
      settle blocks (eventsOf (account runtime start second)) till := by
  apply settled_alike timely.sound.ordered timelyToo.sound.ordered same.requests
  · apply (List.perm_ext_iff_of_nodup (blocks_distinct blank timely.sound)
      (blocks_distinct blank timelyToo.sound)).mpr
    have shared : ∀ {left right : List Op}, Timely blocks runtime start right →
        (∀ sight, sight ∈ sightedIn runtime start left → sight ∈ sightedIn runtime start right) →
          ∀ event ∈ (eventsOf (account runtime start left)).filter Event.isMined,
            event ∈ (eventsOf (account runtime start right)).filter Event.isMined := by
      intro left right complete shown event listed
      obtain ⟨told, kind⟩ := List.mem_filter.mp listed
      cases event with
      | opened id till createdAt expiresAt => cases kind
      | canceled id till now => cases kind
      | mined log till =>
          have seen := shown _ (sighted_of_mined told)
          exact List.mem_filter.mpr ⟨complete.recorded _ seen, rfl⟩
    intro event
    exact ⟨shared timelyToo (fun sight => (same.sighted sight).mp) event,
      shared timely (fun sight => (same.sighted sight).mpr) event⟩
  · intro log till mined
    have listed : .mined log till ∈ (eventsOf (account runtime start first)).filter
        Event.isMined := List.mem_filter.mpr ⟨mined, rfl⟩
    rw [blocks_of_run blank timely.sound] at listed
    obtain ⟨transfer, -, shown⟩ := List.mem_map.mp listed
    obtain ⟨rfl, rfl⟩ := Event.mined.inj shown
    rfl

/-- A match is a payment in the books of some till. -/
theorem matched_iff (blank : Blank start) (sound : Sound blocks (account runtime start ops))
    (log : LogKey) (id : String) :
    Matched (ops.foldl (serve runtime) start) log id ↔
      ∃ till, (log, id) ∈ (settle blocks (eventsOf (account runtime start ops)) till).pairs := by
  have tells := tells_run blank sound
  constructor
  · rintro ⟨transfer, member, keyed, paired⟩
    exact ⟨transferTill transfer, (tells.pairs ..).mpr ⟨transfer, member, keyed, rfl, paired⟩⟩
  · rintro ⟨till, paid⟩
    obtain ⟨transfer, member, keyed, -, paired⟩ := (tells.pairs ..).mp paid
    exact ⟨transfer, member, keyed, paired⟩

theorem paid_by_chain_time (blank : Blank start)
    (sound : Sound blocks (account runtime start ops)) :
    PaidByChainTime blocks (eventsOf (account runtime start ops))
      (ops.foldl (serve runtime) start) := by
  have tells := tells_run blank sound
  have listed : ∀ invoice ∈ (ops.foldl (serve runtime) start).invoices.rows,
      invoice ∈ rowsAt (invoiceTill invoice) (ops.foldl (serve runtime) start) :=
    fun invoice member => List.mem_filter.mpr ⟨member, by simp⟩
  constructor
  · intro transfer member invoice invoiceMember paired
    have paid := (tells.pairs (transferTill transfer) transfer.log invoice.id).mpr
      ⟨transfer, member, rfl, rfl, paired⟩
    have explained : Explained blocks _ (transferTill transfer) _ :=
      explained_settle sound.ordered
    obtain ⟨-, bill, billed, named, covers⟩ := explained.paid _ paid
    obtain ⟨row, rowListed, agrees⟩ := row_of_bill (tells.bills _) billed
    obtain ⟨rowMember, own⟩ := List.mem_filter.mp rowListed
    obtain rfl := (ops.foldl (serve runtime) start).invoices.eq_of_key_eq rowMember invoiceMember
      (agrees.id.symm.trans named)
    refine ⟨by simpa using own, ?_, ?_⟩
    · rw [← agrees.createdAt]
      exact covers.1
    · rw [← agrees.expiresAt]
      exact covers.2
  · intro transfer member invoice invoiceMember own created due
    have explained : Explained blocks _ (invoiceTill invoice) _ := explained_settle sound.ordered
    obtain ⟨bill, billed, agrees⟩ := bill_of_row (tells.bills _) (listed invoice invoiceMember)
    have mined : .mined transfer.log (invoiceTill invoice) ∈
        (eventsOf (account runtime start ops)).filter Event.isMined := by
      rw [blocks_of_run blank sound, own]
      exact List.mem_map_of_mem member
    have covers : bill.covers (blocks.time transfer.log) := by
      rw [Bill.covers, agrees.createdAt, agrees.expiresAt]
      exact ⟨created, due⟩
    have served := explained.served _ (List.mem_filter.mp mined).1 bill billed covers
    rw [agrees.id] at served
    rcases served with canceled | ⟨log, paid⟩ | ⟨id, paid⟩
    · exact .inl canceled
    · exact .inr (.inl ⟨log, (matched_iff blank sound log invoice.id).mpr ⟨_, paid⟩⟩)
    · exact .inr (.inr ⟨id, (matched_iff blank sound transfer.log id).mpr ⟨_, paid⟩⟩)

theorem chain_time_decides (blank : Blank start) (same : SameChain runtime start first second)
    (timely : Timely blocks runtime start first)
    (timelyToo : Timely blocks runtime start second) :
    (∀ log id, Matched (first.foldl (serve runtime) start) log id ↔
        Matched (second.foldl (serve runtime) start) log id) ∧
      PaidByChainTime blocks (eventsOf (account runtime start first))
        (first.foldl (serve runtime) start) := by
  refine ⟨?_, paid_by_chain_time blank timely.sound⟩
  intro log id
  rw [matched_iff blank timely.sound, matched_iff blank timelyToo.sound]
  simp only [same_books blank same timely timelyToo]

def oneBlock : Blocks where
  time := fun _ => 100
  index := fun log => Encodable.encode (log.2.1.toList.map Char.toNat, log.2.2)
  distinct := by
    intro first second network _ rank
    obtain ⟨text, number⟩ := Prod.mk.inj (Encodable.encode_injective rank)
    have hash : first.2.1 = second.2.1 := String.toList_injective
      (List.map_injective_iff.mpr (fun _ _ => Char.toNat_inj.mp) text)
    exact Prod.ext network (Prod.ext hash number)

def opening : Op :=
  .createInvoice (order "r1" (some merchantAddress)) "m1" none (drawsAt 1 "i1" "w1")

def promptScan : List Op := [
  opening,
  scan "0x01" merchantAddress "tr1" 200,
  .expireDueInvoices (seconds 3600) 500 id]

/-- Scanned a little later, between two runs of the expiry job, and reconciled. -/
def unhurriedScan : List Op := [
  opening,
  .expireDueInvoices 150 500 id,
  scan "0x01" merchantAddress "tr2" 300,
  .reconcileTxHash "0x01" fun transferId => ⟨"credit-" ++ transferId, "callback", 400⟩]

/-- Scanned when the invoice is past its date. -/
def lateScan : List Op := [
  opening,
  scan "0x01" merchantAddress "tr1" (seconds 3600)]

theorem same_chain_unhurried : SameChain .ascii market promptScan unhurriedScan where
  requests := by decide +kernel
  sighted := by
    intro sight
    have shown : sightedIn .ascii market promptScan = sightedIn .ascii market unhurriedScan := by
      decide +kernel
    rw [shown]

theorem prompt_and_unhurried_match_alike :
    Blank market ∧ SameChain .ascii market promptScan unhurriedScan ∧
      ∀ log id, Matched (promptScan.foldl (serve .ascii) market) log id ↔
        Matched (unhurriedScan.foldl (serve .ascii) market) log id := by
  refine ⟨⟨rfl, rfl, rfl⟩, same_chain_unhurried, ?_⟩
  have timely : Timely oneBlock .ascii market promptScan :=
    ⟨⟨by decide +kernel, by decide +kernel⟩, by decide +kernel⟩
  have timelyToo : Timely oneBlock .ascii market unhurriedScan :=
    ⟨⟨by decide +kernel, by decide +kernel⟩, by decide +kernel⟩
  exact (chain_time_decides ⟨rfl, rfl, rfl⟩ same_chain_unhurried timely timelyToo).1

theorem late_scan_pays_nobody : ¬∀ runtime start (first second : List Op), Blank start →
    SameChain runtime start first second → ∀ log id,
      Matched (first.foldl (serve runtime) start) log id ↔
        Matched (second.foldl (serve runtime) start) log id := by
  intro always
  have same : SameChain .ascii market promptScan lateScan := by
    refine ⟨by decide +kernel, ?_⟩
    intro sight
    have shown : sightedIn .ascii market promptScan = sightedIn .ascii market lateScan := by
      decide +kernel
    rw [shown]
  have paid : Matched (promptScan.foldl (serve .ascii) market) ("n1", "0x01", 0) "i1" := by
    decide +kernel
  have unpaid : ¬Matched (lateScan.foldl (serve .ascii) market) ("n1", "0x01", 0) "i1" := by
    decide +kernel
  exact unpaid ((always .ascii market promptScan lateScan ⟨rfl, rfl, rfl⟩ same _ _).mp paid)

end ApiBank.Crypto.ChainTime
