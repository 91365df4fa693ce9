import ApiBank.Crypto.Operations
import ApiBank.Crypto.Settlement

/-!
# Histories of the crypto tables

A run told as events at tills: which invoices it opened, which cancelations it was
asked for, which transfers it recorded. Each match keeps the tables that it read, so
that a condition on the run can speak of them. What a scan undid by a rollback is not
told.
-/

namespace ApiBank.Crypto.History

open ApiBank.Db ApiBank.Relational ApiBank.Transition Invoices Operations Settlement Watchers

set_option autoImplicit false

def invoiceTill (invoice : CryptoInvoice) : Till :=
  ⟨invoice.networkId, invoice.tokenId, invoice.address, invoice.payAmount⟩

def transferTill (transfer : CryptoChainTransfer) : Till :=
  ⟨transfer.networkId, transfer.tokenId, transfer.toAddress, transfer.amountDecimal⟩

theorem fits_iff (transfer : CryptoChainTransfer) (now : Int) (invoice : CryptoInvoice) :
    fits transfer now invoice = true ↔ invoiceTill invoice = transferTill transfer ∧
      invoice.status.isWaiting = true ∧ invoice.createdAt ≤ transferTime transfer now ∧
        transferTime transfer now ≤ invoice.expiresAt := by
  simp only [fits, invoiceTill, transferTill, Bool.and_eq_true, decide_eq_true_eq, Till.mk.injEq]
  tauto

/-- What a request does to the tills: `taken` records a transfer and matches it,
`again` matches one that was recorded before. -/
inductive Note where
  | opened (invoice : CryptoInvoice)
  | canceled (invoice : CryptoInvoice) (now : Int)
  | taken (transfer : CryptoChainTransfer) (now : Int) (db : CryptoDb)
  | again (transfer : CryptoChainTransfer) (now : Int) (db : CryptoDb)

def Note.event : Note → Option Event
  | .opened invoice =>
      some (.opened invoice.id (invoiceTill invoice) invoice.createdAt invoice.expiresAt)
  | .canceled invoice now => some (.canceled invoice.id (invoiceTill invoice) now)
  | .taken transfer _ _ => some (.mined transfer.log (transferTill transfer))
  | .again .. => none

def eventsOf (notes : List Note) : List Event := notes.filterMap Note.event

/-- The transfers that a scan goes through, and the state its loop starts in. -/
structure Feed where
  attached : Bool
  sightings : List Sighting
  opened : CryptoDb

/-- What a request scans: given logs or events, or those of the blocks that a run of
the EVM watcher fetches. -/
def feed (runtime : Runtime) (op : Op) (before : CryptoDb) : Option Feed :=
  match op with
  | .scanTokenLogs scope toBlock logs =>
      some ⟨scope.attached, evmSightings runtime scope.network scope.token toBlock logs, before⟩
  | .ingestTronEvents scope events =>
      some ⟨scope.attached, tronSightings runtime scope.network scope.token events, before⟩
  | .runEvmOnce scope startBlock chain now =>
      match activeRpc scope.network.id before, chain.latest,
          getOrCreateCursor scope.network.id scope.token.id startBlock now before with
      | some _, .ok latest, .ok cursor opened =>
          let finalized := finalizedBlock scope.network latest
          let last := toBlock scope.network finalized cursor
          if finalized ≤ cursor.lastScannedBlock then none
          else
            match chain.logs (cursor.lastScannedBlock + 1) last with
            | .ok logs => some ⟨scope.attached,
                evmSightings runtime scope.network scope.token last logs, opened⟩
            | .error _ => none
      | _, _, _ => none
  | _ => none

def scanNotes (base : CryptoDb) (attached : Bool) :
    Bool → List Sighting → List Note → CryptoDb → List Note
  | _, [], notes, _ => notes
  | true, _ :: _, _, _ => []
  | false, (transfer, draws) :: rest, notes, db =>
      match insertTransfer? transfer db with
      | none => scanNotes base attached attached rest [] base
      | some recorded =>
          match matchTransfer transfer draws recorded with
          | .ok _ next => scanNotes base attached false rest
              (notes ++ [.taken transfer draws.now recorded]) next
          | .error _ _ => []

def Feed.notes (before : CryptoDb) (feed : Feed) : List Note :=
  scanNotes before feed.attached false feed.sightings [] feed.opened

def matchNotes (draws : String → MatchDraws) : List CryptoChainTransfer → CryptoDb → List Note
  | [], _ => []
  | transfer :: rest, db =>
      .again transfer (draws transfer.id).now db ::
        match matchTransfer transfer (draws transfer.id) db with
        | .ok _ next => matchNotes draws rest next
        | .error _ _ => []

/-- What a request notes when nothing keeps it from its work. -/
def notesOf (runtime : Runtime) (op : Op) (before : CryptoDb) : List Note :=
  match op with
  | .createInvoice .. =>
      ((serve runtime before op).invoices.rows.drop before.invoices.rows.length).map .opened
  | .cancelInvoice transId merchantId draws =>
      (invoiceOf transId merchantId before).toList.map fun invoice => .canceled invoice draws.now
  | .reconcileInvoice invoiceId draws =>
      match before.invoices.find? invoiceId with
      | none => []
      | some invoice => matchNotes draws (candidateTransfers invoice before) before
  | .reconcileTxHash txHash draws => matchNotes draws (transfersOf runtime txHash before) before
  | op => (feed runtime op before).elim [] (Feed.notes before)

/-- A cancelation that comes too late. -/
def refused (op : Op) (before : CryptoDb) : Bool :=
  match op with
  | .cancelInvoice transId merchantId _ =>
      (invoiceOf transId merchantId before).any fun invoice => !invoice.status.isWaiting
  | _ => false

/-- A request that raises is not told, but for a cancelation that comes too late. -/
def told (runtime : Runtime) (op : Op) (before : CryptoDb) : List Note :=
  if Effect.returns (perform runtime op) before || refused op before then notesOf runtime op before
  else []

/-- The notes of a run. -/
def account (runtime : Runtime) : CryptoDb → List Op → List Note
  | _, [] => []
  | db, op :: rest => told runtime op db ++ account runtime (serve runtime db op) rest

/-- A match that is made in time: after the block, and with every invoice that was due
at the block still waiting and still due. What was recorded before finds no invoice
but those that it has paid. -/
def Note.InTime (blocks : Blocks) : Note → Prop
  | .taken transfer now db =>
      blocks.time transfer.log ≤ transferTime transfer now ∧
        ∀ invoice ∈ db.invoices.rows, invoiceTill invoice = transferTill transfer →
          invoice.status.isWaiting = true ∨ invoice.status = .expired →
            blocks.time transfer.log ≤ invoice.expiresAt →
              invoice.status.isWaiting = true ∧ transferTime transfer now ≤ invoice.expiresAt
  | .again transfer now db =>
      ∀ invoice ∈ (fittingInvoice transfer now db).toList,
        (db.matchRows.find? (invoice.id, transfer.id)).isSome
  | _ => True

instance (blocks : Blocks) (note : Note) : Decidable (note.InTime blocks) := by
  cases note <;> unfold Note.InTime <;> infer_instance

/-- Every match is made in time, and each till is told of its events in the order in
which they happened. -/
structure Sound (blocks : Blocks) (notes : List Note) : Prop where
  inTime : ∀ note ∈ notes, note.InTime blocks
  ordered : InChainOrder blocks (eventsOf notes)

theorem eventsOf_append (first second : List Note) :
    eventsOf (first ++ second) = eventsOf first ++ eventsOf second := List.filterMap_append

theorem Sound.front {blocks : Blocks} {first second : List Note}
    (sound : Sound blocks (first ++ second)) : Sound blocks first where
  inTime := fun note listed => sound.inTime note (List.mem_append_left _ listed)
  ordered := by
    have ordered := sound.ordered
    rw [eventsOf_append] at ordered
    exact (List.pairwise_append.mp ordered).1

end ApiBank.Crypto.History
