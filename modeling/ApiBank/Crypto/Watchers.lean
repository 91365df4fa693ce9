import ApiBank.Crypto.Invoices

/-!
# Watchers and reconciliation

Transfers read off a chain are recorded one by one and matched as they come. A
transfer that is recorded already is refused by its unique index, and the watcher
answers with `session.rollback()`: everything since the start of the transaction is
gone. The network and token objects are expired by it when they belong to the
session, and reading them then raises.

The answers of the RPC node are given by the caller, hexadecimal quantities as
numbers. Values of TRC-20 events are digit strings, which are true even for zero.
-/

namespace ApiBank.Crypto.Watchers

open ApiBank.Db ApiBank.Numeric ApiBank.Relational ApiBank.Transition Invoices

set_option autoImplicit false

structure EvmLog where
  topics : List String
  transactionHash : String
  logIndex : Nat
  data : Nat
  blockNumber : Int
  blockHash : Option String
deriving DecidableEq, Repr

structure TronEvent where
  transactionId : Option String
  transaction : Option String
  eventIndex : Option Nat
  logIndex : Option Nat
  resultFrom : Option String
  resultUnderscoreFrom : Option String
  resultTo : Option String
  resultUnderscoreTo : Option String
  resultValue : Option Nat
  resultUnderscoreValue : Option Nat
  blockNumber : Option Nat
deriving DecidableEq, Repr

/-- What the record of a transfer draws, and then its match. -/
structure ScanDraws where
  transferId : String
  now : Int
  pairing : MatchDraws

def topicToAddress (runtime : Runtime) (topic : String) : String :=
  let chars := topic.toList
  let value := if "0x".toList.isPrefixOf chars then chars.drop 2 else chars
  "0x" ++ String.ofList (runtime.lower (value.drop (value.length - 40)))

def rawToDecimal (raw decimals : Nat) : ℚ :=
  significant contextDigits ((raw : ℚ) / 10 ^ decimals)

/-- The row of a log with at least three topics. -/
def evmTransfer (runtime : Runtime) (network : CryptoNetwork) (token : CryptoToken)
    (toBlock : Int) (log : EvmLog) (draws : ScanDraws) : Option CryptoChainTransfer :=
  match log.topics with
  | _ :: source :: target :: _ => some {
      id := draws.transferId
      networkId := network.id
      tokenId := token.id
      txHash := runtime.lowerText log.transactionHash
      logIndex := log.logIndex
      fromAddress := topicToAddress runtime source
      toAddress := normalizeAddress runtime (topicToAddress runtime target) "evm"
      amountRaw := log.data
      amountDecimal := tokenColumn (rawToDecimal log.data token.decimals)
      blockNumber := log.blockNumber
      blockHash := log.blockHash
      blockTime := some draws.now
      confirmations := max 0 (toBlock - log.blockNumber + 1)
      status := .confirmed }
  | _ => none

/-- `first or second or 0`. -/
def orZero (first second : Option Nat) : Nat := ((first.filter (· ≠ 0)).or second).getD 0

/-- `first or second or ""`. -/
def orEmpty (first second : Option String) : String := ((given first).or second).getD ""

def tronTransfer (runtime : Runtime) (network : CryptoNetwork) (token : CryptoToken)
    (event : TronEvent) (draws : ScanDraws) : Option CryptoChainTransfer :=
  let txHash := runtime.lowerText (orEmpty event.transactionId event.transaction)
  let raw := (event.resultValue.or event.resultUnderscoreValue).getD 0
  if txHash = "" then none
  else some {
    id := draws.transferId
    networkId := network.id
    tokenId := token.id
    txHash
    logIndex := orZero event.eventIndex event.logIndex
    fromAddress :=
      normalizeAddress runtime (orEmpty event.resultFrom event.resultUnderscoreFrom) "tron"
    toAddress := normalizeAddress runtime (orEmpty event.resultTo event.resultUnderscoreTo) "tron"
    amountRaw := raw
    amountDecimal := tokenColumn (rawToDecimal raw token.decimals)
    blockNumber := event.blockNumber.getD 0
    blockHash := none
    blockTime := none
    confirmations := network.minConfirmations
    status := .confirmed }

def sameId (transfer other : CryptoChainTransfer) : Bool := transfer.id = other.id

def insertTransfer? (transfer : CryptoChainTransfer) (db : CryptoDb) : Option CryptoDb :=
  (db.transfers.insertUnique? sameId transfer).map fun transfers => { db with transfers }

abbrev Sighting := CryptoChainTransfer × MatchDraws

/-- The loop over the transfers of a scan. `base` is the state at the start of the
transaction, `attached` says that network and token belong to the session and
`expired` that a rollback has expired them. -/
def scanTransfers (base : CryptoDb) (attached : Bool) : Bool → List Sighting → CryptoSession Nat
  | _, [] => pure 0
  | true, _ :: _ => throw .missingGreenlet
  | false, (transfer, draws) :: rest => fun db =>
      match insertTransfer? transfer db with
      | none => scanTransfers base attached attached rest base
      | some recorded => (do
          let _ ← matchTransfer transfer draws
          let later ← scanTransfers base attached false rest
          pure (later + 1)) recorded

/-- The transfers among the logs of a scan; the other logs are skipped before the
network or the token is read. -/
def evmSightings (runtime : Runtime) (network : CryptoNetwork) (token : CryptoToken)
    (toBlock : Int) (logs : List (EvmLog × ScanDraws)) : List Sighting :=
  logs.filterMap fun (log, draws) =>
    (evmTransfer runtime network token toBlock log draws).map fun transfer =>
      (transfer, draws.pairing)

def tronSightings (runtime : Runtime) (network : CryptoNetwork) (token : CryptoToken)
    (events : List (TronEvent × ScanDraws)) : List Sighting :=
  events.filterMap fun (event, draws) =>
    (tronTransfer runtime network token event draws).map fun transfer =>
      (transfer, draws.pairing)

/-- `network` and `token`, and whether they belong to the session of the scan. -/
structure Scope where
  network : CryptoNetwork
  token : CryptoToken
  attached : Bool

def scanTokenLogs (runtime : Runtime) (scope : Scope) (toBlock : Int)
    (logs : List (EvmLog × ScanDraws)) (base : CryptoDb) : CryptoSession Nat :=
  scanTransfers base scope.attached false
    (evmSightings runtime scope.network scope.token toBlock logs)

def ingestTronEvents (runtime : Runtime) (scope : Scope) (events : List (TronEvent × ScanDraws))
    (base : CryptoDb) : CryptoSession Nat :=
  scanTransfers base scope.attached false
    (tronSightings runtime scope.network scope.token events)

def activeRpc (networkId : String) (db : CryptoDb) : Option CryptoRpcEndpoint :=
  firstBy (fun endpoint other => endpoint.priority < other.priority)
    (db.rpcEndpoints.rows.filter fun endpoint =>
      endpoint.networkId = networkId && endpoint.status = "active")

def defaultScope (networkId tokenId : String) : String × String × String :=
  (networkId, tokenId, "default")

def newCursor (networkId tokenId : String) (startBlock now : Int) : CryptoWatcherCursor where
  networkId := networkId
  tokenId := tokenId
  walletGroupHash := "default"
  lastScannedBlock := startBlock
  lastFinalizedBlock := startBlock
  updatedAt := now

def insertCursor? (cursor : CryptoWatcherCursor) (db : CryptoDb) : Option CryptoDb :=
  (db.cursors.insert? cursor).map fun cursors => { db with cursors }

def getOrCreateCursor (networkId tokenId : String) (startBlock now : Int) :
    CryptoSession CryptoWatcherCursor := do
  match (← get).cursors.find? (defaultScope networkId tokenId) with
  | some cursor => pure cursor
  | none =>
      let cursor := newCursor networkId tokenId startBlock now
      flush (insertCursor? cursor)
      pure cursor

theorem rawToDecimal_nonneg (raw decimals : Nat) : 0 ≤ rawToDecimal raw decimals :=
  significant_nonneg _ (by positivity)

/-- A column of an amount read off the chain is not negative. -/
theorem column_of_raw_nonneg (raw decimals : Nat) : 0 ≤ tokenColumn (rawToDecimal raw decimals) :=
  fixedPoint_nonneg _ (rawToDecimal_nonneg raw decimals)

theorem amount_of_evmSighting {runtime : Runtime} {network : CryptoNetwork} {token : CryptoToken}
    {toBlock : Int} {logs : List (EvmLog × ScanDraws)} {sighting : Sighting}
    (seen : sighting ∈ evmSightings runtime network token toBlock logs) :
    0 ≤ sighting.1.amountDecimal := by
  obtain ⟨⟨log, draws⟩, -, shown⟩ := List.mem_filterMap.mp seen
  obtain ⟨transfer, read, rfl⟩ := Option.map_eq_some_iff.mp shown
  unfold evmTransfer at read
  split at read
  · cases read
    exact column_of_raw_nonneg log.data token.decimals
  · cases read

theorem amount_of_tronSighting {runtime : Runtime} {network : CryptoNetwork}
    {token : CryptoToken} {events : List (TronEvent × ScanDraws)} {sighting : Sighting}
    (seen : sighting ∈ tronSightings runtime network token events) :
    0 ≤ sighting.1.amountDecimal := by
  obtain ⟨⟨event, draws⟩, -, shown⟩ := List.mem_filterMap.mp seen
  obtain ⟨transfer, read, rfl⟩ := Option.map_eq_some_iff.mp shown
  unfold tronTransfer at read
  dsimp only at read
  split at read
  · cases read
  · cases read
    exact column_of_raw_nonneg _ token.decimals

theorem getOrCreateCursor_ok {networkId tokenId : String} {startBlock now : Int}
    {before after : CryptoDb} {cursor : CryptoWatcherCursor}
    (returned : getOrCreateCursor networkId tokenId startBlock now before = .ok cursor after) :
    before = after ∨ cursor = newCursor networkId tokenId startBlock now ∧
      ∃ cursors, before.cursors.insert? cursor = some cursors ∧
        after = { before with cursors } := by
  unfold getOrCreateCursor at returned
  obtain ⟨db, start, read, looked⟩ := (Effect.bind_ok_iff ..).mp returned
  cases read
  cases found : before.cursors.find? (defaultScope networkId tokenId) with
  | some existing =>
      simp only [found] at looked
      cases looked
      exact .inl rfl
  | none =>
      simp only [found] at looked
      obtain ⟨⟨⟩, middle, flushed, done⟩ := (Effect.bind_ok_iff ..).mp looked
      cases done
      obtain ⟨cursors, inserted, rfl⟩ :=
        Option.map_eq_some_iff.mp ((flush_ok_iff ..).mp flushed)
      exact .inr ⟨rfl, cursors, inserted, rfl⟩

/-- The assignments to the cursor are lost when its row is gone. -/
def advanceCursor (networkId tokenId : String) (toBlock finalized now : Int) (db : CryptoDb) :
    CryptoDb :=
  { db with
    cursors := db.cursors.modify (defaultScope networkId tokenId)
      (CryptoWatcherCursor.advance toBlock finalized now) fun _ => rfl }

def noteRpcOk (rpcId : String) (now : Int) (db : CryptoDb) : CryptoDb :=
  { db with
    rpcEndpoints := db.rpcEndpoints.modify rpcId
      (fun endpoint => { endpoint with
        lastOkAt := some now
        lastError := none }) fun _ => rfl }

/-- What the node answers: its latest block, and the logs of a range. -/
structure Chain where
  latest : Except Error Int
  logs : Int → Int → Except Error (List (EvmLog × ScanDraws))

def finalizedBlock (network : CryptoNetwork) (latest : Int) : Int :=
  max 0 (latest - network.minConfirmations)

def toBlock (network : CryptoNetwork) (finalized : Int) (cursor : CryptoWatcherCursor) : Int :=
  min finalized (cursor.lastScannedBlock + 1 + network.scanBatchSize - 1)

def runEvmOnce (runtime : Runtime) (scope : Scope) (startBlock : Int) (chain : Chain)
    (now : Int) : CryptoSession Nat := do
  let base ← get
  let network := scope.network
  let token := scope.token
  let rpc ← select (activeRpc network.id) (.runtimeError "no active rpc endpoint")
  let latest ← outcome chain.latest
  let finalized := finalizedBlock network latest
  let cursor ← getOrCreateCursor network.id token.id startBlock now
  if finalized ≤ cursor.lastScannedBlock then pure 0
  else
    let last := toBlock network finalized cursor
    let logs ← outcome (chain.logs (cursor.lastScannedBlock + 1) last)
    let count ← scanTokenLogs runtime scope last logs base
    modify (advanceCursor network.id token.id last finalized now)
    modify (noteRpcOk rpc.id now)
    pure count

/-- The two ways `run_evm_once` returns. -/
inductive EvmRun (runtime : Runtime) (scope : Scope) (startBlock : Int) (chain : Chain)
    (now : Int) (before : CryptoDb) : Nat → CryptoDb → Prop where
  | idle (latest : Int) (cursor : CryptoWatcherCursor) (opened : CryptoDb)
      (answered : chain.latest = .ok latest)
      (pointed : getOrCreateCursor scope.network.id scope.token.id startBlock now before =
        .ok cursor opened)
      (scanned : finalizedBlock scope.network latest ≤ cursor.lastScannedBlock) :
      EvmRun runtime scope startBlock chain now before 0 opened
  | scanned (rpc : CryptoRpcEndpoint) (latest : Int) (cursor : CryptoWatcherCursor)
      (opened : CryptoDb) (logs : List (EvmLog × ScanDraws)) (count : Nat) (final : CryptoDb)
      (answered : chain.latest = .ok latest)
      (pointed : getOrCreateCursor scope.network.id scope.token.id startBlock now before =
        .ok cursor opened)
      (behind : cursor.lastScannedBlock < finalizedBlock scope.network latest)
      (fetched : chain.logs (cursor.lastScannedBlock + 1)
        (toBlock scope.network (finalizedBlock scope.network latest) cursor) = .ok logs)
      (ran : scanTokenLogs runtime scope
        (toBlock scope.network (finalizedBlock scope.network latest) cursor) logs before opened =
          .ok count final) :
      EvmRun runtime scope startBlock chain now before count
        (noteRpcOk rpc.id now (advanceCursor scope.network.id scope.token.id
          (toBlock scope.network (finalizedBlock scope.network latest) cursor)
          (finalizedBlock scope.network latest) now final))

theorem runEvmOnce_ok {runtime : Runtime} {scope : Scope} {startBlock now : Int} {chain : Chain}
    {count : Nat} {before after : CryptoDb}
    (returned : runEvmOnce runtime scope startBlock chain now before = .ok count after) :
    EvmRun runtime scope startBlock chain now before count after := by
  unfold runEvmOnce at returned
  obtain ⟨base, start, read, asked⟩ := (Effect.bind_ok_iff ..).mp returned
  obtain ⟨rfl, rfl⟩ : before = base ∧ before = start := by simpa using read
  obtain ⟨rpc, start, selected, answered⟩ := (Effect.bind_ok_iff ..).mp asked
  obtain ⟨-, rfl⟩ := (select_ok_iff ..).mp selected
  obtain ⟨latest, start, asked, pointed⟩ := (Effect.bind_ok_iff ..).mp answered
  obtain ⟨answer, rfl⟩ := (outcome_ok_iff ..).mp asked
  obtain ⟨cursor, opened, created, scanned⟩ := (Effect.bind_ok_iff ..).mp pointed
  split at scanned
  · rename_i caughtUp
    cases scanned
    exact .idle latest cursor _ answer created caughtUp
  · rename_i behind
    obtain ⟨logs, same, fetch, scan⟩ := (Effect.bind_ok_iff ..).mp scanned
    obtain ⟨fetched, rfl⟩ := (outcome_ok_iff ..).mp fetch
    obtain ⟨inserted, final, ran, done⟩ := (Effect.bind_ok_iff ..).mp scan
    cases done
    exact .scanned rpc latest cursor _ logs _ final answer created (Int.not_le.mp behind) fetched
      ran

/-- The loop of both reconciliations: the number of transfers with an invoice. -/
def matchAll (draws : String → MatchDraws) : List CryptoChainTransfer → CryptoSession Nat
  | [] => pure 0
  | transfer :: rest => do
      let paired ← matchTransfer transfer (draws transfer.id)
      let later ← matchAll draws rest
      pure (later + if paired.isSome then 1 else 0)

/-- The unmatched transfers that look like payments of the invoice. -/
def candidateTransfers (invoice : CryptoInvoice) (db : CryptoDb) : List CryptoChainTransfer :=
  db.transfers.rows.filter fun transfer =>
    transfer.networkId = invoice.networkId && transfer.tokenId = invoice.tokenId &&
      transfer.toAddress = invoice.address && transfer.amountDecimal = invoice.payAmount &&
        (transfer.status = .seen || transfer.status = .confirmed)

def reconcileInvoice (invoice : CryptoInvoice) (draws : String → MatchDraws) :
    CryptoSession Nat := do
  matchAll draws (candidateTransfers invoice (← get))

def transfersOf (runtime : Runtime) (txHash : String) (db : CryptoDb) :
    List CryptoChainTransfer :=
  db.transfers.rows.filter fun transfer => transfer.txHash = runtime.lowerText txHash

def reconcileTxHash (runtime : Runtime) (txHash : String) (draws : String → MatchDraws) :
    CryptoSession Nat := do
  matchAll draws (transfersOf runtime txHash (← get))

end ApiBank.Crypto.Watchers
