import ApiBank.Crypto.Scans
import ApiBank.Transition.Run

/-!
# Coverage of the EVM cursor

Polls of one network and token, one after another, each committed when it returns. The
books of a run keep the scans that returned and the block that the cursor was created
at. A duplicate rolls the transaction back, and with it a cursor that the same poll has
created: then the poll returns and has advanced nothing.
-/

namespace ApiBank.Crypto.CursorCoverage

open ApiBank.Db ApiBank.Relational ApiBank.Transition Invoices Operations Watchers Scans

set_option autoImplicit false

/-- The arguments of one `run_evm_once`, and what the node answers. -/
structure Poll where
  attached : Bool
  startBlock : Nat
  chain : Chain
  now : Int

/-- The range of a scan, and the head of the chain that it was made for. -/
structure Scan where
  first : Int
  last : Int
  latest : Int

/-- The database, the block that the cursor started from, and the scans so far. -/
structure Books where
  db : CryptoDb
  origin : Option Int
  scans : List Scan

variable (runtime : Runtime) (network : CryptoNetwork) (token : CryptoToken)

def Poll.run (poll : Poll) : CryptoSession Nat :=
  runEvmOnce runtime ⟨network, token, poll.attached⟩ poll.startBlock poll.chain poll.now

def cursorAt (db : CryptoDb) : Option CryptoWatcherCursor :=
  db.cursors.find? (defaultScope network.id token.id)

def position (db : CryptoDb) (poll : Poll) : Int :=
  (cursorAt network token db).elim poll.startBlock CryptoWatcherCursor.lastScannedBlock

def headAhead (db : CryptoDb) (poll : Poll) : Option Int :=
  match poll.chain.latest with
  | .ok latest =>
      if position network token db poll < finalizedBlock network latest then some latest else none
  | .error _ => none

def batchEnd (db : CryptoDb) (poll : Poll) (latest : Int) : Int :=
  min (finalizedBlock network latest)
    (position network token db poll + 1 + network.scanBatchSize - 1)

def scanOf (db : CryptoDb) (poll : Poll) : Option Scan :=
  if Effect.returns (poll.run runtime network token) db then
    (headAhead network token db poll).map fun latest =>
      ⟨position network token db poll + 1, batchEnd network token db poll latest, latest⟩
  else none

def pollOnce (books : Books) (poll : Poll) : Books :=
  let db := Effect.commit (poll.run runtime network token) books.db
  { db
    origin := books.origin.or ((cursorAt network token db).map fun _ => poll.startBlock)
    scans := books.scans ++ (scanOf runtime network token books.db poll).toList }

def Books.opening (db : CryptoDb) : Books where
  db
  origin := (cursorAt network token db).map CryptoWatcherCursor.lastScannedBlock
  scans := []

def Covered (books : Books) : Prop :=
  ∀ cursor, cursorAt network token books.db = some cursor → ∃ origin, books.origin = some origin ∧
    ∀ block, origin < block → block ≤ cursor.lastScannedBlock →
      ∃ scan ∈ books.scans, scan.first ≤ block ∧ block ≤ scan.last

/-- Every scan kept its distance from the head of the chain. -/
def Finalized (books : Books) : Prop :=
  ∀ scan ∈ books.scans, scan.last ≤ scan.latest - network.minConfirmations

/-- What a poll is to make of the books. -/
structure PollsWell (books : Books) (poll : Poll) (after : Books) : Prop where
  rises : ∀ cursor, cursorAt network token books.db = some cursor →
    ∃ later, cursorAt network token after.db = some later ∧
      cursor.lastScannedBlock ≤ later.lastScannedBlock
  covered : Covered network token after
  finalized : Finalized network after
  advances : Effect.returns (poll.run runtime network token) books.db = true →
    (headAhead network token books.db poll).isSome → ∃ later,
      cursorAt network token after.db = some later ∧
        position network token books.db poll + 1 ≤ later.lastScannedBlock ∧
          later.lastScannedBlock ≤ position network token books.db poll + network.scanBatchSize

/-- No transfer of the scan was recorded before, or is listed twice. -/
structure AllNew (db : CryptoDb) (sightings : List Sighting) : Prop where
  unrecorded : ∀ sighting ∈ sightings, ¬Known db sighting
  distinct : (sightings.map logOf).Nodup
  ids : FreshIds db sightings

instance (db : CryptoDb) (sightings : List Sighting) : Decidable (AllNew db sightings) :=
  decidable_of_iff
    ((∀ sighting ∈ sightings, ¬Known db sighting) ∧ (sightings.map logOf).Nodup ∧
      FreshIds db sightings)
    ⟨fun new => ⟨new.1, new.2.1, new.2.2⟩, fun new => ⟨new.unrecorded, new.distinct, new.ids⟩⟩

def Returning (books : Books) (poll : Poll) : Prop :=
  Effect.returns (poll.run runtime network token) books.db = true

def CreatesUndisturbed (books : Books) (poll : Poll) : Prop :=
  cursorAt network token books.db = none →
    ∀ latest, headAhead network token books.db poll = some latest →
      ∀ logs, poll.chain.logs (poll.startBlock + 1)
          (batchEnd network token books.db poll latest) = .ok logs →
        AllNew books.db (evmSightings runtime network token
          (batchEnd network token books.db poll latest) logs)

section Scanning

variable {base db after : CryptoDb}

theorem cursors_of_match {transfer : CryptoChainTransfer} {draws : MatchDraws}
    {result : Option CryptoInvoice} (returned : matchTransfer transfer draws db = .ok result after) :
    after.cursors = db.cursors := by
  rcases matchTransfer_ok returned with rfl | ⟨invoice, payment⟩
  · rfl
  · rw [payment.frame]

/-- A scan keeps the cursors, or falls back to those of the start of its transaction. -/
theorem cursors_of_scan {attached expired : Bool} {sightings : List Sighting} {count : Nat}
    (returned : scanTransfers base attached expired sightings db = .ok count after) :
    after.cursors = db.cursors ∨ after.cursors = base.cursors := by
  let Holds (next : CryptoDb) : Prop := next.cursors = db.cursors ∨ next.cursors = base.cursors
  have fallback : Holds base := .inr rfl
  have start : Holds db := .inl rfl
  have kept : Holds after := by
    apply scanTransfers_keeps fallback ?_ start returned
    intro transfer draws _ state recorded next result holds inserted paired
    have same : next.cursors = state.cursors := by
      rw [cursors_of_match paired, (transfers_of_recorded inserted).2.2]
    exact holds.imp same.trans same.trans
  exact kept

theorem allNew_congr {other : CryptoDb} (tracks : Tracks db [] other)
    (sightings : List Sighting) : AllNew other sightings ↔ AllNew db sightings := by
  have logs : other.transfers.rows.map CryptoChainTransfer.log =
      db.transfers.rows.map CryptoChainTransfer.log := by simpa using tracks.logs
  have ids : other.transfers.rows.map CryptoChainTransfer.id =
      db.transfers.rows.map CryptoChainTransfer.id := by simpa using tracks.ids
  have unused (sighting : Sighting) : (∀ row ∈ other.transfers.rows, row.id ≠ idOf sighting) ↔
      ∀ row ∈ db.transfers.rows, row.id ≠ idOf sighting := by
    have listed := congrArg (idOf sighting ∈ ·) ids
    simp only [List.mem_map, eq_iff_iff] at listed
    have negated := not_congr listed
    simpa using negated
  constructor
  · intro new
    refine ⟨?_, new.distinct, new.ids.distinct, fun sighting member =>
      (unused sighting).mp (new.ids.unused sighting member)⟩
    intro sighting member
    have fresh := new.unrecorded sighting member
    rw [Known, logs] at fresh
    exact fresh
  · intro new
    refine ⟨?_, new.distinct, new.ids.distinct, fun sighting member =>
      (unused sighting).mpr (new.ids.unused sighting member)⟩
    intro sighting member
    rw [Known, logs]
    exact new.unrecorded sighting member

theorem allNew_nil (db : CryptoDb) : AllNew db [] where
  unrecorded := by
    intro sighting member
    cases member
  distinct := List.nodup_nil
  ids := {
    distinct := List.nodup_nil
    unused := by
      intro sighting member
      cases member }

/-- The first transfer of a scan is refused when it is not new; when it is accepted the
rest has to be new beside it. -/
theorem allNew_cons_iff {transfer : CryptoChainTransfer} {draws : MatchDraws}
    {rest : List Sighting} {recorded : CryptoDb}
    (inserted : insertTransfer? transfer db = some recorded) :
    AllNew db ((transfer, draws) :: rest) ↔ AllNew recorded rest := by
  obtain ⟨separate, grown, frame⟩ := transfers_of_recorded inserted
  have rows := Table.rows_of_insert? grown
  have fresh := (Table.find?_eq_none_iff ..).mp (Table.fresh_of_insert? grown)
  have unknown : ¬Known db (transfer, draws) := by
    intro known
    obtain ⟨row, member, same⟩ := List.mem_map.mp known
    exact fresh row member same
  have unused : ∀ row ∈ db.transfers.rows, row.id ≠ transfer.id := by
    intro row member same
    have apart := separate row member
    simp [sameId, same] at apart
  have known_iff (sighting : Sighting) : Known recorded sighting ↔
      Known db sighting ∨ logOf sighting = transfer.log := by
    unfold Known
    rw [rows, List.map_append, List.mem_append, List.map_singleton, List.mem_singleton]
  constructor
  · intro new
    have logs := List.nodup_cons.mp new.distinct
    have ids := List.nodup_cons.mp new.ids.distinct
    refine ⟨?_, logs.2, ids.2, ?_⟩
    · intro sighting member known
      rcases (known_iff sighting).mp known with old | same
      · exact new.unrecorded sighting (List.mem_cons_of_mem _ member) old
      · have taken : logOf sighting = logOf (transfer, draws) := same
        exact logs.1 (taken ▸ List.mem_map_of_mem member)
    · intro sighting member row listed
      rw [rows] at listed
      rcases List.mem_append.mp listed with old | own
      · exact new.ids.unused sighting (List.mem_cons_of_mem _ member) row old
      · rw [List.mem_singleton.mp own]
        intro same
        have taken : idOf (transfer, draws) = idOf sighting := same
        exact ids.1 (taken ▸ List.mem_map_of_mem member)
  · intro new
    have last : transfer ∈ recorded.transfers.rows := by
      rw [rows]
      exact List.mem_append_right _ (List.mem_singleton_self transfer)
    refine ⟨?_, ?_, ?_, ?_⟩
    · intro sighting member
      rcases List.mem_cons.mp member with rfl | later
      · exact unknown
      · intro known
        exact new.unrecorded sighting later ((known_iff sighting).mpr (.inl known))
    · refine List.nodup_cons.mpr ⟨?_, new.distinct⟩
      intro listed
      obtain ⟨sighting, member, same⟩ := List.mem_map.mp listed
      exact new.unrecorded sighting member ((known_iff sighting).mpr (.inr same))
    · refine List.nodup_cons.mpr ⟨?_, new.ids.distinct⟩
      intro listed
      obtain ⟨sighting, member, same⟩ := List.mem_map.mp listed
      exact new.ids.unused sighting member transfer last same.symm
    · intro sighting member row old
      rcases List.mem_cons.mp member with rfl | later
      · exact unused row old
      · exact new.ids.unused sighting later row (by rw [rows]; exact List.mem_append_left _ old)

theorem refused_of_head {transfer : CryptoChainTransfer} {draws : MatchDraws}
    {rest : List Sighting} (refused : insertTransfer? transfer db = none) :
    ¬AllNew db ((transfer, draws) :: rest) := by
  intro new
  have head := List.mem_cons_self (a := (transfer, draws)) (l := rest)
  have clear : db.transfers.rows.any (sameId transfer) = false := by
    rw [List.any_eq_false]
    intro row member same
    have taken : transfer.id = row.id := by simpa [sameId] using same
    exact new.ids.unused (transfer, draws) head row member taken.symm
  unfold insertTransfer? Table.insertUnique? at refused
  rw [clear, Option.map_eq_none_iff] at refused
  obtain ⟨other, member, same⟩ := (Table.insert?_eq_none_iff ..).mp refused
  exact new.unrecorded (transfer, draws) head (List.mem_map.mpr ⟨other, member, same⟩)

theorem cursors_of_news {attached expired : Bool} {sightings : List Sighting} {count : Nat}
    (returned : scanTransfers base attached expired sightings db = .ok count after) :
    (AllNew db sightings ∧ after.cursors = db.cursors) ∨
      (¬AllNew db sightings ∧ after.cursors = base.cursors) := by
  induction sightings generalizing db expired count with
  | nil =>
      refine .inl ⟨allNew_nil db, ?_⟩
      cases expired <;> cases returned <;> rfl
  | cons sighting rest ih =>
      obtain ⟨transfer, draws⟩ := sighting
      cases expired with
      | true => cases returned
      | false =>
          simp only [scanTransfers] at returned
          cases inserted : insertTransfer? transfer db with
          | none =>
              simp only [inserted] at returned
              have fallen : after.cursors = base.cursors := by
                rcases cursors_of_scan returned with same | same
                · exact same
                · exact same
              exact .inr ⟨refused_of_head inserted, fallen⟩
          | some recorded =>
              simp only [inserted] at returned
              obtain ⟨result, next, paired, counted⟩ := (Effect.bind_ok_iff ..).mp returned
              obtain ⟨others, final, scanned, done⟩ := (Effect.bind_ok_iff ..).mp counted
              cases done
              have tracks : Tracks recorded [] next := tracks_match tracks_base paired
              have same : next.cursors = db.cursors := by
                rw [cursors_of_match paired, (transfers_of_recorded inserted).2.2]
              rw [allNew_cons_iff inserted, ← allNew_congr tracks rest, ← same]
              exact ih scanned

end Scanning

section Polling

variable {runtime : Runtime} {network : CryptoNetwork} {token : CryptoToken} {before after : CryptoDb}
  {poll : Poll}

theorem pointed_at {cursor : CryptoWatcherCursor}
    (pointed : getOrCreateCursor network.id token.id poll.startBlock poll.now before =
      .ok cursor after) :
    cursor.lastScannedBlock = position network token before poll ∧
      cursorAt network token after = some cursor ∧ after.transfers = before.transfers ∧
        (cursorAt network token before ≠ none → after = before) := by
  unfold getOrCreateCursor at pointed
  obtain ⟨db, start, read, looked⟩ := (Effect.bind_ok_iff ..).mp pointed
  cases read
  unfold position
  cases found : cursorAt network token before with
  | some existing =>
      have row : before.cursors.find? (defaultScope network.id token.id) = some existing := found
      simp only [row] at looked
      cases looked
      exact ⟨rfl, found, rfl, fun _ => rfl⟩
  | none =>
      have row : before.cursors.find? (defaultScope network.id token.id) = none := found
      simp only [row] at looked
      obtain ⟨⟨⟩, middle, flushed, done⟩ := (Effect.bind_ok_iff ..).mp looked
      cases done
      obtain ⟨cursors, inserted, rfl⟩ :=
        Option.map_eq_some_iff.mp ((flush_ok_iff ..).mp flushed)
      refine ⟨rfl, ?_, rfl, fun present => absurd rfl present⟩
      have here : cursors.find? (defaultScope network.id token.id) =
          some (newCursor network.id token.id poll.startBlock poll.now) := by
        rw [Table.find?_insert? inserted]
        exact if_pos rfl
      exact here

/-- The ways in which a poll returns: with nothing ahead, with the cursor at the end of
its batch, or with the cursor that it created undone by a duplicate. -/
inductive Polled (runtime : Runtime) (network : CryptoNetwork) (token : CryptoToken) (poll : Poll)
    (before : CryptoDb) : CryptoDb → Prop where
  | idle (after : CryptoDb) (cursor : CryptoWatcherCursor)
      (caughtUp : headAhead network token before poll = none)
      (found : cursorAt network token after = some cursor)
      (stays : cursor.lastScannedBlock = position network token before poll) :
      Polled runtime network token poll before after
  | advanced (after : CryptoDb) (latest : Int) (cursor : CryptoWatcherCursor)
      (ahead : headAhead network token before poll = some latest)
      (found : cursorAt network token after = some cursor)
      (moved : cursor.lastScannedBlock = batchEnd network token before poll latest)
      (undisturbed : cursorAt network token before = none → ∀ logs,
        poll.chain.logs (poll.startBlock + 1) (batchEnd network token before poll latest) =
            .ok logs →
          AllNew before (evmSightings runtime network token
            (batchEnd network token before poll latest) logs)) :
      Polled runtime network token poll before after
  | undone (after : CryptoDb) (latest : Int) (logs : List (EvmLog × ScanDraws))
      (ahead : headAhead network token before poll = some latest)
      (absent : cursorAt network token before = none)
      (gone : cursorAt network token after = none)
      (fetched : poll.chain.logs (poll.startBlock + 1)
        (batchEnd network token before poll latest) = .ok logs)
      (repeated : ¬AllNew before (evmSightings runtime network token
        (batchEnd network token before poll latest) logs)) :
      Polled runtime network token poll before after

theorem cursorAt_advance {db : CryptoDb} {last finalized now : Int} {rpcId : String} :
    cursorAt network token
        (noteRpcOk rpcId now (advanceCursor network.id token.id last finalized now db)) =
      (cursorAt network token db).map (CryptoWatcherCursor.advance last finalized now) := by
  have changed := db.cursors.find?_modify (defaultScope network.id token.id)
    (defaultScope network.id token.id) (CryptoWatcherCursor.advance last finalized now)
    (fun _ => rfl)
  rw [if_pos rfl] at changed
  exact changed

theorem polled_of_run {count : Nat}
    (returned : poll.run runtime network token before = .ok count after) :
    Polled runtime network token poll before after := by
  cases runEvmOnce_ok returned with
  | idle latest cursor opened answered pointed scanned =>
      obtain ⟨stands, found, -, -⟩ := pointed_at pointed
      refine .idle _ cursor ?_ found stands
      have behind : ¬position network token before poll < finalizedBlock network latest := by
        rw [← stands]
        exact Int.not_lt.mpr scanned
      rw [headAhead, answered]
      exact if_neg behind
  | scanned rpc latest cursor opened logs count final answered pointed behind fetched ran =>
      obtain ⟨stands, found, transfers, present⟩ := pointed_at pointed
      have last : toBlock network (finalizedBlock network latest) cursor =
          batchEnd network token before poll latest := by
        rw [toBlock, batchEnd, stands]
      have ahead : headAhead network token before poll = some latest := by
        rw [headAhead, answered]
        exact if_pos (stands ▸ behind)
      simp only [last, stands] at fetched ran ⊢
      have scan : scanTransfers before poll.attached false (evmSightings runtime network token
          (batchEnd network token before poll latest) logs) opened = .ok count final := ran
      have moved (kept : final.cursors = opened.cursors) : cursorAt network token (noteRpcOk rpc.id
          poll.now (advanceCursor network.id token.id (batchEnd network token before poll latest)
            (finalizedBlock network latest) poll.now final)) =
          some (cursor.advance (batchEnd network token before poll latest)
            (finalizedBlock network latest) poll.now) := by
        have here : cursorAt network token final = some cursor := by
          rw [cursorAt, kept]
          exact found
        rw [cursorAt_advance, here]
        rfl
      cases absent : cursorAt network token before with
      | some existing =>
          have same : opened = before := present (by simp [absent])
          have kept : final.cursors = opened.cursors := by
            rcases cursors_of_scan scan with kept | kept
            · exact kept
            · rw [kept, same]
          refine .advanced _ latest _ ahead (moved kept) rfl ?_
          intro gone
          rw [absent] at gone
          cases gone
      | none =>
          have start : position network token before poll = poll.startBlock := by
            rw [position, absent]
            rfl
          rw [start] at fetched
          have news := allNew_congr (tracks_of_same tracks_base transfers)
            (evmSightings runtime network token (batchEnd network token before poll latest) logs)
          rcases cursors_of_news scan with ⟨new, kept⟩ | ⟨repeated, fallen⟩
          · refine .advanced _ latest _ ahead (moved kept) rfl ?_
            intro _ other answered
            obtain rfl := Except.ok.inj (fetched.symm.trans answered)
            exact news.mp new
          · refine .undone _ latest logs ahead absent ?_ fetched (fun new => repeated (news.mpr new))
            have gone : cursorAt network token final = none := by
              rw [cursorAt, fallen]
              exact absent
            rw [cursorAt_advance, gone]
            rfl

/-- A batch is scanned once the chain has answered, when its final blocks are past the cursor. -/
theorem answered_of_ahead {latest : Int}
    (ahead : headAhead network token before poll = some latest) :
    poll.chain.latest = .ok latest ∧
      position network token before poll < finalizedBlock network latest := by
  unfold headAhead at ahead
  cases answered : poll.chain.latest with
  | error failure =>
      simp only [answered] at ahead
      cases ahead
  | ok head =>
      simp only [answered] at ahead
      split at ahead
      · rename_i behind
        cases ahead
        exact ⟨rfl, behind⟩
      · cases ahead

theorem behind_of_ahead {latest : Int} (ahead : headAhead network token before poll = some latest) :
    position network token before poll < finalizedBlock network latest :=
  (answered_of_ahead ahead).2

/-- A batch is not empty, not longer than allowed, and final. -/
theorem batch_bounds {latest : Int} (batch : 1 ≤ network.scanBatchSize)
    (block : 0 ≤ position network token before poll)
    (ahead : headAhead network token before poll = some latest) :
    position network token before poll + 1 ≤ batchEnd network token before poll latest ∧
      batchEnd network token before poll latest ≤
          position network token before poll + network.scanBatchSize ∧
        batchEnd network token before poll latest ≤ latest - network.minConfirmations := by
  have behind := behind_of_ahead ahead
  unfold finalizedBlock at behind
  unfold batchEnd finalizedBlock
  omega

theorem scanOf_returned {count : Nat}
    (returned : poll.run runtime network token before = .ok count after) :
    scanOf runtime network token before poll =
      (headAhead network token before poll).map fun latest =>
        ⟨position network token before poll + 1, batchEnd network token before poll latest,
          latest⟩ := by
  simp [scanOf, Effect.returns, returned]

theorem scanOf_raised {failure : Error}
    (raised : poll.run runtime network token before = .error failure after) :
    scanOf runtime network token before poll = none := by
  simp [scanOf, Effect.returns, raised]

end Polling

section Runs

variable {runtime : Runtime} {network : CryptoNetwork} {token : CryptoToken} {books : Books}
  {poll : Poll} {after : CryptoDb}

/-- The invariant of the books. -/
structure Kept (network : CryptoNetwork) (token : CryptoToken) (books : Books) : Prop where
  covered : Covered network token books
  finalized : Finalized network books
  unset : cursorAt network token books.db = none → books.origin = none
  blocks : ∀ cursor, cursorAt network token books.db = some cursor → 0 ≤ cursor.lastScannedBlock

theorem position_nonneg (kept : Kept network token books) (poll : Poll) :
    0 ≤ position network token books.db poll := by
  unfold position
  cases found : cursorAt network token books.db with
  | none => exact Int.natCast_nonneg poll.startBlock
  | some cursor => exact kept.blocks cursor found

def originAfter (network : CryptoNetwork) (token : CryptoToken) (books : Books) (poll : Poll)
    (after : CryptoDb) : Option Int :=
  books.origin.or ((cursorAt network token after).map fun _ => (poll.startBlock : Int))

/-- The origin after a poll: as it was, with everything covered up to the position of the
poll, or the start block of the poll, which is its position. -/
theorem origin_of_poll (kept : Kept network token books) (poll : Poll) (after : CryptoDb) :
    (∃ origin, originAfter network token books poll after = some origin ∧
        ∀ block, origin < block → block ≤ position network token books.db poll →
          ∃ scan ∈ books.scans, scan.first ≤ block ∧ block ≤ scan.last) ∨
      (position network token books.db poll = poll.startBlock ∧
        originAfter network token books poll after =
          (cursorAt network token after).map fun _ => (poll.startBlock : Int)) := by
  unfold originAfter position
  cases found : cursorAt network token books.db with
  | some cursor =>
      obtain ⟨origin, set, covered⟩ := kept.covered cursor found
      exact .inl ⟨origin, by rw [set]; rfl, covered⟩
  | none =>
      refine .inr ⟨rfl, ?_⟩
      rw [kept.unset found]
      rfl

theorem covered_of_poll {cursor : CryptoWatcherCursor} (kept : Kept network token books)
    (found : cursorAt network token after = some cursor) (scans : List Scan)
    (scanned : ∀ block, position network token books.db poll < block →
      block ≤ cursor.lastScannedBlock → ∃ scan ∈ scans, scan.first ≤ block ∧ block ≤ scan.last) :
    Covered network token
      ⟨after, originAfter network token books poll after, books.scans ++ scans⟩ := by
  intro later foundLater
  obtain rfl : cursor = later := Option.some.inj (found.symm.trans foundLater)
  rcases origin_of_poll kept poll after with ⟨origin, set, before⟩ | ⟨start, set⟩
  · refine ⟨origin, set, ?_⟩
    intro block above below
    by_cases past : block ≤ position network token books.db poll
    · obtain ⟨scan, listed, range⟩ := before block above past
      exact ⟨scan, List.mem_append_left _ listed, range⟩
    · obtain ⟨scan, listed, range⟩ := scanned block (Int.not_le.mp past) below
      exact ⟨scan, List.mem_append_right _ listed, range⟩
  · refine ⟨poll.startBlock, by rw [set, found]; rfl, ?_⟩
    intro block above below
    rw [start] at scanned
    obtain ⟨scan, listed, range⟩ := scanned block above below
    exact ⟨scan, List.mem_append_right _ listed, range⟩

theorem pollOnce_raised {failure : Error} (kept : Kept network token books)
    (raised : poll.run runtime network token books.db = .error failure after) :
    pollOnce runtime network token books poll = books := by
  have origin : originAfter network token books poll books.db = books.origin := by
    unfold originAfter
    cases found : cursorAt network token books.db with
    | none => rw [kept.unset found]; rfl
    | some cursor =>
        obtain ⟨origin, set, -⟩ := kept.covered cursor found
        rw [set]
        rfl
  unfold pollOnce
  rw [Effect.commit_of_error raised, scanOf_raised raised]
  simp only [Option.toList_none, List.append_nil]
  unfold originAfter at origin
  rw [origin]

theorem pollOnce_returned {count : Nat}
    (returned : poll.run runtime network token books.db = .ok count after) :
    pollOnce runtime network token books poll =
      ⟨after, originAfter network token books poll after,
        books.scans ++ (scanOf runtime network token books.db poll).toList⟩ := by
  unfold pollOnce
  rw [Effect.commit_of_ok returned]
  rfl

/-- The one scan that a poll may add keeps its distance. -/
theorem finalized_of_poll (batch : 1 ≤ network.scanBatchSize) (kept : Kept network token books)
    (runtime : Runtime) (poll : Poll) :
    ∀ scan ∈ (scanOf runtime network token books.db poll).toList,
      scan.last ≤ scan.latest - network.minConfirmations := by
  intro scan listed
  unfold scanOf at listed
  split at listed
  · cases ahead : headAhead network token books.db poll with
    | none =>
        rw [ahead] at listed
        cases listed
    | some latest =>
        rw [ahead] at listed
        obtain rfl := List.mem_singleton.mp listed
        exact (batch_bounds batch (position_nonneg kept poll) ahead).2.2
  · cases listed

theorem scanned_of_poll {count : Nat} {latest : Int}
    (returned : poll.run runtime network token books.db = .ok count after)
    (ahead : headAhead network token books.db poll = some latest) :
    ∀ block, position network token books.db poll < block →
      block ≤ batchEnd network token books.db poll latest →
        ∃ scan ∈ (scanOf runtime network token books.db poll).toList,
          scan.first ≤ block ∧ block ≤ scan.last := by
  intro block above below
  rw [scanOf_returned returned, ahead]
  exact ⟨_, List.mem_singleton_self _, above, below⟩

theorem kept_poll (runtime : Runtime) (batch : 1 ≤ network.scanBatchSize)
    (kept : Kept network token books) (poll : Poll) : Kept network token (pollOnce runtime network token books poll) := by
  cases ran : poll.run runtime network token books.db with
  | error failure after =>
      rw [pollOnce_raised kept ran]
      exact kept
  | ok count after =>
      have block := position_nonneg kept poll
      have finalized : ∀ scan ∈ books.scans ++
          (scanOf runtime network token books.db poll).toList,
          scan.last ≤ scan.latest - network.minConfirmations := by
        intro scan listed
        rcases List.mem_append.mp listed with old | new
        · exact kept.finalized scan old
        · exact finalized_of_poll batch kept runtime poll scan new
      rw [pollOnce_returned ran]
      cases polled_of_run ran with
      | idle cursor caughtUp found stays =>
          refine ⟨covered_of_poll kept found _ ?_, finalized, ?_, ?_⟩
          · intro block above below
            omega
          · intro absent
            rw [show cursorAt network token after = none from absent] at found
            cases found
          · intro later foundLater
            obtain rfl : cursor = later := Option.some.inj (found.symm.trans foundLater)
            omega
      | advanced latest cursor ahead found moved undisturbed =>
          have bounds := batch_bounds batch block ahead
          refine ⟨covered_of_poll kept found _ ?_, finalized, ?_, ?_⟩
          · rw [moved]
            exact scanned_of_poll ran ahead
          · intro absent
            rw [show cursorAt network token after = none from absent] at found
            cases found
          · intro later foundLater
            obtain rfl : cursor = later := Option.some.inj (found.symm.trans foundLater)
            omega
      | undone latest logs ahead absent gone fetched repeated =>
          refine ⟨?_, finalized, ?_, ?_⟩
          · intro cursor found
            rw [show cursorAt network token after = some cursor from found] at gone
            cases gone
          · intro _
            rw [originAfter, kept.unset absent, gone]
            rfl
          · intro cursor found
            rw [show cursorAt network token after = some cursor from found] at gone
            cases gone

/-- A returning poll leaves the cursor at the end of its batch just when it does not undo
a cursor that it created. -/
theorem advances_iff (batch : 1 ≤ network.scanBatchSize) (kept : Kept network token books)
    {count : Nat} (returned : poll.run runtime network token books.db = .ok count after) :
    ((headAhead network token books.db poll).isSome → ∃ later,
        cursorAt network token after = some later ∧
          position network token books.db poll + 1 ≤ later.lastScannedBlock ∧
            later.lastScannedBlock ≤
              position network token books.db poll + network.scanBatchSize) ↔
      CreatesUndisturbed runtime network token books poll := by
  have block := position_nonneg kept poll
  cases polled_of_run returned with
  | idle cursor caughtUp found stays =>
      refine iff_of_true ?_ ?_
      · intro ahead
        rw [caughtUp] at ahead
        cases ahead
      · intro _ latest ahead
        rw [caughtUp] at ahead
        cases ahead
  | advanced latest cursor ahead found moved undisturbed =>
      have bounds := batch_bounds batch block ahead
      refine iff_of_true ?_ ?_
      · intro _
        exact ⟨cursor, found, by omega, by omega⟩
      · intro absent other otherAhead logs answered
        obtain rfl : latest = other := Option.some.inj (ahead.symm.trans otherAhead)
        exact undisturbed absent logs answered
  | undone latest logs ahead absent gone fetched repeated =>
      refine iff_of_false ?_ ?_
      · intro advances
        obtain ⟨later, found, -⟩ := advances (by rw [ahead]; rfl)
        rw [gone] at found
        cases found
      · intro undisturbed
        exact repeated (undisturbed absent latest ahead logs fetched)

theorem rises_of_poll (batch : 1 ≤ network.scanBatchSize) (kept : Kept network token books)
    {cursor : CryptoWatcherCursor} (found : cursorAt network token books.db = some cursor) :
    ∃ later, cursorAt network token (pollOnce runtime network token books poll).db = some later ∧
      cursor.lastScannedBlock ≤ later.lastScannedBlock := by
  cases ran : poll.run runtime network token books.db with
  | error failure after =>
      rw [pollOnce_raised kept ran]
      exact ⟨cursor, found, Int.le_refl _⟩
  | ok count after =>
      have block := position_nonneg kept poll
      have start : position network token books.db poll = cursor.lastScannedBlock := by
        rw [position, found]
        rfl
      rw [pollOnce_returned ran]
      cases polled_of_run ran with
      | idle later caughtUp foundLater stays => exact ⟨later, foundLater, by omega⟩
      | advanced latest later ahead foundLater moved undisturbed =>
          have bounds := batch_bounds batch block ahead
          exact ⟨later, foundLater, by omega⟩
      | undone latest logs ahead absent gone fetched repeated =>
          rw [absent] at found
          cases found

/-- A poll does well unless it returns and was shown a transfer that is not new. -/
theorem pollsWell_iff (batch : 1 ≤ network.scanBatchSize) (kept : Kept network token books)
    (poll : Poll) :
    PollsWell runtime network token books poll (pollOnce runtime network token books poll) ↔
      (Returning runtime network token books poll →
        CreatesUndisturbed runtime network token books poll) := by
  have later := kept_poll runtime batch kept poll
  cases ran : poll.run runtime network token books.db with
  | error failure after =>
      have returns : Effect.returns (poll.run runtime network token) books.db = false := by
        rw [Effect.returns, ran]
      refine iff_of_true ?_ ?_
      · refine ⟨fun _ found => rises_of_poll batch kept found, later.covered, later.finalized, ?_⟩
        intro returned
        rw [returns] at returned
        cases returned
      · intro returned
        rw [Returning, returns] at returned
        cases returned
  | ok count after =>
      have returns : Effect.returns (poll.run runtime network token) books.db = true := by
        rw [Effect.returns, ran]
      have advances := advances_iff batch kept ran
      have next : (pollOnce runtime network token books poll).db = after := by
        rw [pollOnce_returned ran]
      constructor
      · intro well _
        apply advances.mp
        rw [← next]
        exact well.advances returns
      · intro undisturbed
        refine ⟨fun _ found => rises_of_poll batch kept found, later.covered, later.finalized, ?_⟩
        intro _
        rw [next]
        exact advances.mpr (undisturbed returns)

end Runs

/-- Every poll of a run does well by the cursor when no poll undoes a cursor that it
creates, and only then if the polls of the run return. -/
theorem cursor_covered_iff (runtime : Runtime) (network : CryptoNetwork) (token : CryptoToken)
    (batch : 1 ≤ network.scanBatchSize) (start : CryptoDb)
    (blocks : ∀ cursor, cursorAt network token start = some cursor → 0 ≤ cursor.lastScannedBlock)
    (polls : List Poll) :
    let Throughout (guard : Books → Poll → Prop) :=
      Run.Along guard (pollOnce runtime network token) (Books.opening network token start) polls
    let DoesWell (books : Books) (poll : Poll) :=
      PollsWell runtime network token books poll (pollOnce runtime network token books poll)
    (Throughout (CreatesUndisturbed runtime network token) → Throughout DoesWell) ∧
      (Throughout (Returning runtime network token) →
        (Throughout DoesWell ↔ Throughout (CreatesUndisturbed runtime network token))) := by
  intro Throughout DoesWell
  have kept : Kept network token (Books.opening network token start) := by
    refine ⟨?_, ?_, ?_, blocks⟩
    · intro cursor found
      refine ⟨cursor.lastScannedBlock, ?_, ?_⟩
      · rw [Books.opening, show cursorAt network token start = some cursor from found]
        rfl
      · intro block above below
        omega
    · intro scan listed
      cases listed
    · intro absent
      rw [Books.opening, show cursorAt network token start = none from absent]
      rfl
  have polled : Throughout DoesWell ↔ Throughout (fun books poll =>
      Returning runtime network token books poll →
        CreatesUndisturbed runtime network token books poll) :=
    Run.along_iff (Kept network token) (fun books poll holds => pollsWell_iff batch holds poll)
      (fun books poll holds _ => kept_poll runtime batch holds poll) kept
  have enough (undisturbed : Throughout (CreatesUndisturbed runtime network token)) :
      Throughout DoesWell := by
    refine polled.mpr (Run.along_mono ?_ undisturbed)
    intro books poll holds _
    exact holds
  refine ⟨enough, fun returning => ⟨?_, enough⟩⟩
  intro well
  have both := Run.along_both_iff.mpr ⟨returning, polled.mp well⟩
  exact Run.along_mono (fun _ _ holds => holds.2 holds.1) both

/-- A node for the network, a transfer recorded already, and no cursor. -/
def unwatched : CryptoDb := serve .ascii { market with
  rpcEndpoints := ⟨[⟨"rpc1", "n1", "active", 100, none, none⟩], List.nodup_singleton _⟩ }
    (scan "0x01" merchantAddress "tr1" 1)

def pollWith (logs : List (EvmLog × ScanDraws)) : Poll := ⟨false, 0, node logs, 3⟩

/-- The first poll sees a new transfer, the second one a recorded one. -/
def newsFirst : List Poll := [pollWith [fresh], pollWith [again]]

theorem cursor_covered_news_first :
    Run.Along (fun books poll => PollsWell .ascii bsc usdt books poll
        (pollOnce .ascii bsc usdt books poll))
      (pollOnce .ascii bsc usdt) (Books.opening bsc usdt unwatched) newsFirst := by
  have absent : cursorAt bsc usdt unwatched = none := rfl
  have blocks : ∀ cursor, cursorAt bsc usdt unwatched = some cursor →
      0 ≤ cursor.lastScannedBlock := by
    intro cursor found
    rw [absent] at found
    cases found
  apply (cursor_covered_iff .ascii bsc usdt (by decide) unwatched blocks newsFirst).1
  refine ⟨?_, ?_, trivial⟩
  · intro _ latest ahead logs answered
    have head : headAhead bsc usdt unwatched (pollWith [fresh]) = some 100 := by decide +kernel
    obtain rfl : 100 = latest := Option.some.inj (head.symm.trans ahead)
    cases answered
    decide +kernel
  · intro gone
    have here : (cursorAt bsc usdt (pollOnce .ascii bsc usdt (Books.opening bsc usdt unwatched)
        (pollWith [fresh])).db).isSome = true := by decide +kernel
    rw [gone] at here
    cases here

/-- The same contract under a second symbol. -/
def bridged : CryptoToken := { usdt with
  id := "t2"
  symbol := "USDT.E" }

/-- The first poll of the second symbol meets the transfer that was recorded under the
first: it returns, and there is no cursor. -/
theorem duplicate_undoes_cursor : ¬∀ runtime network token, 1 ≤ network.scanBatchSize →
    ∀ start, (∀ cursor, cursorAt network token start = some cursor →
      0 ≤ cursor.lastScannedBlock) → ∀ polls,
        Run.Along (fun books poll => PollsWell runtime network token books poll
            (pollOnce runtime network token books poll))
          (pollOnce runtime network token) (Books.opening network token start) polls := by
  intro always
  have absent : cursorAt bsc bridged unwatched = none := rfl
  have along := always .ascii bsc bridged (by decide) unwatched
    (by
      intro cursor found
      rw [absent] at found
      cases found) [pollWith [again]]
  have returned : Effect.returns ((pollWith [again]).run .ascii bsc bridged) unwatched = true := by
    decide +kernel
  have ahead : (headAhead bsc bridged unwatched (pollWith [again])).isSome = true := by
    decide +kernel
  have gone : (cursorAt bsc bridged (pollOnce .ascii bsc bridged
      (Books.opening bsc bridged unwatched) (pollWith [again])).db).isSome = false := by
    decide +kernel
  obtain ⟨later, found, -⟩ := along.1.advances returned ahead
  rw [found] at gone
  cases gone

end ApiBank.Crypto.CursorCoverage
