import ApiBank.Crypto.Operations

/-!
# What a scan leaves behind

A refused duplicate rolls the whole transaction back, not its own insertion alone.
The yardstick is the same loop with a savepoint around each insertion: a duplicate is
skipped there and everything else stays. The two agree exactly when no fresh transfer
is followed by a duplicate.
-/

namespace ApiBank.Crypto.Scans

open ApiBank.Db ApiBank.Relational ApiBank.Transition Invoices Operations Watchers

set_option autoImplicit false

/-- The loop of a scan, with a duplicate undoing nothing but its own insertion. -/
def scanOnce : List Sighting → CryptoSession Nat
  | [] => pure 0
  | (transfer, draws) :: rest => fun db =>
      match insertTransfer? transfer db with
      | none => scanOnce rest db
      | some recorded => (do
          let _ ← matchTransfer transfer draws
          let later ← scanOnce rest
          pure (later + 1)) recorded

def logOf (sighting : Sighting) : String × String × Nat := sighting.1.log

def idOf (sighting : Sighting) : String := sighting.1.id

/-- The transfer was recorded before the scan. -/
def Known (base : CryptoDb) (sighting : Sighting) : Prop :=
  logOf sighting ∈ base.transfers.rows.map CryptoChainTransfer.log

instance (base : CryptoDb) (sighting : Sighting) : Decidable (Known base sighting) :=
  inferInstanceAs (Decidable (_ ∈ _))

/-- The transfer was recorded before the scan, or is among those listed. -/
def Repeats (base : CryptoDb) (listed : List Sighting) (sighting : Sighting) : Prop :=
  Known base sighting ∨ logOf sighting ∈ listed.map logOf

instance (base : CryptoDb) (listed : List Sighting) (sighting : Sighting) :
    Decidable (Repeats base listed sighting) := inferInstanceAs (Decidable (_ ∨ _))

/-- No fresh transfer is followed by a duplicate. -/
def DuplicatesFirst (base : CryptoDb) (sightings : List Sighting) : Prop :=
  ∀ prior sighting later, sightings = prior ++ sighting :: later → Repeats base prior sighting →
    ∀ earlier ∈ prior, Known base earlier

/-- Drawn transfer ids are new. -/
structure FreshIds (base : CryptoDb) (sightings : List Sighting) : Prop where
  distinct : (sightings.map idOf).Nodup
  unused : ∀ sighting ∈ sightings, ∀ row ∈ base.transfers.rows, row.id ≠ idOf sighting

instance (base : CryptoDb) (sightings : List Sighting) : Decidable (FreshIds base sightings) :=
  decidable_of_iff
    ((sightings.map idOf).Nodup ∧
      ∀ sighting ∈ sightings, ∀ row ∈ base.transfers.rows, row.id ≠ idOf sighting)
    ⟨fun fresh => ⟨fresh.1, fresh.2⟩, fun fresh => ⟨fresh.distinct, fresh.unused⟩⟩

def RecordedOnce (db : CryptoDb) (sighting : Sighting) : Prop :=
  (db.transfers.rows.filter fun row => row.log = logOf sighting).length = 1

/-- The state without the watcher's own rows, which are those of another state. -/
def apartFromWatcher (base db : CryptoDb) : CryptoDb :=
  { db with
    cursors := base.cursors
    rpcEndpoints := base.rpcEndpoints }

/-- Nothing that the scan saw is lost: every transfer is recorded once, with all the
effects of its match, and a cursor has moved only over recorded transfers. -/
structure LosesNothing (before : CryptoDb) (sightings : List Sighting) (after : CryptoDb) :
    Prop where
  recorded : ∀ sighting ∈ sightings, RecordedOnce after sighting
  effects : ∃ count, scanOnce sightings before = .ok count (apartFromWatcher before after)
  covered : ∀ cursor ∈ after.cursors.rows, cursor ∉ before.cursors.rows →
    ∀ sighting ∈ sightings, RecordedOnce after sighting

/-- The transfers that a request scans: those of its logs or events, and those of the
blocks that a run of the EVM watcher fetches. -/
inductive Feeds (runtime : Runtime) (before : CryptoDb) : Op → List Sighting → Prop where
  | logs (scope : Scope) (last : Int) (logs : List (EvmLog × ScanDraws)) :
      Feeds runtime before (.scanTokenLogs scope last logs)
        (evmSightings runtime scope.network scope.token last logs)
  | events (scope : Scope) (events : List (TronEvent × ScanDraws)) :
      Feeds runtime before (.ingestTronEvents scope events)
        (tronSightings runtime scope.network scope.token events)
  | blocks (scope : Scope) (startBlock now : Int) (chain : Chain) (latest : Int)
      (cursor : CryptoWatcherCursor) (opened : CryptoDb) (logs : List (EvmLog × ScanDraws))
      (answered : chain.latest = .ok latest)
      (pointed : getOrCreateCursor scope.network.id scope.token.id startBlock now before =
        .ok cursor opened)
      (behind : cursor.lastScannedBlock < finalizedBlock scope.network latest)
      (fetched : chain.logs (cursor.lastScannedBlock + 1)
        (toBlock scope.network (finalizedBlock scope.network latest) cursor) = .ok logs) :
      Feeds runtime before (.runEvmOnce scope startBlock chain now)
        (evmSightings runtime scope.network scope.token
          (toBlock scope.network (finalizedBlock scope.network latest) cursor) logs)

section Bookkeeping

variable {base db next : CryptoDb}

/-- The table holds the rows of the base and those of a segment of the scan. -/
structure Tracks (base : CryptoDb) (segment : List Sighting) (db : CryptoDb) : Prop where
  logs : db.transfers.rows.map CryptoChainTransfer.log =
    base.transfers.rows.map CryptoChainTransfer.log ++ segment.map logOf
  ids : db.transfers.rows.map CryptoChainTransfer.id =
    base.transfers.rows.map CryptoChainTransfer.id ++ segment.map idOf

theorem tracks_base : Tracks base [] base where
  logs := (List.append_nil _).symm
  ids := (List.append_nil _).symm

theorem tracks_of_same {segment : List Sighting} (tracks : Tracks base segment db)
    (same : next.transfers = db.transfers) : Tracks base segment next where
  logs := same ▸ tracks.logs
  ids := same ▸ tracks.ids

theorem refused_iff {segment : List Sighting} {transfer : CryptoChainTransfer} {draws : MatchDraws}
    (tracks : Tracks base segment db)
    (unused : ∀ row ∈ base.transfers.rows, row.id ≠ transfer.id)
    (distinct : transfer.id ∉ segment.map idOf) :
    insertTransfer? transfer db = none ↔ Repeats base segment (transfer, draws) := by
  have clear : db.transfers.rows.any (sameId transfer) = false := by
    rw [List.any_eq_false]
    intro row member same
    have listed : row.id ∈ db.transfers.rows.map CryptoChainTransfer.id :=
      List.mem_map_of_mem member
    have sameId : transfer.id = row.id := by simpa [sameId] using same
    rw [tracks.ids, ← sameId] at listed
    rcases List.mem_append.mp listed with old | new
    · obtain ⟨other, otherMember, otherId⟩ := List.mem_map.mp old
      exact unused other otherMember otherId
    · exact distinct new
  have logs : Repeats base segment (transfer, draws) ↔
      transfer.log ∈ db.transfers.rows.map CryptoChainTransfer.log := by
    rw [tracks.logs, List.mem_append]
    rfl
  unfold insertTransfer? Table.insertUnique?
  rw [clear, logs, Option.map_eq_none_iff]
  simp [Table.insert?_eq_none_iff]

theorem tracks_recorded {segment : List Sighting} {transfer : CryptoChainTransfer}
    {draws : MatchDraws} (tracks : Tracks base segment db)
    (inserted : insertTransfer? transfer db = some next) :
    Tracks base (segment ++ [(transfer, draws)]) next := by
  have rows := Table.rows_of_insert? (transfers_of_recorded inserted).2.1
  constructor
  · rw [rows, List.map_append, tracks.logs, List.map_append, List.append_assoc]
    rfl
  · rw [rows, List.map_append, tracks.ids, List.map_append, List.append_assoc]
    rfl

theorem tracks_match {segment : List Sighting} {transfer : CryptoChainTransfer}
    {draws : MatchDraws} {result : Option CryptoInvoice} (tracks : Tracks base segment db)
    (returned : matchTransfer transfer draws db = .ok result next) : Tracks base segment next := by
  rcases matchTransfer_ok returned with rfl | ⟨invoice, payment⟩
  · exact tracks
  · have column {Value : Type} (read : CryptoChainTransfer → Value)
        (ignores : ∀ row, read row.markMatched = read row) :
        next.transfers.rows.map read = db.transfers.rows.map read := by
      rw [payment.transfers]
      simp only [markTransfer, Table.modify, Table.rows_update, List.map_map]
      apply List.map_congr_left
      intro row _
      simp only [Function.comp_apply]
      split
      · exact ignores row
      · rfl
    exact ⟨(column _ fun _ => rfl).trans tracks.logs, (column _ fun _ => rfl).trans tracks.ids⟩

end Bookkeeping

section Segments

variable {base : CryptoDb}

/-- What a scan keeps: a duplicate drops what came since the last one. -/
def kept (base : CryptoDb) : List Sighting → List Sighting → List Sighting
  | segment, [] => segment
  | segment, sighting :: rest =>
      if Repeats base segment sighting then kept base [] rest
      else kept base (segment ++ [sighting]) rest

/-- What the yardstick keeps: the first of each fresh transfer. -/
def firsts (base : CryptoDb) : List Sighting → List Sighting → List Sighting
  | segment, [] => segment
  | segment, sighting :: rest =>
      if Repeats base segment sighting then firsts base segment rest
      else firsts base (segment ++ [sighting]) rest

/-- No duplicate comes while anything is in the segment. -/
def Clean (base : CryptoDb) : List Sighting → List Sighting → Prop
  | _, [] => True
  | segment, sighting :: rest =>
      if Repeats base segment sighting then segment = [] ∧ Clean base [] rest
      else Clean base (segment ++ [sighting]) rest

instance decidableClean (base : CryptoDb) : (segment rest : List Sighting) →
    Decidable (Clean base segment rest)
  | _, [] => isTrue trivial
  | segment, sighting :: rest =>
      if repeats : Repeats base segment sighting then
        have : Decidable (Clean base [] rest) := decidableClean base [] rest
        decidable_of_iff (segment = [] ∧ Clean base [] rest) (by simp [Clean, repeats])
      else
        have : Decidable (Clean base (segment ++ [sighting]) rest) :=
          decidableClean base (segment ++ [sighting]) rest
        decidable_of_iff (Clean base (segment ++ [sighting]) rest) (by simp [Clean, repeats])

theorem mem_of_kept {segment rest : List Sighting} {sighting : Sighting}
    (listed : sighting ∈ kept base segment rest) : sighting ∈ segment ∨ sighting ∈ rest := by
  induction rest generalizing segment with
  | nil => exact .inl listed
  | cons first rest ih =>
      unfold kept at listed
      split at listed
      · rcases ih listed with none | later
        · cases none
        · exact .inr (List.mem_cons_of_mem _ later)
      · rcases ih listed with earlier | later
        · rcases List.mem_append.mp earlier with old | new
          · exact .inl old
          · exact .inr (List.mem_singleton.mp new ▸ List.mem_cons_self ..)
        · exact .inr (List.mem_cons_of_mem _ later)

theorem firsts_keep {segment rest : List Sighting} {sighting : Sighting}
    (listed : sighting ∈ segment) : sighting ∈ firsts base segment rest := by
  induction rest generalizing segment with
  | nil => exact listed
  | cons first rest ih =>
      unfold firsts
      split
      · exact ih listed
      · exact ih (List.mem_append_left _ listed)

theorem firsts_cover {segment rest : List Sighting} {sighting : Sighting}
    (listed : sighting ∈ rest) :
    Known base sighting ∨ logOf sighting ∈ (firsts base segment rest).map logOf := by
  induction rest generalizing segment with
  | nil => cases listed
  | cons first rest ih =>
      unfold firsts
      rcases List.mem_cons.mp listed with rfl | later
      · split
        · rename_i repeats
          rcases repeats with known | seen
          · exact .inl known
          · obtain ⟨other, member, same⟩ := List.mem_map.mp seen
            exact .inr (same ▸ List.mem_map_of_mem (firsts_keep member))
        · have member : sighting ∈ firsts base (segment ++ [sighting]) rest :=
            firsts_keep (List.mem_append_right _ (List.mem_singleton_self _))
          exact .inr (List.mem_map_of_mem member)
      · split
        · exact ih later
        · exact ih later

/-- The two keep the same transfers exactly when no duplicate drops any. -/
theorem kept_eq_firsts_iff {segment rest : List Sighting}
    (distinct : ((segment ++ rest).map idOf).Nodup) :
    (kept base segment rest).map idOf = (firsts base segment rest).map idOf ↔
      Clean base segment rest := by
  induction rest generalizing segment with
  | nil => simp [kept, firsts, Clean]
  | cons first rest ih =>
      unfold kept firsts Clean
      split
      · cases segment with
        | nil =>
            rw [List.nil_append, List.map_cons, List.nodup_cons] at distinct
            rw [ih (by simpa using distinct.2)]
            simp
        | cons held others =>
            have differ : (kept base [] rest).map idOf ≠
                (firsts base (held :: others) rest).map idOf := by
              intro same
              have listed : idOf held ∈ (kept base [] rest).map idOf := by
                rw [same]
                exact List.mem_map_of_mem (firsts_keep (List.mem_cons_self ..))
              obtain ⟨other, member, sameId⟩ := List.mem_map.mp listed
              have later : other ∈ rest := (mem_of_kept member).resolve_left List.not_mem_nil
              rw [List.cons_append, List.map_cons, List.nodup_cons] at distinct
              apply distinct.1
              rw [← sameId]
              exact List.mem_map_of_mem
                (List.mem_append_right _ (List.mem_cons_of_mem _ later))
            simp [differ]
      · exact ih (by simpa using distinct)

theorem clean_iff {segment rest : List Sighting} :
    Clean base segment rest ↔ ∀ prior sighting later, rest = prior ++ sighting :: later →
      Repeats base (segment ++ prior) sighting →
        segment = [] ∧ ∀ earlier ∈ prior, Known base earlier := by
  induction rest generalizing segment with
  | nil =>
      refine ⟨fun _ prior sighting later split => ?_, fun _ => trivial⟩
      simp at split
  | cons first rest ih =>
      unfold Clean
      split
      · rename_i repeats
        constructor
        · rintro ⟨rfl, clean⟩ prior sighting later split again
          refine ⟨rfl, ?_⟩
          have known : Known base first := by simpa [Repeats] using repeats
          cases prior with
          | nil => simp
          | cons other prior =>
              obtain ⟨rfl, tail⟩ := List.cons_eq_cons.mp split
              have repeated : Repeats base ([] ++ prior) sighting := by
                rcases again with recorded | seen
                · exact .inl recorded
                · rcases List.mem_cons.mp seen with same | earlier
                  · exact .inl (show logOf sighting ∈ _ from same ▸ known)
                  · exact .inr earlier
              have others := (ih.mp clean prior sighting later tail repeated).2
              simpa [known] using others
        · intro firstDuplicates
          obtain ⟨rfl, -⟩ := firstDuplicates [] first rest rfl (by simpa using repeats)
          refine ⟨rfl, ih.mpr ?_⟩
          intro prior sighting later split again
          have wider : Repeats base ([] ++ first :: prior) sighting :=
            again.imp id (fun seen => List.mem_cons_of_mem _ seen)
          have all := (firstDuplicates (first :: prior) sighting later (by rw [split]; rfl) wider).2
          exact ⟨rfl, fun earlier member => all earlier (List.mem_cons_of_mem _ member)⟩
      · rename_i fresh
        rw [ih]
        constructor
        · intro clean prior sighting later split again
          cases prior with
          | nil =>
              obtain ⟨rfl, -⟩ := List.cons_eq_cons.mp split
              exact absurd (by simpa using again) fresh
          | cons other prior =>
              obtain ⟨rfl, tail⟩ := List.cons_eq_cons.mp split
              obtain ⟨none, -⟩ := clean prior sighting later tail (by simpa using again)
              simp at none
        · intro firstDuplicates prior sighting later split again
          obtain ⟨-, all⟩ := firstDuplicates (first :: prior) sighting later (by rw [split]; rfl)
            (by simpa using again)
          exact absurd (.inl (all first (List.mem_cons_self ..))) fresh

theorem clean_iff_duplicatesFirst {sightings : List Sighting} :
    Clean base [] sightings ↔ DuplicatesFirst base sightings := by
  rw [clean_iff]
  simp [DuplicatesFirst]

end Segments

section Scanning

variable {base db after : CryptoDb}

theorem freshIds_drop {segment rest : List Sighting} (fresh : FreshIds base (segment ++ rest)) :
    FreshIds base ([] ++ rest) where
  distinct := by
    have distinct := fresh.distinct
    rw [List.map_append, List.nodup_append] at distinct
    exact distinct.2.1
  unused := fun sighting member => fresh.unused sighting (List.mem_append_right _ member)

/-- The drawn id of the next transfer is not in use. -/
theorem refused_iff_repeats {segment rest : List Sighting} {transfer : CryptoChainTransfer}
    {draws : MatchDraws} (fresh : FreshIds base (segment ++ (transfer, draws) :: rest))
    (tracks : Tracks base segment db) :
    insertTransfer? transfer db = none ↔ Repeats base segment (transfer, draws) := by
  apply refused_iff tracks
  · exact fresh.unused (transfer, draws) (by simp)
  · have distinct := fresh.distinct
    rw [List.map_append, List.nodup_append] at distinct
    intro listed
    exact distinct.2.2 _ listed _ (List.mem_cons_self ..) rfl

theorem freshIds_shift {segment rest : List Sighting} {sighting : Sighting}
    (fresh : FreshIds base (segment ++ sighting :: rest)) :
    FreshIds base (segment ++ [sighting] ++ rest) := by
  rwa [List.append_assoc, List.singleton_append]

theorem freshIds_skip {segment rest : List Sighting} {sighting : Sighting}
    (fresh : FreshIds base (segment ++ sighting :: rest)) : FreshIds base (segment ++ rest) where
  distinct := by
    have shorter : (segment ++ rest).Sublist (segment ++ sighting :: rest) :=
      List.Sublist.append_left (List.sublist_cons_self ..) _
    exact List.Nodup.sublist (shorter.map idOf) fresh.distinct
  unused := by
    intro other member
    apply fresh.unused other
    rcases List.mem_append.mp member with old | later
    · exact List.mem_append_left _ old
    · exact List.mem_append_right _ (List.mem_cons_of_mem _ later)

theorem tracks_scan {attached expired : Bool} {segment rest : List Sighting} {count : Nat}
    (fresh : FreshIds base (segment ++ rest)) (tracks : Tracks base segment db)
    (returned : scanTransfers base attached expired rest db = .ok count after) :
    Tracks base (kept base segment rest) after := by
  induction rest generalizing segment db expired count with
  | nil =>
      cases expired <;> cases returned <;> exact tracks
  | cons sighting rest ih =>
      obtain ⟨transfer, draws⟩ := sighting
      cases expired with
      | true => cases returned
      | false =>
          have refused := refused_iff_repeats fresh tracks
          simp only [scanTransfers] at returned
          unfold kept
          cases inserted : insertTransfer? transfer db with
          | none =>
              simp only [inserted] at returned
              rw [if_pos (refused.mp inserted)]
              exact ih (freshIds_drop (freshIds_skip fresh)) tracks_base returned
          | some recorded =>
              simp only [inserted] at returned
              have new : ¬Repeats base segment (transfer, draws) := by
                rw [← refused, inserted]
                simp
              obtain ⟨result, next, paired, counted⟩ := (Effect.bind_ok_iff ..).mp returned
              obtain ⟨others, final, scanned, done⟩ := (Effect.bind_ok_iff ..).mp counted
              cases done
              rw [if_neg new]
              exact ih (freshIds_shift fresh) (tracks_match (tracks_recorded tracks inserted) paired)
                scanned

/-- The rows that the yardstick leaves. -/
theorem tracks_once {segment rest : List Sighting} {count : Nat}
    (fresh : FreshIds base (segment ++ rest)) (tracks : Tracks base segment db)
    (returned : scanOnce rest db = .ok count after) :
    Tracks base (firsts base segment rest) after := by
  induction rest generalizing segment db count with
  | nil =>
      cases returned
      exact tracks
  | cons sighting rest ih =>
      obtain ⟨transfer, draws⟩ := sighting
      have refused := refused_iff_repeats fresh tracks
      simp only [scanOnce] at returned
      unfold firsts
      cases inserted : insertTransfer? transfer db with
      | none =>
          simp only [inserted] at returned
          rw [if_pos (refused.mp inserted)]
          exact ih (freshIds_skip fresh) tracks returned
      | some recorded =>
          simp only [inserted] at returned
          have new : ¬Repeats base segment (transfer, draws) := by
            rw [← refused, inserted]
            simp
          obtain ⟨result, next, paired, counted⟩ := (Effect.bind_ok_iff ..).mp returned
          obtain ⟨others, final, scanned, done⟩ := (Effect.bind_ok_iff ..).mp counted
          cases done
          rw [if_neg new]
          exact ih (freshIds_shift fresh) (tracks_match (tracks_recorded tracks inserted) paired)
            scanned

end Scanning

section Watcher

variable {origin : CryptoDb}

theorem carries_callback (invoice : CryptoInvoice) (eventType : String) (draws : EventDraws) :
    Effect.Carries (apartFromWatcher origin) (enqueueInvoiceCallback invoice eventType draws) := by
  unfold enqueueInvoiceCallback
  cases given invoice.callbackUrl with
  | none => exact Effect.carries_pure ()
  | some url =>
      apply carries_flush
      intro db
      simp only [insertCallback?, Option.map_map]
      rfl

theorem carries_credit (invoice : CryptoInvoice) (fresh : RowDefaults) :
    Effect.Carries (apartFromWatcher origin) (creditWalletForCryptoInvoice invoice fresh) := by
  unfold creditWalletForCryptoInvoice
  split
  · exact Effect.carries_pure false
  · cases given invoice.userId with
    | none => exact Effect.carries_pure false
    | some userId =>
        cases invoice.currencyAmountVnd with
        | none => exact Effect.carries_pure false
        | some amountVnd =>
            apply Effect.carries_bind
            · exact carries_onBank _ fun db bank => rfl
            · exact fun _ => Effect.carries_pure true

theorem carries_receipt (invoice : CryptoInvoice) (draws : MatchDraws) :
    Effect.Carries (apartFromWatcher origin) (announceReceipt invoice draws) := by
  unfold announceReceipt
  split
  · apply Effect.carries_bind
    · exact Effect.carries_modify fun db => rfl
    · intro _
      apply Effect.carries_bind (carries_credit invoice _)
      exact fun _ => carries_callback invoice _ draws.event
  · exact carries_callback invoice _ draws.event

/-- A match neither reads nor writes the rows of the watcher. -/
theorem carries_match (transfer : CryptoChainTransfer) (draws : MatchDraws) :
    Effect.Carries (apartFromWatcher origin) (matchTransfer transfer draws) := by
  unfold matchTransfer
  apply Effect.carries_get
  · exact fun db => rfl
  · intro db
    cases fittingInvoice transfer draws.now db with
    | none => exact Effect.carries_pure none
    | some invoice =>
        cases paired : db.matchRows.find? (invoice.id, transfer.id) with
        | some existing =>
            simp only [paired]
            exact Effect.carries_pure (some invoice)
        | none =>
            simp only [paired]
            apply Effect.carries_bind
            · apply carries_flush
              intro db
              simp only [insertMatch?, Option.map_map]
              rfl
            · intro _
              apply Effect.carries_bind
              · exact Effect.carries_modify fun db => rfl
              · intro _
                apply Effect.carries_bind
                · exact Effect.carries_modify fun db => rfl
                · intro _
                  apply Effect.carries_bind (carries_receipt _ draws)
                  exact fun _ => Effect.carries_pure _

theorem insertTransfer_apart (transfer : CryptoChainTransfer) (db : CryptoDb) :
    insertTransfer? transfer (apartFromWatcher origin db) =
      (insertTransfer? transfer db).map (apartFromWatcher origin) := by
  simp only [insertTransfer?, Option.map_map]
  rfl

/-- A scan in which no duplicate drops anything does what the yardstick does. -/
theorem once_of_clean {base db after : CryptoDb} {attached expired : Bool}
    {segment rest : List Sighting} {count : Nat} (fresh : FreshIds base (segment ++ rest))
    (tracks : Tracks base segment db) (clean : Clean base segment rest)
    (idle : segment = [] → apartFromWatcher origin db = apartFromWatcher origin base)
    (returned : scanTransfers base attached expired rest db = .ok count after) :
    ∃ count, scanOnce rest (apartFromWatcher origin db) =
      .ok count (apartFromWatcher origin after) := by
  induction rest generalizing segment db expired count with
  | nil =>
      cases expired <;> cases returned <;> exact ⟨0, rfl⟩
  | cons sighting rest ih =>
      obtain ⟨transfer, draws⟩ := sighting
      cases expired with
      | true => cases returned
      | false =>
          have refused := refused_iff_repeats fresh tracks
          simp only [scanTransfers] at returned
          simp only [scanOnce, insertTransfer_apart]
          unfold Clean at clean
          cases inserted : insertTransfer? transfer db with
          | none =>
              simp only [inserted] at returned
              rw [if_pos (refused.mp inserted)] at clean
              obtain ⟨rfl, clean⟩ := clean
              rw [idle rfl]
              exact ih (freshIds_drop (freshIds_skip fresh)) tracks_base clean (fun _ => rfl) returned
          | some recorded =>
              simp only [inserted] at returned
              have new : ¬Repeats base segment (transfer, draws) := by
                rw [← refused, inserted]
                simp
              rw [if_neg new] at clean
              obtain ⟨result, next, paired, counted⟩ := (Effect.bind_ok_iff ..).mp returned
              obtain ⟨others, final, scanned, done⟩ := (Effect.bind_ok_iff ..).mp counted
              cases done
              obtain ⟨later, ran⟩ := ih (freshIds_shift fresh)
                (tracks_match (tracks_recorded tracks inserted) paired) clean (by simp) scanned
              refine ⟨later + 1, (Effect.bind_ok_iff ..).mpr ⟨result, apartFromWatcher origin next,
                carries_match transfer draws _ _ _ paired, ?_⟩⟩
              exact (Effect.bind_ok_iff ..).mpr ⟨later, _, ran, rfl⟩

end Watcher

/-- A scan of a session that starts in `before`, from a state that differs at most in
the rows of the watcher, and the same again afterwards. -/
structure ScanRun (before : CryptoDb) (sightings : List Sighting) (after : CryptoDb) : Prop where
  ran : ∃ attached opened count final,
    scanTransfers before attached false sightings opened = .ok count final ∧
      apartFromWatcher before opened = before ∧ opened.transfers = before.transfers ∧
        apartFromWatcher before after = apartFromWatcher before final

theorem scanRun_of_feeds {runtime : Runtime} {op : Op} {before after : CryptoDb}
    {sightings : List Sighting} (feeds : Feeds runtime before op sightings)
    (returned : perform runtime op before = .ok () after) : ScanRun before sightings after := by
  cases feeds with
  | logs scope last logs =>
      obtain ⟨count, ran⟩ := Effect.discard_ok returned
      exact ⟨scope.attached, before, count, after, ran, rfl, rfl, rfl⟩
  | events scope events =>
      obtain ⟨count, ran⟩ := Effect.discard_ok returned
      exact ⟨scope.attached, before, count, after, ran, rfl, rfl, rfl⟩
  | blocks scope startBlock now chain latest cursor opened logs answered pointed behind fetched =>
      obtain ⟨count, ran⟩ := Effect.discard_ok returned
      cases runEvmOnce_ok ran with
      | idle other otherCursor otherOpened otherAnswered otherPointed scanned =>
          cases otherAnswered.symm.trans answered
          cases otherPointed.symm.trans pointed
          omega
      | scanned rpc other otherCursor otherOpened otherLogs count final otherAnswered otherPointed
          otherBehind otherFetched scan =>
          cases otherAnswered.symm.trans answered
          cases otherPointed.symm.trans pointed
          cases otherFetched.symm.trans fetched
          refine ⟨scope.attached, opened, count, final, scan, ?_, ?_, rfl⟩
          · rcases getOrCreateCursor_ok pointed with rfl | ⟨-, cursors, -, rfl⟩
            · rfl
            · rfl
          · rcases getOrCreateCursor_ok pointed with rfl | ⟨-, cursors, -, rfl⟩
            · rfl
            · rfl

/-- Everything that the yardstick has seen is recorded once. -/
theorem recorded_of_once {before after : CryptoDb} {sightings : List Sighting} {count : Nat}
    (fresh : FreshIds before sightings)
    (once : scanOnce sightings before = .ok count (apartFromWatcher before after)) :
    ∀ sighting ∈ sightings, RecordedOnce after sighting := by
  intro sighting member
  have tracks : Tracks before (firsts before [] sightings) (apartFromWatcher before after) :=
    tracks_once fresh tracks_base once
  have listed : logOf sighting ∈ after.transfers.rows.map CryptoChainTransfer.log := by
    rw [show after.transfers.rows.map CryptoChainTransfer.log = _ from tracks.logs]
    exact List.mem_append.mpr (firsts_cover member)
  obtain ⟨row, rowMember, same⟩ := List.mem_map.mp listed
  unfold RecordedOnce
  rw [Table.filter_key, ← same, Table.find?_of_mem rowMember]
  rfl

theorem scans_lose_nothing_iff (runtime : Runtime) (op : Op) (before after : CryptoDb)
    (sightings : List Sighting) (returned : perform runtime op before = .ok () after)
    (feeds : Feeds runtime before op sightings) (freshIds : FreshIds before sightings) :
    LosesNothing before sightings after ↔ DuplicatesFirst before sightings := by
  obtain ⟨attached, opened, count, final, ran, apart, transfers, same⟩ :=
    (scanRun_of_feeds feeds returned).ran
  have tracks : Tracks before [] opened := tracks_of_same tracks_base transfers
  rw [← clean_iff_duplicatesFirst]
  constructor
  · intro lossless
    obtain ⟨ideal, once⟩ := lossless.effects
    have scanned : Tracks before (kept before [] sightings) final :=
      tracks_scan freshIds tracks ran
    have expected : Tracks before (firsts before [] sightings) (apartFromWatcher before after) :=
      tracks_once freshIds tracks_base once
    rw [same] at expected
    have ids := scanned.ids.symm.trans expected.ids
    have distinct : (([] ++ sightings).map idOf).Nodup := freshIds.distinct
    exact (kept_eq_firsts_iff distinct).mp (List.append_cancel_left ids)
  · intro clean
    obtain ⟨ideal, once⟩ : ∃ ideal, scanOnce sightings (apartFromWatcher before opened) =
        .ok ideal (apartFromWatcher before final) :=
      once_of_clean freshIds tracks clean (fun _ => apart) ran
    rw [apart, ← same] at once
    have recorded := recorded_of_once freshIds once
    exact ⟨recorded, ⟨ideal, once⟩, fun _ _ _ => recorded⟩

/-- The market with a node, a cursor at block 0 and one recorded transfer. -/
def watched : CryptoDb := serve .ascii { market with
  rpcEndpoints := ⟨[⟨"rpc1", "n1", "active", 100, none, none⟩], by decide⟩
  cursors := ⟨[⟨"n1", "t1", "default", 0, 0, 0⟩], by decide⟩ } (scan "0x01" merchantAddress "tr1" 1)

def node (logs : List (EvmLog × ScanDraws)) : Chain := ⟨.ok 100, fun _ _ => .ok logs⟩

/-- The recorded transfer again, before or after a fresh one. -/
def again : EvmLog × ScanDraws := (tenUnits "0x01" merchantAddress, scanDraws "tr2" 2)

def fresh : EvmLog × ScanDraws := (tenUnits "0x02" merchantAddress, scanDraws "tr3" 2)

def poll (attached : Bool) (logs : List (EvmLog × ScanDraws)) : Op :=
  .runEvmOnce ⟨bsc, usdt, attached⟩ 0 (node logs) 3

def polled (logs : List (EvmLog × ScanDraws)) : List Sighting := evmSightings .ascii bsc usdt 88 logs

theorem feeds_poll (attached : Bool) (logs : List (EvmLog × ScanDraws)) :
    Feeds .ascii watched (poll attached logs) (polled logs) :=
  .blocks ⟨bsc, usdt, attached⟩ 0 3 (node logs) 100 ⟨"n1", "t1", "default", 0, 0, 0⟩ watched logs
    rfl rfl (by show (0 : Int) < 88; decide) rfl

/-- A property of the state in which a session returns. -/
def returnsWith (check : CryptoDb → Bool) (result : EStateM.Result Error CryptoDb Unit) : Bool :=
  match result with
  | .ok _ after => check after
  | .error _ _ => false

theorem returned_with (check : CryptoDb → Bool) {work : CryptoSession Unit} {before : CryptoDb}
    (returns : returnsWith check (work before) = true) :
    ∃ after, work before = .ok () after ∧ check after = true := by
  cases ran : work before with
  | error failure after => simp [ran, returnsWith] at returns
  | ok value after => exact ⟨after, rfl, by simpa [ran, returnsWith] using returns⟩

theorem poll_after_duplicate : ∃ after,
    perform .ascii (poll false [again, fresh]) watched = .ok () after ∧
      LosesNothing watched (polled [again, fresh]) after := by
  obtain ⟨after, returned, -⟩ := returned_with (fun _ => true)
    (show returnsWith _ (perform .ascii (poll false [again, fresh]) watched) = true by
      decide +kernel)
  refine ⟨after, returned, ?_⟩
  apply (scans_lose_nothing_iff .ascii _ watched after _ returned (feeds_poll false _)
    (by decide +kernel)).mpr
  rw [← clean_iff_duplicatesFirst]
  decide +kernel

/-- The node answers with a fresh transfer and then a recorded one: the poll returns,
the cursor is at block 88, and the fresh transfer is not recorded. -/
theorem duplicate_drops_fresh : ¬∀ runtime op before after sightings,
    perform runtime op before = .ok () after → Feeds runtime before op sightings →
      FreshIds before sightings → LosesNothing before sightings after := by
  intro always
  obtain ⟨after, returned, dropped⟩ := returned_with
    (fun after => after.cursors.rows.map CryptoWatcherCursor.lastScannedBlock = [88] &&
      (after.transfers.rows.filter fun row => row.log = ("n1", "0x02", 0)).length = 0)
    (show returnsWith _ (perform .ascii (poll true [fresh, again]) watched) = true by
      decide +kernel)
  have lossless := always .ascii _ watched after _ returned (feeds_poll true _)
    (by decide +kernel)
  have seen : ("n1", "0x02", 0) ∈ (polled [fresh, again]).map logOf := by decide +kernel
  obtain ⟨sighting, member, named⟩ := List.mem_map.mp seen
  have recorded := lossless.recorded sighting member
  simp only [Bool.and_eq_true, decide_eq_true_eq] at dropped
  rw [RecordedOnce, named, dropped.2] at recorded
  cases recorded

end ApiBank.Crypto.Scans
