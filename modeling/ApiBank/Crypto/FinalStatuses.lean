import ApiBank.Crypto.InvoiceSessions

/-!
# Final statuses under interleaving

A terminal status stays, and one ending is announced, as long as the check of every
decision still holds of the row when the `UPDATE` is sent. The code checks the object
that was read, without a lock, and the override checks nothing, so a row may have come
to its end in between.
-/

namespace ApiBank.Crypto.FinalStatuses

open ApiBank.Db ApiBank.Relational ApiBank.Transition
open Invoices InvoiceSessions Operations
open Webhook.Dispatcher (column)

set_option autoImplicit false

/-- `TERMINAL_STATUSES`. -/
def isTerminal : InvoiceStatus → Bool
  | .completed => true
  | .overpaid => true
  | .canceled => true
  | .failedReview => true
  | _ => false

def ends (invoiceId : String) (callback : CryptoCallback) : Bool :=
  callback.invoiceId = invoiceId && ["crypto.invoice.completed", "crypto.invoice.canceled",
    "crypto.invoice.expired"].contains callback.eventType

/-- At most one of the endings is announced. -/
def EndsOnce (db : CryptoDb) : Prop :=
  ∀ invoiceId, db.callbacks.rows.countP (ends invoiceId) ≤ 1

def KeepsTerminal (before after : CryptoDb) : Prop :=
  ∀ invoice ∈ before.invoices.rows, isTerminal invoice.status = true →
    ∃ row, after.invoices.find? invoice.id = some row ∧ row.status = invoice.status

/-- Whether the decision can be made on a status: cancelation, expiry and match are for
an invoice that waits, and they announce what they do. The override, which does not, is
for an invoice that is completed already or has no terminal status. -/
def admits (update : InvoiceUpdate) (status : InvoiceStatus) : Bool :=
  if update.event.isSome then status.isWaiting
  else status = .completed || !isTerminal status

/-- The `UPDATE` that is sent meets a row, with the session's own changes, on which it
could be decided. -/
def meetsOpen (_ : SessionId) (shared : Shared) (state : Local) (action : Action) : Bool :=
  match action, state.waiting with
  | .flush, next :: _ => (shared.committed.invoices.find? next.loaded.id).any fun row =>
      admits next (written state.sent row).status
  | _, _ => true

/-- What is decided on an object: it waited where something is announced, and does not
wait any more where that is its end. An unannounced change completes it. -/
structure Proper (update : InvoiceUpdate) : Prop where
  waited : update.event.isSome = true → update.loaded.status.isWaiting = true
  ended : ∀ callback, update.callback = some callback → ends update.loaded.id callback = true →
    update.assigned.status.isWaiting = false
  completed : update.event = none → update.assigned.status = .completed

/-- The endings that are announced for an invoice, with those of one transaction. -/
def announcements (db : CryptoDb) (sent : List InvoiceUpdate) (invoiceId : String) : Nat :=
  db.callbacks.rows.countP (ends invoiceId) +
    (sent.filterMap InvoiceUpdate.callback).countP (ends invoiceId)

/-- One ending is announced at most, and none while the invoice waits. -/
structure Announces (db : CryptoDb) (sent : List InvoiceUpdate) (invoiceId : String) : Prop where
  once : announcements db sent invoiceId ≤ 1
  unannounced : ∀ row, db.invoices.find? invoiceId = some row →
    (written sent row).status.isWaiting = true → announcements db sent invoiceId = 0

/-- At most one ending of an invoice is announced, and none of one that waits. -/
structure EndsSound (db : CryptoDb) : Prop where
  once : EndsOnce db
  unannounced : ∀ invoice ∈ db.invoices.rows, invoice.status.isWaiting = true →
    db.callbacks.rows.countP (ends invoice.id) = 0

/-- What one action can do to the shared state. -/
inductive Touched (session : SessionId) (shared : Shared) (state : Local) : Shared → Prop where
  | nothing : Touched session shared state shared
  | rowTaken (invoiceId : String)
      (free : shared.rowOwner invoiceId = none ∨ shared.rowOwner invoiceId = some session) :
      Touched session shared state { shared with
        rowOwner := Function.update shared.rowOwner invoiceId (some session) }
  | released : Touched session shared state { shared with
      rowOwner := release shared.rowOwner session }
  | published (committed : CryptoDb)
      (accepted : published state.sent shared.committed = some committed) :
      Touched session shared state { committed, rowOwner := release shared.rowOwner session }

variable {actor : SessionId} {shared shared' : Shared} {state state' : Local} {action : Action}
  {outcome : Unit}

theorem touched_of_advance
    (advanced : advance actor shared state action = some (outcome, shared', state')) :
    Touched actor shared state shared' := by
  cases action with
  | begin job =>
      simp only [advance, InvoiceSessions.begin] at advanced
      split at advanced <;> cases advanced
      exact .nothing
  | flush =>
      simp only [advance, InvoiceSessions.flush] at advanced
      repeat' split at advanced
      all_goals cases advanced
      rename_i free
      exact .rowTaken _ free
  | commit =>
      simp only [advance, InvoiceSessions.commit] at advanced
      split at advanced <;> cases advanced
      cases accepted : published state.sent shared.committed with
      | none => exact .released
      | some committed => exact .published committed accepted
  | rollback =>
      simp only [advance] at advanced
      cases advanced
      exact .released

/-- What a session may rely on: the rows it has updated are its own, a terminal status
survives its changes, and with its callbacks the ending is announced once. -/
structure Owns (session : SessionId) (shared : Shared) (state : Local) : Prop where
  proper : ∀ update ∈ state.waiting, Proper update
  owned : ∀ update ∈ state.sent, shared.rowOwner update.loaded.id = some session
  spared : ∀ invoiceId row, shared.rowOwner invoiceId = some session →
    shared.committed.invoices.find? invoiceId = some row → isTerminal row.status = true →
      (written state.sent row).status = row.status
  announces : ∀ invoiceId, shared.rowOwner invoiceId = some session →
    Announces shared.committed state.sent invoiceId

theorem proper_of_ending {update : InvoiceUpdate} {announcement : String × EventDraws}
    (waited : update.loaded.status.isWaiting = true) (event : update.event = some announcement)
    (ended : update.assigned.status.isWaiting = false) : Proper update where
  waited := fun _ => waited
  ended := fun _ _ _ => ended
  completed := by
    intro absent
    rw [event] at absent
    cases absent

theorem proper_receipt (transfer : CryptoChainTransfer) (draws : MatchDraws)
    {invoice : CryptoInvoice} (waiting : invoice.status.isWaiting = true) :
    Proper (receipt transfer draws invoice) := by
  by_cases paid : (invoice.receive transfer draws.now).status = .completed
  · have ended : (receipt transfer draws invoice).assigned.status.isWaiting = false := by
      rw [receipt, paid]
      rfl
    exact proper_of_ending waiting rfl ended
  · have event : (receipt transfer draws invoice).event =
        some ("crypto.invoice.partial", draws.event) := by
      simp [receipt, paid]
    refine ⟨fun _ => waiting, ?_, ?_⟩
    · -- a partial payment is no ending
      intro callback queued ending
      unfold InvoiceUpdate.callback at queued
      rw [event] at queued
      split at queued
      · rename_i announced
        cases announced
        cases queued
        simp [ends, newCallback] at ending
      · cases queued
    · intro absent
      rw [event] at absent
      cases absent

theorem proper_override (invoice : CryptoInvoice) : Proper (override invoice) where
  waited := by
    intro announced
    cases announced
  ended := by
    intro callback queued
    simp [InvoiceUpdate.callback, override] at queued
  completed := fun _ => rfl

theorem proper_of_decided {view : CryptoDb} {job : Job} {update : InvoiceUpdate}
    (listed : update ∈ decided view job) : Proper update := by
  cases job with
  | cancelInvoice transId merchantId draws =>
      simp only [decided] at listed
      split at listed
      · cases listed
      · split at listed
        · rename_i waiting
          obtain rfl := List.mem_singleton.mp listed
          exact proper_of_ending waiting rfl rfl
        · cases listed
  | expireDueInvoices now limit callbackIds =>
      obtain ⟨invoice, due, rfl⟩ := List.mem_map.mp listed
      have overdue := List.mem_of_mem_take due
      simp only [List.mem_filter, Bool.and_eq_true] at overdue
      exact proper_of_ending overdue.2.1 rfl rfl
  | matchTransfer transfer draws =>
      simp only [decided] at listed
      split at listed
      · cases listed
      · rename_i invoice fitting
        split at listed
        · cases listed
        · obtain rfl := List.mem_singleton.mp listed
          have waiting := ((History.fits_iff ..).mp (mem_of_fitting fitting).2).2.1
          exact proper_receipt transfer draws waiting
  | adminForceCompleteInvoice invoiceId =>
      simp only [decided] at listed
      split at listed
      · cases listed
      · split at listed
        · cases listed
        · obtain rfl := List.mem_singleton.mp listed
          exact proper_override _

theorem written_append (sent : List InvoiceUpdate) (next : InvoiceUpdate) (row : CryptoInvoice) :
    written (sent ++ [next]) row =
      if next.loaded.id = row.id then next.apply (written sent row) else written sent row := by
  induction sent generalizing row with
  | nil => rfl
  | cons update rest ih =>
      rw [List.cons_append, written, ih]
      congr 1
      split <;> rfl

theorem written_untouched {sent : List InvoiceUpdate} {row : CryptoInvoice}
    (apart : ∀ update ∈ sent, update.loaded.id ≠ row.id) : written sent row = row := by
  induction sent with
  | nil => rfl
  | cons update rest ih =>
      rw [written, if_neg (apart update List.mem_cons_self)]
      exact ih fun other member => apart other (List.mem_cons_of_mem update member)

theorem silent_of_apart {sent : List InvoiceUpdate} {invoiceId : String}
    (apart : ∀ update ∈ sent, update.loaded.id ≠ invoiceId) :
    (sent.filterMap InvoiceUpdate.callback).countP (ends invoiceId) = 0 := by
  apply List.countP_eq_zero.mpr
  intro callback member
  obtain ⟨update, listed, queued⟩ := List.mem_filterMap.mp member
  have other : callback.invoiceId ≠ invoiceId :=
    InvoiceUpdate.invoiceId_callback queued ▸ apart update listed
  simp [ends, other]

theorem apart_of_unowned (owns : Owns actor shared state) {invoiceId : String}
    (unowned : shared.rowOwner invoiceId ≠ some actor) :
    ∀ update ∈ state.sent, update.loaded.id ≠ invoiceId := by
  rintro update member rfl
  exact unowned (owns.owned update member)

theorem find_published {sent : List InvoiceUpdate} {db committed : CryptoDb}
    (accepted : published sent db = some committed) (invoiceId : String) :
    committed.invoices.find? invoiceId = (db.invoices.find? invoiceId).map (written sent) := by
  unfold published at accepted
  split at accepted
  · cases accepted
    exact Table.find?_update _ _ (id_written sent) invoiceId
  · cases accepted

theorem callbacks_published {sent : List InvoiceUpdate} {db committed : CryptoDb}
    (accepted : published sent db = some committed) :
    committed.callbacks.rows =
      db.callbacks.rows ++ sent.filterMap InvoiceUpdate.callback := by
  unfold published at accepted
  split at accepted
  · rename_i queued
    cases accepted
    exact Table.rows_of_insertAll? queued
  · cases accepted

theorem announces_of_sound {db : CryptoDb} (sound : EndsSound db) (invoiceId : String) :
    Announces db [] invoiceId where
  once := sound.once invoiceId
  unannounced := by
    intro row found waiting
    obtain rfl := Table.key_of_find? found
    exact sound.unannounced row (Table.mem_of_find? found) waiting

theorem sound_of_announces {db : CryptoDb} (announces : ∀ invoiceId, Announces db [] invoiceId) :
    EndsSound db where
  once := fun invoiceId => (announces invoiceId).once
  unannounced := fun invoice member =>
    (announces invoice.id).unannounced invoice (Table.find?_of_mem member)

theorem announces_apart {db : CryptoDb} {sent : List InvoiceUpdate} {invoiceId : String}
    (apart : ∀ update ∈ sent, update.loaded.id ≠ invoiceId) (sound : EndsSound db) :
    Announces db sent invoiceId := by
  have same : announcements db sent invoiceId = db.callbacks.rows.countP (ends invoiceId) := by
    rw [announcements, silent_of_apart apart, Nat.add_zero]
  have alone := announces_of_sound sound invoiceId
  constructor
  · rw [same]
    exact alone.once
  · intro row found waiting
    rw [← Table.key_of_find? found] at apart
    rw [written_untouched apart] at waiting
    rw [same]
    exact alone.unannounced row found waiting

theorem announcements_snoc (db : CryptoDb) (sent : List InvoiceUpdate) (next : InvoiceUpdate)
    (invoiceId : String) : announcements db (sent ++ [next]) invoiceId =
      announcements db sent invoiceId + next.callback.toList.countP (ends invoiceId) := by
  rw [announcements, List.filterMap_append, List.countP_append, filterMap_one, ← Nat.add_assoc]
  rfl

/-- The status that an `UPDATE` leaves when it ends the wait of its object. -/
theorem status_apply {update : InvoiceUpdate} {row : CryptoInvoice}
    (waited : update.loaded.status.isWaiting = true)
    (ended : update.assigned.status.isWaiting = false) :
    (update.apply row).status = update.assigned.status := by
  have changed : update.assigned.status ≠ update.loaded.status := by
    intro same
    rw [same, waited] at ended
    cases ended
  simp [InvoiceUpdate.apply, column, changed]

theorem waiting_of_completion {update : InvoiceUpdate} {row : CryptoInvoice}
    (completed : update.assigned.status = .completed)
    (waiting : (update.apply row).status.isWaiting = true) : row.status.isWaiting = true := by
  simp only [InvoiceUpdate.apply, column, completed] at waiting
  split at waiting
  · exact waiting
  · cases waiting

theorem not_waiting_of_terminal {status : InvoiceStatus} (terminal : isTerminal status = true) :
    status.isWaiting = false := by
  cases status with
  | waiting => cases terminal
  | partlyPaid => cases terminal
  | _ => rfl

/-- Where a terminal status admits an `UPDATE`, it stays. -/
theorem status_of_admitted {update : InvoiceUpdate} {row : CryptoInvoice} (proper : Proper update)
    (admitted : admits update row.status = true) (terminal : isTerminal row.status = true) :
    (update.apply row).status = row.status := by
  unfold admits at admitted
  split at admitted
  · rw [not_waiting_of_terminal terminal] at admitted
    cases admitted
  · rename_i unannounced
    have event : update.event = none := by simpa using unannounced
    have completed : row.status = .completed := by simpa [terminal] using admitted
    simp only [InvoiceUpdate.apply, column, proper.completed event, completed, ite_self]

/-- One more `UPDATE`, on a row that admits it. -/
theorem announces_flushed {db : CryptoDb} {sent : List InvoiceUpdate} {next : InvoiceUpdate}
    {row : CryptoInvoice} (proper : Proper next)
    (announces : Announces db sent next.loaded.id)
    (found : db.invoices.find? next.loaded.id = some row)
    (admitted : admits next (written sent row).status = true) :
    Announces db (sent ++ [next]) next.loaded.id := by
  have named := Table.key_of_find? found
  have result : written (sent ++ [next]) row = next.apply (written sent row) := by
    rw [written_append, if_pos named.symm]
  have only (other : CryptoInvoice) (here : db.invoices.find? next.loaded.id = some other) :
      other = row := Option.some.inj (here.symm.trans found)
  cases queued : next.callback with
  | none =>
      have same : announcements db (sent ++ [next]) next.loaded.id =
          announcements db sent next.loaded.id := by
        rw [announcements_snoc, queued]
        rfl
      refine ⟨same ▸ announces.once, ?_⟩
      intro other here waiting
      obtain rfl := only other here
      rw [result] at waiting
      rw [same]
      apply announces.unannounced other found
      unfold admits at admitted
      split at admitted
      · exact admitted
      · rename_i unannounced
        have event : next.event = none := by simpa using unannounced
        exact waiting_of_completion (proper.completed event) waiting
  | some callback =>
      have event : next.event.isSome = true := by
        unfold InvoiceUpdate.callback at queued
        split at queued
        · rename_i announced
          rw [announced]
          rfl
        · cases queued
      have waiting : (written sent row).status.isWaiting = true := by
        rw [admits, if_pos event] at admitted
        exact admitted
      -- nothing has been announced for an invoice that waits
      have vacant := announces.unannounced row found waiting
      have count : announcements db (sent ++ [next]) next.loaded.id =
          if ends next.loaded.id callback then 1 else 0 := by
        rw [announcements_snoc, vacant, queued, Option.toList_some, List.countP_singleton,
          Nat.zero_add]
      constructor
      · rw [count]
        split <;> decide
      · intro other here late
        obtain rfl := only other here
        rw [count, if_neg]
        intro ending
        have ended := proper.ended callback queued ending
        rw [result, status_apply (proper.waited event) ended, ended] at late
        cases late

theorem announces_beside {db : CryptoDb} {sent : List InvoiceUpdate} {next : InvoiceUpdate}
    {invoiceId : String} (other : next.loaded.id ≠ invoiceId)
    (announces : Announces db sent invoiceId) : Announces db (sent ++ [next]) invoiceId := by
  have silent : next.callback.toList.countP (ends invoiceId) = 0 := by
    rw [← filterMap_one]
    apply silent_of_apart
    intro update member
    rwa [List.mem_singleton.mp member]
  have same : announcements db (sent ++ [next]) invoiceId = announcements db sent invoiceId := by
    rw [announcements_snoc, silent, Nat.add_zero]
  refine ⟨same ▸ announces.once, ?_⟩
  intro row found waiting
  rw [written_append, if_neg (Table.key_of_find? found ▸ other)] at waiting
  exact same ▸ announces.unannounced row found waiting

theorem announces_published {sent : List InvoiceUpdate} {db committed : CryptoDb}
    {invoiceId : String} (announces : Announces db sent invoiceId)
    (accepted : published sent db = some committed) : Announces committed [] invoiceId := by
  have same : announcements committed [] invoiceId = announcements db sent invoiceId := by
    rw [announcements, callbacks_published accepted, List.countP_append]
    rfl
  refine ⟨same ▸ announces.once, ?_⟩
  intro row found waiting
  rw [find_published accepted] at found
  obtain ⟨before, stored, rfl⟩ := Option.map_eq_some_iff.mp found
  exact same ▸ announces.unannounced before stored waiting

theorem sound_published {committed : CryptoDb} (sound : EndsSound shared.committed)
    (owns : Owns actor shared state)
    (accepted : published state.sent shared.committed = some committed) : EndsSound committed := by
  apply sound_of_announces
  intro invoiceId
  apply announces_published ?_ accepted
  by_cases owned : shared.rowOwner invoiceId = some actor
  · exact owns.announces invoiceId owned
  · exact announces_apart (apart_of_unowned owns owned) sound

/-- A step leaves terminal statuses alone. -/
theorem terminal_kept (owns : Owns actor shared state)
    (advanced : advance actor shared state action = some (outcome, shared', state'))
    {invoiceId : String} {row : CryptoInvoice}
    (found : shared.committed.invoices.find? invoiceId = some row)
    (terminal : isTerminal row.status = true) :
    ∃ next, shared'.committed.invoices.find? invoiceId = some next ∧
      next.status = row.status := by
  cases touched_of_advance advanced with
  | nothing => exact ⟨row, found, rfl⟩
  | rowTaken taken free => exact ⟨row, found, rfl⟩
  | released => exact ⟨row, found, rfl⟩
  | published committed accepted =>
      refine ⟨written state.sent row, by rw [find_published accepted, found]; rfl, ?_⟩
      by_cases owned : shared.rowOwner invoiceId = some actor
      · exact owns.spared invoiceId row owned found terminal
      · have apart := apart_of_unowned owns owned
        rw [← Table.key_of_find? found] at apart
        rw [written_untouched apart]

/-- The rows of another session, and the endings announced for them, are as they were. -/
structure Undisturbed (session : SessionId) (before after : Shared) : Prop where
  owner : ∀ invoiceId, after.rowOwner invoiceId = some session ↔
    before.rowOwner invoiceId = some session
  rows : ∀ invoiceId, before.rowOwner invoiceId = some session →
    after.committed.invoices.find? invoiceId = before.committed.invoices.find? invoiceId
  announced : ∀ invoiceId, before.rowOwner invoiceId = some session →
    after.committed.callbacks.rows.countP (ends invoiceId) =
      before.committed.callbacks.rows.countP (ends invoiceId)

theorem undisturbed_of_advance {other : SessionId} (different : other ≠ actor)
    (owns : Owns actor shared state)
    (advanced : advance actor shared state action = some (outcome, shared', state')) :
    Undisturbed other shared shared' := by
  cases touched_of_advance advanced with
  | nothing => exact ⟨fun _ => .rfl, fun _ _ => rfl, fun _ _ => rfl⟩
  | rowTaken taken free =>
      refine ⟨?_, fun _ _ => rfl, fun _ _ => rfl⟩
      intro invoiceId
      exact ⟨owner_of_update different, update_other different free⟩
  | released =>
      refine ⟨?_, fun _ _ => rfl, fun _ _ => rfl⟩
      intro invoiceId
      exact ⟨owner_of_release, release_other different⟩
  | published committed accepted =>
      have apart : ∀ invoiceId, shared.rowOwner invoiceId = some other →
          ∀ update ∈ state.sent, update.loaded.id ≠ invoiceId := by
        intro invoiceId owned
        apply apart_of_unowned owns
        rw [owned, ne_eq, Option.some.injEq]
        exact different
      refine ⟨?_, ?_, ?_⟩
      · intro invoiceId
        exact ⟨owner_of_release, release_other different⟩
      · intro invoiceId owned
        rw [find_published accepted]
        cases found : shared.committed.invoices.find? invoiceId with
        | none => rfl
        | some row =>
            have others := apart invoiceId owned
            rw [← Table.key_of_find? found] at others
            rw [Option.map_some, written_untouched others]
      · intro invoiceId owned
        rw [callbacks_published accepted, List.countP_append,
          silent_of_apart (apart invoiceId owned), Nat.add_zero]

theorem owns_undisturbed {session : SessionId} {before after : Shared} {own : Local}
    (undisturbed : Undisturbed session before after) (owns : Owns session before own) :
    Owns session after own where
  proper := owns.proper
  owned := by
    intro update member
    exact (undisturbed.owner _).mpr (owns.owned update member)
  spared := by
    intro invoiceId row owned found
    have mine := (undisturbed.owner invoiceId).mp owned
    rw [undisturbed.rows invoiceId mine] at found
    exact owns.spared invoiceId row mine found
  announces := by
    intro invoiceId owned
    have mine := (undisturbed.owner invoiceId).mp owned
    have announces := owns.announces invoiceId mine
    have same : announcements after.committed own.sent invoiceId =
        announcements before.committed own.sent invoiceId := by
      rw [announcements, undisturbed.announced invoiceId mine]
      rfl
    refine ⟨same ▸ announces.once, ?_⟩
    intro row found
    rw [undisturbed.rows invoiceId mine] at found
    exact same ▸ announces.unannounced row found

theorem owns_nothing {rowOwner : String → Option SessionId} {committed : CryptoDb}
    (unowned : ∀ invoiceId, rowOwner invoiceId ≠ some actor) :
    Owns actor ⟨committed, rowOwner⟩ ⟨[], []⟩ where
  proper := by
    intro update member
    cases member
  owned := by
    intro update member
    cases member
  spared := by
    intro invoiceId row owned
    exact absurd owned (unowned invoiceId)
  announces := by
    intro invoiceId owned
    exact absurd owned (unowned invoiceId)

/-- The `UPDATE` that is sent is one more of the session's own. -/
theorem owns_flushed {next : InvoiceUpdate} {waiting sent : List InvoiceUpdate}
    {current : CryptoInvoice} (sound : EndsSound shared.committed)
    (owns : Owns actor shared ⟨next :: waiting, sent⟩)
    (stored : shared.committed.invoices.find? next.loaded.id = some current)
    (admitted : admits next (written sent current).status = true) :
    Owns actor { shared with
        rowOwner := Function.update shared.rowOwner next.loaded.id (some actor) }
      ⟨waiting, sent ++ [next]⟩ where
  proper := fun update member => owns.proper update (List.mem_cons_of_mem next member)
  owned := by
    intro update member
    by_cases same : update.loaded.id = next.loaded.id
    · simp [same]
    · rcases List.mem_append.mp member with old | new
      · exact (Function.update_of_ne same ..).trans (owns.owned update old)
      · exact absurd (List.mem_singleton.mp new ▸ rfl) same
  spared := by
    intro invoiceId row owned found terminal
    have named := Table.key_of_find? found
    have kept : (written sent row).status = row.status := by
      by_cases mine : shared.rowOwner invoiceId = some actor
      · exact owns.spared invoiceId row mine found terminal
      · have apart := apart_of_unowned owns mine
        rw [← named] at apart
        rw [written_untouched apart]
    rw [written_append]
    split
    · rename_i same
      have here : current = row := by
        rw [← named, ← same] at found
        exact Option.some.inj (stored.symm.trans found)
      rw [here] at admitted
      rw [status_of_admitted (owns.proper next List.mem_cons_self) admitted (kept ▸ terminal)]
      exact kept
    · exact kept
  announces := by
    intro invoiceId owned
    have before : Announces shared.committed sent invoiceId := by
      by_cases mine : shared.rowOwner invoiceId = some actor
      · exact owns.announces invoiceId mine
      · exact announces_apart (apart_of_unowned owns mine) sound
    by_cases same : next.loaded.id = invoiceId
    · subst same
      exact announces_flushed (owns.proper next List.mem_cons_self) before stored admitted
    · exact announces_beside same before

/-- What the acting session establishes. -/
theorem own_step (guarded : meetsOpen actor shared state action)
    (sound : EndsSound shared.committed) (owns : Owns actor shared state)
    (advanced : advance actor shared state action = some (outcome, shared', state')) :
    EndsSound shared'.committed ∧ Owns actor shared' state' := by
  cases action with
  | begin job =>
      simp only [advance, InvoiceSessions.begin] at advanced
      split at advanced <;> cases advanced
      exact ⟨sound, fun _ listed => proper_of_decided listed, owns.owned, owns.spared,
        owns.announces⟩
  | flush =>
      obtain ⟨waiting, sent⟩ := state
      cases waiting with
      | nil => cases advanced
      | cons next rest =>
          simp only [advance, InvoiceSessions.flush] at advanced
          split at advanced <;> cases advanced
          simp only [meetsOpen, Option.any_eq_true] at guarded
          obtain ⟨row, stored, admitted⟩ := guarded
          exact ⟨sound, owns_flushed sound owns stored admitted⟩
  | commit =>
      simp only [advance, InvoiceSessions.commit] at advanced
      split at advanced <;> cases advanced
      refine ⟨?_, owns_nothing (release_self shared.rowOwner actor)⟩
      cases accepted : published state.sent shared.committed with
      | none => exact sound
      | some committed => exact sound_published sound owns accepted
  | rollback =>
      simp only [advance] at advanced
      cases advanced
      exact ⟨sound, owns_nothing (release_self shared.rowOwner actor)⟩

/-- The steps whose `UPDATE`s meet open invoices. -/
abbrev GuardedStep : System → Event → System → Prop :=
  Guarded (Interleaved.AtActor fun session shared state action =>
    meetsOpen session shared state action) (Interleaved.Step advance)

def Invariant (system : System) : Prop :=
  Interleaved.Holds (fun shared => EndsSound shared.committed) Owns system

theorem invariant_opened {db : CryptoDb} (sound : EndsSound db) : Invariant (opened db) :=
  ⟨sound, fun _ => owns_nothing fun _ owned => nomatch owned⟩

theorem invariant_step {system next : System} {event : Event} (invariant : Invariant system)
    (taken : GuardedStep system event next) : Invariant next := by
  apply Interleaved.holds_step advance _ Owns ?own ?frame invariant taken
  case own =>
    intro actor shared state action outcome shared' state' guarded store owns advanced
    exact own_step guarded store owns advanced
  case frame =>
    intro actor other shared state otherState action outcome shared' state' different _ owns
      advanced otherOwns
    exact owns_undisturbed (undisturbed_of_advance different owns advanced) otherOwns

/-- In every run whose `UPDATE`s meet open invoices, a committed terminal status stays
and at most one ending is announced for an invoice. -/
theorem statuses_final_while_updates_meet_open {db : CryptoDb} {events : List Event}
    {system : System} (sound : EndsSound db) (run : Run GuardedStep (opened db) events system) :
    EndsOnce system.shared.committed ∧ ∀ later final, Run GuardedStep system later final →
      KeepsTerminal system.shared.committed final.shared.committed := by
  have reached : Invariant system :=
    run.invariant Invariant (invariant_opened sound) fun _ _ _ holds taken =>
      invariant_step holds taken
  refine ⟨reached.1.once, ?_⟩
  intro later final rest invoice member terminal
  have kept : Invariant final ∧ ∃ row,
      final.shared.committed.invoices.find? invoice.id = some row ∧
        row.status = invoice.status := by
    apply rest.invariant (fun system => Invariant system ∧ ∃ row,
      system.shared.committed.invoices.find? invoice.id = some row ∧
        row.status = invoice.status) ⟨reached, invoice, Table.find?_of_mem member, rfl⟩
    rintro system event next ⟨invariant, row, found, status⟩ taken
    obtain ⟨-, shared, state, advanced, rfl⟩ := id taken
    obtain ⟨after, foundAfter, same⟩ :=
      terminal_kept (invariant.2 event.session) advanced found (status ▸ terminal)
    exact ⟨invariant_step invariant taken, after, foundAfter, same.trans status⟩
  exact kept.2

/-- An invoice of ten units with a callback, and a transfer that pays it. -/
def announced : CryptoDb :=
  serve .ascii market (.createInvoice
    { order "r1" (some merchantAddress) with callbackUrl := some "https://shop.example/hook" }
    "m1" none (drawsAt 0 "i1" "w1"))

def tenUnitsSeen : CryptoChainTransfer :=
  ⟨"x1", "n1", "t1", "0xfeed", 0, "0xcccc", merchantAddress, 10000000, 10, 7, none, some 5, 12,
    .confirmed⟩

/-- The cancelation was decided as well, and is given up. -/
def paymentOnly : List (SessionId × Action) := [
  (1, .begin (.matchTransfer tenUnitsSeen ⟨"c1", "k1", 6⟩)),
  (2, .begin (.cancelInvoice "TXi1" (some "m1") ⟨"k2", 7⟩)),
  (1, .flush), (1, .commit), (2, .rollback),
  (3, .begin (.adminForceCompleteInvoice "i1")), (3, .commit)]

def onRecord (system : System) : List InvoiceStatus × List String :=
  let db := system.shared.committed
  (db.invoices.rows.map CryptoInvoice.status, db.callbacks.rows.map CryptoCallback.eventType)

theorem sound_announced : EndsSound announced := by
  have none : announced.callbacks.rows = [] := rfl
  constructor
  · intro invoiceId
    simp [none]
  · intro invoice _ _
    simp [none]

theorem statuses_final_after_payment : ∃ system : System,
    onRecord system = ([.completed], ["crypto.invoice.completed"]) ∧
      EndsOnce system.shared.committed := by
  have ended : (Interleaved.replay (Interleaved.checked advance meetsOpen) (opened announced)
      paymentOnly).map (fun reached => onRecord reached.2) =
        some ([.completed], ["crypto.invoice.completed"]) := by decide +kernel
  obtain ⟨⟨events, system⟩, replayed, record⟩ := Option.map_eq_some_iff.mp ended
  have run := Interleaved.guarded_run_of_replay advance meetsOpen replayed
  exact ⟨system, record, (statuses_final_while_updates_meet_open sound_announced run).1⟩

def cancelationAfterPayment : List (SessionId × Action) := [
  (1, .begin (.matchTransfer tenUnitsSeen ⟨"c1", "k1", 6⟩)),
  (2, .begin (.cancelInvoice "TXi1" (some "m1") ⟨"k2", 7⟩)),
  (1, .flush), (1, .commit), (2, .flush), (2, .commit)]

/-- A paid invoice is canceled, and both endings are announced. -/
theorem stale_cancelation_announces_again :
    ¬∀ (db : CryptoDb) (events : List Event) (system : System), EndsSound db →
      Run (Interleaved.Step advance) (opened db) events system →
        EndsOnce system.shared.committed ∧ ∀ later final,
          Run (Interleaved.Step advance) system later final →
            KeepsTerminal system.shared.committed final.shared.committed := by
  intro claimed
  have ended : (Interleaved.replay advance (opened announced) cancelationAfterPayment).map
      (fun reached => (onRecord reached.2,
        reached.2.shared.committed.callbacks.rows.countP (ends "i1"))) =
        some (([.canceled], ["crypto.invoice.completed", "crypto.invoice.canceled"]), 2) := by
    decide +kernel
  obtain ⟨⟨events, system⟩, replayed, record⟩ := Option.map_eq_some_iff.mp ended
  have run := Interleaved.run_of_replay advance replayed
  have once := (claimed announced events system sound_announced run).1 "i1"
  have twice : system.shared.committed.callbacks.rows.countP (ends "i1") = 2 :=
    congrArg Prod.snd record
  omega

end ApiBank.Crypto.FinalStatuses
