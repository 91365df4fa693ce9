import ApiBank.Core.Ingest
import ApiBank.Webhook.Claims

/-!
# The life of a delivery attempt

A dispatcher applies its results without looking at the row again: the count goes
up from the loaded one, and the status is overwritten whatever it has become. So an
attempt that is reset or replayed while it is being sent is sent twice and
rewritten by both, and one that is replayed with its count exhausted runs over its
maximum.

When resets and replays meet only attempts that no dispatcher has in hand, and keep
no count that is used up, an attempt has one dispatcher at a time, its count stays
within the maximum, and only a replay takes it out of delivered or dead.
-/

namespace ApiBank.Webhook.Lifecycle

open ApiBank.Core ApiBank.Db ApiBank.Relational ApiBank.Transition
open Claims Dispatcher DispatchSessions

set_option autoImplicit false

/-- A count within its maximum, and below it while there is something to send. -/
structure Sound (row : WebhookAttempt) : Prop where
  positive : 0 < row.maxAttempts
  counted : row.attempt ≤ row.maxAttempts
  remaining : row.status = "pending" ∨ row.status = "dispatching" →
    row.attempt < row.maxAttempts

def held : Local → List String
  | .sending _ attempts => attempts.map WebhookAttempt.id
  | .writing (.dispatcher _) waiting sent => (waiting ++ sent).map AttemptUpdate.attemptId
  | state => awaited state

/-- The `UPDATE` does not set the count. -/
def keepsCount : AttemptWrite → Bool
  | .flush loaded assigned => assigned.attempt = loaded.attempt
  | .reset _ => true

def Replays : Writer → Prop
  | .replay => True
  | .adminReplay => True
  | .redeliver => True
  | _ => False

def Considerate (system : System) : Local → Prop
  | .writing (.dispatcher _) _ _ => True
  | .writing writer _ sent => ∀ update ∈ sent,
      (∀ session, update.attemptId ∉ held (system.sessions session)) ∧
      (Replays writer → keepsCount update.write = true →
        ∀ row, system.shared.committed.webhookAttempts.find? update.attemptId = some row →
          row.attempt < row.maxAttempts)
  | _ => True

/-- The condition on a step. -/
def Exclusive (dialect : Dialect) (system : System) (event : Event) : Prop :=
  match event.action with
  | .claim now offset _ _ => dialect = .sqlite → Unused system.shared (now + offset.val)
  | .commit => Considerate system (system.sessions event.session)
  | _ => True

theorem held_of_awaited {state : Local} {id : String} (waits : id ∈ awaited state) :
    id ∈ held state := by
  cases state with
  | claimed call ids => exact waits
  | loaded call attempts => exact waits
  | _ => simp [awaited] at waits

def Current (shared : Shared) (loaded : WebhookAttempt) : Prop :=
  shared.committed.webhookAttempts.find? loaded.id = some loaded ∧
    loaded.status = "dispatching"

def Result (shared : Shared) (call : Call) (update : AttemptUpdate) : Prop :=
  ∃ loaded outcome jitter, update = outcomeUpdate call.now (loaded, outcome, jitter) ∧
    Current shared loaded

def Works (shared : Shared) : Local → Prop
  | .loaded _ attempts => (attempts.map WebhookAttempt.id).Nodup ∧
      ∀ attempt ∈ attempts, Current shared attempt
  | .sending _ attempts => (attempts.map WebhookAttempt.id).Nodup ∧
      ∀ attempt ∈ attempts, Current shared attempt
  | .writing (.dispatcher call) waiting sent =>
      ((waiting ++ sent).map AttemptUpdate.attemptId).Nodup ∧
        ∀ update ∈ waiting ++ sent, Result shared call update
  | .writing .resetStuck waiting sent =>
      ∀ update ∈ waiting ++ sent, ∃ threshold, update.write = .reset threshold
  | .writing writer waiting sent => ∃ row assigned, Assigns writer row assigned ∧
      waiting ++ sent = [⟨row.id, .flush row assigned⟩]
  | _ => True

structure Working (dialect : Dialect) (system : System) : Prop where
  claiming : Claiming dialect system
  sound : ∀ row ∈ system.shared.committed.webhookAttempts.rows, Sound row
  works : ∀ session, Works system.shared (system.sessions session)
  alone : ∀ session other id, session ≠ other → id ∈ held (system.sessions session) →
    id ∉ held (system.sessions other)

section Rows

variable {shared : Shared} {row loaded : WebhookAttempt}

theorem sound_claimed (ids : List String) (token : Int) (sound : Sound row) :
    Sound (claimIfPending ids token row) := by
  unfold claimIfPending
  split
  · rename_i claimed
    exact ⟨sound.positive, sound.counted, fun _ => sound.remaining (.inl claimed.2)⟩
  · exact sound

theorem sound_reset (threshold : Int) (sound : Sound row) :
    Sound (resetIfStuck threshold row) := by
  unfold resetIfStuck
  split
  · rename_i isStuck
    have dispatching : row.status = "dispatching" := by
      have both := isStuck
      simp only [stuck, Bool.and_eq_true, decide_eq_true_eq] at both
      exact both.1
    exact ⟨sound.positive, sound.counted, fun _ => sound.remaining (.inr dispatching)⟩
  · exact sound

theorem sound_applyOutcome (now jitter : Int) (outcome : Outcome) (sound : Sound loaded)
    (dispatching : loaded.status = "dispatching") :
    Sound (applyOutcome now jitter outcome loaded) := by
  have remaining := sound.remaining (.inr dispatching)
  unfold applyOutcome
  split
  · exact ⟨sound.positive, sound.counted, by simp⟩
  · dsimp only
    split
    · exact ⟨sound.positive, remaining, by simp⟩
    · split
      · exact ⟨sound.positive, remaining, by simp⟩
      · rename_i below
        exact ⟨sound.positive, remaining, fun _ => Nat.lt_of_not_le below⟩

/-- A replay of a row with attempts left, or one that sets the count to zero. -/
theorem sound_rewritten {writer : Writer} {assigned : WebhookAttempt}
    (assigns : Assigns writer loaded assigned) (sound : Sound row)
    (counted : keepsCount (.flush loaded assigned) = true → row.attempt < row.maxAttempts) :
    Sound (flushed loaded assigned row) := by
  have count : (flushed loaded assigned row).attempt < row.maxAttempts := by
    by_cases same : assigned.attempt = loaded.attempt
    · simp only [flushed, column, if_pos same]
      exact counted (by simpa [keepsCount] using same)
    · simp only [flushed, column, if_neg same]
      cases assigns with
      | replay now => exact absurd rfl same
      | adminReplay now => exact sound.positive
      | redeliver now => exact absurd rfl same
  exact ⟨sound.positive, Nat.le_of_lt count, fun _ => count⟩

/-- Over the row as it was loaded, a flush writes the object. -/
theorem flushed_outcome (now jitter : Int) (outcome : Outcome) (loaded : WebhookAttempt) :
    flushed loaded (applyOutcome now jitter outcome loaded) loaded =
      applyOutcome now jitter outcome loaded := by
  unfold applyOutcome
  split
  · simp [flushed]
  · dsimp only
    split
    · simp [flushed]
    · split <;> simp [flushed]

/-- The one `UPDATE` of a transaction that names the row. -/
theorem written_of_unique {updates : List AttemptUpdate} {update : AttemptUpdate}
    (unique : (updates.map AttemptUpdate.attemptId).Nodup) (member : update ∈ updates)
    (named : update.attemptId = row.id) : written updates row = update.write.apply row := by
  induction updates generalizing row with
  | nil => simp at member
  | cons first rest ih =>
      rw [List.map_cons, List.nodup_cons] at unique
      rw [written]
      rcases List.mem_cons.mp member with rfl | later
      · rw [if_pos named]
        apply written_of_absent
        rw [AttemptWrite.id_apply, ← named]
        exact unique.1
      · have apart : first.attemptId ≠ row.id := by
          intro same
          apply unique.1
          rw [same, ← named]
          exact List.mem_map_of_mem later
        rw [if_neg apart]
        exact ih unique.2 later named

end Rows

section Moves

variable {dialect : Dialect} {session other : SessionId} {shared shared' : Shared}
variable {state state' otherState : Local} {action : Action} {notice : Notice}

theorem current_of_loaded {call : Call} {ids : List String} {row : WebhookAttempt}
    (standing : Standing dialect shared call ids)
    (loaded : row ∈ loadClaimed dialect call ids shared.committed.webhookAttempts.rows) :
    Current shared row := by
  obtain ⟨stored, -⟩ := mem_loadClaimed loaded
  have claimed := (mem_loaded_iff standing row.id).mp (List.mem_map_of_mem loaded)
  obtain ⟨held, found, dispatching, -⟩ := standing.rows row.id claimed
  rw [Table.find?_of_mem stored] at found
  obtain rfl : row = held := by simpa using found
  exact ⟨Table.find?_of_mem stored, dispatching⟩

theorem nodup_loaded (call : Call) (ids : List String) (attempts : Table WebhookAttempt.id) :
    ((loadClaimed dialect call ids attempts.rows).map WebhookAttempt.id).Nodup := by
  unfold loadClaimed
  split
  · exact attempts.distinct.sublist (List.filter_sublist.map _)
  · split
    · simp
    · exact attempts.distinct.sublist (List.filter_sublist.map _)

theorem works_handOver (call : Call) {attempts : List WebhookAttempt}
    (unique : (attempts.map WebhookAttempt.id).Nodup)
    (current : ∀ attempt ∈ attempts, Current shared attempt) :
    Works shared (handOver call attempts) := by
  unfold handOver
  split
  · trivial
  · exact ⟨unique, current⟩

theorem refreshed_current {loaded : WebhookAttempt} (current : Current shared loaded) :
    refreshed shared.committed.webhookAttempts loaded = loaded := by
  simp [refreshed, current.1]

theorem ids_of_outcomes (now : Int) {attempts : List WebhookAttempt}
    {outcomes : List (Outcome × Int)} (complete : attempts.length = outcomes.length) :
    ((attempts.zip outcomes).map (outcomeUpdate now)).map AttemptUpdate.attemptId =
      attempts.map WebhookAttempt.id := by
  rw [List.map_map]
  have ids : AttemptUpdate.attemptId ∘ outcomeUpdate now = WebhookAttempt.id ∘ Prod.fst := rfl
  rw [ids, ← List.map_map, List.map_fst_zip (Nat.le_of_eq complete)]

theorem works_flushed {writer : Writer} {next : AttemptUpdate}
    {waiting sent : List AttemptUpdate}
    (works : Works shared (.writing writer (next :: waiting) sent)) :
    Works shared (.writing writer waiting (sent ++ [next])) := by
  have same : (waiting ++ (sent ++ [next])).Perm ((next :: waiting) ++ sent) := by
    rw [← List.append_assoc, List.cons_append]
    exact List.perm_append_comm
  cases writer with
  | dispatcher call =>
      refine ⟨(same.map _).nodup_iff.mpr works.1, ?_⟩
      intro update member
      exact works.2 update (same.mem_iff.mp member)
  | resetStuck => exact fun update member => works update (same.mem_iff.mp member)
  | _ =>
      obtain ⟨row, assigned, assigns, single⟩ := works
      refine ⟨row, assigned, assigns, ?_⟩
      rw [single] at same
      exact List.perm_singleton.mp same

theorem works_acted (moved : Moves dialect session shared state action notice shared' state')
    (owns : Owns dialect session shared state) (works : Works shared state) :
    Works shared' state' := by
  cases moved with
  | loadPostgres call ids attempts postgres found =>
      subst found
      exact works_handOver call (nodup_loaded call ids _) fun row => current_of_loaded owns
  | loadSqlite call ids attempts sqlite found =>
      subst found
      exact ⟨nodup_loaded call ids _, fun row => current_of_loaded owns⟩
  | refresh call attempts fresh found =>
      have same : fresh = attempts := by
        rw [found]
        conv_rhs => rw [← List.map_id attempts]
        exact List.map_congr_left fun attempt member => refreshed_current (works.2 attempt member)
      subst same
      exact works_handOver call works.1 works.2
  | respond call attempts outcomes updates complete decided =>
      subst decided
      constructor
      · rw [List.append_nil, ids_of_outcomes call.now complete]
        exact works.1
      · intro update member
        obtain ⟨⟨loaded, outcome, jitter⟩, zipped, rfl⟩ :=
          List.mem_map.mp (List.append_nil _ ▸ member)
        exact ⟨loaded, outcome, jitter, rfl, works.2 loaded (List.of_mem_zip zipped).1⟩
  | reset now rows =>
      intro update member
      obtain ⟨row, -, rfl⟩ := List.mem_map.mp (List.append_nil _ ▸ member)
      exact ⟨_, rfl⟩
  | rewrite action writer row assigned found assigns =>
      cases writer with
      | dispatcher call => cases assigns
      | resetStuck => cases assigns
      | _ => exact ⟨row, assigned, assigns, rfl⟩
  | flush writer next waiting sent free =>
      have flushed := works_flushed works
      cases writer <;> exact flushed
  | _ => trivial

theorem current_of_update {change : WebhookAttempt → WebhookAttempt}
    {keepsId : ∀ row, (change row).id = row.id} {loaded : WebhookAttempt}
    (current : Current shared loaded) (still : change loaded = loaded) :
    Current ((shared.updateAttempts change keepsId).release session) loaded := by
  have changed := find?_updateAttempts shared change keepsId loaded.id
  rw [current.1, Option.map_some, still] at changed
  exact ⟨changed, current.2⟩

theorem works_of_update {change : WebhookAttempt → WebhookAttempt}
    {keepsId : ∀ row, (change row).id = row.id} (works : Works shared otherState)
    (still : ∀ loaded, Current shared loaded → loaded.id ∈ held otherState →
      change loaded = loaded) :
    Works ((shared.updateAttempts change keepsId).release session) otherState := by
  cases otherState with
  | loaded call attempts =>
      refine ⟨works.1, fun attempt member => ?_⟩
      have current := works.2 attempt member
      exact current_of_update current (still attempt current (List.mem_map_of_mem member))
  | sending call attempts =>
      refine ⟨works.1, fun attempt member => ?_⟩
      have current := works.2 attempt member
      exact current_of_update current (still attempt current (List.mem_map_of_mem member))
  | writing writer waiting sent =>
      cases writer with
      | dispatcher call =>
          refine ⟨works.1, fun update member => ?_⟩
          obtain ⟨loaded, outcome, jitter, rfl, current⟩ := works.2 update member
          have mine : loaded.id ∈ (waiting ++ sent).map AttemptUpdate.attemptId :=
            List.mem_map_of_mem member
          exact ⟨loaded, outcome, jitter, rfl,
            current_of_update current (still loaded current mine)⟩
      | _ => exact works
  | _ => trivial

theorem dispatching_of_held {id : String} (owns : Owns dialect session shared state)
    (works : Works shared state) (mine : id ∈ held state) :
    ∃ row, shared.committed.webhookAttempts.find? id = some row ∧ row.status = "dispatching" := by
  cases state with
  | claimed call ids =>
      obtain ⟨row, found, dispatching, -⟩ := owns.rows id mine
      exact ⟨row, found, dispatching⟩
  | loaded call attempts =>
      obtain ⟨attempt, member, rfl⟩ := List.mem_map.mp mine
      exact ⟨attempt, works.2 attempt member⟩
  | sending call attempts =>
      obtain ⟨attempt, member, rfl⟩ := List.mem_map.mp mine
      exact ⟨attempt, works.2 attempt member⟩
  | writing writer waiting sent =>
      cases writer with
      | dispatcher call =>
          obtain ⟨update, member, rfl⟩ := List.mem_map.mp mine
          obtain ⟨loaded, outcome, jitter, rfl, current⟩ := works.2 update member
          exact ⟨loaded, current⟩
      | _ => simp [held, awaited] at mine
  | _ => simp [held, awaited] at mine

theorem not_due_of_held {id : String} {now : Int} (owns : Owns dialect session shared state)
    (works : Works shared state) (mine : id ∈ held state) : ¬DueRow shared now id := by
  rintro ⟨row, found, pending, -⟩
  obtain ⟨mineRow, same, dispatching⟩ := dispatching_of_held owns works mine
  rw [found] at same
  obtain rfl : row = mineRow := by simpa using same
  rw [pending] at dispatching
  contradiction

theorem held_handOver {call : Call} {attempts : List WebhookAttempt} {id : String}
    (mine : id ∈ held (handOver call attempts)) : id ∈ attempts.map WebhookAttempt.id := by
  unfold handOver at mine
  split at mine
  · simp [held, awaited] at mine
  · exact mine

theorem held_acted {id : String}
    (moved : Moves dialect session shared state action notice shared' state')
    (owns : Owns dialect session shared state) (mine : id ∈ held state') :
    id ∈ held state ∨ ∃ call rows, notice = .claimed call rows ∧ DueRow shared call.now id := by
  cases moved with
  | commitClaim call ids => exact .inr ⟨call, _, rfl, owns.dueRows id mine⟩
  | loadPostgres call ids attempts postgres found =>
      subst found
      exact .inl ((mem_loaded_iff owns id).mp (held_handOver mine))
  | loadSqlite call ids attempts sqlite found =>
      subst found
      exact .inl ((mem_loaded_iff owns id).mp mine)
  | refresh call attempts fresh found =>
      subst found
      have member := held_handOver mine
      rw [ids_refreshed] at member
      exact .inl member
  | respond call attempts outcomes updates complete decided =>
      subst decided
      rw [held, List.append_nil, ids_of_outcomes call.now complete] at mine
      exact .inl mine
  | rewrite action writer row assigned found assigns =>
      cases writer with
      | dispatcher call => cases assigns
      | _ => simp [held, awaited] at mine
  | flush writer next waiting sent free =>
      cases writer with
      | dispatcher call =>
          left
          simp only [held, List.map_append, List.map_cons, List.map_nil, List.mem_append,
            List.mem_cons] at mine ⊢
          tauto
      | _ => simp [held, awaited] at mine
  | _ => simp [held, awaited] at mine

theorem sound_written {updates : List AttemptUpdate}
    (each : ∀ update ∈ updates, ∀ row, Sound row → Sound (update.write.apply row))
    {row : WebhookAttempt} (sound : Sound row) : Sound (written updates row) := by
  induction updates generalizing row with
  | nil => exact sound
  | cons update rest ih =>
      rw [written]
      apply ih fun other member => each other (List.mem_cons_of_mem _ member)
      split
      · exact each update (by simp) row sound
      · exact sound

theorem written_result {call : Call} {sent : List AttemptUpdate} {row : WebhookAttempt}
    (unique : (sent.map AttemptUpdate.attemptId).Nodup)
    (results : ∀ update ∈ sent, Result shared call update)
    (stored : row ∈ shared.committed.webhookAttempts.rows) :
    written sent row = row ∨ (row.status = "dispatching" ∧
      ∃ outcome jitter, written sent row = applyOutcome call.now jitter outcome row) := by
  by_cases named : row.id ∈ sent.map AttemptUpdate.attemptId
  · right
    obtain ⟨update, member, same⟩ := List.mem_map.mp named
    obtain ⟨loaded, outcome, jitter, rfl, found, dispatching⟩ := results update member
    have sameId : loaded.id = row.id := same
    rw [sameId, Table.find?_of_mem stored] at found
    obtain rfl : row = loaded := by simpa using found
    refine ⟨dispatching, outcome, jitter, ?_⟩
    rw [written_of_unique unique member same]
    exact flushed_outcome call.now jitter outcome row
  · exact .inl (written_of_absent named)

end Moves

section Steps

variable {dialect : Dialect} {session other : SessionId} {system : System} {shared' : Shared}
variable {state state' otherState : Local} {action : Action} {notice : Notice}

theorem sound_of_update {change : WebhookAttempt → WebhookAttempt}
    {keepsId : ∀ row, (change row).id = row.id}
    (each : ∀ row ∈ system.shared.committed.webhookAttempts.rows, Sound (change row)) :
    ∀ row ∈ ((system.shared.updateAttempts change keepsId).release
      session).committed.webhookAttempts.rows, Sound row := by
  intro row member
  obtain ⟨old, stored, rfl⟩ := List.mem_map.mp member
  exact each old stored

theorem sound_commit {writer : Writer} {sent : List AttemptUpdate} {row : WebhookAttempt}
    (works : Works system.shared (.writing writer [] sent))
    (considerate : Considerate system (.writing writer [] sent))
    (stored : row ∈ system.shared.committed.webhookAttempts.rows) (sound : Sound row) :
    Sound (written sent row) := by
  -- A replay that keeps the count is one of a row below its maximum.
  have replayed (replays : Replays writer) (loaded assigned : WebhookAttempt)
      (assigns : Assigns writer loaded assigned)
      (single : sent = [⟨loaded.id, .flush loaded assigned⟩])
      (counts : ∀ update ∈ sent, Replays writer → keepsCount update.write = true →
        ∀ row, system.shared.committed.webhookAttempts.find? update.attemptId = some row →
          row.attempt < row.maxAttempts) : Sound (written sent row) := by
    subst single
    by_cases named : loaded.id = row.id
    · have found : system.shared.committed.webhookAttempts.find? loaded.id = some row :=
        named ▸ Table.find?_of_mem stored
      simp only [written, if_pos named]
      exact sound_rewritten assigns sound
        fun keeps => counts _ (List.mem_singleton.mpr rfl) replays keeps row found
    · simpa only [written, if_neg named] using sound
  cases writer with
  | dispatcher call =>
      have unique : (sent.map AttemptUpdate.attemptId).Nodup := works.1
      rcases written_result unique works.2 stored with same | ⟨dispatching, outcome, jitter, same⟩
      · rw [same]
        exact sound
      · rw [same]
        exact sound_applyOutcome call.now jitter outcome sound dispatching
  | resetStuck =>
      apply sound_written _ sound
      intro update member other otherSound
      obtain ⟨threshold, same⟩ := works update member
      rw [same]
      exact sound_reset threshold otherSound
  | _ =>
      obtain ⟨loaded, assigned, assigns, single⟩ := works
      exact replayed trivial loaded assigned assigns single
        fun update member => (considerate update member).2

theorem sound_acted
    (moved : Moves dialect session system.shared state action notice shared' state')
    (works : Works system.shared state) (considerate : action = .commit → Considerate system state)
    (sound : ∀ row ∈ system.shared.committed.webhookAttempts.rows, Sound row) :
    ∀ row ∈ shared'.committed.webhookAttempts.rows, Sound row := by
  cases moved with
  | commitClaim call ids =>
      exact sound_of_update fun row stored => sound_claimed ids call.token (sound row stored)
  | commitWrites writer sent =>
      exact sound_of_update fun row stored =>
        sound_commit works (considerate rfl) stored (sound row stored)
  | _ => exact sound

/-- What a commit rewrites is in nobody else's hands. -/
theorem apart_of_considerate {writer : Writer} {waiting sent : List AttemptUpdate}
    (considerate : Considerate system (.writing writer waiting sent))
    (alone : ∀ id ∈ held (.writing writer waiting sent), id ∉ held (system.sessions other)) :
    ∀ update ∈ sent, update.attemptId ∉ held (system.sessions other) := by
  intro update member
  cases writer with
  | dispatcher call =>
      apply alone
      exact List.mem_map_of_mem (List.mem_append_right waiting member)
  | _ => exact (considerate update member).1 other

theorem works_other
    (moved : Moves dialect session system.shared state action notice shared' state')
    (considerate : action = .commit → Considerate system state)
    (alone : ∀ id ∈ held state, id ∉ held (system.sessions other))
    (works : Works system.shared (system.sessions other)) :
    Works shared' (system.sessions other) := by
  cases moved with
  | commitClaim call ids =>
      apply works_of_update works
      intro loaded current _
      simp [claimIfPending, current.2]
  | commitWrites writer sent =>
      apply works_of_update works
      intro loaded current mine
      apply written_of_absent
      intro rewritten
      obtain ⟨update, member, same⟩ := List.mem_map.mp rewritten
      exact apart_of_considerate (considerate rfl) alone update member (same ▸ mine)
  | select now offset batchSize ties ids postgres free dueRows => exact works
  | seize now offset batchSize ties ids sqlite free dueRows => exact works
  | flush writer next waiting sent free => exact works
  | crash state => exact works
  | _ => exact works

/-- The weaker condition of the claims holds too. -/
theorem undisturbed_of_exclusive {event : Event} (working : Working dialect system)
    (exclusive : Exclusive dialect system event) : Undisturbed dialect system event := by
  unfold Exclusive at exclusive
  unfold Undisturbed
  split
  · rename_i now offset batchSize ties same
    rw [same] at exclusive
    exact exclusive
  · rename_i same
    rw [same] at exclusive
    intro update member session waits
    have alone := working.alone event.session session
    cases here : system.sessions event.session with
    | writing writer waiting sent =>
        rw [here] at exclusive member alone
        by_cases own : session = event.session
        · subst own
          rw [here] at waits
          simp [awaited] at waits
        · exact apart_of_considerate exclusive (fun id => alone id fun equal => own equal.symm)
            update member (held_of_awaited waits)
    | _ => simp [here, uncommitted] at member
  · trivial

theorem considerate_of_exclusive {event : Event} (exclusive : Exclusive dialect system event) :
    event.action = .commit → Considerate system (system.sessions event.session) := by
  intro same
  simpa [Exclusive, same] using exclusive

theorem working_step {next : System} {event : Event} (working : Working dialect system)
    (taken : Guarded (Exclusive dialect) (Interleaved.Step (advance dialect)) system event next) :
    Working dialect next := by
  have claiming := claiming_step working.claiming
    ⟨undisturbed_of_exclusive working taken.1, taken.2⟩
  obtain ⟨exclusive, shared, own, advanced, rfl⟩ := taken
  have moved := moves_of_advance advanced
  have considerate := considerate_of_exclusive exclusive
  have owns := working.claiming.owns event.session
  have works := working.works event.session
  refine ⟨claiming, sound_acted moved works considerate working.sound, ?_, ?_⟩
  · apply Interleaved.forall_moved fun session state => Works shared state
    · exact works_acted moved owns works
    · intro other different
      exact works_other moved considerate
        (fun id => working.alone event.session other id different.symm) (working.works other)
  · have apartFromActor (other : SessionId) (different : other ≠ event.session) (id : String)
        (mine : id ∈ held own) : id ∉ held (system.sessions other) := by
      rcases held_acted moved owns mine with before | ⟨call, rows, -, dueRow⟩
      · exact working.alone _ _ id different.symm before
      · intro otherHolds
        exact not_due_of_held (working.claiming.owns other) (working.works other) otherHolds dueRow
    exact Interleaved.apart_moved (fun id state => id ∈ held state) working.alone apartFromActor

end Steps

section Histories

variable {dialect : Dialect} {session : SessionId} {system : System} {shared' : Shared}
variable {state state' : Local} {action : Action} {notice : Notice}

def inFlight : Local → List String
  | .sending _ attempts => attempts.map WebhookAttempt.id
  | _ => []

/-- The commit of a replay or redeliver of the attempt. -/
def ReplaysRow (id : String) (event : Event) : Prop :=
  ∃ writer changes, event.outcome = .rewrote writer changes ∧ Replays writer ∧
    ∃ change ∈ changes, change.1.id = id

/-- The commit that claims, resets or replays the attempt. -/
def Takes (id : String) (event : Event) : Prop :=
  match event.outcome with
  | .claimed _ rows => ∃ row ∈ rows, row.id = id
  | .rewrote (.dispatcher _) _ => False
  | .rewrote _ changes => ∃ change ∈ changes, change.1.id = id ∧ change.2 ≠ change.1
  | _ => False

/-- Since the session last claimed, another one has taken the attempt. -/
def Lost (session : SessionId) (id : String) (events : List Event) : Prop :=
  ∃ prior event later, events = prior ++ event :: later ∧ event.session ≠ session ∧
    Takes id event ∧ ∀ between ∈ later, claimNotice session between = none

/-- What holds of the state reached and of every step from there. -/
structure Orderly (step : System → Event → System → Prop) (events : List Event)
    (system : System) : Prop where
  counted : ∀ row ∈ system.shared.committed.webhookAttempts.rows, row.attempt ≤ row.maxAttempts
  settled : ∀ event next id row, step system event next →
    system.shared.committed.webhookAttempts.find? id = some row →
    row.status = "delivered" ∨ row.status = "dead" →
    ∃ after, next.shared.committed.webhookAttempts.find? id = some after ∧
      (after.status = row.status ∨ ReplaysRow id event)
  alone : ∀ first second id, id ∈ inFlight (system.sessions first) →
    id ∈ inFlight (system.sessions second) → first = second
  superseded : ∀ event next call sent id row, step system event next →
    event.action = .commit →
    system.sessions event.session = .writing (.dispatcher call) [] sent →
    Lost event.session id events →
    system.shared.committed.webhookAttempts.find? id = some row →
    ∃ after, next.shared.committed.webhookAttempts.find? id = some after ∧
      after.status = row.status ∧ after.attempt = row.attempt ∧ after.nextRunAt = row.nextRunAt

theorem lost_snoc {id : String} {events : List Event} {event : Event}
    (lost : Lost session id (events ++ [event])) :
    (event.session ≠ session ∧ Takes id event) ∨
      (Lost session id events ∧ claimNotice session event = none) := by
  obtain ⟨prior, taking, later, split, different, takes, quiet⟩ := lost
  rcases List.eq_nil_or_concat later with rfl | ⟨rest, last, rfl⟩
  · left
    obtain rfl : event = taking := by simpa using (List.append_inj' split rfl).2
    exact ⟨different, takes⟩
  · right
    rw [List.concat_eq_append, ← List.cons_append, ← List.append_assoc] at split
    obtain ⟨same, lastSame⟩ := List.append_inj' split rfl
    obtain rfl : event = last := by simpa using lastSame
    refine ⟨⟨prior, taking, rest, same, different, takes, ?_⟩, quiet event (by simp)⟩
    intro between inside
    exact quiet between (by simp [inside])

/-- What a step takes was in no dispatcher's hands. -/
theorem free_of_takes {id : String} {other : SessionId}
    (moved : Moves dialect session system.shared state action notice shared' state')
    (working : Working dialect system) (owns : Owns dialect session system.shared state)
    (considerate : action = .commit → Considerate system state)
    (takes : Takes id ⟨session, action, notice⟩) : id ∉ held (system.sessions other) := by
  cases moved with
  | commitClaim call ids =>
      obtain ⟨row, member, rfl⟩ := takes
      intro mine
      exact not_due_of_held (working.claiming.owns other) (working.works other) mine
        (owns.dueRows row.id (mem_touched.mp member).2)
  | commitWrites writer sent =>
      cases writer with
      | dispatcher call => exact takes.elim
      | _ =>
          obtain ⟨change, member, rfl, -⟩ := takes
          obtain ⟨row, inside, rfl⟩ := List.mem_map.mp member
          obtain ⟨update, written, same⟩ := List.mem_map.mp (mem_touched.mp inside).2
          rw [← same]
          exact (considerate rfl update written).1 other
  | _ => exact takes.elim

/-- What the dispatchers hold they have not lost. -/
def Kept (events : List Event) (system : System) : Prop :=
  ∀ session id, id ∈ held (system.sessions session) → ¬Lost session id events

theorem kept_step {events : List Event} {next : System} {event : Event}
    (working : Working dialect system) (kept : Kept events system)
    (taken : Guarded (Exclusive dialect) (Interleaved.Step (advance dialect)) system event next) :
    Kept (events ++ [event]) next := by
  obtain ⟨exclusive, shared, own, advanced, rfl⟩ := taken
  have moved := moves_of_advance advanced
  have owns := working.claiming.owns event.session
  intro session id
  apply Interleaved.forall_moved fun session state =>
    id ∈ held state → ¬Lost session id (events ++ [event])
  · intro mine lost
    rcases lost_snoc lost with ⟨different, -⟩ | ⟨before, noticed⟩
    · exact different rfl
    · refine kept event.session id ?_ before
      rcases held_acted moved owns mine with held | ⟨call, rows, claimed, -⟩
      · exact held
      · simp [claimNotice, claimed] at noticed
  · intro other different mine lost
    rcases lost_snoc lost with ⟨-, takes⟩ | ⟨before, -⟩
    · exact free_of_takes moved working owns (considerate_of_exclusive exclusive) takes mine
    · exact kept other id mine before

theorem written_resets {updates : List AttemptUpdate} {row : WebhookAttempt}
    (resets : ∀ update ∈ updates, ∃ threshold, update.write = .reset threshold)
    (idle : row.status ≠ "dispatching") : written updates row = row := by
  induction updates with
  | nil => rfl
  | cons update rest ih =>
      obtain ⟨threshold, same⟩ := resets update (by simp)
      have kept : resetIfStuck threshold row = row := by simp [resetIfStuck, stuck, idle]
      rw [written, same, AttemptWrite.apply, kept, ite_self]
      exact ih fun other member => resets other (List.mem_cons_of_mem _ member)

theorem settled_step {next : System} {event : Event} {id : String} {row : WebhookAttempt}
    (working : Working dialect system)
    (taken : Guarded (Exclusive dialect) (Interleaved.Step (advance dialect)) system event next)
    (found : system.shared.committed.webhookAttempts.find? id = some row)
    (settled : row.status = "delivered" ∨ row.status = "dead") :
    ∃ after, next.shared.committed.webhookAttempts.find? id = some after ∧
      (after.status = row.status ∨ ReplaysRow id event) := by
  obtain ⟨exclusive, shared, own, advanced, rfl⟩ := taken
  have moved := moves_of_advance advanced
  have works := working.works event.session
  have waiting : row.status ≠ "pending" := by rcases settled with same | same <;> simp [same]
  have idle : row.status ≠ "dispatching" := by rcases settled with same | same <;> simp [same]
  generalize system.sessions event.session = state at moved works
  obtain ⟨actor, action, notice⟩ := event
  cases moved with
  | commitClaim call ids =>
      have changed := find?_updateAttempts system.shared
        (claimIfPending ids call.token) (id_claimIfPending ids call.token) id
      rw [found] at changed
      exact ⟨_, changed, .inl (by simp [claimIfPending, waiting])⟩
  | commitWrites writer sent =>
      have changed := find?_updateAttempts system.shared (written sent)
        (id_written sent) id
      rw [found] at changed
      refine ⟨written sent row, changed, ?_⟩
      cases writer with
      | dispatcher call =>
          have unique : (sent.map AttemptUpdate.attemptId).Nodup := works.1
          rcases written_result unique works.2 (Table.mem_of_find? found) with
            same | ⟨dispatching, -⟩
          · exact .inl (by rw [same])
          · exact absurd dispatching idle
      | resetStuck =>
          have same : written sent row = row := written_resets works idle
          exact .inl (by rw [same])
      | _ =>
          by_cases named : row.id ∈ sent.map AttemptUpdate.attemptId
          · right
            have inside := mem_touched.mpr ⟨Table.mem_of_find? found, named⟩
            exact ⟨_, _, rfl, trivial, _, List.mem_map_of_mem inside, Table.key_of_find? found⟩
          · exact .inl (by rw [written_of_absent named])
  | _ => exact ⟨row, found, .inl rfl⟩

theorem superseded_step {events : List Event} {next : System} {event : Event} {call : Call}
    {sent : List AttemptUpdate} {id : String} {row : WebhookAttempt} (kept : Kept events system)
    (taken : Interleaved.Step (advance dialect) system event next) (ends : event.action = .commit)
    (writes : system.sessions event.session = .writing (.dispatcher call) [] sent)
    (lost : Lost event.session id events)
    (found : system.shared.committed.webhookAttempts.find? id = some row) :
    next.shared.committed.webhookAttempts.find? id = some row := by
  have free : row.id ∉ sent.map AttemptUpdate.attemptId := by
    intro mine
    apply kept event.session id _ lost
    rw [writes]
    exact Table.key_of_find? found ▸ mine
  obtain ⟨shared, own, advanced, rfl⟩ := taken
  rw [writes, ends] at advanced
  obtain ⟨-, rfl, -⟩ : _ = event.outcome ∧ _ = shared ∧ _ = own := by
    simpa [advance, commit] using advanced
  have changed := find?_updateAttempts system.shared (written sent) (id_written sent) id
  rw [found, Option.map_some, written_of_absent free] at changed
  exact changed

theorem held_of_inFlight {id : String} (flying : id ∈ inFlight state) : id ∈ held state := by
  cases state with
  | sending call attempts => exact flying
  | _ => simp [inFlight] at flying

/-- In every run whose steps meet the condition, every state reached is orderly. -/
theorem attempts_orderly (dialect : Dialect) (db : Database)
    (sound : ∀ row ∈ db.webhookAttempts.rows, Sound row) {events : List Event} {system : System}
    (run : Run (Guarded (Exclusive dialect) (Interleaved.Step (advance dialect))) (opened db)
      events system) :
    Orderly (Guarded (Exclusive dialect) (Interleaved.Step (advance dialect))) events system := by
  have reached : Working dialect system ∧ Kept events system := by
    apply run.history fun events system => Working dialect system ∧ Kept events system
    · refine ⟨⟨claiming_opened dialect db, sound, fun _ => trivial, ?_⟩, ?_⟩
      · intro session other id _ mine
        simp [opened, held, awaited] at mine
      · intro session id mine
        simp [opened, held, awaited] at mine
    · intro events system event next before taken
      exact ⟨working_step before.1 taken, kept_step before.1 before.2 taken⟩
  obtain ⟨working, kept⟩ := reached
  refine ⟨fun row stored => (working.sound row stored).counted, ?_, ?_, ?_⟩
  · intro event next id row taken found settled
    exact settled_step working taken found settled
  · intro first second id mine others
    by_contra different
    exact working.alone first second id different (held_of_inFlight mine) (held_of_inFlight others)
  · intro event next call sent id row taken ends writes lost found
    exact ⟨row, superseded_step kept taken.2 ends writes lost found, rfl, rfl, rfl⟩

/-- Claim and delivery, without a reset or a replay. -/
def undisputed (_ : SessionId) (_ : Shared) (state : Local) : Action → Bool
  | .commit =>
      match state with
      | .writing (.dispatcher _) _ _ => true
      | .writing _ _ _ => false
      | _ => true
  | _ => true

theorem exclusive_of_undisputed {event : Event}
    (passed : Interleaved.AtActor (fun session shared state action =>
      undisputed session shared state action) system event) :
    Exclusive .postgresql system event := by
  unfold Exclusive
  split
  · intro sqlite
    contradiction
  · rename_i same
    simp only [Interleaved.AtActor, same, undisputed] at passed
    unfold Considerate
    split at passed <;> simp_all
  · trivial

def delivery : List (SessionId × Action) := [
  (0, .claim 0 noOffset 2 asStored), (0, .update), (0, .commit), (0, .load),
  (0, .respond [(⟨true, some 200, none, none⟩, 0), (⟨false, some 500, some "http_500", none⟩, 0)]),
  (0, .flush), (0, .flush), (0, .commit)]

theorem sound_twoDue : ∀ row ∈ twoDue.webhookAttempts.rows, Sound row := by
  intro row member
  have stored : row = attemptRow "evt_1" ∨ row = attemptRow "evt_2" := by
    simpa [twoDue] using member
  rcases stored with rfl | rfl <;> exact ⟨by decide, by decide, fun _ => by decide⟩

theorem delivery_orderly : ∃ events system,
    Interleaved.replay (Interleaved.checked (advance .postgresql) undisputed) (opened twoDue)
      delivery = some (events, system) ∧
    Orderly (Guarded (Exclusive .postgresql) (Interleaved.Step (advance .postgresql)))
      events system := by
  have run := Interleaved.guarded_run_of_replay (advance .postgresql) undisputed
    (rfl : Interleaved.replay _ (opened twoDue) delivery = some (_, _))
  refine ⟨_, _, rfl, attempts_orderly .postgresql twoDue sound_twoDue (run.weaken ?_)⟩
  intro state event next taken
  exact ⟨exclusive_of_undisputed taken.1, taken.2⟩

/-- A slow delivery is taken for a crashed one after five minutes. -/
def slowDelivery : List (SessionId × Action) := [
  (0, .claim 0 noOffset 1 asStored), (0, .update), (0, .commit), (0, .load),
  (2, .resetStuck (seconds 301)), (2, .flush), (2, .commit),
  (1, .claim (seconds 301) noOffset 1 asStored), (1, .update), (1, .commit), (1, .load)]

theorem slow_delivery_sent_twice : ¬∀ (dialect : Dialect) (db : Database) (events : List Event)
    (system : System), (∀ row ∈ db.webhookAttempts.rows, Sound row) →
      Run (Interleaved.Step (advance dialect)) (opened db) events system →
      Orderly (Interleaved.Step (advance dialect)) events system := by
  intro orderly
  have run := Interleaved.run_of_replay (advance .postgresql)
    (rfl : Interleaved.replay _ (opened twoDue) slowDelivery = some (_, _))
  have same := (orderly .postgresql twoDue _ _ sound_twoDue run).alone 0 1 "evt_1"
    (List.mem_cons_self ..) (List.mem_cons_self ..)
  exact absurd same (by decide)

end Histories

end ApiBank.Webhook.Lifecycle
