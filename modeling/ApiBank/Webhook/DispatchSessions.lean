import ApiBank.Transition.Interleaving
import ApiBank.Webhook.Dispatcher

/-!
# Dispatchers and endpoints in concurrent sessions

A dispatcher claims attempts, sends them and applies the results; the recovery job
and the replay endpoints rewrite the same rows meanwhile. A session loads objects,
sends its `UPDATE`s and commits, and other sessions run in between.

Of the stack: a `SELECT` sees committed rows; on Postgres an `UPDATE` and a
`SELECT ... FOR UPDATE` lock their rows until the commit, on SQLite the first
`UPDATE` locks the database for writing. The columns of an `UPDATE` are written over
the row as it stands. Attempts are not deleted here.
-/

namespace ApiBank.Webhook.DispatchSessions

open ApiBank.Db ApiBank.Relational ApiBank.Transition
open Dispatcher

set_option autoImplicit false

inductive Dialect where
  | postgresql
  | sqlite
deriving DecidableEq, Repr

/-- The committed rows, and who holds which lock. -/
structure Shared where
  committed : Database
  owner : String → Option SessionId

/-- The lock that an `UPDATE` of the row takes. -/
def lockName (dialect : Dialect) (attemptId : String) : String :=
  match dialect with
  | .postgresql => attemptId
  | .sqlite => ""

def Shared.lock (shared : Shared) (names : List String) (session : SessionId) : Shared :=
  { shared with
    owner := fun name => if name ∈ names then some session else shared.owner name }

def Shared.release (shared : Shared) (session : SessionId) : Shared :=
  { shared with owner := Transition.release shared.owner session }

def Shared.updateAttempts (shared : Shared) (change : WebhookAttempt → WebhookAttempt)
    (keeps : ∀ row, (change row).id = row.id) : Shared :=
  { shared with committed := { shared.committed with
      webhookAttempts := shared.committed.webhookAttempts.update change keeps } }

/-- What one call of `_claim_attempts` computes first. -/
structure Call where
  now : Int
  token : Int

/-- Who rewrites rows. -/
inductive Writer where
  | dispatcher (call : Call)
  | resetStuck
  | replay
  | adminReplay
  | redeliver

inductive AttemptWrite where
  | flush (loaded assigned : WebhookAttempt)
  | reset (threshold : Int)

def AttemptWrite.apply : AttemptWrite → WebhookAttempt → WebhookAttempt
  | .flush loaded assigned => flushed loaded assigned
  | .reset threshold => resetIfStuck threshold

/-- `UPDATE webhook_attempts SET ... WHERE id = ...`. -/
structure AttemptUpdate where
  attemptId : String
  write : AttemptWrite

/-- Where a session stands. A claim holds locked ids, has sent its `UPDATE`, has
committed, or (on SQLite) has loaded objects that it has yet to refresh; on SQLite
the call itself knows only how many ids there are. -/
inductive Local where
  | ready
  | selected (call : Call) (ids : List String)
  | updated (call : Call) (ids : List String)
  | claimed (call : Call) (ids : List String)
  | loaded (call : Call) (attempts : List WebhookAttempt)
  | sending (call : Call) (attempts : List WebhookAttempt)
  | writing (writer : Writer) (waiting sent : List AttemptUpdate)

inductive Action where
  | claim (now : Int) (offset : Fin 1000000) (batchSize : Nat) (ties : Ties)
  | update
  | load
  | refresh
  | respond (outcomes : List (Outcome × Int))
  | resetStuck (now : Int)
  | replay (userId webhookId attemptId : String) (now : Int)
  | adminReplay (attemptId : String) (now : Int)
  | redeliver (attemptId : String) (now : Int)
  | flush
  | commit
  | crash

/-- What a step lets the outside see: the rows that a commit changed, as they stood,
and the list that a call returned. -/
inductive Notice where
  | quiet
  | claimed (call : Call) (rows : List WebhookAttempt)
  | returned (attempts : List WebhookAttempt)
  | rewrote (writer : Writer) (changes : List (WebhookAttempt × WebhookAttempt))

/-- On Postgres the `SELECT ... FOR UPDATE SKIP LOCKED`, on SQLite the `UPDATE`. -/
def claim (dialect : Dialect) (session : SessionId) (shared : Shared) (state : Local)
    (now : Int) (offset : Fin 1000000) (batchSize : Nat) (ties : Ties) :
    Option (Notice × Shared × Local) :=
  match state with
  | .ready =>
      let call : Call := ⟨now, now + offset.val⟩
      match dialect with
      | .postgresql =>
          let ids := selectDue now batchSize ties
            (shared.committed.webhookAttempts.rows.filter fun row => shared.owner row.id = none)
          some (.quiet, shared.lock ids session, .selected call ids)
      | .sqlite =>
          if shared.owner "" = none then
            let ids := selectDue now batchSize ties shared.committed.webhookAttempts.rows
            some (.quiet, shared.lock [""] session, .updated call ids)
          else none
  | _ => none

def update (shared : Shared) (state : Local) : Option (Notice × Shared × Local) :=
  match state with
  | .selected call ids => some (.quiet, shared, .updated call ids)
  | _ => none

theorem id_claimIfPending (ids : List String) (token : Int) (row : WebhookAttempt) :
    (claimIfPending ids token row).id = row.id := by
  unfold claimIfPending
  split <;> rfl

/-- The objects of the second `SELECT`. An empty call returns before it. -/
def loadClaimed (dialect : Dialect) (call : Call) (ids : List String)
    (rows : List WebhookAttempt) : List WebhookAttempt :=
  match dialect with
  | .postgresql => rows.filter fun row => row.id ∈ ids && carries call.token row
  | .sqlite =>
      if ids = [] then []
      else rows.filter fun row => carries call.token row && row.status = "dispatching"

/-- A dispatcher without attempts is done. -/
def handOver (call : Call) (attempts : List WebhookAttempt) : Local :=
  if attempts.isEmpty then .ready else .sending call attempts

def load (dialect : Dialect) (shared : Shared) (state : Local) :
    Option (Notice × Shared × Local) :=
  match state with
  | .claimed call ids =>
      let attempts := loadClaimed dialect call ids shared.committed.webhookAttempts.rows
      match dialect with
      | .postgresql => some (.returned attempts, shared, handOver call attempts)
      | .sqlite => some (.quiet, shared, .loaded call attempts)
  | _ => none

/-- `session.refresh(attempt, ["status", "claimed_at"])`. -/
def refreshed (attempts : Table WebhookAttempt.id) (loaded : WebhookAttempt) : WebhookAttempt :=
  match attempts.find? loaded.id with
  | some row => { loaded with status := row.status, claimedAt := row.claimedAt }
  | none => loaded

def refresh (shared : Shared) (state : Local) : Option (Notice × Shared × Local) :=
  match state with
  | .loaded call attempts =>
      let fresh := attempts.map (refreshed shared.committed.webhookAttempts)
      some (.returned fresh, shared, handOver call fresh)
  | _ => none

/-- The assignments of the second phase, one for each result. -/
def outcomeUpdate (now : Int) : WebhookAttempt × Outcome × Int → AttemptUpdate
  | (loaded, outcome, jitter) =>
      ⟨loaded.id, .flush loaded (applyOutcome now jitter outcome loaded)⟩

def respond (shared : Shared) (state : Local) (outcomes : List (Outcome × Int)) :
    Option (Notice × Shared × Local) :=
  match state with
  | .sending call attempts =>
      if attempts.length = outcomes.length then
        some (.quiet, shared, .writing (.dispatcher call)
          ((attempts.zip outcomes).map (outcomeUpdate call.now)) [])
      else none
  | _ => none

/-- The rows that `reset_stuck_dispatching` will update. Each is checked again when
its lock is taken. -/
def resetStuck (shared : Shared) (state : Local) (now : Int) : Option (Notice × Shared × Local) :=
  match state with
  | .ready =>
      let threshold := now - stuckDispatchTimeout
      let rows := shared.committed.webhookAttempts.rows.filter (stuck threshold)
      some (.quiet, shared, .writing .resetStuck
        (rows.map fun row => ⟨row.id, .reset threshold⟩) [])
  | _ => none

/-- An endpoint that loads one attempt and assigns to it, or raises. -/
def rewriteOne (writer : Writer) (shared : Shared) (state : Local) (attemptId : String)
    (refuses : WebhookAttempt → Bool) (assign : WebhookAttempt → WebhookAttempt) :
    Option (Notice × Shared × Local) :=
  match state with
  | .ready =>
      match shared.committed.webhookAttempts.find? attemptId with
      | none => some (.quiet, shared, .ready)
      | some row =>
          if refuses row then some (.quiet, shared, .ready)
          else some (.quiet, shared, .writing writer [⟨attemptId, .flush row (assign row)⟩] [])
  | _ => none

/-- `_get_user_webhook`, as a condition. -/
def ownsWebhook (db : Database) (userId webhookId : String) : Bool :=
  (db.webhooks.find? webhookId).any fun webhook => webhook.userId = some userId

def replayAttempt (shared : Shared) (state : Local) (userId webhookId attemptId : String)
    (now : Int) : Option (Notice × Shared × Local) :=
  rewriteOne .replay shared state attemptId
    (fun row => !ownsWebhook shared.committed userId webhookId || row.webhookId ≠ webhookId)
    (replay now)

def adminReplayAttempt (shared : Shared) (state : Local) (attemptId : String) (now : Int) :
    Option (Notice × Shared × Local) :=
  rewriteOne .adminReplay shared state attemptId (fun _ => false) (adminReplay now)

def adminRedeliverAttempt (shared : Shared) (state : Local) (attemptId : String) (now : Int) :
    Option (Notice × Shared × Local) :=
  rewriteOne .redeliver shared state attemptId (fun row => row.status = "delivered")
    (adminRedeliver now)

/-- The next `UPDATE`. The session waits while another one holds the lock. -/
def flush (dialect : Dialect) (session : SessionId) (shared : Shared) (state : Local) :
    Option (Notice × Shared × Local) :=
  match state with
  | .writing writer (next :: waiting) sent =>
      let name := lockName dialect next.attemptId
      if shared.owner name = none ∨ shared.owner name = some session then
        some (.quiet, shared.lock [name] session, .writing writer waiting (sent ++ [next]))
      else none
  | _ => none

/-- The row after the `UPDATE`s that name it. -/
def written : List AttemptUpdate → WebhookAttempt → WebhookAttempt
  | [], row => row
  | update :: rest, row =>
      written rest (if update.attemptId = row.id then update.write.apply row else row)

theorem AttemptWrite.id_apply (write : AttemptWrite) (row : WebhookAttempt) :
    (write.apply row).id = row.id := by
  cases write with
  | flush loaded assigned => rfl
  | reset threshold =>
      simp only [apply, resetIfStuck]
      split <;> rfl

theorem id_written (updates : List AttemptUpdate) (row : WebhookAttempt) :
    (written updates row).id = row.id := by
  induction updates generalizing row with
  | nil => rfl
  | cons update rest ih =>
      rw [written, ih]
      split
      · exact update.write.id_apply row
      · rfl

def touched (ids : List String) (db : Database) : List WebhookAttempt :=
  db.webhookAttempts.rows.filter fun row => row.id ∈ ids

def commit (session : SessionId) (shared : Shared) (state : Local) :
    Option (Notice × Shared × Local) :=
  match state with
  | .updated call ids =>
      some (.claimed call (touched ids shared.committed),
        (shared.updateAttempts (claimIfPending ids call.token)
          (id_claimIfPending ids call.token)).release session,
        .claimed call ids)
  | .writing writer [] sent =>
      some (.rewrote writer ((touched (sent.map AttemptUpdate.attemptId) shared.committed).map
          fun row => (row, written sent row)),
        (shared.updateAttempts (written sent) (id_written sent)).release session, .ready)
  | _ => none

def advance (dialect : Dialect) (session : SessionId) (shared : Shared) (state : Local) :
    Action → Option (Notice × Shared × Local)
  | .claim now offset batchSize ties => claim dialect session shared state now offset batchSize ties
  | .update => update shared state
  | .load => load dialect shared state
  | .refresh => refresh shared state
  | .respond outcomes => respond shared state outcomes
  | .resetStuck now => resetStuck shared state now
  | .replay userId webhookId attemptId now =>
      replayAttempt shared state userId webhookId attemptId now
  | .adminReplay attemptId now => adminReplayAttempt shared state attemptId now
  | .redeliver attemptId now => adminRedeliverAttempt shared state attemptId now
  | .flush => flush dialect session shared state
  | .commit => commit session shared state
  | .crash => some (.quiet, shared.release session, .ready)

abbrev System := Interleaved Shared Local

abbrev Event := SessionEvent Action Notice

def opened (db : Database) : System where
  shared := { committed := db, owner := fun _ => none }
  sessions := fun _ => .ready

section Steps

def DueRow (shared : Shared) (now : Int) (id : String) : Prop :=
  ∃ row, shared.committed.webhookAttempts.find? id = some row ∧ row.status = "pending" ∧
    row.nextRunAt.instant ≤ now

/-- The assignments of the endpoints. -/
inductive Assigns : Writer → WebhookAttempt → WebhookAttempt → Prop where
  | replay (now : Int) (row : WebhookAttempt) : Assigns .replay row (replay now row)
  | adminReplay (now : Int) (row : WebhookAttempt) : Assigns .adminReplay row (adminReplay now row)
  | redeliver (now : Int) (row : WebhookAttempt) (undelivered : row.status ≠ "delivered") :
      Assigns .redeliver row (adminRedeliver now row)

/-- Everything that one step can do. -/
inductive Moves (dialect : Dialect) (session : SessionId) (shared : Shared) :
    Local → Action → Notice → Shared → Local → Prop where
  | select (now : Int) (offset : Fin 1000000) (batchSize : Nat) (ties : Ties) (ids : List String)
      (postgres : dialect = .postgresql) (free : ∀ id ∈ ids, shared.owner id = none)
      (dueRows : ∀ id ∈ ids, DueRow shared now id) :
      Moves dialect session shared .ready (.claim now offset batchSize ties) .quiet
        (shared.lock ids session) (.selected ⟨now, now + offset.val⟩ ids)
  | seize (now : Int) (offset : Fin 1000000) (batchSize : Nat) (ties : Ties) (ids : List String)
      (sqlite : dialect = .sqlite) (free : shared.owner "" = none)
      (dueRows : ∀ id ∈ ids, DueRow shared now id) :
      Moves dialect session shared .ready (.claim now offset batchSize ties) .quiet
        (shared.lock [""] session) (.updated ⟨now, now + offset.val⟩ ids)
  | update (call : Call) (ids : List String) :
      Moves dialect session shared (.selected call ids) .update .quiet shared (.updated call ids)
  | commitClaim (call : Call) (ids : List String) :
      Moves dialect session shared (.updated call ids) .commit
        (.claimed call (touched ids shared.committed))
        ((shared.updateAttempts (claimIfPending ids call.token)
          (id_claimIfPending ids call.token)).release session)
        (.claimed call ids)
  | loadPostgres (call : Call) (ids : List String) (attempts : List WebhookAttempt)
      (postgres : dialect = .postgresql)
      (found : attempts = loadClaimed dialect call ids shared.committed.webhookAttempts.rows) :
      Moves dialect session shared (.claimed call ids) .load (.returned attempts) shared
        (handOver call attempts)
  | loadSqlite (call : Call) (ids : List String) (attempts : List WebhookAttempt)
      (sqlite : dialect = .sqlite)
      (found : attempts = loadClaimed dialect call ids shared.committed.webhookAttempts.rows) :
      Moves dialect session shared (.claimed call ids) .load .quiet shared (.loaded call attempts)
  | refresh (call : Call) (attempts fresh : List WebhookAttempt)
      (found : fresh = attempts.map (refreshed shared.committed.webhookAttempts)) :
      Moves dialect session shared (.loaded call attempts) .refresh (.returned fresh) shared
        (handOver call fresh)
  | respond (call : Call) (attempts : List WebhookAttempt) (outcomes : List (Outcome × Int))
      (updates : List AttemptUpdate) (complete : attempts.length = outcomes.length)
      (decided : updates = (attempts.zip outcomes).map (outcomeUpdate call.now)) :
      Moves dialect session shared (.sending call attempts) (.respond outcomes) .quiet shared
        (.writing (.dispatcher call) updates [])
  | reset (now : Int) (rows : List WebhookAttempt) :
      Moves dialect session shared .ready (.resetStuck now) .quiet shared
        (.writing .resetStuck
          (rows.map fun row => ⟨row.id, .reset (now - stuckDispatchTimeout)⟩) [])
  | rewrite (action : Action) (writer : Writer) (row assigned : WebhookAttempt)
      (found : shared.committed.webhookAttempts.find? row.id = some row)
      (assigns : Assigns writer row assigned) :
      Moves dialect session shared .ready action .quiet shared
        (.writing writer [⟨row.id, .flush row assigned⟩] [])
  | refuse (action : Action) :
      Moves dialect session shared .ready action .quiet shared .ready
  | flush (writer : Writer) (next : AttemptUpdate) (waiting sent : List AttemptUpdate)
      (free : shared.owner (lockName dialect next.attemptId) = none ∨
        shared.owner (lockName dialect next.attemptId) = some session) :
      Moves dialect session shared (.writing writer (next :: waiting) sent) .flush .quiet
        (shared.lock [lockName dialect next.attemptId] session)
        (.writing writer waiting (sent ++ [next]))
  | commitWrites (writer : Writer) (sent : List AttemptUpdate) :
      Moves dialect session shared (.writing writer [] sent) .commit
        (.rewrote writer ((touched (sent.map AttemptUpdate.attemptId) shared.committed).map
          fun row => (row, written sent row)))
        ((shared.updateAttempts (written sent) (id_written sent)).release session) .ready
  | crash (state : Local) :
      Moves dialect session shared state .crash .quiet (shared.release session) .ready

variable {dialect : Dialect} {session : SessionId} {shared shared' : Shared}
variable {state state' : Local} {notice : Notice}

theorem due_row_of_selected {now : Int} {batchSize : Nat} {ties : Ties} {id : String}
    {rows : List WebhookAttempt} (stored : ∀ row ∈ rows, row ∈ shared.committed.webhookAttempts.rows)
    (selected : id ∈ selectDue now batchSize ties rows) : DueRow shared now id := by
  obtain ⟨row, member, rfl, isDue⟩ := due_of_selected selected
  have pendingDue : row.status = "pending" ∧ row.nextRunAt.instant ≤ now := by
    simpa [due] using isDue
  exact ⟨row, Table.find?_of_mem (stored row member), pendingDue⟩

theorem moves_of_claim {now : Int} {offset : Fin 1000000} {batchSize : Nat} {ties : Ties}
    (claimed : claim dialect session shared state now offset batchSize ties =
      some (notice, shared', state')) :
    Moves dialect session shared state (.claim now offset batchSize ties) notice shared' state' := by
  unfold claim at claimed
  split at claimed
  · dsimp only at claimed
    split at claimed
    · obtain ⟨rfl, rfl, rfl⟩ : _ = notice ∧ _ = shared' ∧ _ = state' := by simpa using claimed
      refine .select now offset batchSize ties _ rfl ?_ ?_
      · intro id selected
        obtain ⟨row, member, rfl, -⟩ := due_of_selected selected
        simpa using (List.mem_filter.mp member).2
      · intro id selected
        exact due_row_of_selected (fun row member => (List.mem_filter.mp member).1) selected
    · split at claimed
      · rename_i free
        obtain ⟨rfl, rfl, rfl⟩ : _ = notice ∧ _ = shared' ∧ _ = state' := by simpa using claimed
        exact .seize now offset batchSize ties _ rfl free
          fun id selected => due_row_of_selected (fun row member => member) selected
      · contradiction
  · contradiction

theorem moves_of_load (loaded : load dialect shared state = some (notice, shared', state')) :
    Moves dialect session shared state .load notice shared' state' := by
  unfold load at loaded
  split at loaded
  · dsimp only at loaded
    split at loaded
    · obtain ⟨rfl, rfl, rfl⟩ : _ = notice ∧ _ = shared' ∧ _ = state' := by simpa using loaded
      exact .loadPostgres _ _ _ rfl rfl
    · obtain ⟨rfl, rfl, rfl⟩ : _ = notice ∧ _ = shared' ∧ _ = state' := by simpa using loaded
      exact .loadSqlite _ _ _ rfl rfl
  · contradiction

theorem moves_of_rewrite_one {writer : Writer} {attemptId : String} {action : Action}
    {refuses : WebhookAttempt → Bool} {assign : WebhookAttempt → WebhookAttempt}
    (assigns : ∀ row, refuses row = false → Assigns writer row (assign row))
    (rewritten : rewriteOne writer shared state attemptId refuses assign =
      some (notice, shared', state')) :
    Moves dialect session shared state action notice shared' state' := by
  unfold rewriteOne at rewritten
  split at rewritten
  · split at rewritten
    · obtain ⟨rfl, rfl, rfl⟩ : _ = notice ∧ _ = shared' ∧ _ = state' := by simpa using rewritten
      exact .refuse action
    · rename_i row found
      split at rewritten
      · obtain ⟨rfl, rfl, rfl⟩ : _ = notice ∧ _ = shared' ∧ _ = state' := by
          simpa using rewritten
        exact .refuse action
      · rename_i accepted
        obtain ⟨rfl, rfl, rfl⟩ : _ = notice ∧ _ = shared' ∧ _ = state' := by
          simpa using rewritten
        obtain rfl := Table.key_of_find? found
        exact .rewrite action writer row _ found (assigns row (by simpa using accepted))
  · contradiction

theorem moves_of_advance {action : Action}
    (advanced : advance dialect session shared state action = some (notice, shared', state')) :
    Moves dialect session shared state action notice shared' state' := by
  cases action with
  | claim now offset batchSize ties => exact moves_of_claim advanced
  | update =>
      simp only [advance, update] at advanced
      split at advanced
      · obtain ⟨rfl, rfl, rfl⟩ : _ = notice ∧ _ = shared' ∧ _ = state' := by simpa using advanced
        exact .update _ _
      · contradiction
  | load => exact moves_of_load advanced
  | refresh =>
      simp only [advance, refresh] at advanced
      split at advanced
      · obtain ⟨rfl, rfl, rfl⟩ : _ = notice ∧ _ = shared' ∧ _ = state' := by simpa using advanced
        exact .refresh _ _ _ rfl
      · contradiction
  | respond outcomes =>
      simp only [advance, respond] at advanced
      split at advanced
      · split at advanced
        · rename_i complete
          obtain ⟨rfl, rfl, rfl⟩ : _ = notice ∧ _ = shared' ∧ _ = state' := by
            simpa using advanced
          exact .respond _ _ outcomes _ complete rfl
        · contradiction
      · contradiction
  | resetStuck now =>
      simp only [advance, resetStuck] at advanced
      split at advanced
      · obtain ⟨rfl, rfl, rfl⟩ : _ = notice ∧ _ = shared' ∧ _ = state' := by simpa using advanced
        exact .reset now _
      · contradiction
  | replay userId webhookId attemptId now =>
      exact moves_of_rewrite_one (fun row _ => .replay now row) advanced
  | adminReplay attemptId now =>
      exact moves_of_rewrite_one (fun row _ => .adminReplay now row) advanced
  | redeliver attemptId now =>
      exact moves_of_rewrite_one
        (fun row accepted => .redeliver now row (by simpa using accepted)) advanced
  | flush =>
      simp only [advance, flush] at advanced
      split at advanced
      · split at advanced
        · rename_i free
          obtain ⟨rfl, rfl, rfl⟩ : _ = notice ∧ _ = shared' ∧ _ = state' := by
            simpa using advanced
          exact .flush _ _ _ _ free
        · contradiction
      · contradiction
  | commit =>
      simp only [advance, commit] at advanced
      split at advanced
      · obtain ⟨rfl, rfl, rfl⟩ : _ = notice ∧ _ = shared' ∧ _ = state' := by simpa using advanced
        exact .commitClaim _ _
      · obtain ⟨rfl, rfl, rfl⟩ : _ = notice ∧ _ = shared' ∧ _ = state' := by simpa using advanced
        exact .commitWrites _ _
      · contradiction
  | crash =>
      obtain ⟨rfl, rfl, rfl⟩ : _ = notice ∧ _ = shared' ∧ _ = state' := by
        simpa [advance] using advanced
      exact .crash state

end Steps

section RowsAndLocks

variable {shared : Shared} {session other : SessionId}

theorem find?_updateAttempts (shared : Shared) (change : WebhookAttempt → WebhookAttempt)
    (keeps : ∀ row, (change row).id = row.id) (id : String) :
    (shared.updateAttempts change keeps).committed.webhookAttempts.find? id =
      (shared.committed.webhookAttempts.find? id).map change :=
  Table.find?_update _ _ keeps id

theorem owner_lock_other {names : List String} {name : String} (different : other ≠ session)
    (free : ∀ taken ∈ names, shared.owner taken = none ∨ shared.owner taken = some session)
    (owned : shared.owner name = some other) :
    (shared.lock names session).owner name = some other := by
  have apart : name ∉ names := by
    intro taken
    rcases free name taken with free | free <;> simp [owned, different] at free
  simp [Shared.lock, apart, owned]

theorem owner_release_other {name : String} (different : other ≠ session)
    (owned : shared.owner name = some other) :
    (shared.release session).owner name = some other :=
  release_other different owned

theorem written_of_absent {updates : List AttemptUpdate} {row : WebhookAttempt}
    (absent : row.id ∉ updates.map AttemptUpdate.attemptId) : written updates row = row := by
  induction updates with
  | nil => rfl
  | cons update rest ih =>
      simp only [List.map_cons, List.mem_cons, not_or] at absent
      have apart : update.attemptId ≠ row.id := fun same => absent.1 same.symm
      rw [written, if_neg apart]
      exact ih absent.2

/-- A row before and after an `UPDATE` that dispatches nothing and claims nothing. -/
structure Tamed (before after : WebhookAttempt) : Prop where
  status : after.status = "dispatching" → before.status = "dispatching"
  token : ∀ token, carries token after = true → carries token before = true

def Tame (write : AttemptWrite) : Prop := ∀ row, Tamed row (write.apply row)

theorem Tamed.rfl {row : WebhookAttempt} : Tamed row row := ⟨id, fun _ => id⟩

theorem Tamed.trans {first second third : WebhookAttempt} (left : Tamed first second)
    (right : Tamed second third) : Tamed first third :=
  ⟨fun dispatching => left.status (right.status dispatching),
    fun token carried => left.token token (right.token token carried)⟩

theorem tame_flush {loaded assigned : WebhookAttempt} (rewrites : Rewrites loaded assigned) :
    Tame (.flush loaded assigned) := by
  intro row
  constructor
  · intro dispatching
    simp only [AttemptWrite.apply, flushed, column] at dispatching
    split at dispatching
    · exact dispatching
    · exact absurd dispatching rewrites.status
  · intro token carried
    simp only [AttemptWrite.apply, flushed, column, carries] at carried ⊢
    split at carried
    · exact carried
    · rename_i changed
      rcases rewrites.claimedAt with same | dropped
      · exact absurd same changed
      · simp [dropped] at carried

theorem tame_reset (threshold : Int) : Tame (.reset threshold) := by
  intro row
  simp only [AttemptWrite.apply, resetIfStuck]
  split
  · exact ⟨by simp, by simp [carries]⟩
  · exact .rfl

theorem rewrites_of_assigns {writer : Writer} {row assigned : WebhookAttempt}
    (assigns : Assigns writer row assigned) : Rewrites row assigned := by
  cases assigns with
  | replay now => exact rewrites_replay now row
  | adminReplay now => exact rewrites_adminReplay now row
  | redeliver now => exact rewrites_adminRedeliver now row

theorem tamed_written {updates : List AttemptUpdate} (tame : ∀ update ∈ updates, Tame update.write)
    (row : WebhookAttempt) : Tamed row (written updates row) := by
  induction updates generalizing row with
  | nil => exact .rfl
  | cons update rest ih =>
      have later := ih fun other member => tame other (List.mem_cons_of_mem _ member)
      rw [written]
      split
      · exact (tame update (by simp) row).trans (later _)
      · exact later row

theorem mem_touched {ids : List String} {db : Database} {row : WebhookAttempt} :
    row ∈ touched ids db ↔ row ∈ db.webhookAttempts.rows ∧ row.id ∈ ids := by
  simp [touched]

theorem mem_loadClaimed {dialect : Dialect} {call : Call} {ids : List String}
    {rows : List WebhookAttempt} {row : WebhookAttempt}
    (loaded : row ∈ loadClaimed dialect call ids rows) :
    row ∈ rows ∧ carries call.token row = true ∧ ids ≠ [] ∧
      (dialect = .postgresql → row.id ∈ ids) ∧
      (dialect = .sqlite → row.status = "dispatching") := by
  unfold loadClaimed at loaded
  split at loaded
  · have kept : row ∈ rows ∧ row.id ∈ ids ∧ carries call.token row = true := by
      simpa using loaded
    refine ⟨kept.1, kept.2.2, ?_, fun _ => kept.2.1, by simp⟩
    rintro rfl
    simp at kept
  · split at loaded
    · simp at loaded
    · rename_i some
      have kept : row ∈ rows ∧ carries call.token row = true ∧ row.status = "dispatching" := by
        simpa using loaded
      exact ⟨kept.1, kept.2.1, some, by simp, fun _ => kept.2.2⟩

theorem mem_loadClaimed_of {dialect : Dialect} {call : Call} {ids : List String}
    {rows : List WebhookAttempt} {row : WebhookAttempt} (stored : row ∈ rows)
    (claimed : row.id ∈ ids) (dispatching : row.status = "dispatching")
    (carried : carries call.token row = true) : row ∈ loadClaimed dialect call ids rows := by
  have nonempty : ids ≠ [] := List.ne_nil_of_mem claimed
  cases dialect <;> simp [loadClaimed, nonempty, stored, claimed, dispatching, carried]

end RowsAndLocks

end ApiBank.Webhook.DispatchSessions
