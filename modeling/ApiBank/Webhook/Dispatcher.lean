import ApiBank.Db.Models
import ApiBank.Errors
import Mathlib.Data.List.Sort

/-!
# Delivery attempts

What the dispatcher, the recovery job and the replay endpoints assign to the row
of an attempt. The signature column is left out: the dispatcher writes it and
nothing modelled here reads it.
-/

namespace ApiBank.Webhook.Dispatcher

open ApiBank.Db

set_option autoImplicit false

def retryDelays : List Int := [0, 30, 120, 600, 3600, 21600, 86400]

def stuckDispatchTimeout : Int := seconds 300

/-- The result of one `POST`. -/
structure Outcome where
  delivered : Bool
  statusCode : Option Int
  error : Option String
  fatalReason : Option String := none

/-- `random.uniform` is drawn by the caller, in microseconds. -/
def scheduleNext (attempt : Nat) (now jitter : Int) : DateTime :=
  let base := retryDelays.getD (min attempt (retryDelays.length - 1)) 0
  let drawn := if 0 < base then jitter else 0
  .utc (now + max 0 (seconds base + drawn))

/-- One round of the second phase of `dispatch_due_attempts`. An empty fatal reason
is no reason. -/
def applyOutcome (now jitter : Int) (outcome : Outcome) (loaded : WebhookAttempt) :
    WebhookAttempt :=
  match outcome.fatalReason.filter (· ≠ "") with
  | some reason => { loaded with status := "dead", lastError := some reason, claimedAt := none }
  | none =>
      let tried := { loaded with
        attempt := loaded.attempt + 1
        lastStatusCode := outcome.statusCode }
      if outcome.delivered then { tried with
        status := "delivered"
        sentAt := some (.utc now)
        lastError := none
        claimedAt := none }
      else if tried.maxAttempts ≤ tried.attempt then { tried with
        lastError := outcome.error
        status := "dead"
        claimedAt := none }
      else { tried with
        lastError := outcome.error
        status := "pending"
        nextRunAt := scheduleNext tried.attempt now jitter
        claimedAt := none }

/-- The assignments of the user's `replay_attempt`. -/
def replay (now : Int) (loaded : WebhookAttempt) : WebhookAttempt :=
  { loaded with
    status := "pending"
    nextRunAt := .utc now
    lastError := none }

def adminReplay (now : Int) (loaded : WebhookAttempt) : WebhookAttempt :=
  { loaded with
    status := "pending"
    attempt := 0
    nextRunAt := .utc now
    claimedAt := none
    lastError := none }

def adminRedeliver (now : Int) (loaded : WebhookAttempt) : WebhookAttempt :=
  { loaded with
    status := "pending"
    nextRunAt := .utc now
    claimedAt := none }

/-- `status == "dispatching"` and `claimed_at <= threshold`. -/
def stuck (threshold : Int) (row : WebhookAttempt) : Bool :=
  row.status = "dispatching" && row.claimedAt.any fun claimedAt => claimedAt.instant ≤ threshold

def resetIfStuck (threshold : Int) (row : WebhookAttempt) : WebhookAttempt :=
  if stuck threshold row then { row with status := "pending", claimedAt := none } else row

def due (now : Int) (row : WebhookAttempt) : Bool :=
  row.status = "pending" && row.nextRunAt.instant ≤ now

/-- `claimed_at == claim_token`. -/
def carries (token : Int) (row : WebhookAttempt) : Bool :=
  row.claimedAt.any fun claimedAt => claimedAt.instant = token

def claimIfPending (ids : List String) (token : Int) (row : WebhookAttempt) : WebhookAttempt :=
  if row.id ∈ ids ∧ row.status = "pending" then
    { row with status := "dispatching", claimedAt := some (.utc token) }
  else row

/-- The order in which the database visits rows of equal `next_run_at`. -/
structure Ties where
  order : List WebhookAttempt → List WebhookAttempt
  perm : ∀ rows, (order rows).Perm rows

/-- `SELECT id ... ORDER BY next_run_at LIMIT batch_size`. -/
def selectDue (now : Int) (batchSize : Nat) (ties : Ties) (rows : List WebhookAttempt) :
    List String :=
  let visited := ties.order (rows.filter (due now))
  let sorted := visited.insertionSort fun left right =>
    left.nextRunAt.instant ≤ right.nextRunAt.instant
  (sorted.take batchSize).map WebhookAttempt.id

theorem due_of_selected {now : Int} {batchSize : Nat} {ties : Ties} {rows : List WebhookAttempt}
    {id : String} (selected : id ∈ selectDue now batchSize ties rows) :
    ∃ row ∈ rows, row.id = id ∧ due now row = true := by
  obtain ⟨row, taken, rfl⟩ := List.mem_map.mp selected
  have sorted := List.mem_of_mem_take taken
  have visited := (ties.perm _).mem_iff.mp ((List.perm_insertionSort _ _).mem_iff.mp sorted)
  obtain ⟨member, isDue⟩ := List.mem_filter.mp visited
  exact ⟨row, member, rfl, isDue⟩

/-- A column of a flushed object: the `UPDATE` names it when its value is not the
loaded one. -/
def column {Value : Type} [DecidableEq Value] (loaded assigned stored : Value) : Value :=
  if assigned = loaded then stored else assigned

@[simp] theorem column_unchanged {Value : Type} [DecidableEq Value] (loaded stored : Value) :
    column loaded loaded stored = stored := by
  simp [column]

@[simp] theorem column_current {Value : Type} [DecidableEq Value] (loaded assigned : Value) :
    column loaded assigned loaded = assigned := by
  unfold column
  split
  · rename_i same
    exact same.symm
  · rfl

/-- The flush of an object of the session over the row as it stands. -/
def flushed (loaded assigned stored : WebhookAttempt) : WebhookAttempt :=
  { stored with
    attempt := column loaded.attempt assigned.attempt stored.attempt
    status := column loaded.status assigned.status stored.status
    nextRunAt := column loaded.nextRunAt assigned.nextRunAt stored.nextRunAt
    claimedAt := column loaded.claimedAt assigned.claimedAt stored.claimedAt
    lastStatusCode := column loaded.lastStatusCode assigned.lastStatusCode stored.lastStatusCode
    lastError := column loaded.lastError assigned.lastError stored.lastError
    sentAt := column loaded.sentAt assigned.sentAt stored.sentAt }

/-- What the dispatcher and the endpoints may assign to an object: an attempt is
never put to dispatching again, and its claim is kept or dropped. -/
structure Rewrites (loaded assigned : WebhookAttempt) : Prop where
  status : assigned.status ≠ "dispatching"
  claimedAt : assigned.claimedAt = loaded.claimedAt ∨ assigned.claimedAt = none

theorem rewrites_applyOutcome (now jitter : Int) (outcome : Outcome) (loaded : WebhookAttempt) :
    Rewrites loaded (applyOutcome now jitter outcome loaded) := by
  unfold applyOutcome
  split
  · exact ⟨by simp, .inr rfl⟩
  · dsimp only
    split
    · exact ⟨by simp, .inr rfl⟩
    · split <;> exact ⟨by simp, .inr rfl⟩

theorem rewrites_replay (now : Int) (loaded : WebhookAttempt) :
    Rewrites loaded (replay now loaded) :=
  ⟨by simp [replay], .inl rfl⟩

theorem rewrites_adminReplay (now : Int) (loaded : WebhookAttempt) :
    Rewrites loaded (adminReplay now loaded) :=
  ⟨by simp [adminReplay], .inr rfl⟩

theorem rewrites_adminRedeliver (now : Int) (loaded : WebhookAttempt) :
    Rewrites loaded (adminRedeliver now loaded) :=
  ⟨by simp [adminRedeliver], .inr rfl⟩

end ApiBank.Webhook.Dispatcher
