import ApiBank.Db.Clock
import ApiBank.Transition.Interleaving
import ApiBank.Transition.Leases

/-!
# Workers that poll one account

Every worker process runs `_supervised` for the account, again and again. It takes the
lock of the account in Redis, polls until it is stopped and deletes the lock at the end.
A process that did not reach Redis at its start polls without the lock.

A worker waits for orders, for the bank to accept a login and between two rounds; time
passes in any phase, and a process may stop in any of them. The heartbeat at the end of
a round sets the key again. Errors of the heartbeat are suppressed.
-/

namespace ApiBank.Worker.Supervised

open ApiBank.Db ApiBank.Transition

set_option autoImplicit false

/-- `ttl_seconds` of the lock and `ex` of the heartbeat. -/
def leaseTtl : Int := seconds 120

/-- What a task is at. `fetching` is the section with the database session: the
transactions are fetched and ingested, and the cursor is saved. -/
inductive Phase where
  | idle
  | waitingOrder
  | loggingIn (loginBackoff : Int)
  | backingOff (wakeAt loginBackoff : Int)
  | looping
  | fetching
  | relogging
  | sleeping (wakeAt : Int)
  | pausing
  | refreshing
  | releasing
deriving DecidableEq, Repr

structure Poller where
  redis : Bool
  phase : Phase
deriving DecidableEq, Repr

/-- The lock, and who is in the section, the last to enter first. -/
structure Shared where
  lock : Lock SessionId
  inside : List SessionId

/-- How a round ends: without an error, by `BankAuthError`, `BankRateLimited` or another
exception. -/
inductive Round where
  | ok
  | authError
  | rateLimited
  | failed
deriving DecidableEq, Repr

/-- `stop` ends the task from within: a shutdown, a cancelation, or an exception that
nobody catches. `sent` tells whether the command reached Redis. -/
inductive Action where
  | elapse (time : Nat)
  | supervise (redis : Bool)
  | orderActive
  | login (accepted : Bool)
  | wake
  | enter
  | leave (round : Round)
  | relogin
  | heartbeat (sent : Bool)
  | stop
  | release (sent : Bool)
  | crash
deriving DecidableEq, Repr

/-- Whose lock was extended or deleted, and whether the lease of the worker that did it
had run out. -/
structure Outcome where
  met : Option SessionId
  late : Bool
deriving DecidableEq, Repr

def quiet : Outcome := ⟨none, false⟩

def Shared.outcome (shared : Shared) (actor : SessionId) : Outcome :=
  ⟨shared.lock.holder, !decide (shared.lock.Leased actor)⟩

def Shared.exit (shared : Shared) (actor : SessionId) : Shared :=
  { shared with inside := shared.inside.filter fun worker => worker ≠ actor }

/-- After the section. A login that is refused once more waits for the next round. -/
def afterRound (now : Int) : Round → Phase
  | .ok => .pausing
  | .authError => .relogging
  | .rateLimited => .sleeping (now + seconds 60)
  | .failed => .sleeping (now + seconds 30)

/-- `redis_lock` up to the `yield`, for a process with Redis. -/
def supervise (actor : SessionId) (shared : Shared) (redis : Bool) : Shared × Poller :=
  if redis then
    match shared.lock.take actor leaseTtl with
    | some lock => ({ shared with lock }, ⟨true, .waitingOrder⟩)
    | none => (shared, ⟨true, .idle⟩)
  else (shared, ⟨false, .waitingOrder⟩)

/-- What a worker does next where its own phase decides alone. -/
def Phase.next (now : Int) : Phase → Action → Option Phase
  | .waitingOrder, .orderActive => some (.loggingIn (seconds 30))
  | .loggingIn _, .login true => some .looping
  | .loggingIn loginBackoff, .login false =>
      some (.backingOff (now + loginBackoff) (min (loginBackoff * 2) (seconds 600)))
  | .backingOff wakeAt loginBackoff, .wake =>
      if wakeAt ≤ now then some (.loggingIn loginBackoff) else none
  | .sleeping wakeAt, .wake => if wakeAt ≤ now then some .refreshing else none
  | .pausing, .wake => some .refreshing
  | .relogging, .relogin => some .refreshing
  | _, _ => none

def advance (actor : SessionId) (shared : Shared) (worker : Poller) :
    Action → Option (Outcome × Shared × Poller)
  | .elapse time => some (quiet, { shared with lock := shared.lock.elapse time }, worker)
  | .supervise redis =>
      match worker.phase with
      | .idle => some (quiet, supervise actor shared redis)
      | _ => none
  | .enter =>
      match worker.phase with
      | .looping => some (quiet, { shared with inside := actor :: shared.inside },
          { worker with phase := .fetching })
      | _ => none
  | .leave round =>
      match worker.phase with
      | .fetching => some (quiet, shared.exit actor,
          { worker with phase := afterRound shared.lock.now round })
      | _ => none
  | .heartbeat sent =>
      match worker.phase with
      | .refreshing =>
          if worker.redis && sent then
            some (shared.outcome actor,
              { shared with lock := shared.lock.refresh actor leaseTtl },
              { worker with phase := .looping })
          else some (quiet, shared, { worker with phase := .looping })
      | _ => none
  | .stop =>
      match worker.phase with
      | .idle => none
      | .releasing => none
      | _ => some (quiet, shared.exit actor, { worker with phase := .releasing })
  | .release sent =>
      match worker.phase with
      | .releasing =>
          if worker.redis && sent then
            some (shared.outcome actor, { shared with lock := shared.lock.delete actor },
              { worker with phase := .idle })
          else some (quiet, shared, { worker with phase := .idle })
      | _ => none
  | .crash => some (quiet, shared.exit actor, { worker with phase := .idle })
  | action =>
      match worker.phase.next shared.lock.now action with
      | some phase => some (quiet, shared, { worker with phase })
      | none => none

abbrev System := Interleaved Shared Poller

abbrev Event := SessionEvent Action Outcome

/-- No task runs, and nobody has the lock. -/
def opened (now : Int) : System where
  shared := ⟨.opened now, []⟩
  sessions := fun _ => ⟨false, .idle⟩

/-- What one action can do to the lock and to the section. -/
inductive Touched (actor : SessionId) (shared : Shared) (worker : Poller) (action : Action) :
    Outcome → Shared → Phase → Prop where
  | moved (phase : Phase) (outside : worker.phase ≠ .fetching) (kept : phase ≠ .fetching) :
      Touched actor shared worker action quiet shared phase
  | elapsed (time : Nat) :
      Touched actor shared worker action quiet
        { shared with lock := shared.lock.elapse time } worker.phase
  | taken (lock : Lock SessionId) (idle : worker.phase = .idle)
      (accepted : shared.lock.take actor leaseTtl = some lock) :
      Touched actor shared worker action quiet { shared with lock } .waitingOrder
  | entered (asked : action = .enter) (looping : worker.phase = .looping) :
      Touched actor shared worker action quiet
        { shared with inside := actor :: shared.inside } .fetching
  | left (phase : Phase) (kept : phase ≠ .fetching) :
      Touched actor shared worker action quiet (shared.exit actor) phase
  | refreshed (asked : action = .heartbeat true) (redis : worker.redis = true)
      (refreshing : worker.phase = .refreshing) :
      Touched actor shared worker action (shared.outcome actor)
        { shared with lock := shared.lock.refresh actor leaseTtl } .looping
  | deleted (asked : action = .release true) (redis : worker.redis = true)
      (releasing : worker.phase = .releasing) :
      Touched actor shared worker action (shared.outcome actor)
        { shared with lock := shared.lock.delete actor } .idle

theorem afterRound_ne_fetching (now : Int) (round : Round) : afterRound now round ≠ .fetching := by
  cases round <;> nofun

theorem next_ne_fetching {now : Int} {phase next : Phase} {action : Action}
    (advanced : phase.next now action = some next) :
    phase ≠ .fetching ∧ next ≠ .fetching := by
  unfold Phase.next at advanced
  split at advanced <;> try split at advanced
  all_goals cases advanced
  all_goals exact ⟨nofun, nofun⟩

/-- Every step is one of these. -/
theorem touched_of_advance {actor : SessionId} {shared shared' : Shared} {worker worker' : Poller}
    {action : Action} {outcome : Outcome}
    (advanced : advance actor shared worker action = some (outcome, shared', worker')) :
    Touched actor shared worker action outcome shared' worker'.phase := by
  have alone {phase : Phase} (moved : worker.phase.next shared.lock.now action = some phase) :
      Touched actor shared worker action quiet shared phase :=
    .moved phase (next_ne_fetching moved).1 (next_ne_fetching moved).2
  cases action with
  | elapse time =>
      cases advanced
      exact .elapsed time
  | supervise redis =>
      simp only [advance] at advanced
      split at advanced
      · rename_i idle
        unfold supervise at advanced
        split at advanced
        · split at advanced
          · rename_i lock accepted
            cases advanced
            exact .taken lock idle accepted
          · cases advanced
            exact .moved _ (idle ▸ nofun) nofun
        · cases advanced
          exact .moved _ (idle ▸ nofun) nofun
      · cases advanced
  | enter =>
      simp only [advance] at advanced
      split at advanced
      · rename_i looping
        cases advanced
        exact .entered rfl looping
      · cases advanced
  | leave round =>
      simp only [advance] at advanced
      split at advanced
      · cases advanced
        exact .left _ (afterRound_ne_fetching _ round)
      · cases advanced
  | heartbeat sent =>
      simp only [advance] at advanced
      split at advanced
      · rename_i refreshing
        split at advanced
        · rename_i reaches
          cases advanced
          obtain ⟨redis, rfl⟩ := Bool.and_eq_true_iff.mp reaches
          exact .refreshed rfl redis refreshing
        · cases advanced
          exact .moved _ (refreshing ▸ nofun) nofun
      · cases advanced
  | stop =>
      simp only [advance] at advanced
      split at advanced
      · cases advanced
      · cases advanced
      · cases advanced
        exact .left _ nofun
  | release sent =>
      simp only [advance] at advanced
      split at advanced
      · rename_i releasing
        split at advanced
        · rename_i reaches
          cases advanced
          obtain ⟨redis, rfl⟩ := Bool.and_eq_true_iff.mp reaches
          exact .deleted rfl redis releasing
        · cases advanced
          exact .moved _ (releasing ▸ nofun) nofun
      · cases advanced
  | crash =>
      cases advanced
      exact .left _ nofun
  | orderActive | login accepted | wake | relogin =>
      simp only [advance] at advanced
      split at advanced
      · rename_i phase moved
        cases advanced
        exact alone moved
      · cases advanced

end ApiBank.Worker.Supervised
