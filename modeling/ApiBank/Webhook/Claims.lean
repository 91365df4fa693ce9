import ApiBank.Webhook.DispatchSessions

/-!
# Disjoint claims

A call of `_claim_attempts` takes due attempts under a lock, commits, and finds
them again by its token. The token is a clock reading with a random part, so on
SQLite, where the second query goes by the token alone, two calls with one token
return each other's attempts; and what is rewritten between the commit and the
second query is returned or missed by what it holds by then.

When no token in use is drawn again on SQLite, and no transaction rewrites an
attempt that a call has claimed and not yet returned, every call returns what it
claimed, and nothing twice before it is pending again.
-/

namespace ApiBank.Webhook.Claims

open ApiBank.Db ApiBank.Relational ApiBank.Transition
open Dispatcher DispatchSessions

set_option autoImplicit false

def awaited : Local → List String
  | .claimed _ ids => ids
  | .loaded _ attempts => attempts.map WebhookAttempt.id
  | _ => []

theorem awaited_handOver (call : Call) (attempts : List WebhookAttempt) :
    awaited (handOver call attempts) = [] := by
  unfold handOver
  split <;> rfl

def Unused (shared : Shared) (token : Int) : Prop :=
  ∀ row ∈ shared.committed.webhookAttempts.rows, row.status = "dispatching" →
    carries token row = false

/-- The `UPDATE`s that the session is about to commit. -/
def uncommitted : Local → List AttemptUpdate
  | .writing _ _ sent => sent
  | _ => []

/-- The condition on a step: a claim on SQLite draws an unused token, and a commit
leaves the attempts alone that a call is about to return. -/
def Undisturbed (dialect : Dialect) (system : System) (event : Event) : Prop :=
  match event.action with
  | .claim now offset _ _ => dialect = .sqlite → Unused system.shared (now + offset.val)
  | .commit => ∀ update ∈ uncommitted (system.sessions event.session), ∀ session,
      update.attemptId ∉ awaited (system.sessions session)
  | _ => True

/-- What the locks of a claim are good for until its commit. -/
structure Seizing (dialect : Dialect) (session : SessionId) (shared : Shared) (call : Call)
    (ids : List String) : Prop where
  rowLocks : dialect = .postgresql → ∀ id ∈ ids, shared.owner id = some session
  writeLock : dialect = .sqlite → shared.owner "" = some session
  dueRows : ∀ id ∈ ids, DueRow shared call.now id
  unused : dialect = .sqlite → Unused shared call.token

def Holding (shared : Shared) (call : Call) (id : String) : Prop :=
  ∃ row, shared.committed.webhookAttempts.find? id = some row ∧ row.status = "dispatching" ∧
    carries call.token row = true

structure Standing (dialect : Dialect) (shared : Shared) (call : Call) (ids : List String) :
    Prop where
  rows : ∀ id ∈ ids, Holding shared call id
  only : dialect = .sqlite → ids ≠ [] → ∀ row ∈ shared.committed.webhookAttempts.rows,
    row.status = "dispatching" → carries call.token row = true → row.id ∈ ids

structure Writing (dialect : Dialect) (session : SessionId) (shared : Shared)
    (waiting sent : List AttemptUpdate) : Prop where
  locks : ∀ update ∈ sent, shared.owner (lockName dialect update.attemptId) = some session
  tame : ∀ update ∈ waiting ++ sent, Tame update.write

def Owns (dialect : Dialect) (session : SessionId) (shared : Shared) : Local → Prop
  | .selected call ids => Seizing dialect session shared call ids ∧ dialect = .postgresql
  | .updated call ids => Seizing dialect session shared call ids
  | .claimed call ids => Standing dialect shared call ids
  | .loaded call attempts => ∀ attempt ∈ attempts, Holding shared call attempt.id
  | .writing _ waiting sent => Writing dialect session shared waiting sent
  | _ => True

/-- Every session has what it relies on, and no attempt is awaited twice. -/
structure Claiming (dialect : Dialect) (system : System) : Prop where
  owns : ∀ session, Owns dialect session system.shared (system.sessions session)
  apart : ∀ session other id, session ≠ other → id ∈ awaited (system.sessions session) →
    id ∉ awaited (system.sessions other)

theorem claiming_opened (dialect : Dialect) (db : Database) : Claiming dialect (opened db) where
  owns _ := trivial
  apart _ _ _ _ member := by simp [opened, awaited] at member

section OwnMoves

variable {dialect : Dialect} {session : SessionId} {shared shared' : Shared}
variable {state state' : Local} {action : Action} {notice : Notice}

theorem holding_of_claimed {call : Call} {ids : List String} {id : String} (claimed : id ∈ ids)
    (dueRow : DueRow shared call.now id) :
    Holding ((shared.updateAttempts (claimIfPending ids call.token)
      (id_claimIfPending ids call.token)).release session) call id := by
  obtain ⟨row, found, pending, -⟩ := dueRow
  refine ⟨claimIfPending ids call.token row, ?_, ?_, ?_⟩
  · have changed := find?_updateAttempts shared (claimIfPending ids call.token)
      (id_claimIfPending ids call.token) id
    rw [found] at changed
    exact changed
  · have keyed : row.id ∈ ids := Table.key_of_find? found ▸ claimed
    simp [claimIfPending, keyed, pending]
  · have keyed : row.id ∈ ids := Table.key_of_find? found ▸ claimed
    simp [claimIfPending, keyed, pending, carries]

theorem standing_of_committed {call : Call} {ids : List String}
    (seizing : Seizing dialect session shared call ids) :
    Standing dialect ((shared.updateAttempts (claimIfPending ids call.token)
      (id_claimIfPending ids call.token)).release session) call ids where
  rows id member := holding_of_claimed member (seizing.dueRows id member)
  only := by
    intro sqlite some row member dispatching carried
    obtain ⟨old, stored, rfl⟩ := List.mem_map.mp member
    rw [id_claimIfPending]
    unfold claimIfPending at dispatching carried
    split at dispatching
    · rename_i claimed
      exact claimed.1
    · rename_i kept
      rw [if_neg kept] at carried
      have unused := seizing.unused sqlite old stored dispatching
      rw [carried] at unused
      contradiction

theorem writing_of_sent {next : AttemptUpdate}
    {waiting sent : List AttemptUpdate}
    (writing : Writing dialect session shared (next :: waiting) sent) :
    Writing dialect session (shared.lock [lockName dialect next.attemptId] session) waiting
      (sent ++ [next]) where
  locks := by
    intro update member
    simp only [Shared.lock, List.mem_singleton]
    split
    · rfl
    · rename_i apart
      rcases List.mem_append.mp member with earlier | last
      · exact writing.locks update earlier
      · obtain rfl : update = next := by simpa using last
        exact absurd rfl apart
  tame := by
    intro update member
    apply writing.tame
    simp only [List.mem_append, List.mem_cons] at member ⊢
    tauto

theorem tame_outcomes (now : Int) (attempts : List WebhookAttempt)
    (outcomes : List (Outcome × Int)) :
    ∀ update ∈ (attempts.zip outcomes).map (outcomeUpdate now), Tame update.write := by
  intro update member
  obtain ⟨⟨loaded, outcome, jitter⟩, -, rfl⟩ := List.mem_map.mp member
  exact tame_flush (rewrites_applyOutcome now jitter outcome loaded)

theorem owns_acted (moved : Moves dialect session shared state action notice shared' state')
    (owns : Owns dialect session shared state)
    (token : ∀ now offset batchSize ties, action = .claim now offset batchSize ties →
      dialect = .sqlite → Unused shared (now + offset.val)) :
    Owns dialect session shared' state' := by
  cases moved with
  | select now offset batchSize ties ids postgres free dueRows =>
      refine ⟨⟨?_, ?_, dueRows, ?_⟩, postgres⟩
      · intro _ id member
        simp [Shared.lock, member]
      · rintro rfl
        contradiction
      · rintro rfl
        contradiction
  | seize now offset batchSize ties ids sqlite free dueRows =>
      refine ⟨?_, fun _ => by simp [Shared.lock], dueRows, ?_⟩
      · rintro rfl
        contradiction
      · exact token now offset batchSize ties rfl
  | update call ids => exact owns.1
  | commitClaim call ids => exact standing_of_committed owns
  | loadPostgres call ids attempts postgres found =>
      unfold handOver
      split <;> trivial
  | loadSqlite call ids attempts sqlite found =>
      intro attempt member
      subst found
      obtain ⟨stored, carried, -, -, dispatching⟩ := mem_loadClaimed member
      exact ⟨attempt, Table.find?_of_mem stored, dispatching sqlite, carried⟩
  | refresh call attempts fresh found =>
      unfold handOver
      split <;> trivial
  | respond call attempts outcomes updates complete decided =>
      subst decided
      exact ⟨by simp, by simpa using tame_outcomes call.now attempts outcomes⟩
  | reset now rows =>
      refine ⟨by simp, ?_⟩
      intro update member
      obtain ⟨row, -, rfl⟩ := List.mem_map.mp (by simpa using member)
      exact tame_reset _
  | rewrite action writer row assigned found assigns =>
      refine ⟨by simp, ?_⟩
      intro update member
      obtain rfl : update = ⟨row.id, .flush row assigned⟩ := by simpa using member
      exact tame_flush (rewrites_of_assigns assigns)
  | refuse action => trivial
  | flush writer next waiting sent free => exact writing_of_sent owns
  | commitWrites writer sent => trivial
  | crash state => trivial

end OwnMoves

section OtherMoves

variable {dialect : Dialect} {session other : SessionId} {shared shared' : Shared}
variable {state state' otherState : Local} {action : Action} {notice : Notice}

/-- The attempts of an unfinished call. -/
def unreturned : Local → List String
  | .selected _ ids => ids
  | .updated _ ids => ids
  | state => awaited state

theorem owns_of_locks (owns : Owns dialect other shared otherState)
    (keeps : ∀ name, shared.owner name = some other → shared'.owner name = some other)
    (sameRows : shared'.committed = shared.committed) : Owns dialect other shared' otherState := by
  have seizing {call : Call} {ids : List String} (before : Seizing dialect other shared call ids) :
      Seizing dialect other shared' call ids := by
    refine ⟨fun postgres id member => keeps id (before.rowLocks postgres id member),
      fun sqlite => keeps "" (before.writeLock sqlite), ?_, ?_⟩
    · unfold DueRow
      rw [sameRows]
      exact before.dueRows
    · unfold Unused
      rw [sameRows]
      exact before.unused
  cases otherState with
  | selected call ids => exact ⟨seizing owns.1, owns.2⟩
  | updated call ids => exact seizing owns
  | claimed call ids =>
      refine ⟨?_, ?_⟩
      · unfold Holding
        rw [sameRows]
        exact owns.rows
      · rw [sameRows]
        exact owns.only
  | loaded call attempts =>
      unfold Owns Holding
      rw [sameRows]
      exact owns
  | writing writer waiting sent =>
      exact ⟨fun update member => keeps _ (owns.locks update member), owns.tame⟩
  | ready => trivial
  | sending call attempts => trivial

/-- A commit of another session that leaves the attempts of the call as they are
and does not give its token to further ones. -/
theorem owns_of_update {change : WebhookAttempt → WebhookAttempt}
    {keepsId : ∀ row, (change row).id = row.id}
    (keeps : ∀ name, shared.owner name = some other →
      (shared.release session).owner name = some other)
    (still : ∀ row ∈ shared.committed.webhookAttempts.rows, row.id ∈ unreturned otherState →
      change row = row)
    (tokens : dialect = .sqlite → ∀ call ids,
      otherState = .updated call ids ∨ (otherState = .claimed call ids ∧ ids ≠ []) →
      ∀ row ∈ shared.committed.webhookAttempts.rows, (change row).status = "dispatching" →
        carries call.token (change row) = true →
        row.status = "dispatching" ∧ carries call.token row = true)
    (owns : Owns dialect other shared otherState) :
    Owns dialect other ((shared.updateAttempts change keepsId).release session) otherState := by
  have found {id : String} {row : WebhookAttempt} (mine : id ∈ unreturned otherState)
      (before : shared.committed.webhookAttempts.find? id = some row) :
      ((shared.updateAttempts change keepsId).release session).committed.webhookAttempts.find? id =
        some row := by
    have changed := find?_updateAttempts shared change keepsId id
    rw [before, Option.map_some, still row (Table.mem_of_find? before)
      (Table.key_of_find? before ▸ mine)] at changed
    exact changed
  have seizing {call : Call} {ids : List String} (here : ids = unreturned otherState)
      (unused : dialect = .sqlite →
        Unused ((shared.updateAttempts change keepsId).release session) call.token)
      (before : Seizing dialect other shared call ids) : Seizing dialect other
        ((shared.updateAttempts change keepsId).release session) call ids := by
    refine ⟨fun postgres id member => keeps id (before.rowLocks postgres id member),
      fun sqlite => keeps "" (before.writeLock sqlite), ?_, unused⟩
    intro id member
    obtain ⟨row, stored, pendingDue⟩ := before.dueRows id member
    exact ⟨row, found (here ▸ member) stored, pendingDue⟩
  cases otherState with
  | selected call ids =>
      refine ⟨seizing rfl ?_ owns.1, owns.2⟩
      intro sqlite
      rw [owns.2] at sqlite
      contradiction
  | updated call ids =>
      refine seizing rfl ?_ owns
      intro sqlite row member dispatching
      obtain ⟨old, stored, rfl⟩ := List.mem_map.mp member
      cases carried : carries call.token (change old) with
      | false => rfl
      | true =>
          have before := tokens sqlite call ids (.inl rfl) old stored dispatching carried
          have unused := owns.unused sqlite old stored before.1
          rw [before.2] at unused
          contradiction
  | claimed call ids =>
      refine ⟨?_, ?_⟩
      · intro id member
        obtain ⟨row, stored, held⟩ := owns.rows id member
        exact ⟨row, found member stored, held⟩
      · intro sqlite some row member dispatching carried
        obtain ⟨old, stored, rfl⟩ := List.mem_map.mp member
        have before := tokens sqlite call ids (.inr ⟨rfl, some⟩) old stored dispatching carried
        rw [keepsId]
        exact owns.only sqlite some old stored before.1 before.2
  | loaded call attempts =>
      intro attempt member
      obtain ⟨row, stored, held⟩ := owns attempt member
      exact ⟨row, found (List.mem_map_of_mem member) stored, held⟩
  | writing writer waiting sent =>
      exact ⟨fun update member => keeps _ (owns.locks update member), owns.tame⟩
  | ready => trivial
  | sending call attempts => trivial

theorem not_due_of_holding {call : Call} {now : Int} {id : String}
    (holding : Holding shared call id) : ¬DueRow shared now id := by
  rintro ⟨row, found, pending, -⟩
  obtain ⟨held, sameRow, dispatching, -⟩ := holding
  rw [found] at sameRow
  obtain rfl : row = held := by simpa using sameRow
  rw [pending] at dispatching
  contradiction

theorem holding_of_awaited {id : String} (owns : Owns dialect other shared otherState)
    (waits : id ∈ awaited otherState) : ∃ call, Holding shared call id := by
  cases otherState with
  | claimed call ids => exact ⟨call, owns.rows id waits⟩
  | loaded call attempts =>
      obtain ⟨attempt, member, rfl⟩ := List.mem_map.mp waits
      exact ⟨call, owns attempt member⟩
  | _ => simp [awaited] at waits

/-- The locks of two unfinished transactions do not meet. -/
theorem apart_of_locks {call : Call} {ids : List String} {id : String}
    (different : other ≠ session) (seizing : Seizing dialect other shared call ids)
    (mine : id ∈ ids) (locked : shared.owner (lockName dialect id) = some session) : False := by
  cases dialect with
  | postgresql =>
      have held := seizing.rowLocks rfl id mine
      rw [show lockName .postgresql id = id from rfl, held] at locked
      exact different (by simpa using locked)
  | sqlite =>
      have held := seizing.writeLock rfl
      rw [show lockName .sqlite id = "" from rfl, held] at locked
      exact different (by simpa using locked)

theorem lock_of_seizing {call : Call} {ids : List String} {id : String}
    (seizing : Seizing dialect session shared call ids) (mine : id ∈ ids) :
    shared.owner (lockName dialect id) = some session := by
  cases dialect with
  | postgresql => exact seizing.rowLocks rfl id mine
  | sqlite => exact seizing.writeLock rfl

theorem still_of_claim {call : Call} {ids : List String} {row : WebhookAttempt}
    (different : other ≠ session) (acted : Seizing dialect session shared call ids)
    (owns : Owns dialect other shared otherState)
    (mine : row.id ∈ unreturned otherState) : claimIfPending ids call.token row = row := by
  unfold claimIfPending
  split
  · rename_i claimed
    exfalso
    have locked := lock_of_seizing acted claimed.1
    have due := acted.dueRows row.id claimed.1
    cases otherState with
    | selected otherCall otherIds => exact apart_of_locks different owns.1 mine locked
    | updated otherCall otherIds => exact apart_of_locks different owns mine locked
    | claimed otherCall otherIds => exact not_due_of_holding (owns.rows row.id mine) due
    | loaded otherCall attempts =>
        obtain ⟨holder, holding⟩ := holding_of_awaited owns mine
        exact not_due_of_holding holding due
    | _ => simp [unreturned, awaited] at mine
  · rfl

theorem tokens_of_claim {call otherCall : Call} {ids otherIds : List String}
    {row : WebhookAttempt} (sqlite : dialect = .sqlite) (different : other ≠ session)
    (acted : Seizing dialect session shared call ids)
    (owns : Owns dialect other shared otherState)
    (holds : otherState = .updated otherCall otherIds ∨
      (otherState = .claimed otherCall otherIds ∧ otherIds ≠ []))
    (dispatching : (claimIfPending ids call.token row).status = "dispatching")
    (carried : carries otherCall.token (claimIfPending ids call.token row) = true) :
    row.status = "dispatching" ∧ carries otherCall.token row = true := by
  rcases holds with rfl | ⟨rfl, some⟩
  · have mine := owns.writeLock sqlite
    rw [acted.writeLock sqlite] at mine
    exact absurd (by simpa using mine.symm) different
  · unfold claimIfPending at dispatching carried
    split at carried
    · exfalso
      have sameToken : call.token = otherCall.token := by simpa [carries] using carried
      obtain ⟨first, member⟩ := List.exists_mem_of_ne_nil otherIds some
      obtain ⟨held, found, standing, holds⟩ := owns.rows first member
      have unused := acted.unused sqlite held (Table.mem_of_find? found) standing
      rw [sameToken, holds] at unused
      contradiction
    · rename_i kept
      rw [if_neg kept] at dispatching
      exact ⟨dispatching, carried⟩

theorem still_of_writes {waiting sent : List AttemptUpdate} {row : WebhookAttempt}
    (different : other ≠ session) (acted : Writing dialect session shared waiting sent)
    (apart : ∀ update ∈ sent, update.attemptId ∉ awaited otherState)
    (owns : Owns dialect other shared otherState) (mine : row.id ∈ unreturned otherState) :
    written sent row = row := by
  apply written_of_absent
  intro rewritten
  obtain ⟨update, member, same⟩ := List.mem_map.mp rewritten
  have locked := acted.locks update member
  rw [same] at locked
  cases otherState with
  | selected otherCall otherIds => exact apart_of_locks different owns.1 mine locked
  | updated otherCall otherIds => exact apart_of_locks different owns mine locked
  | _ => exact apart update member (same ▸ mine)

theorem owns_other (different : other ≠ session)
    (moved : Moves dialect session shared state action notice shared' state')
    (acted : Owns dialect session shared state)
    (apart : action = .commit → ∀ update ∈ uncommitted state,
      update.attemptId ∉ awaited otherState)
    (owns : Owns dialect other shared otherState) : Owns dialect other shared' otherState := by
  cases moved with
  | select now offset batchSize ties ids postgres free dueRows =>
      exact owns_of_locks owns (fun name =>
        owner_lock_other different fun taken member => .inl (free taken member)) rfl
  | seize now offset batchSize ties ids sqlite free dueRows =>
      refine owns_of_locks owns (fun name => owner_lock_other different ?_) rfl
      intro taken member
      obtain rfl : taken = "" := by simpa using member
      exact .inl free
  | commitClaim call ids =>
      refine owns_of_update (fun name => owner_release_other different) ?_ ?_ owns
      · intro row _ mine
        exact still_of_claim different acted owns mine
      · intro sqlite otherCall otherIds holds row _ dispatching carried
        exact tokens_of_claim sqlite different acted owns holds dispatching carried
  | flush writer next waiting sent free =>
      refine owns_of_locks owns (fun name => owner_lock_other different ?_) rfl
      intro taken member
      obtain rfl : taken = lockName dialect next.attemptId := by simpa using member
      exact free
  | commitWrites writer sent =>
      refine owns_of_update (fun name => owner_release_other different) ?_ ?_ owns
      · intro row _ mine
        exact still_of_writes different acted (apart rfl) owns mine
      · intro _ otherCall otherIds _ row _ dispatching carried
        have tamed := tamed_written (fun update member => acted.tame update (by simpa using member))
          row
        exact ⟨tamed.status dispatching, tamed.token _ carried⟩
  | crash state => exact owns_of_locks owns (fun name => owner_release_other different) rfl
  | _ => exact owns

theorem awaited_acted {id : String}
    (moved : Moves dialect session shared state action notice shared' state')
    (owns : Owns dialect session shared state) (waits : id ∈ awaited state') :
    id ∈ awaited state ∨ ∃ now, DueRow shared now id := by
  cases moved with
  | commitClaim call ids => exact .inr ⟨call.now, owns.dueRows id waits⟩
  | loadSqlite call ids attempts sqlite found =>
      left
      obtain ⟨row, member, rfl⟩ := List.mem_map.mp waits
      subst found
      obtain ⟨stored, carried, some, -, dispatching⟩ := mem_loadClaimed member
      exact owns.only sqlite some row stored (dispatching sqlite) carried
  | loadPostgres call ids attempts postgres found => simp [awaited_handOver] at waits
  | refresh call attempts fresh found => simp [awaited_handOver] at waits
  | _ => simp [awaited] at waits

theorem claiming_step {system next : System} {event : Event} (claiming : Claiming dialect system)
    (taken : Guarded (Undisturbed dialect) (Interleaved.Step (advance dialect)) system event next) :
    Claiming dialect next := by
  obtain ⟨undisturbed, shared, own, advanced, rfl⟩ := taken
  have moved := moves_of_advance advanced
  have mine := claiming.owns event.session
  constructor
  · apply Interleaved.forall_moved fun session state => Owns dialect session shared state
    · apply owns_acted moved mine
      intro now offset batchSize ties same
      simpa [Undisturbed, same] using undisturbed
    · intro other different
      refine owns_other different moved mine ?_ (claiming.owns other)
      intro same update member
      have apart : ∀ update ∈ uncommitted (system.sessions event.session), ∀ session,
          update.attemptId ∉ awaited (system.sessions session) := by
        simpa [Undisturbed, same] using undisturbed
      exact apart update member other
  · have apartFromActor (other : SessionId) (different : other ≠ event.session) (id : String)
        (waits : id ∈ awaited own) : id ∉ awaited (system.sessions other) := by
      rcases awaited_acted moved mine waits with before | ⟨now, dueRow⟩
      · exact claiming.apart _ _ id different.symm before
      · intro otherWaits
        obtain ⟨call, holding⟩ := holding_of_awaited (claiming.owns other) otherWaits
        exact not_due_of_holding holding dueRow
    exact Interleaved.apart_moved (fun id state => id ∈ awaited state) claiming.apart apartFromActor

end OtherMoves

section Histories

variable {dialect : Dialect} {session : SessionId} {shared shared' : Shared}
variable {state state' : Local} {action : Action} {notice : Notice}

def returnedIds (event : Event) : List String :=
  match event.outcome with
  | .returned attempts => attempts.map WebhookAttempt.id
  | _ => []

/-- The commit that makes an attempt pending which was not. -/
def Reopens (id : String) (event : Event) : Prop :=
  match event.outcome with
  | .rewrote _ changes => ∃ change ∈ changes,
      change.1.id = id ∧ change.1.status ≠ "pending" ∧ change.2.status = "pending"
  | _ => False

/-- Returned by a call, and not pending again since. -/
def Outstanding (id : String) (events : List Event) : Prop :=
  ∃ prior event later, events = prior ++ event :: later ∧ id ∈ returnedIds event ∧
    ∀ between ∈ later, ¬Reopens id between

def claimNotice (session : SessionId) (event : Event) : Option (Call × List WebhookAttempt) :=
  if event.session = session then
    match event.outcome with
    | .claimed call rows => some (call, rows)
    | _ => none
  else none

/-- What the session's last commit of a claim moved to dispatching, as it stood. -/
def lastClaim (session : SessionId) (events : List Event) :
    Option (Call × List WebhookAttempt) :=
  (events.filterMap (claimNotice session)).getLast?

/-- The call returns what it claimed: all of it, nothing else, each pending and due
when it was claimed, and nothing that is still outstanding. -/
structure Served (prior : List Event) (session : SessionId) (attempts : List WebhookAttempt) :
    Prop where
  once : ∀ attempt ∈ attempts, ¬Outstanding attempt.id prior
  claim : ∃ call rows, lastClaim session prior = some (call, rows) ∧
    (∀ row ∈ rows, row.status = "pending" ∧ row.nextRunAt.instant ≤ call.now) ∧
    ∀ id, id ∈ attempts.map WebhookAttempt.id ↔ id ∈ rows.map WebhookAttempt.id

def DisjointClaims : List Event → Prop :=
  Throughout fun prior event => ∀ attempts, event.outcome = .returned attempts →
    Served prior event.session attempts

theorem outstanding_snoc {id : String} {events : List Event} {event : Event}
    (outstanding : Outstanding id (events ++ [event])) :
    id ∈ returnedIds event ∨ (Outstanding id events ∧ ¬Reopens id event) := by
  obtain ⟨prior, returned, later, split, member, closed⟩ := outstanding
  rcases List.eq_nil_or_concat later with rfl | ⟨rest, last, rfl⟩
  · left
    obtain rfl : event = returned := by simpa using (List.append_inj' split rfl).2
    exact member
  · right
    rw [List.concat_eq_append, ← List.cons_append, ← List.append_assoc] at split
    obtain ⟨same, lastSame⟩ := List.append_inj' split rfl
    obtain rfl : event = last := by simpa using lastSame
    refine ⟨⟨prior, returned, rest, same, member, ?_⟩, closed event (by simp)⟩
    intro between inside
    exact closed between (by simp [inside])

theorem lastClaim_snoc (session : SessionId) (events : List Event) (event : Event) :
    lastClaim session (events ++ [event]) =
      (claimNotice session event).or (lastClaim session events) := by
  unfold lastClaim
  cases noticed : claimNotice session event with
  | none => simp [List.filterMap_append, noticed]
  | some claim => simp [List.filterMap_append, noticed]

def Recorded (session : SessionId) (events : List Event) (ids : List String) : Prop :=
  ∃ call rows, lastClaim session events = some (call, rows) ∧
    (∀ row ∈ rows, row.status = "pending" ∧ row.nextRunAt.instant ≤ call.now) ∧
    ∀ id, id ∈ ids ↔ id ∈ rows.map WebhookAttempt.id

/-- The call that has committed and not returned. -/
def Committed : Local → Prop
  | .claimed _ _ => True
  | .loaded _ _ => True
  | _ => False

structure Tracked (dialect : Dialect) (events : List Event) (system : System) : Prop where
  claiming : Claiming dialect system
  recorded : ∀ session, Committed (system.sessions session) →
    Recorded session events (awaited (system.sessions session))
  closed : ∀ id, Outstanding id events →
    (∃ row, system.shared.committed.webhookAttempts.find? id = some row ∧
      row.status ≠ "pending") ∧
    ∀ session, id ∉ awaited (system.sessions session)

theorem recorded_of_silent {events : List Event} {event : Event} {ids : List String}
    (silent : claimNotice session event = none) (recorded : Recorded session events ids) :
    Recorded session (events ++ [event]) ids := by
  obtain ⟨call, rows, last, rest⟩ := recorded
  refine ⟨call, rows, ?_, rest⟩
  rw [lastClaim_snoc, silent, last]
  rfl

theorem mem_loaded_iff {call : Call} {ids : List String}
    (standing : Standing dialect shared call ids) (id : String) :
    id ∈ (loadClaimed dialect call ids shared.committed.webhookAttempts.rows).map
      WebhookAttempt.id ↔ id ∈ ids := by
  constructor
  · intro member
    obtain ⟨row, loaded, rfl⟩ := List.mem_map.mp member
    obtain ⟨stored, carried, some, byId, dispatching⟩ := mem_loadClaimed loaded
    cases dialect with
    | postgresql => exact byId rfl
    | sqlite => exact standing.only rfl some row stored (dispatching rfl) carried
  · intro member
    obtain ⟨row, found, dispatching, carried⟩ := standing.rows id member
    obtain rfl := Table.key_of_find? found
    exact List.mem_map_of_mem
      (mem_loadClaimed_of (Table.mem_of_find? found) member dispatching carried)

theorem id_refreshed (attempts : Table WebhookAttempt.id) (loaded : WebhookAttempt) :
    (refreshed attempts loaded).id = loaded.id := by
  unfold refreshed
  split <;> rfl

theorem ids_refreshed (table : Table WebhookAttempt.id) (attempts : List WebhookAttempt) :
    (attempts.map (refreshed table)).map WebhookAttempt.id = attempts.map WebhookAttempt.id := by
  rw [List.map_map]
  apply List.map_congr_left
  intro attempt _
  exact id_refreshed table attempt

/-- A call that returns gives back what it awaited. -/
theorem returned_acted {attempts : List WebhookAttempt}
    (moved : Moves dialect session shared state action (.returned attempts) shared' state')
    (owns : Owns dialect session shared state) :
    (∀ id, id ∈ attempts.map WebhookAttempt.id ↔ id ∈ awaited state) ∧ Committed state ∧
      shared' = shared ∧ awaited state' = [] := by
  cases moved with
  | loadPostgres call ids attempts postgres found =>
      subst found
      exact ⟨mem_loaded_iff owns, trivial, rfl, awaited_handOver call _⟩
  | refresh call attempts fresh found =>
      subst found
      refine ⟨?_, trivial, rfl, awaited_handOver call _⟩
      intro id
      rw [ids_refreshed]
      rfl

theorem settled_acted {id : String} {row : WebhookAttempt}
    (moved : Moves dialect session shared state action notice shared' state')
    (found : shared.committed.webhookAttempts.find? id = some row)
    (settled : row.status ≠ "pending") (closed : ¬Reopens id ⟨session, action, notice⟩) :
    ∃ row', shared'.committed.webhookAttempts.find? id = some row' ∧
      row'.status ≠ "pending" := by
  cases moved with
  | commitClaim call ids =>
      have changed := find?_updateAttempts shared (claimIfPending ids call.token)
        (id_claimIfPending ids call.token) id
      rw [found] at changed
      refine ⟨claimIfPending ids call.token row, changed, ?_⟩
      simp [claimIfPending, settled]
  | commitWrites writer sent =>
      have changed := find?_updateAttempts shared (written sent) (id_written sent) id
      rw [found] at changed
      refine ⟨written sent row, changed, ?_⟩
      intro reopened
      by_cases named : row.id ∈ sent.map AttemptUpdate.attemptId
      · apply closed
        refine ⟨(row, written sent row), ?_, Table.key_of_find? found, settled, reopened⟩
        have inside : row ∈ touched (sent.map AttemptUpdate.attemptId) shared.committed :=
          mem_touched.mpr ⟨Table.mem_of_find? found, named⟩
        exact List.mem_map.mpr ⟨row, inside, rfl⟩
      · rw [written_of_absent named] at reopened
        exact settled reopened
  | _ => exact ⟨row, found, settled⟩

theorem recorded_acted {events : List Event}
    (moved : Moves dialect session shared state action notice shared' state')
    (owns : Owns dialect session shared state) (committed : Committed state')
    (recorded : Committed state → Recorded session events (awaited state)) :
    Recorded session (events ++ [⟨session, action, notice⟩]) (awaited state') := by
  cases moved with
  | commitClaim call ids =>
      refine ⟨call, touched ids shared.committed, ?_, ?_, ?_⟩
      · rw [lastClaim_snoc]
        simp [claimNotice]
      · intro row member
        obtain ⟨stored, claimed⟩ := mem_touched.mp member
        obtain ⟨found, same, pendingDue⟩ := owns.dueRows row.id claimed
        rw [Table.find?_of_mem stored] at same
        obtain rfl : row = found := by simpa using same
        exact pendingDue
      · intro id
        constructor
        · intro claimed
          obtain ⟨row, found, -⟩ := owns.dueRows id claimed
          obtain rfl := Table.key_of_find? found
          exact List.mem_map_of_mem (mem_touched.mpr ⟨Table.mem_of_find? found, claimed⟩)
        · intro member
          obtain ⟨row, inside, rfl⟩ := List.mem_map.mp member
          exact (mem_touched.mp inside).2
  | loadSqlite call ids attempts sqlite found =>
      subst found
      obtain ⟨lastCall, rows, last, dueRows, same⟩ := recorded trivial
      refine recorded_of_silent (by simp [claimNotice]) ⟨lastCall, rows, last, dueRows, ?_⟩
      intro id
      exact (mem_loaded_iff owns id).trans (same id)
  | loadPostgres call ids attempts postgres found =>
      unfold handOver at committed
      split at committed <;> exact committed.elim
  | refresh call attempts fresh found =>
      unfold handOver at committed
      split at committed <;> exact committed.elim
  | _ => exact committed.elim

theorem tracked_step {events : List Event} {system next : System} {event : Event}
    (tracked : Tracked dialect events system)
    (taken : Guarded (Undisturbed dialect) (Interleaved.Step (advance dialect)) system event next) :
    Tracked dialect (events ++ [event]) next := by
  have claiming := claiming_step tracked.claiming taken
  obtain ⟨undisturbed, shared, own, advanced, rfl⟩ := taken
  have moved := moves_of_advance advanced
  have mine := tracked.claiming.owns event.session
  refine ⟨claiming, ?_, ?_⟩
  · apply Interleaved.forall_moved fun session state =>
      Committed state → Recorded session (events ++ [event]) (awaited state)
    · intro committed
      exact recorded_acted moved mine committed (tracked.recorded event.session)
    · intro other different committed
      refine recorded_of_silent ?_ (tracked.recorded other committed)
      simp [claimNotice, different.symm]
  · intro id outstanding
    rcases outstanding_snoc outstanding with returned | ⟨before, closed⟩
    · unfold returnedIds at returned
      split at returned
      · rename_i attempts same
        rw [same] at moved
        obtain ⟨gives, -, rfl, done⟩ := returned_acted moved mine
        have waited := (gives id).mp returned
        obtain ⟨call, row, found, dispatching, -⟩ := holding_of_awaited mine waited
        refine ⟨⟨row, found, by simp [dispatching]⟩, ?_⟩
        apply Interleaved.forall_moved fun session state => id ∉ awaited state
        · simp [done]
        · intro other different
          exact tracked.claiming.apart _ _ id different.symm waited
      · simp at returned
    · obtain ⟨⟨row, found, settled⟩, free⟩ := tracked.closed id before
      refine ⟨settled_acted moved found settled closed, ?_⟩
      apply Interleaved.forall_moved fun session state => id ∉ awaited state
      · intro waits
        rcases awaited_acted moved mine waits with waited | ⟨now, due, same, pending, -⟩
        · exact free event.session waited
        · rw [found] at same
          obtain rfl : row = due := by simpa using same
          exact settled pending
      · intro other _
        exact free other

/-- In every run whose claims and commits meet the condition, the calls return what
they claim and the claims are disjoint. -/
theorem claims_disjoint (dialect : Dialect) (db : Database) {events : List Event}
    {system : System}
    (run : Run (Guarded (Undisturbed dialect) (Interleaved.Step (advance dialect))) (opened db)
      events system) : DisjointClaims events := by
  refine run.throughout (Tracked dialect) ?_ ?_ ?_
  · refine ⟨claiming_opened dialect db, fun _ committed => committed.elim, ?_⟩
    rintro id ⟨prior, event, later, split, -⟩
    simp at split
  · intro events state event next
    exact tracked_step
  · intro events state event next tracked taken attempts same
    obtain ⟨-, shared, own, advanced, rfl⟩ := taken
    have moved := moves_of_advance advanced
    have mine := tracked.claiming.owns event.session
    rw [same] at moved
    obtain ⟨gives, committed, -⟩ := returned_acted moved mine
    constructor
    · intro attempt member outstanding
      apply (tracked.closed attempt.id outstanding).2 event.session
      exact (gives attempt.id).mp (List.mem_map_of_mem member)
    · obtain ⟨call, rows, last, dueRows, sameIds⟩ := tracked.recorded event.session committed
      exact ⟨call, rows, last, dueRows, fun id => (gives id).trans (sameIds id)⟩

end Histories

/-- A new row of the queue. -/
def attemptRow (id : String) : WebhookAttempt where
  id := id
  webhookId := "wh_1"
  orderId := "ord_1"
  transactionId := "tx_1"
  payload := {
    id := "evt_pay", type := "payment.succeeded", createdAt := .utc 0, orderId := "ord_1"
    transactionId := "tx_1", code := "PAY1", amountVnd := 10000, bankRefNo := "REF1"
    postedAt := .utc 0, customerRef := none, metadata := []
    order := ⟨"ord_1", "PAY1", 10000, .paid⟩
    transaction := ⟨"tx_1", "REF1", 10000, .utc 0, "PAY1"⟩ }
  attempt := 0
  maxAttempts := 7
  status := "pending"
  nextRunAt := .utc 0
  claimedAt := none

def twoDue : Database := { Database.empty with
  webhookAttempts := ⟨[attemptRow "evt_1", attemptRow "evt_2"], by decide⟩ }

def asStored : Ties where
  order := id
  perm := fun _ => .refl _

def noOffset : Fin 1000000 := 0

def sameToken : List (SessionId × Action) := [
  (0, .claim 0 5 1 asStored), (0, .commit), (1, .claim 5 noOffset 1 asStored), (1, .commit),
  (0, .load), (0, .refresh), (1, .load), (1, .refresh)]


theorem token_collision : ¬∀ (dialect : Dialect) (db : Database) (events : List Event)
    (system : System), Run (Interleaved.Step (advance dialect)) (opened db) events system →
      DisjointClaims events := by
  intro disjoint
  have run := Interleaved.run_of_replay (advance .sqlite)
    (rfl : Interleaved.replay _ (opened twoDue) sameToken = some (_, _))
  have served := disjoint .sqlite twoDue _ _ run [_, _, _, _, _, _, _] _ [] rfl _ rfl
  apply served.once _ (List.mem_cons_self ..)
  refine ⟨[_, _, _, _, _], _, [_], rfl, List.mem_cons_self .., ?_⟩
  intro between inside
  obtain rfl := List.mem_singleton.mp inside
  exact fun reopened => reopened

/-- Fresh tokens, and no replay meanwhile. -/
def calm (_ : SessionId) (shared : Shared) (state : Local) : Action → Bool
  | .claim now offset _ _ => shared.committed.webhookAttempts.rows.all fun row =>
      row.status ≠ "dispatching" || !carries (now + offset.val) row
  | .commit => (uncommitted state).isEmpty
  | _ => true

theorem undisturbed_of_calm {system : System} {event : Event}
    (passed : Interleaved.AtActor (fun session shared state action =>
      calm session shared state action) system event) : Undisturbed .sqlite system event := by
  unfold Undisturbed
  split
  · rename_i now offset batchSize ties same
    intro _ row member dispatching
    simp only [Interleaved.AtActor, same, calm, List.all_eq_true] at passed
    simpa [dispatching] using passed row member
  · rename_i same
    simp only [Interleaved.AtActor, same, calm, List.isEmpty_iff] at passed
    simp [passed]
  · trivial

def twoCalls : List (SessionId × Action) := [
  (0, .claim 0 5 1 asStored), (0, .commit), (0, .load), (1, .claim 5 7 1 asStored),
  (0, .refresh), (1, .commit), (1, .load), (1, .refresh)]

theorem two_calls_disjoint : ∃ events system,
    Interleaved.replay (Interleaved.checked (advance .sqlite) calm) (opened twoDue) twoCalls =
      some (events, system) ∧ DisjointClaims events := by
  have run := Interleaved.guarded_run_of_replay (advance .sqlite) calm
    (rfl : Interleaved.replay _ (opened twoDue) twoCalls = some (_, _))
  refine ⟨_, _, rfl, claims_disjoint .sqlite twoDue (run.weaken ?_)⟩
  intro state event next taken
  exact ⟨undisturbed_of_calm taken.1, taken.2⟩
end ApiBank.Webhook.Claims
