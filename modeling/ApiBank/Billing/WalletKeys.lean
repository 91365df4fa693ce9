import ApiBank.Billing.WalletBalances

/-!
# Idempotency keys under interleaving

The first lookup of a wallet call compares the payload of the stored row, the
second one, after a lost race, does not. Every call returns a row of its own
payload in every run in which no flush meets a committed row with another one.
-/

namespace ApiBank.Billing.WalletKeys

open ApiBank.Db ApiBank.Relational ApiBank.Transition
open Wallet WalletLedger WalletSessions WalletBalances

set_option autoImplicit false

/-- Wallet rows are never deleted or changed. -/
theorem rows_persist {session : SessionId} {shared shared' : Shared} {state state' : Local}
    {action : Action} {outcome : Outcome}
    (advanced : advance session shared state action = some (outcome, shared', state'))
    {key : String} {row : WalletTransaction}
    (found : shared.committed.walletTransactions.find? key = some row) :
    shared'.committed.walletTransactions.find? key = some row := by
  cases touched_of_advance advanced with
  | nothing => exact found
  | lockTaken userId free => exact found
  | keyReserved key free => exact found
  | released => exact found
  | published committed stored => exact Table.find?_insertAll?_of_some (rows_published stored) found

def flushMeetsOwnPayload (_ : SessionId) (shared : Shared) (state : Local) (action : Action) :
    Bool :=
  match action, state.phase with
  | .flush, .written request record =>
      match shared.committed.walletTransactions.find? record.idempotencyKey with
      | some row => SamePayload row request
      | none => true
  | _, _ => true

/-- What a session relies on between its first lookup and its answer. -/
def Answering (shared : Shared) (state : Local) : Prop :=
  match state.phase with
  | .ready => True
  | .looked request _ | .locked request _ =>
      ∀ row ∈ state.pending, row.idempotencyKey ≠ request.idempotencyKey
  | .written request record =>
      (∀ row ∈ state.pending, row.idempotencyKey ≠ request.idempotencyKey) ∧
        record.idempotencyKey = request.idempotencyKey ∧ SamePayload record request
  | .raced request => ∃ row,
      shared.committed.walletTransactions.find? request.idempotencyKey = some row ∧
        SamePayload row request

structure Answerable (session : SessionId) (shared : Shared) (state : Local) : Prop where
  owned : ∀ key, shared.keyOwner key = some session →
    ∃ row ∈ state.pending, row.idempotencyKey = key
  placed : Answering shared state

theorem key_of_visibleRow {state : Local} {db : Database} {key : String}
    {row : WalletTransaction} (found : state.visibleRow db key = some row) :
    row.idempotencyKey = key := by
  unfold Local.visibleRow at found
  split at found
  · rename_i stored
    cases found
    exact Table.key_of_find? stored
  · simpa using List.find?_some found

theorem unused_of_visibleRow {state : Local} {db : Database} {key : String}
    (missing : state.visibleRow db key = none) : ∀ row ∈ state.pending, row.idempotencyKey ≠ key := by
  unfold Local.visibleRow at missing
  split at missing
  · contradiction
  · simpa using missing

theorem answerable_empty {session : SessionId} {shared : Shared} {state : Local}
    (unowned : ∀ key, shared.keyOwner key ≠ some session) (placed : Answering shared state) :
    Answerable session shared state where
  owned := fun key owned => absurd owned (unowned key)
  placed := placed

theorem answerable_step {actor : SessionId} {shared shared' : Shared} {state state' : Local}
    {action : Action} {outcome : Outcome}
    (guarded : flushMeetsOwnPayload actor shared state action)
    (answerable : Answerable actor shared state)
    (advanced : advance actor shared state action = some (outcome, shared', state')) :
    Answerable actor shared' state' := by
  cases stepped_of_advance advanced with
  | loaded userId phase =>
      exact ⟨by simpa using answerable.owned, by simp [Answering, phase]⟩
  | invalid operation fresh failure phase requested => exact answerable
  | zeroAmount operation fresh request phase requested zero => exact answerable
  | replayed operation fresh request existing row phase requested found answer =>
      exact answerable
  | conflicting operation fresh request existing failure phase requested found answer =>
      exact answerable
  | lookedUp operation fresh request phase requested missing =>
      exact ⟨answerable.owned, unused_of_visibleRow missing⟩
  | unknownUser request fresh phase missing => exact ⟨answerable.owned, trivial⟩
  | lockTaken request fresh phase free =>
      have unused : ∀ row ∈ state.pending, row.idempotencyKey ≠ request.idempotencyKey := by
        simpa [Answering, phase] using answerable.placed
      exact ⟨by simpa using answerable.owned, by simpa [Answering] using unused⟩
  | overdrawn request fresh balanceVnd failure phase object refused =>
      exact ⟨answerable.owned, trivial⟩
  | assigned request fresh balanceVnd record phase object drafted =>
      obtain ⟨-, shape⟩ := (draft_ok_iff ..).mp drafted
      have unused : ∀ row ∈ state.pending, row.idempotencyKey ≠ request.idempotencyKey := by
        simpa [Answering, phase] using answerable.placed
      rw [shape]
      exact ⟨answerable.owned, unused, rfl, rfl, rfl, rfl⟩
  | overflowed request record phase overflow =>
      exact answerable_empty (release_self shared.keyOwner actor) trivial
  | lostRace request record phase taken =>
      have placed : (∀ row ∈ state.pending, row.idempotencyKey ≠ request.idempotencyKey) ∧
          record.idempotencyKey = request.idempotencyKey ∧ SamePayload record request := by
        simpa [Answering, phase] using answerable.placed
      refine answerable_empty (release_self shared.keyOwner actor) ?_
      -- the session's own rows do not carry the key, so a committed row has it
      have notOwn : shared.keyOwner record.idempotencyKey ≠ some actor := by
        intro own
        obtain ⟨row, member, same⟩ := answerable.owned _ own
        exact placed.1 row member (same.trans placed.2.1)
      obtain ⟨row, found⟩ := Option.isSome_iff_exists.mp (taken.resolve_right notOwn)
      have same : SamePayload row request := by
        simpa [flushMeetsOwnPayload, phase, found] using guarded
      exact ⟨row, placed.2.1 ▸ found, same⟩
  | flushed request record phase absent free =>
      refine ⟨?_, trivial⟩
      intro key owned
      by_cases same : key = record.idempotencyKey
      · exact ⟨record, by simp, same.symm⟩
      · simp only [Function.update_of_ne same] at owned
        obtain ⟨row, member, keyed⟩ := answerable.owned key owned
        exact ⟨row, by simp [member], keyed⟩
  | unanswered driverMessage request phase missing => exact ⟨answerable.owned, trivial⟩
  | refetched driverMessage request existing phase found => exact ⟨answerable.owned, trivial⟩
  | published committed phase stored =>
      exact answerable_empty (release_self shared.keyOwner actor) (by simp [Answering, phase])
  | rolledBack phase => exact answerable_empty (release_self shared.keyOwner actor) trivial

theorem answerable_frame {actor other : SessionId} {shared shared' : Shared}
    {state state' otherState : Local} {action : Action} {outcome : Outcome}
    (different : other ≠ actor)
    (advanced : advance actor shared state action = some (outcome, shared', state'))
    (answerable : Answerable other shared otherState) : Answerable other shared' otherState where
  owned := by
    intro key owned
    apply answerable.owned key
    cases touched_of_advance advanced with
    | nothing => exact owned
    | lockTaken userId free => exact owned
    | keyReserved reserved free =>
        by_cases same : key = reserved
        · subst same
          have taken : actor = other := by simpa using owned
          exact absurd taken.symm different
        · simpa [Function.update_of_ne same] using owned
    | released => exact owner_of_release owned
    | published committed stored => exact owner_of_release owned
  placed := by
    have placed := answerable.placed
    unfold Answering at placed ⊢
    split at placed
    · trivial
    · exact placed
    · exact placed
    · exact placed
    · obtain ⟨row, found, same⟩ := placed
      exact ⟨row, rows_persist advanced found, same⟩

theorem holds_answerable {db : Database} {events : List Event} {system : System}
    (run : Run (Guarded (Interleaved.AtActor fun session shared state action =>
      flushMeetsOwnPayload session shared state action) (Interleaved.Step advance))
      (opened db) events system) (session : SessionId) :
    Answerable session system.shared (system.sessions session) := by
  have start : Interleaved.Holds (fun _ => True) Answerable (opened db) :=
    ⟨trivial, fun _ => answerable_empty (by simp [opened]) trivial⟩
  apply (Interleaved.holds_run advance (fun _ => True) Answerable ?own ?frame start run).2
  case own =>
    intro actor shared state action outcome shared' state' guarded _ answerable advanced
    exact ⟨trivial, answerable_step guarded answerable advanced⟩
  case frame =>
    intro actor other shared state otherState action outcome shared' state' different _ _ advanced
      answerable
    exact answerable_frame different advanced answerable

def lookedUp (state : Local) : Action → Option WalletRequest
  | .call operation _ => operation.request.toOption
  | .refetch _ =>
      match state.phase with
      | .raced request => some request
      | _ => none
  | _ => none

/-- A returned row has the key, the user, the signed amount and the type of the
request; a lookup that meets a row with another payload raises the conflict. -/
structure KeyIdentity (system : System) (event : Event) : Prop where
  returned : ∀ request row, event.outcome = .returned request row →
    row.idempotencyKey = request.idempotencyKey ∧ SamePayload row request
  refused : ∀ request row,
    lookedUp (system.sessions event.session) event.action = some request →
    (system.sessions event.session).visibleRow system.shared.committed request.idempotencyKey =
      some row → ¬SamePayload row request →
    ∃ message, event.outcome = .raised (.idempotencyConflict message)

theorem returned_own_payload {session : SessionId} {shared shared' : Shared}
    {state state' : Local} {action : Action} {request : WalletRequest} {row : WalletTransaction}
    (answerable : Answerable session shared state)
    (advanced : advance session shared state action = some (.returned request row, shared', state')) :
    row.idempotencyKey = request.idempotencyKey ∧ SamePayload row request := by
  have placed := answerable.placed
  cases stepped_of_advance advanced with
  | replayed operation fresh request existing row phase requested found answer =>
      obtain ⟨rfl, same⟩ := (replay_ok_iff ..).mp answer
      exact ⟨key_of_visibleRow found, same⟩
  | flushed request record phase absent free =>
      simp only [Answering, phase] at placed
      exact placed.2
  | refetched driverMessage request existing phase found =>
      simp only [Answering, phase] at placed
      obtain ⟨stored, storedFound, same⟩ := placed
      obtain rfl : stored = row := by simpa [Local.visibleRow, storedFound] using found
      exact ⟨Table.key_of_find? storedFound, same⟩

/-- The first lookup compares the payload. -/
theorem call_refuses_used_key {session : SessionId} {shared shared' : Shared}
    {state state' : Local} {operation : WalletOperation} {fresh : RowDefaults}
    {outcome : Outcome} {request : WalletRequest} {row : WalletTransaction}
    (requested : operation.request = .ok request)
    (found : state.visibleRow shared.committed request.idempotencyKey = some row)
    (differs : ¬SamePayload row request)
    (advanced : advance session shared state (.call operation fresh) =
      some (outcome, shared', state')) :
    outcome = .raised (conflict request.idempotencyKey) := by
  have nonzero : request.amountVnd ≠ 0 := request_nonzero requested
  simp only [advance, call, requested, nonzero, if_false, found, replay, differs] at advanced
  split at advanced <;> cases advanced
  rfl

/-- The second lookup does not: whatever row it meets is returned. -/
theorem refetch_returns_stored_row {session : SessionId} {shared : Shared} {state : Local}
    {request : WalletRequest} {row : WalletTransaction} (message : String)
    (phase : state.phase = .raced request)
    (found : state.visibleRow shared.committed request.idempotencyKey = some row) :
    advance session shared state (.refetch message) =
      some (.returned request row, shared, { state with phase := .ready }) := by
  simp [advance, refetch, phase, found]

/-- In every run in which no flush meets a committed row of its key with another
payload, every answer respects the key. -/
theorem key_identity_without_foreign_rows {db : Database} {events : List Event}
    {system next : System} {event : Event}
    (run : Run (Guarded (Interleaved.AtActor fun session shared state action =>
      flushMeetsOwnPayload session shared state action) (Interleaved.Step advance))
      (opened db) events system)
    (taken : Interleaved.Step advance system event next) : KeyIdentity system event := by
  obtain ⟨shared, state, advanced, -⟩ := taken
  have answerable := holds_answerable run event.session
  constructor
  · intro request row answer
    rw [answer] at advanced
    exact returned_own_payload answerable advanced
  · intro request row looked found differs
    cases action : event.action with
    | call operation fresh =>
        rw [action] at advanced looked
        have requested : operation.request = .ok request := by
          cases asked : operation.request with
          | error failure => simp [lookedUp, asked, Except.toOption] at looked
          | ok other => simpa [lookedUp, asked, Except.toOption] using looked
        exact ⟨_, call_refuses_used_key requested found differs advanced⟩
    | refetch message =>
        rw [action] at looked
        have placed := answerable.placed
        simp only [lookedUp] at looked
        split at looked
        · rename_i raced phase
          cases looked
          simp only [Answering, phase] at placed
          obtain ⟨stored, storedFound, same⟩ := placed
          obtain rfl : stored = row := by simpa [Local.visibleRow, storedFound] using found
          exact absurd same differs
        · contradiction
    | load userId => simp [lookedUp, action] at looked
    | lock => simp [lookedUp, action] at looked
    | write => simp [lookedUp, action] at looked
    | flush => simp [lookedUp, action] at looked
    | commit => simp [lookedUp, action] at looked
    | rollback => simp [lookedUp, action] at looked

/-- Two sessions use one key for the same credit; the second loses the race. -/
def equalCredits : List (SessionId × Action) := [
  (1, .call (.credit ⟨"u1", 100000, "k1", none, none, none, none⟩) ⟨"w1", 1⟩),
  (2, .call (.credit ⟨"u1", 100000, "k1", none, none, none, none⟩) ⟨"w2", 2⟩),
  (1, .lock), (1, .write), (1, .flush), (1, .commit),
  (2, .lock), (2, .write), (2, .flush)]

def winningRow : WalletTransaction :=
  newRecord 100000 ⟨"u1", .topup, 100000, "k1", none, none, none, none⟩ ⟨"w1", 1⟩

theorem key_identity_equal_credits : ∃ (system : System) (event : Event),
    event.outcome = .returned ⟨"u1", .topup, 100000, "k1", none, none, none, none⟩ winningRow ∧
      KeyIdentity system event := by
  obtain ⟨events, system, replayed, shared, own, advanced⟩ : ∃ events system,
      Interleaved.replay (Interleaved.checked advance flushMeetsOwnPayload) (opened twoUsers)
        equalCredits = some (events, system) ∧
      ∃ shared own, advance 2 system.shared (system.sessions 2) (.refetch "duplicate key") =
        some (.returned ⟨"u1", .topup, 100000, "k1", none, none, none, none⟩ winningRow,
          shared, own) := ⟨_, _, rfl, _, _, rfl⟩
  have run := Interleaved.guarded_run_of_replay advance flushMeetsOwnPayload replayed
  have taken : Interleaved.Step advance system ⟨2, _, _⟩ _ := ⟨shared, own, advanced, rfl⟩
  exact ⟨system, _, rfl, key_identity_without_foreign_rows run taken⟩

/-- One key for a credit of the first user and a smaller one of the second. -/
def foreignCredits : List (SessionId × Action) := [
  (1, .call (.credit ⟨"u1", 100000, "k1", none, none, none, none⟩) ⟨"w1", 1⟩),
  (2, .call (.credit ⟨"u2", 50000, "k1", none, none, none, none⟩) ⟨"w2", 2⟩),
  (1, .lock), (1, .write), (1, .flush), (1, .commit),
  (2, .lock), (2, .write), (2, .flush)]

/-- Without the condition the loser of the race is handed the other user's row. -/
theorem lost_race_returns_foreign_row :
    ¬∀ (db : Database) (events : List Event) (system next : System) (event : Event),
      Run (Interleaved.Step advance) (opened db) events system →
      Interleaved.Step advance system event next → KeyIdentity system event := by
  intro claimed
  obtain ⟨events, system, replayed, shared, own, advanced⟩ : ∃ events system,
      Interleaved.replay advance (opened twoUsers) foreignCredits = some (events, system) ∧
      ∃ shared own, advance 2 system.shared (system.sessions 2) (.refetch "duplicate key") =
        some (.returned ⟨"u2", .topup, 50000, "k1", none, none, none, none⟩ winningRow,
          shared, own) := ⟨_, _, rfl, _, _, rfl⟩
  have run := Interleaved.run_of_replay advance replayed
  have taken : Interleaved.Step advance system ⟨2, _, _⟩ _ := ⟨shared, own, advanced, rfl⟩
  have answered := (claimed twoUsers _ _ _ _ run taken).returned _ _ rfl
  exact absurd answered.2.1 (by decide)

end ApiBank.Billing.WalletKeys
