import ApiBank.Billing.WalletSessions

/-!
# Balances under interleaving

What a session owns (row locks, reserved keys) nobody else changes. With that,
the cached balances stay the ledger sums in every run in which no session adds an
amount to an object balance that differs from the row it has locked. The
condition can fail, and then the balance is wrong as soon as it is committed.
-/

namespace ApiBank.Billing.WalletBalances

open ApiBank.Accounting ApiBank.Db ApiBank.Relational ApiBank.Transition
open Wallet WalletLedger WalletSessions

set_option autoImplicit false

/-- What one action can do to the shared state. -/
inductive Touched (session : SessionId) (shared : Shared) (state : Local) : Shared → Prop where
  | nothing : Touched session shared state shared
  | lockTaken (userId : String)
      (free : shared.lockOwner userId = none ∨ shared.lockOwner userId = some session) :
      Touched session shared state { shared with
        lockOwner := Function.update shared.lockOwner userId (some session) }
  | keyReserved (key : String) (free : shared.keyOwner key = none) :
      Touched session shared state { shared with
        keyOwner := Function.update shared.keyOwner key (some session) }
  | released : Touched session shared state { shared with
        lockOwner := release shared.lockOwner session
        keyOwner := release shared.keyOwner session }
  | published (committed : Database) (stored : published state shared.committed = some committed) :
      Touched session shared state {
        committed
        lockOwner := release shared.lockOwner session
        keyOwner := release shared.keyOwner session }

theorem touched_of_advance {session : SessionId} {shared shared' : Shared} {state state' : Local}
    {action : Action} {outcome : Outcome}
    (advanced : advance session shared state action = some (outcome, shared', state')) :
    Touched session shared state shared' := by
  cases stepped_of_advance advanced with
  | lockTaken request fresh phase free => exact .lockTaken request.userId free
  | flushed request record phase absent free => exact .keyReserved record.idempotencyKey free
  | overflowed request record phase overflow => exact .released
  | lostRace request record phase taken => exact .released
  | published committed phase stored => exact .published committed stored
  | rolledBack phase => exact .released
  | _ => exact .nothing

theorem find_published_user {state : Local} {db committed : Database}
    (stored : published state db = some committed) (userId : String) :
    committed.users.find? userId = (db.users.find? userId).map fun user =>
      setBalance ((state.flushed user.id).getD user.balanceVnd) user := by
  obtain ⟨rows, -, rfl⟩ := Option.map_eq_some_iff.mp stored
  exact db.users.find?_update
    (fun user => setBalance ((state.flushed user.id).getD user.balanceVnd) user)
    (fun user => id_setBalance _ user) userId

theorem rows_published {state : Local} {db committed : Database}
    (stored : published state db = some committed) :
    db.walletTransactions.insertAll? state.pending = some committed.walletTransactions := by
  obtain ⟨rows, inserted, rfl⟩ := Option.map_eq_some_iff.mp stored
  exact inserted

/-- What a session owns is still its own, and still the same. -/
structure Undisturbed (session : SessionId) (before after : Shared) : Prop where
  locks : ∀ userId, before.lockOwner userId = some session →
    after.lockOwner userId = some session ∧
      after.committed.users.find? userId = before.committed.users.find? userId
  keys : ∀ key, before.keyOwner key = some session →
    after.keyOwner key = some session ∧
      after.committed.walletTransactions.find? key = before.committed.walletTransactions.find? key

/-- The row that the session is about to flush continues the balance it sees. -/
structure Drafted (session : SessionId) (shared : Shared) (state : Local)
    (request : WalletRequest) (record : WalletTransaction) : Prop where
  held : shared.lockOwner request.userId = some session
  payer : record.userId = request.userId
  solvent : 0 ≤ record.balanceAfter
  continues : state.visibleBalance shared.committed request.userId =
    some (record.balanceAfter - record.amountVnd)

def InPhase (session : SessionId) (shared : Shared) (state : Local) : Prop :=
  match state.phase with
  | .locked request _ => shared.lockOwner request.userId = some session
  | .written request record => Drafted session shared state request record
  | _ => True

/-- The uncommitted work of a session: its flushed balances belong to locked rows
and are the committed balances plus its uncommitted postings. -/
structure Sound (session : SessionId) (shared : Shared) (state : Local) : Prop where
  held : ∀ userId balanceVnd, state.flushed userId = some balanceVnd →
    shared.lockOwner userId = some session
  totals : ∀ userId balanceVnd, state.flushed userId = some balanceVnd → 0 ≤ balanceVnd ∧
    ∀ user, shared.committed.users.find? userId = some user →
      balanceVnd = user.balanceVnd + walletJournal.balance state.pending userId
  covered : ∀ row ∈ state.pending, state.flushed row.userId ≠ none
  reserved : ∀ row ∈ state.pending, shared.keyOwner row.idempotencyKey = some session ∧
    shared.committed.walletTransactions.find? row.idempotencyKey = none
  distinct : (state.pending.map WalletTransaction.idempotencyKey).Nodup
  placed : InPhase session shared state

theorem undisturbed_of_advance {actor other : SessionId} {shared shared' : Shared}
    {state state' : Local} {action : Action} {outcome : Outcome} (different : other ≠ actor)
    (sound : Sound actor shared state)
    (advanced : advance actor shared state action = some (outcome, shared', state')) :
    Undisturbed other shared shared' := by
  cases touched_of_advance advanced with
  | nothing => exact ⟨fun _ owned => ⟨owned, rfl⟩, fun _ owned => ⟨owned, rfl⟩⟩
  | lockTaken userId free =>
      exact ⟨fun _ owned => ⟨update_other different free owned, rfl⟩, fun _ owned => ⟨owned, rfl⟩⟩
  | keyReserved key free =>
      exact ⟨fun _ owned => ⟨owned, rfl⟩,
        fun _ owned => ⟨update_other different (.inl free) owned, rfl⟩⟩
  | released =>
      exact ⟨fun _ owned => ⟨release_other different owned, rfl⟩,
        fun _ owned => ⟨release_other different owned, rfl⟩⟩
  | published committed stored =>
      constructor
      · intro userId owned
        refine ⟨release_other different owned, ?_⟩
        -- a flushed balance of the actor is locked by the actor, not by the other session
        have untouched : state.flushed userId = none := by
          cases flushed : state.flushed userId with
          | none => rfl
          | some balanceVnd =>
              have mine := sound.held userId balanceVnd flushed
              rw [owned] at mine
              exact absurd (Option.some.inj mine) different
        rw [find_published_user stored]
        cases found : shared.committed.users.find? userId with
        | none => rfl
        | some user => simp [Table.key_of_find? found, untouched]
      · intro key owned
        refine ⟨release_other different owned, ?_⟩
        apply Table.find?_insertAll? (rows_published stored)
        rintro row member rfl
        have mine := (sound.reserved row member).1
        rw [owned] at mine
        exact different (Option.some.inj mine)

theorem sound_undisturbed {session : SessionId} {before after : Shared} {state : Local}
    (undisturbed : Undisturbed session before after) (sound : Sound session before state) :
    Sound session after state where
  held := fun userId balanceVnd flushed =>
    (undisturbed.locks userId (sound.held userId balanceVnd flushed)).1
  totals := by
    intro userId balanceVnd flushed
    rw [(undisturbed.locks userId (sound.held userId balanceVnd flushed)).2]
    exact sound.totals userId balanceVnd flushed
  covered := sound.covered
  reserved := by
    intro row member
    obtain ⟨mine, absent⟩ := sound.reserved row member
    obtain ⟨still, same⟩ := undisturbed.keys row.idempotencyKey mine
    exact ⟨still, same.trans absent⟩
  distinct := sound.distinct
  placed := by
    have placed := sound.placed
    unfold InPhase at placed ⊢
    split at placed
    · exact (undisturbed.locks _ placed).1
    · obtain ⟨still, same⟩ := undisturbed.locks _ placed.held
      exact { placed with
        held := still
        continues := by
          rw [← placed.continues]
          simp only [Local.visibleBalance, same] }
    · trivial

/-- A balance that passes the overdraft check is computed from the row as the
session sees it under the lock, not from an older copy in the object. -/
def readsLockedRow (_ : SessionId) (shared : Shared) (state : Local) (action : Action) : Bool :=
  match action, state.phase with
  | .write, .locked request _ =>
      match state.identityMap request.userId with
      | some balanceVnd => balanceVnd + request.amountVnd < 0 ||
          state.visibleBalance shared.committed request.userId == some balanceVnd
      | none => true
  | _, _ => true

theorem sound_moved {session : SessionId} {shared : Shared} {state state' : Local}
    (sound : Sound session shared state) (sameFlushed : state'.flushed = state.flushed)
    (samePending : state'.pending = state.pending) (placed : InPhase session shared state') :
    Sound session shared state' where
  held := sameFlushed ▸ sound.held
  totals := by
    rw [sameFlushed, samePending]
    exact sound.totals
  covered := by
    rw [sameFlushed, samePending]
    exact sound.covered
  reserved := samePending ▸ sound.reserved
  distinct := samePending ▸ sound.distinct
  placed := placed

@[simp] theorem flushed_loaded (state : Local) (db : Database) (userId : String) :
    (state.loaded db userId).flushed = state.flushed := by
  unfold Local.loaded
  split <;> rfl

@[simp] theorem pending_loaded (state : Local) (db : Database) (userId : String) :
    (state.loaded db userId).pending = state.pending := by
  unfold Local.loaded
  split <;> rfl

@[simp] theorem phase_loaded (state : Local) (db : Database) (userId : String) :
    (state.loaded db userId).phase = state.phase := by
  unfold Local.loaded
  split <;> rfl

/-- A session with nothing uncommitted owns no obligation. -/
theorem sound_empty {session : SessionId} {shared : Shared} {state : Local}
    (noFlushed : ∀ userId, state.flushed userId = none) (noPending : state.pending = [])
    (placed : InPhase session shared state) : Sound session shared state where
  held := by simp [noFlushed]
  totals := by simp [noFlushed]
  covered := by simp [noPending]
  reserved := by simp [noPending]
  distinct := by simp [noPending]
  placed := placed

theorem pending_balance_of_unflushed {session : SessionId} {shared : Shared} {state : Local}
    (sound : Sound session shared state) {userId : String}
    (unflushed : state.flushed userId = none) :
    walletJournal.balance state.pending userId = 0 := by
  apply walletJournal.balance_of_absent
  intro row member own
  have payer : row.userId = userId := own
  exact sound.covered row member (payer ▸ unflushed)

/-- The pending row is the locked user's: the flush moves its amount from the
draft to the uncommitted postings. -/
theorem sound_flushed {session : SessionId} {shared : Shared} {state : Local}
    {request : WalletRequest} {record : WalletTransaction} (sound : Sound session shared state)
    (phase : state.phase = .written request record)
    (absent : shared.committed.walletTransactions.find? record.idempotencyKey = none)
    (free : shared.keyOwner record.idempotencyKey = none) :
    Sound session
      { shared with
        keyOwner := Function.update shared.keyOwner record.idempotencyKey (some session) }
      { state with
        flushed := Function.update state.flushed request.userId (some record.balanceAfter)
        pending := state.pending ++ [record]
        phase := .ready } := by
  have drafted : Drafted session shared state request record := by
    simpa [InPhase, phase] using sound.placed
  have unlikeRecord : ∀ row ∈ state.pending, row.idempotencyKey ≠ record.idempotencyKey := by
    intro row member same
    have mine := (sound.reserved row member).1
    rw [same, free] at mine
    contradiction
  constructor <;> try dsimp only
  · intro userId balanceVnd flushed
    by_cases payer : userId = request.userId
    · rw [payer]
      exact drafted.held
    · rw [Function.update_of_ne payer] at flushed
      exact sound.held userId balanceVnd flushed
  · intro userId balanceVnd flushed
    by_cases payer : userId = request.userId
    · subst payer
      obtain rfl : record.balanceAfter = balanceVnd := by simpa using flushed
      refine ⟨drafted.solvent, ?_⟩
      intro user found
      have continues := drafted.continues
      rw [Journal.balance_append, Journal.balance_singleton]
      have amount : (if walletJournal.account record = request.userId then
          walletJournal.amount record else 0) = record.amountVnd := if_pos drafted.payer
      rw [amount]
      cases already : state.flushed request.userId with
      | some earlier =>
          have total := (sound.totals request.userId earlier already).2 user found
          simp only [Local.visibleBalance, already, Option.some.injEq] at continues
          omega
      | none =>
          have nothing := pending_balance_of_unflushed sound already
          simp only [Local.visibleBalance, already, found, Option.map_some,
            Option.some.injEq] at continues
          omega
    · rw [Function.update_of_ne payer] at flushed
      obtain ⟨solvent, total⟩ := sound.totals userId balanceVnd flushed
      refine ⟨solvent, ?_⟩
      intro user found
      have apart : ¬request.userId = userId := fun same => payer same.symm
      rw [total user found, Journal.balance_append, Journal.balance_singleton]
      simp [walletJournal, drafted.payer, apart]
  · intro row member
    rcases List.mem_append.mp member with old | new
    · by_cases payer : row.userId = request.userId
      · simp [payer]
      · rw [Function.update_of_ne payer]
        exact sound.covered row old
    · rw [List.mem_singleton.mp new, drafted.payer]
      simp
  · intro row member
    rcases List.mem_append.mp member with old | new
    · obtain ⟨mine, missing⟩ := sound.reserved row old
      exact ⟨by rw [Function.update_of_ne (unlikeRecord row old)]; exact mine, missing⟩
    · rw [List.mem_singleton.mp new]
      exact ⟨by simp, absent⟩
  · rw [List.map_append, List.nodup_append]
    refine ⟨sound.distinct, by simp, ?_⟩
    intro key member other otherMember same
    obtain ⟨row, rowMember, rfl⟩ := List.mem_map.mp member
    rw [List.map_singleton, List.mem_singleton] at otherMember
    exact unlikeRecord row rowMember (same.trans otherMember)
  · trivial

/-- A commit adds the postings of the session to the ledger and the same sums to
the cached balances. -/
theorem balanced_published {session : SessionId} {shared : Shared} {state : Local}
    {committed : Database} (balanced : Balanced shared.committed)
    (sound : Sound session shared state)
    (stored : published state shared.committed = some committed) : Balanced committed := by
  have rows := Table.rows_of_insertAll? (rows_published stored)
  have newUser : ∀ user ∈ committed.users.rows, ∃ old ∈ shared.committed.users.rows,
      user = setBalance ((state.flushed old.id).getD old.balanceVnd) old := by
    intro user member
    have found := Table.find?_of_mem member
    rw [find_published_user stored] at found
    obtain ⟨old, oldFound, rfl⟩ := Option.map_eq_some_iff.mp found
    exact ⟨old, Table.mem_of_find? oldFound, rfl⟩
  have sums : ∀ userId, ledgerSum committed userId =
      ledgerSum shared.committed userId + walletJournal.balance state.pending userId := by
    intro userId
    rw [ledgerSum, rows, Journal.balance_append]
    rfl
  constructor
  · intro user member
    obtain ⟨old, oldMember, rfl⟩ := newUser user member
    have cached := balanced.cached old oldMember
    change (state.flushed old.id).getD old.balanceVnd = ledgerSum committed old.id
    rw [sums]
    cases flushed : state.flushed old.id with
    | some balanceVnd =>
        have total := (sound.totals old.id balanceVnd flushed).2 old (Table.find?_of_mem oldMember)
        simp only [Option.getD_some]
        omega
    | none =>
        have nothing := pending_balance_of_unflushed sound flushed
        simp only [Option.getD_none]
        omega
  · intro user member
    obtain ⟨old, oldMember, rfl⟩ := newUser user member
    change 0 ≤ (state.flushed old.id).getD old.balanceVnd
    cases flushed : state.flushed old.id with
    | some balanceVnd => exact (sound.totals old.id balanceVnd flushed).1
    | none => exact balanced.solvent old oldMember

/-- A session between two calls is never refused its commit. -/
theorem commit_enabled {session : SessionId} {shared : Shared} {state : Local}
    (sound : Sound session shared state) (phase : state.phase = .ready) :
    ∃ shared' state', advance session shared state .commit = some (.quiet, shared', state') := by
  obtain ⟨rows, inserted⟩ := Table.insertAll?_of_fresh
    (fun row member => (sound.reserved row member).2) sound.distinct
  simp [advance, commit, phase, published, inserted]

/-- What the acting session establishes. -/
theorem own_step {actor : SessionId} {shared shared' : Shared} {state state' : Local}
    {action : Action} {outcome : Outcome} (guarded : readsLockedRow actor shared state action)
    (balanced : Balanced shared.committed) (sound : Sound actor shared state)
    (advanced : advance actor shared state action = some (outcome, shared', state')) :
    Balanced shared'.committed ∧ Sound actor shared' state' := by
  cases stepped_of_advance advanced with
  | loaded userId phase =>
      exact ⟨balanced, sound_moved sound (by simp) (by simp) (by simp [InPhase, phase])⟩
  | invalid operation fresh failure phase requested => exact ⟨balanced, sound⟩
  | zeroAmount operation fresh request phase requested zero => exact ⟨balanced, sound⟩
  | replayed operation fresh request existing row phase requested found answer =>
      exact ⟨balanced, sound⟩
  | conflicting operation fresh request existing failure phase requested found answer =>
      exact ⟨balanced, sound⟩
  | lookedUp operation fresh request phase requested missing =>
      exact ⟨balanced, sound_moved sound rfl rfl trivial⟩
  | unknownUser request fresh phase missing =>
      exact ⟨balanced, sound_moved sound rfl rfl trivial⟩
  | lockTaken request fresh phase free =>
      have kept : Undisturbed actor shared { shared with
          lockOwner := Function.update shared.lockOwner request.userId (some actor) } := by
        refine ⟨?_, fun _ owned => ⟨owned, rfl⟩⟩
        intro userId owned
        by_cases same : userId = request.userId
        · simp [same]
        · simp [Function.update_of_ne same, owned]
      have placed : InPhase actor { shared with
          lockOwner := Function.update shared.lockOwner request.userId (some actor) }
          { state.loaded shared.committed request.userId with
            phase := .locked request fresh } := by
        simp [InPhase]
      exact ⟨balanced, sound_moved (sound_undisturbed kept sound) (by simp) (by simp) placed⟩
  | overdrawn request fresh balanceVnd failure phase object refused =>
      exact ⟨balanced, sound_moved sound rfl rfl trivial⟩
  | assigned request fresh balanceVnd record phase object drafted =>
      obtain ⟨solvent, shape⟩ := (draft_ok_iff ..).mp drafted
      have notShort : ¬balanceVnd + request.amountVnd < 0 := Int.not_lt.mpr solvent
      have seen : state.visibleBalance shared.committed request.userId = some balanceVnd := by
        simpa [readsLockedRow, phase, object, notShort] using guarded
      have held : shared.lockOwner request.userId = some actor := by
        simpa [InPhase, phase] using sound.placed
      have placed : Drafted actor shared state request record := by
        rw [shape]
        exact {
          held := held
          payer := rfl
          solvent := solvent
          continues := by simpa [newRecord] using seen }
      exact ⟨balanced, sound_moved sound rfl rfl ⟨held, placed.payer, placed.solvent,
        placed.continues⟩⟩
  | overflowed request record phase overflow =>
      exact ⟨balanced, sound_empty (fun _ => rfl) rfl trivial⟩
  | lostRace request record phase taken =>
      exact ⟨balanced, sound_empty (fun _ => rfl) rfl trivial⟩
  | flushed request record phase absent free =>
      exact ⟨balanced, sound_flushed sound phase absent free⟩
  | unanswered driverMessage request phase missing =>
      exact ⟨balanced, sound_moved sound rfl rfl trivial⟩
  | refetched driverMessage request existing phase found =>
      exact ⟨balanced, sound_moved sound rfl rfl trivial⟩
  | published committed phase stored =>
      exact ⟨balanced_published balanced sound stored,
        sound_empty (fun _ => rfl) rfl (by simp [InPhase, phase])⟩
  | rolledBack phase => exact ⟨balanced, sound_empty (fun _ => rfl) rfl trivial⟩

/-- Between two calls the session sees the ledger sum plus its own postings. -/
theorem visible_balance_is_sum {session : SessionId} {shared : Shared} {state : Local}
    (balanced : Balanced shared.committed) (sound : Sound session shared state) {user : User}
    (found : shared.committed.users.find? user.id = some user) :
    state.visibleBalance shared.committed user.id =
      some (ledgerSum shared.committed user.id +
        walletJournal.balance state.pending user.id) := by
  have cached := balanced.cached user (Table.mem_of_find? found)
  unfold Local.visibleBalance
  cases flushed : state.flushed user.id with
  | some balanceVnd =>
      have total := (sound.totals user.id balanceVnd flushed).2 user found
      simp only [Option.some.injEq]
      omega
  | none =>
      have nothing := pending_balance_of_unflushed sound flushed
      simp only [found, Option.map_some, Option.some.injEq]
      omega

/-- The condition is exact: a balance computed from an outdated object is wrong as
soon as it is flushed and committed. -/
theorem outdated_write_unbalances {session : SessionId}
    {shared written flushed committed : Shared} {state afterWrite afterFlush afterCommit : Local}
    {request : WalletRequest} {fresh : RowDefaults} {balanceVnd : Int} {user : User}
    {first row last : Outcome}
    (balanced : Balanced shared.committed) (sound : Sound session shared state)
    (phase : state.phase = .locked request fresh)
    (found : shared.committed.users.find? request.userId = some user)
    (object : state.identityMap request.userId = some balanceVnd)
    (solvent : 0 ≤ balanceVnd + request.amountVnd)
    (fits : ¬Overflows request (balanceVnd + request.amountVnd))
    (outdated : state.visibleBalance shared.committed request.userId ≠ some balanceVnd)
    (unused : shared.committed.walletTransactions.find? request.idempotencyKey = none)
    (free : shared.keyOwner request.idempotencyKey = none)
    (wrote : advance session shared state .write = some (first, written, afterWrite))
    (sent : advance session written afterWrite .flush = some (row, flushed, afterFlush))
    (stored : advance session flushed afterFlush .commit = some (last, committed, afterCommit)) :
    ¬Balanced committed.committed := by
  have payer := Table.key_of_find? found
  have seen : state.visibleBalance shared.committed request.userId =
      some (ledgerSum shared.committed request.userId +
        walletJournal.balance state.pending request.userId) := by
    rw [← payer]
    exact visible_balance_is_sum balanced sound (payer.symm ▸ found)
  have drafted : draft balanceVnd request fresh =
      .ok (newRecord (balanceVnd + request.amountVnd) request fresh) :=
    (draft_ok_iff ..).mpr ⟨solvent, rfl⟩
  simp only [advance, write, phase, object, drafted, Option.some.injEq, Prod.mk.injEq] at wrote
  obtain ⟨-, rfl, rfl⟩ := wrote
  simp only [advance, flush, newRecord, fits, unused, free, Option.isSome_none, Bool.false_eq_true,
    reduceCtorEq, or_self, if_false, if_true, Option.some.injEq, Prod.mk.injEq] at sent
  obtain ⟨-, rfl, rfl⟩ := sent
  simp only [advance, commit] at stored
  split at stored
  · contradiction
  · rename_i db done
    simp only [Option.some.injEq, Prod.mk.injEq] at stored
    obtain ⟨-, rfl, -⟩ := stored
    intro after
    have newUser := find_published_user done request.userId
    simp only [found, Option.map_some, payer, Function.update_self, Option.getD_some] at newUser
    have cached := after.cached _ (Table.mem_of_find? newUser)
    have sum : ledgerSum db request.userId = ledgerSum shared.committed request.userId +
        (walletJournal.balance state.pending request.userId + request.amountVnd) := by
      rw [ledgerSum, Table.rows_of_insertAll? (rows_published done), Journal.balance_append,
        Journal.balance_append, Journal.balance_singleton]
      simp [walletJournal, ledgerSum]
    simp only [setBalance, payer, sum] at cached
    apply outdated
    rw [seen, Option.some.injEq]
    omega

theorem holds_opened {db : Database} (balanced : Balanced db) :
    Interleaved.Holds (fun shared => Balanced shared.committed) Sound (opened db) :=
  ⟨balanced, fun _ => sound_empty (fun _ => rfl) rfl trivial⟩

/-- In every run in which no balance is computed from an outdated object, all
committed states are balanced, with transactions open or not. -/
theorem balanced_while_objects_current {db : Database} {events : List Event} {system : System}
    (balanced : Balanced db)
    (run : Run (Guarded (Interleaved.AtActor fun session shared state action =>
      readsLockedRow session shared state action) (Interleaved.Step advance))
      (opened db) events system) :
    Balanced system.shared.committed := by
  apply (Interleaved.holds_run advance _ Sound ?own ?frame (holds_opened balanced) run).1
  case own =>
    intro actor shared state action outcome shared' state' guarded store sound advanced
    exact own_step guarded store sound advanced
  case frame =>
    intro actor other shared state otherState action outcome shared' state' different _ sound
      advanced otherSound
    exact sound_undisturbed (undisturbed_of_advance different sound advanced) otherSound

/-- Two overlapping credits of one user, none of which loads the user early: the
second waits for the lock of the first. -/
def creditsWithoutLoads : List (SessionId × Action) := [
  (1, .call (.credit ⟨"u1", 100000, "k1", none, none, none, none⟩) ⟨"w1", 1⟩),
  (2, .call (.credit ⟨"u1", 50000, "k2", none, none, none, none⟩) ⟨"w2", 2⟩),
  (1, .lock), (1, .write), (1, .flush), (1, .commit),
  (2, .lock), (2, .write), (2, .flush), (2, .commit)]

theorem balanced_credits_without_loads : ∃ system : System,
    system.shared.committed.users.rows.map User.balanceVnd = [150000, 0] ∧
      Balanced system.shared.committed := by
  have genesis : Genesis twoUsers := ⟨rfl, by decide⟩
  have run := Interleaved.guarded_run_of_replay advance readsLockedRow
    (rfl : Interleaved.replay _ (opened twoUsers) creditsWithoutLoads = some (_, _))
  exact ⟨_, by decide,
    balanced_while_objects_current (genesis_invariant genesis).toBalanced run⟩

def calledKey : Action → Option String
  | .call operation _ => operation.request.toOption.map WalletRequest.idempotencyKey
  | _ => none

def calledKeys (events : List Event) : List String :=
  events.filterMap fun event => calledKey event.action

/-- Two requests of one user load the user, then credit one after the other. -/
def creditsAfterLoads : List (SessionId × Action) := [
  (1, .load "u1"), (1, .commit), (2, .load "u1"), (2, .commit),
  (1, .call (.credit ⟨"u1", 100000, "k1", none, none, none, none⟩) ⟨"w1", 1⟩),
  (1, .lock), (1, .write), (1, .flush), (1, .commit),
  (2, .call (.credit ⟨"u1", 50000, "k2", none, none, none, none⟩) ⟨"w2", 2⟩),
  (2, .lock), (2, .write), (2, .flush), (2, .commit)]

theorem credits_after_loads_replay : ∃ events system,
    Interleaved.replay advance (opened twoUsers) creditsAfterLoads = some (events, system) ∧
      (calledKeys events).Nodup ∧ Quiescent system ∧
      ∃ user ∈ system.shared.committed.users.rows,
        user.balanceVnd = 50000 ∧ ledgerSum system.shared.committed user.id = 150000 := by
  refine ⟨_, _, rfl, by decide, ?_, by decide⟩
  constructor
  · intro userId
    by_cases same : userId = "u1"
    · subst same
      rfl
    · simp [release, Function.update, opened, same]
  · intro key
    by_cases first : key = "k1"
    · subst first
      rfl
    · by_cases second : key = "k2"
      · subst second
        rfl
      · simp [release, Function.update, opened, newRecord, first, second]
  · intro session
    by_cases first : session = 1
    · subst first
      exact ⟨rfl, fun _ => rfl, rfl⟩
    · by_cases second : session = 2
      · subst second
        exact ⟨rfl, fun _ => rfl, rfl⟩
      · simp [Interleaved.moved, first, second, opened, Local.opened]

/-- Without the condition the second credit overwrites the first one. -/
theorem second_credit_loses_update :
    ¬∀ (db : Database) (events : List Event) (system : System), Balanced db →
      Run (Interleaved.Step advance) (opened db) events system → (calledKeys events).Nodup →
      Quiescent system → Balanced system.shared.committed := by
  intro claimed
  obtain ⟨events, system, replayed, keys, quiescent, user, member, balance, sum⟩ :=
    credits_after_loads_replay
  have genesis : Genesis twoUsers := ⟨rfl, by decide⟩
  have balanced := claimed twoUsers events system (genesis_invariant genesis).toBalanced
    (Interleaved.run_of_replay advance replayed) keys quiescent
  have cached := balanced.cached user member
  omega

end ApiBank.Billing.WalletBalances
