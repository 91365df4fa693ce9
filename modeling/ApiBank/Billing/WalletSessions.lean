import ApiBank.Billing.WalletLedger
import ApiBank.Transition.Interleaving

/-!
# Wallet calls in concurrent sessions

The steps of `_apply` between which other sessions can run: the lookup of the
key, the row lock, the check with the assignment, the flush, and after a refused
flush the second lookup. A session also loads users before the call (the
authentication dependency) and commits or rolls back between calls.

Of the stack, for Postgres under READ COMMITTED: `SELECT ... FOR UPDATE` waits
for the row lock and reads the latest committed row; a loaded object keeps its
attributes until a rollback expires them (`expire_on_commit=False`, and no
`populate_existing`); the flush writes the absolute balance; an insertion waits
for an uncommitted row of the same key and fails on a committed one.
-/

namespace ApiBank.Billing.WalletSessions

open ApiBank.Db ApiBank.Relational ApiBank.Transition Wallet WalletLedger

set_option autoImplicit false

/-- What all sessions share: the committed rows, the user row locks, and the
unique index entries of wallet rows that are not committed yet. -/
structure Shared where
  committed : Database
  lockOwner : String → Option SessionId
  keyOwner : String → Option SessionId

/-- Where a session stands inside `_apply`. -/
inductive Phase where
  | ready
  | looked (request : WalletRequest) (fresh : RowDefaults)
  | locked (request : WalletRequest) (fresh : RowDefaults)
  | written (request : WalletRequest) (record : WalletTransaction)
  | raced (request : WalletRequest)

/-- One session: the balances of the user objects it has loaded, what its open
transaction has flushed, and its place in the code. -/
structure Local where
  identityMap : String → Option Int
  flushed : String → Option Int
  pending : List WalletTransaction
  phase : Phase

inductive Action where
  | load (userId : String)
  | call (operation : WalletOperation) (fresh : RowDefaults)
  | lock
  | write
  | flush
  | refetch (driverMessage : String)
  | commit
  | rollback

inductive Outcome where
  | quiet
  | returned (request : WalletRequest) (row : WalletTransaction)
  | raised (failure : Error)

/-- A session as the sessionmaker hands it out. -/
def Local.opened : Local where
  identityMap := fun _ => none
  flushed := fun _ => none
  pending := []
  phase := .ready

/-- The balance a `SELECT` of the session returns. -/
def Local.visibleBalance (state : Local) (db : Database) (userId : String) : Option Int :=
  match state.flushed userId with
  | some balanceVnd => some balanceVnd
  | none => (db.users.find? userId).map User.balanceVnd

/-- The wallet row a `SELECT` of the session returns. -/
def Local.visibleRow (state : Local) (db : Database) (key : String) : Option WalletTransaction :=
  match db.walletTransactions.find? key with
  | some row => some row
  | none => state.pending.find? fun row => row.idempotencyKey = key

/-- A row arrives for a user: an object that is already loaded keeps its balance. -/
def Local.loaded (state : Local) (db : Database) (userId : String) : Local :=
  match state.identityMap userId with
  | some _ => state
  | none => { state with
      identityMap := Function.update state.identityMap userId (state.visibleBalance db userId) }

def load (shared : Shared) (state : Local) (userId : String) :
    Option (Outcome × Shared × Local) :=
  match state.phase with
  | .ready => some (.quiet, shared, state.loaded shared.committed userId)
  | _ => none

def call (shared : Shared) (state : Local) (operation : WalletOperation) (fresh : RowDefaults) :
    Option (Outcome × Shared × Local) :=
  match state.phase with
  | .ready =>
      match operation.request with
      | .error failure => some (.raised failure, shared, state)
      | .ok request =>
          if request.amountVnd = 0 then
            some (.raised (.valueError "amount must be non-zero"), shared, state)
          else
            match state.visibleRow shared.committed request.idempotencyKey with
            | some existing =>
                match replay existing request with
                | .ok row => some (.returned request row, shared, state)
                | .error failure => some (.raised failure, shared, state)
            | none => some (.quiet, shared, { state with phase := .looked request fresh })
  | _ => none

/-- `_lock_user`. The session waits while another one holds the row. -/
def lock (session : SessionId) (shared : Shared) (state : Local) :
    Option (Outcome × Shared × Local) :=
  match state.phase with
  | .looked request fresh =>
      match state.visibleBalance shared.committed request.userId with
      | none =>
          some (.raised (.valueError s!"user {request.userId} not found"), shared,
            { state with phase := .ready })
      | some _ =>
          if shared.lockOwner request.userId = none ∨
              shared.lockOwner request.userId = some session then
            some (.quiet,
              { shared with
                lockOwner := Function.update shared.lockOwner request.userId (some session) },
              { state.loaded shared.committed request.userId with
                phase := .locked request fresh })
          else none
  | _ => none

/-- The overdraft check and the assignment, from the object's balance. -/
def write (shared : Shared) (state : Local) : Option (Outcome × Shared × Local) :=
  match state.phase with
  | .locked request fresh =>
      match state.identityMap request.userId with
      | none => none
      | some balanceVnd =>
          match draft balanceVnd request fresh with
          | .error failure => some (.raised failure, shared, { state with phase := .ready })
          | .ok record =>
              some (.quiet, shared, { state with
                identityMap :=
                  Function.update state.identityMap request.userId (some record.balanceAfter)
                phase := .written request record })
  | _ => none

/-- A rollback: the locks and the uncommitted rows go, every object expires. -/
def rolledBack (session : SessionId) (shared : Shared) (phase : Phase) : Shared × Local :=
  ({ shared with
      lockOwner := release shared.lockOwner session
      keyOwner := release shared.keyOwner session },
    { Local.opened with phase })

/-- The flush of the balance and the new row. A balance that does not fit makes it fail, and so
does a committed or own row with the key: the session is rolled back. Another session's
uncommitted row makes it wait. -/
def flush (session : SessionId) (shared : Shared) (state : Local) :
    Option (Outcome × Shared × Local) :=
  match state.phase with
  | .written request record =>
      if Overflows request record.balanceAfter then
        some (.raised .dbapiError, rolledBack session shared .ready)
      else if (shared.committed.walletTransactions.find? record.idempotencyKey).isSome ∨
          shared.keyOwner record.idempotencyKey = some session then
        some (.quiet, rolledBack session shared (.raced request))
      else if shared.keyOwner record.idempotencyKey = none then
        some (.returned request record,
          { shared with
            keyOwner := Function.update shared.keyOwner record.idempotencyKey (some session) },
          { state with
            flushed := Function.update state.flushed request.userId (some record.balanceAfter)
            pending := state.pending ++ [record]
            phase := .ready })
      else none
  | _ => none

def refetch (shared : Shared) (state : Local) (driverMessage : String) :
    Option (Outcome × Shared × Local) :=
  match state.phase with
  | .raced request =>
      match state.visibleRow shared.committed request.idempotencyKey with
      | none =>
          some (.raised (.idempotencyConflict driverMessage), shared,
            { state with phase := .ready })
      | some existing => some (.returned request existing, shared, { state with phase := .ready })
  | _ => none

def published (state : Local) (db : Database) : Option Database :=
  (db.walletTransactions.insertAll? state.pending).map fun rows => { db with
    users := db.users.update
      (fun user => setBalance ((state.flushed user.id).getD user.balanceVnd) user)
      (fun user => id_setBalance _ user)
    walletTransactions := rows }

def commit (session : SessionId) (shared : Shared) (state : Local) :
    Option (Outcome × Shared × Local) :=
  match state.phase with
  | .ready =>
      match published state shared.committed with
      | none => none
      | some committed =>
          some (.quiet,
            { committed
              lockOwner := release shared.lockOwner session
              keyOwner := release shared.keyOwner session },
            { state with flushed := fun _ => none, pending := [] })
  | _ => none

def rollback (session : SessionId) (shared : Shared) (state : Local) :
    Option (Outcome × Shared × Local) :=
  match state.phase with
  | .ready => some (.quiet, rolledBack session shared .ready)
  | _ => none

def advance (session : SessionId) (shared : Shared) (state : Local) :
    Action → Option (Outcome × Shared × Local)
  | .load userId => load shared state userId
  | .call operation fresh => call shared state operation fresh
  | .lock => lock session shared state
  | .write => write shared state
  | .flush => flush session shared state
  | .refetch driverMessage => refetch shared state driverMessage
  | .commit => commit session shared state
  | .rollback => rollback session shared state

/-- What one step of a session does, with the guards it has passed. -/
inductive Stepped (session : SessionId) (shared : Shared) (state : Local) :
    Action → Outcome → Shared → Local → Prop where
  | loaded (userId : String) (phase : state.phase = .ready) :
      Stepped session shared state (.load userId) .quiet shared
        (state.loaded shared.committed userId)
  | invalid (operation : WalletOperation) (fresh : RowDefaults) (failure : Error)
      (phase : state.phase = .ready) (requested : operation.request = .error failure) :
      Stepped session shared state (.call operation fresh) (.raised failure) shared state
  | zeroAmount (operation : WalletOperation) (fresh : RowDefaults) (request : WalletRequest)
      (phase : state.phase = .ready) (requested : operation.request = .ok request)
      (zero : request.amountVnd = 0) :
      Stepped session shared state (.call operation fresh)
        (.raised (.valueError "amount must be non-zero")) shared state
  | replayed (operation : WalletOperation) (fresh : RowDefaults) (request : WalletRequest)
      (existing row : WalletTransaction) (phase : state.phase = .ready)
      (requested : operation.request = .ok request)
      (found : state.visibleRow shared.committed request.idempotencyKey = some existing)
      (answer : replay existing request = .ok row) :
      Stepped session shared state (.call operation fresh) (.returned request row) shared state
  | conflicting (operation : WalletOperation) (fresh : RowDefaults) (request : WalletRequest)
      (existing : WalletTransaction) (failure : Error) (phase : state.phase = .ready)
      (requested : operation.request = .ok request)
      (found : state.visibleRow shared.committed request.idempotencyKey = some existing)
      (answer : replay existing request = .error failure) :
      Stepped session shared state (.call operation fresh) (.raised failure) shared state
  | lookedUp (operation : WalletOperation) (fresh : RowDefaults) (request : WalletRequest)
      (phase : state.phase = .ready) (requested : operation.request = .ok request)
      (missing : state.visibleRow shared.committed request.idempotencyKey = none) :
      Stepped session shared state (.call operation fresh) .quiet shared
        { state with phase := .looked request fresh }
  | unknownUser (request : WalletRequest) (fresh : RowDefaults)
      (phase : state.phase = .looked request fresh)
      (missing : state.visibleBalance shared.committed request.userId = none) :
      Stepped session shared state .lock
        (.raised (.valueError s!"user {request.userId} not found")) shared
        { state with phase := .ready }
  | lockTaken (request : WalletRequest) (fresh : RowDefaults)
      (phase : state.phase = .looked request fresh)
      (free : shared.lockOwner request.userId = none ∨
        shared.lockOwner request.userId = some session) :
      Stepped session shared state .lock .quiet
        { shared with
          lockOwner := Function.update shared.lockOwner request.userId (some session) }
        { state.loaded shared.committed request.userId with phase := .locked request fresh }
  | overdrawn (request : WalletRequest) (fresh : RowDefaults) (balanceVnd : Int) (failure : Error)
      (phase : state.phase = .locked request fresh)
      (object : state.identityMap request.userId = some balanceVnd)
      (refused : draft balanceVnd request fresh = .error failure) :
      Stepped session shared state .write (.raised failure) shared { state with phase := .ready }
  | assigned (request : WalletRequest) (fresh : RowDefaults) (balanceVnd : Int)
      (record : WalletTransaction) (phase : state.phase = .locked request fresh)
      (object : state.identityMap request.userId = some balanceVnd)
      (drafted : draft balanceVnd request fresh = .ok record) :
      Stepped session shared state .write .quiet shared { state with
        identityMap :=
          Function.update state.identityMap request.userId (some record.balanceAfter)
        phase := .written request record }
  | overflowed (request : WalletRequest) (record : WalletTransaction)
      (phase : state.phase = .written request record)
      (overflow : Overflows request record.balanceAfter) :
      Stepped session shared state .flush (.raised .dbapiError)
        (rolledBack session shared .ready).1 (rolledBack session shared .ready).2
  | lostRace (request : WalletRequest) (record : WalletTransaction)
      (phase : state.phase = .written request record)
      (taken : (shared.committed.walletTransactions.find? record.idempotencyKey).isSome ∨
        shared.keyOwner record.idempotencyKey = some session) :
      Stepped session shared state .flush .quiet (rolledBack session shared (.raced request)).1
        (rolledBack session shared (.raced request)).2
  | flushed (request : WalletRequest) (record : WalletTransaction)
      (phase : state.phase = .written request record)
      (absent : shared.committed.walletTransactions.find? record.idempotencyKey = none)
      (free : shared.keyOwner record.idempotencyKey = none) :
      Stepped session shared state .flush (.returned request record)
        { shared with
          keyOwner := Function.update shared.keyOwner record.idempotencyKey (some session) }
        { state with
          flushed := Function.update state.flushed request.userId (some record.balanceAfter)
          pending := state.pending ++ [record]
          phase := .ready }
  | unanswered (driverMessage : String) (request : WalletRequest)
      (phase : state.phase = .raced request)
      (missing : state.visibleRow shared.committed request.idempotencyKey = none) :
      Stepped session shared state (.refetch driverMessage)
        (.raised (.idempotencyConflict driverMessage)) shared { state with phase := .ready }
  | refetched (driverMessage : String) (request : WalletRequest) (existing : WalletTransaction)
      (phase : state.phase = .raced request)
      (found : state.visibleRow shared.committed request.idempotencyKey = some existing) :
      Stepped session shared state (.refetch driverMessage) (.returned request existing) shared
        { state with phase := .ready }
  | published (committed : Database) (phase : state.phase = .ready)
      (stored : published state shared.committed = some committed) :
      Stepped session shared state .commit .quiet
        { committed
          lockOwner := release shared.lockOwner session
          keyOwner := release shared.keyOwner session }
        { state with flushed := fun _ => none, pending := [] }
  | rolledBack (phase : state.phase = .ready) :
      Stepped session shared state .rollback .quiet (rolledBack session shared .ready).1
        (rolledBack session shared .ready).2

/-- The branches of the eight steps, once for every proof about them. -/
theorem stepped_of_advance {session : SessionId} {shared shared' : Shared} {state state' : Local}
    {action : Action} {outcome : Outcome}
    (advanced : advance session shared state action = some (outcome, shared', state')) :
    Stepped session shared state action outcome shared' state' := by
  cases action with
  | load userId =>
      simp only [advance, load] at advanced
      split at advanced <;> cases advanced
      exact .loaded userId ‹_›
  | call operation fresh =>
      simp only [advance, call] at advanced
      repeat' split at advanced
      all_goals cases advanced
      · exact .invalid operation fresh _ ‹_› ‹_›
      · exact .zeroAmount operation fresh _ ‹_› ‹_› ‹_›
      · exact .replayed operation fresh _ _ _ ‹_› ‹_› ‹_› ‹_›
      · exact .conflicting operation fresh _ _ _ ‹_› ‹_› ‹_› ‹_›
      · exact .lookedUp operation fresh _ ‹_› ‹_› ‹_›
  | lock =>
      simp only [advance, lock] at advanced
      repeat' split at advanced
      all_goals cases advanced
      · exact .unknownUser _ _ ‹_› ‹_›
      · exact .lockTaken _ _ ‹_› ‹_›
  | write =>
      simp only [advance, write] at advanced
      repeat' split at advanced
      all_goals cases advanced
      · exact .overdrawn _ _ _ _ ‹_› ‹_› ‹_›
      · exact .assigned _ _ _ _ ‹_› ‹_› ‹_›
  | flush =>
      simp only [advance, flush] at advanced
      repeat' split at advanced
      all_goals cases advanced
      · exact .overflowed _ _ ‹_› ‹_›
      · exact .lostRace _ _ ‹_› ‹_›
      · rename_i taken free
        have absent := (not_or.mp taken).1
        exact .flushed _ _ ‹_› (by simpa using absent) free
  | refetch driverMessage =>
      simp only [advance, refetch] at advanced
      repeat' split at advanced
      all_goals cases advanced
      · exact .unanswered driverMessage _ ‹_› ‹_›
      · exact .refetched driverMessage _ _ ‹_› ‹_›
  | commit =>
      simp only [advance, commit] at advanced
      repeat' split at advanced
      all_goals cases advanced
      exact .published _ ‹_› ‹_›
  | rollback =>
      simp only [advance, rollback] at advanced
      split at advanced <;> cases advanced
      exact .rolledBack ‹_›

abbrev System := Interleaved Shared Local

abbrev Event := SessionEvent Action Outcome

def opened (db : Database) : System where
  shared := { committed := db, lockOwner := fun _ => none, keyOwner := fun _ => none }
  sessions := fun _ => Local.opened

/-- No session has a transaction open: no lock is held, nothing is uncommitted,
and no call is under way. -/
structure Quiescent (system : System) : Prop where
  locks : ∀ userId, system.shared.lockOwner userId = none
  keys : ∀ key, system.shared.keyOwner key = none
  sessions : ∀ session, (system.sessions session).pending = [] ∧
    (∀ userId, (system.sessions session).flushed userId = none) ∧
    (system.sessions session).phase = .ready

/-- The steps of one call that finds its key unused. -/
def postingSchedule (session : SessionId) (operation : WalletOperation) (fresh : RowDefaults) :
    List (SessionId × Action) :=
  [.call operation fresh, .lock, .write, .flush, .commit].map (Prod.mk session)

theorem solo_session_posts (session : SessionId) {operation : WalletOperation}
    {request : WalletRequest} {fresh : RowDefaults} {before after : Database}
    {row : WalletTransaction} (requested : operation.request = .ok request)
    (posted : Posted request fresh before row after) :
    ∃ events system, Interleaved.replay advance (opened before)
        (postingSchedule session operation fresh) = some (events, system) ∧
      system.shared.committed = after ∧
      ∃ event ∈ events, event.outcome = .returned request row := by
  obtain ⟨user, known, total⟩ := posted.known
  have nonzero := request_nonzero requested
  have drafted : draft user.balanceVnd request fresh = .ok row := by
    refine (draft_ok_iff ..).mpr ⟨total ▸ posted.solvent, ?_⟩
    rw [← total]
    exact posted.shape
  have unused : before.walletTransactions.find? row.idempotencyKey = none :=
    posted.keyed ▸ posted.unused
  have users : before.users.update (fun user => setBalance
        ((Function.update (fun _ => none) request.userId (some row.balanceAfter) user.id).getD
          user.balanceVnd) user) (fun user => id_setBalance _ user) =
      before.users.modify request.userId (setBalance row.balanceAfter)
        (id_setBalance row.balanceAfter) := by
    apply Table.ext_rows
    apply List.map_congr_left
    intro other _
    by_cases own : other.id = request.userId <;> simp [own]
  simp [postingSchedule, Interleaved.replay, advance, call, lock, write, flush, commit, opened,
    Local.opened, requested, nonzero, Local.visibleRow, Local.visibleBalance, Local.loaded,
    posted.unused, posted.fits, known, drafted, unused, published, Table.insertAll?, posted.inserted, users]
  rw [← posted.users]
  exact posted.frame.symm

end ApiBank.Billing.WalletSessions
