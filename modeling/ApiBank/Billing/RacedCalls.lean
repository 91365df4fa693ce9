import ApiBank.Billing.WalletKeys

/-!
# What a raced wallet call does to its caller

A caller has written rows of its own in the transaction in which it calls the wallet. When
another session commits the key first, the flush fails, `_apply` rolls the whole session back
and returns the row of the other session as if nothing had happened: what the caller had
written is in no transaction any more, and the commit that follows commits without it.
-/

namespace ApiBank.Billing.RacedCalls

open ApiBank.Db ApiBank.Relational ApiBank.Transition Wallet

set_option autoImplicit false

variable {Write : Type}

/-- What a transaction has written: a row of the caller or a posting of the wallet. -/
inductive Entry (Write : Type) where
  | work (write : Write)
  | posting (row : WalletTransaction)

/-- The wallet's part of what the sessions share, and every entry that has been committed. -/
structure Shared (Write : Type) where
  wallet : WalletSessions.Shared
  stored : List (Entry Write)

/-- A session inside its caller: the wallet's part, what the caller has written since the
transaction began, and what the transaction held when the last wallet call began. -/
structure Caller (Write : Type) where
  wallet : WalletSessions.Local
  written : List Write
  atCall : List (Entry Write)

/-- Everything the open transaction would commit. -/
def Caller.transaction (caller : Caller Write) : List (Entry Write) :=
  caller.written.map .work ++ caller.wallet.pending.map .posting

/-- The caller writes a row between two wallet calls, or the wallet takes a step. -/
inductive Action (Write : Type) where
  | work (write : Write)
  | wallet (action : WalletSessions.Action)

/-- `session.rollback()` has just ended the transaction. -/
def rolledBack (action : WalletSessions.Action) (outcome : WalletSessions.Outcome)
    (own : WalletSessions.Local) : Bool :=
  match action, outcome, own.phase with
  | .rollback, _, _ => true
  | .flush, _, .raced _ => true
  -- The balance did not fit: nothing catches the error, and the request closes its session.
  | .flush, .raised _, _ => true
  | _, _, _ => false

/-- The rows of the caller share the fate of the wallet's rows. -/
def Caller.follow (caller : Caller Write) (action : WalletSessions.Action)
    (outcome : WalletSessions.Outcome) (own : WalletSessions.Local) : Caller Write where
  wallet := own
  written :=
    match action with
    | .commit => []
    | _ => if rolledBack action outcome own then [] else caller.written
  atCall :=
    match action with
    | .call _ _ => caller.transaction
    | _ => caller.atCall

def Shared.follow (shared : Shared Write) (caller : Caller Write)
    (action : WalletSessions.Action) (wallet : WalletSessions.Shared) : Shared Write where
  wallet := wallet
  stored :=
    match action with
    | .commit => shared.stored ++ caller.transaction
    | _ => shared.stored

def advance (session : SessionId) (shared : Shared Write) (caller : Caller Write) :
    Action Write → Option (WalletSessions.Outcome × Shared Write × Caller Write)
  | .work write =>
      match caller.wallet.phase with
      | .ready => some (.quiet, shared, { caller with written := caller.written ++ [write] })
      | _ => none
  | .wallet action =>
      (WalletSessions.advance session shared.wallet caller.wallet action).map
        fun (outcome, wallet, own) =>
          (outcome, shared.follow caller action wallet, caller.follow action outcome own)

abbrev System (Write : Type) := Interleaved (Shared Write) (Caller Write)

abbrev Event (Write : Type) := SessionEvent (Action Write) WalletSessions.Outcome

def opened (db : Database) : System Write where
  shared := ⟨(WalletSessions.opened db).shared, []⟩
  sessions := fun _ => ⟨.opened, [], []⟩

def ReturnsRaced (session : SessionId) (event : Event Write) : Prop :=
  ∃ driverMessage request row,
    event = ⟨session, .wallet (.refetch driverMessage), .returned request row⟩

/-- What the transaction held at the call is still in it, and a commit now commits it. -/
structure KeepsWork (session : SessionId) (system : System Write) : Prop where
  kept : ∀ entry ∈ (system.sessions session).atCall,
    entry ∈ (system.sessions session).transaction
  committed : ∀ outcome next,
    Interleaved.Step advance system ⟨session, .wallet .commit, outcome⟩ next →
      ∀ entry ∈ (system.sessions session).atCall, entry ∈ next.shared.stored

/-- A session whose flush was refused has nothing left in its transaction. -/
def Emptied (caller : Caller Write) : Prop :=
  ∀ request, caller.wallet.phase = .raced request →
    caller.written = [] ∧ caller.wallet.pending = []

section Steps

variable {session : SessionId} {outcome : WalletSessions.Outcome}

/-- A session waits for its second lookup after a refused flush only, and with nothing left. -/
theorem raced_of_advance {wallet wallet' : WalletSessions.Shared} {own own' : WalletSessions.Local}
    {action : WalletSessions.Action} {request : WalletRequest}
    (ran : WalletSessions.advance session wallet own action = some (outcome, wallet', own'))
    (raced : own'.phase = .raced request) : action = .flush ∧ own'.pending = [] := by
  cases WalletSessions.stepped_of_advance ran with
  | lostRace request record phase taken => exact ⟨rfl, rfl⟩
  | loaded userId phase =>
      rw [WalletBalances.phase_loaded, phase] at raced
      contradiction
  | overflowed request record phase overflow => cases raced
  | rolledBack phase => cases raced
  | _ => simp_all only [reduceCtorEq]

theorem emptied_of_advance {shared shared' : Shared Write} {caller caller' : Caller Write}
    {action : Action Write}
    (ran : advance session shared caller action = some (outcome, shared', caller')) :
    Emptied caller' := by
  intro request raced
  cases action with
  | work write =>
      simp only [advance] at ran
      split at ran
      · rename_i ready
        cases ran
        rw [ready] at raced
        contradiction
      · contradiction
  | wallet action =>
      obtain ⟨⟨outcome', wallet, own⟩, walletRan, same⟩ := Option.map_eq_some_iff.mp ran
      cases same
      obtain ⟨rfl, nothing⟩ := raced_of_advance walletRan raced
      refine ⟨?_, nothing⟩
      simp only [Caller.follow] at raced ⊢
      simp [rolledBack, raced]

theorem emptied_of_run {db : Database} {events : List (Event Write)} {system : System Write}
    (run : Run (Interleaved.Step advance) (opened db) events system) :
    ∀ session, Emptied (system.sessions session) := by
  apply run.invariant fun system => ∀ session, Emptied (system.sessions session)
  · intro session request raced
    contradiction
  · rintro before event after emptied ⟨shared, own, ran, rfl⟩
    exact Interleaved.forall_moved (fun _ => Emptied) (emptied_of_advance ran)
      fun other _ => emptied other

theorem transaction_of_raced {system next : System Write} {event : Event Write}
    (emptied : ∀ session, Emptied (system.sessions session))
    (taken : Interleaved.Step advance system event next)
    (returns : ReturnsRaced session event) : (next.sessions session).transaction = [] := by
  obtain ⟨driverMessage, request, row, rfl⟩ := returns
  obtain ⟨shared, own, ran, rfl⟩ := taken
  obtain ⟨⟨outcome', wallet, own'⟩, walletRan, same⟩ := Option.map_eq_some_iff.mp ran
  cases same
  cases WalletSessions.stepped_of_advance walletRan with
  | refetched driverMessage request existing phase found =>
      obtain ⟨written, pending⟩ := emptied session request phase
      simp [Caller.follow, Caller.transaction, rolledBack, written, pending]

end Steps

/-- When a wallet call returns after a lost race, the caller's earlier writes are still in its
transaction, and go into its commit, if and only if there were none. -/
theorem keeps_work_iff {db : Database} {events : List (Event Write)} {system next : System Write}
    {session : SessionId} {event : Event Write}
    (run : Run (Interleaved.Step advance) (opened db) events system)
    (taken : Interleaved.Step advance system event next) (returns : ReturnsRaced session event) :
    KeepsWork session next ↔ (next.sessions session).atCall = [] := by
  have empty := transaction_of_raced (emptied_of_run run) taken returns
  constructor
  · intro keeps
    apply List.eq_nil_iff_forall_not_mem.mpr
    intro entry earlier
    have kept := keeps.kept entry earlier
    rw [empty] at kept
    contradiction
  · intro nothing
    refine ⟨?_, ?_⟩
    · intro entry earlier
      rw [nothing] at earlier
      contradiction
    · intro outcome after committed entry earlier
      rw [nothing] at earlier
      contradiction

def racedCredits (work : List Write) : List (SessionId × Action Write) :=
  work.map (fun write => (2, .work write)) ++
    WalletKeys.equalCredits.map fun (session, action) => (session, .wallet action)

/-- A caller without writes of its own loses nothing. -/
theorem keeps_work_iff_idle_caller : ∃ (system : System String),
    (system.sessions 2).wallet.phase = .ready ∧ KeepsWork 2 system := by
  obtain ⟨events, system, replayed, shared, own, advanced, nothing, ready⟩ : ∃ events system,
      Interleaved.replay advance (opened WalletLedger.twoUsers) (racedCredits []) =
        some (events, system) ∧
      ∃ shared own, advance 2 system.shared (system.sessions 2)
          (.wallet (.refetch "duplicate key")) =
        some (.returned ⟨"u1", .topup, 100000, "k1", none, none, none, none⟩
          WalletKeys.winningRow, shared, own) ∧
        own.atCall = [] ∧ own.wallet.phase = .ready := ⟨_, _, rfl, _, _, rfl, rfl, rfl⟩
  have run := Interleaved.run_of_replay advance replayed
  have taken : Interleaved.Step advance system ⟨2, _, _⟩ (system.moved 2 shared own) :=
    ⟨shared, own, advanced, rfl⟩
  refine ⟨system.moved 2 shared own, by simpa using ready, ?_⟩
  exact (keeps_work_iff run taken ⟨_, _, _, rfl⟩).mpr (by simpa using nothing)

/-- The order that an ingestion has set to paid before it credits the wallet. -/
theorem lost_race_drops_paid_order :
    ¬∀ (db : Database) (events : List (Event String)) (system next : System String)
      (session : SessionId) (event : Event String),
      Run (Interleaved.Step advance) (opened db) events system →
      Interleaved.Step advance system event next → ReturnsRaced session event →
        KeepsWork session next := by
  intro claimed
  obtain ⟨events, system, replayed, shared, own, advanced, held⟩ : ∃ events system,
      Interleaved.replay advance (opened WalletLedger.twoUsers)
        (racedCredits ["orders: o1 paid"]) = some (events, system) ∧
      ∃ shared own, advance 2 system.shared (system.sessions 2)
          (.wallet (.refetch "duplicate key")) =
        some (.returned ⟨"u1", .topup, 100000, "k1", none, none, none, none⟩
          WalletKeys.winningRow, shared, own) ∧
        own.atCall = [.work "orders: o1 paid"] ∧ own.transaction = [] :=
    ⟨_, _, rfl, _, _, rfl, rfl, rfl⟩
  have run := Interleaved.run_of_replay advance replayed
  have taken : Interleaved.Step advance system ⟨2, _, _⟩ (system.moved 2 shared own) :=
    ⟨shared, own, advanced, rfl⟩
  have keeps := claimed _ _ _ _ 2 _ run taken ⟨_, _, _, rfl⟩
  have kept := keeps.kept (.work "orders: o1 paid") (by simp [held.1])
  rw [Interleaved.sessions_moved_self, held.2] at kept
  contradiction

end ApiBank.Billing.RacedCalls
