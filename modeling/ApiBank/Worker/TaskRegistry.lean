import ApiBank.Api.Orders
import ApiBank.Transition.Run
import Mathlib.Logic.Function.Basic

/-!
# Poll tasks of a worker

`run_poller_loop` scans the accounts, again and again: it reads those that are to be polled,
cancels the tasks of all others and starts one for each account whose task is missing or
done. A task keeps the account row that the scan read. It registers an event under the id of
its account and waits for it; only when it leaves the poll loop does it unregister the event.

Routes and other sessions change accounts at any time, also between the read of a scan and
its end. `cancel` takes effect with any delay: a cancelled task is not done before it has left
its loop and released its lock.
-/

namespace ApiBank.Worker.TaskRegistry

open ApiBank.Api.Orders (partitionColon)
open ApiBank.Relational ApiBank.Transition

set_option autoImplicit false

abbrev TaskId := Nat

abbrev EventId := Nat

/-- The strings ever written to `bank_accounts.status`. -/
inductive AccountStatus where
  | active
  | deleted
deriving DecidableEq, Repr

structure BankAccount where
  id : String
  status : AccountStatus
  pollingEnabled : Bool
  credentialsEnc : String
deriving DecidableEq, Repr

/-- The `where` clauses of `list_active_accounts`. -/
def BankAccount.wanted (account : BankAccount) : Bool :=
  decide (account.status = .active) && account.pollingEnabled

/-- What the keys of the settings decrypt. -/
structure Cipher where
  decrypt : String → Option String

def decodeCredentials (cipher : Cipher) (account : BankAccount) : Option (String × String) :=
  (cipher.decrypt account.credentialsEnc).map partitionColon

/-- `created` lasts until the task has registered its event, `idle` until its first login is
accepted. `polling` is the `try` statement whose `finally` unregisters the event; a task that
ends before leaves the event where it is. `leaving` releases the lock. -/
inductive Stage where
  | created
  | idle (event : EventId)
  | polling (event : EventId)
  | leaving
deriving DecidableEq, Repr

/-- The event that the task waits for. -/
def Stage.event? : Stage → Option EventId
  | .idle event | .polling event => some event
  | _ => none

/-- A task that is not done, with the row that the scan had read for it. -/
structure PollTask where
  id : TaskId
  account : BankAccount
  stage : Stage
  cancelled : Bool
deriving DecidableEq, Repr

def PollTask.at (task : PollTask) (stage : Stage) : PollTask := { task with stage }

theorem PollTask.id_at (task : PollTask) (stage : Stage) : (task.at stage).id = task.id := rfl

def PollTask.cancelIf (task : PollTask) (stale : Bool) : PollTask :=
  if stale then { task with cancelled := true } else task

@[simp] theorem PollTask.id_cancelIf (task : PollTask) (stale : Bool) :
    (task.cancelIf stale).id = task.id := by
  unfold PollTask.cancelIf
  split <;> rfl

@[simp] theorem PollTask.account_cancelIf (task : PollTask) (stale : Bool) :
    (task.cancelIf stale).account = task.account := by
  unfold PollTask.cancelIf
  split <;> rfl

@[simp] theorem PollTask.stage_cancelIf (task : PollTask) (stale : Bool) :
    (task.cancelIf stale).stage = task.stage := by
  unfold PollTask.cancelIf
  split <;> rfl

/-- The rows of `bank_accounts`, the `tasks` of `run_poller_loop`, all tasks that are not done,
the `_events` of `poll_kick`, and the `current` of a scan that is under way. -/
structure Poller where
  accounts : Table BankAccount.id
  tasks : String → Option TaskId
  live : Table PollTask.id
  events : String → Option EventId
  current : Option (List BankAccount)
  nextTask : TaskId
  nextEvent : EventId

/-- A task `leave`s its work by itself or because it was cancelled. A lock that is busy and
credentials that cannot be used are ways to leave it before it registers. -/
inductive Event where
  | create (id : String) (credentialsEnc : String)
  | setPolling (id : String) (enabled : Bool)
  | delete (id : String)
  | rotate (id : String) (credentialsEnc : String)
  | read
  | reconcile
  | start (task : TaskId)
  | enter (task : TaskId)
  | leave (task : TaskId)
  | finish (task : TaskId)
deriving DecidableEq, Repr

namespace Poller

/-- Before the first scan. -/
def opened (accounts : Table BankAccount.id) : Poller where
  accounts := accounts
  tasks := fun _ => none
  live := .empty
  events := fun _ => none
  current := none
  nextTask := 0
  nextEvent := 0

def register (poller : Poller) (bankAccountId : String) : EventId × Poller :=
  match poller.events bankAccountId with
  | some event => (event, poller)
  | none => (poller.nextEvent, { poller with
      events := Function.update poller.events bankAccountId (some poller.nextEvent)
      nextEvent := poller.nextEvent + 1 })

def unregister (poller : Poller) (bankAccountId : String) : Poller :=
  { poller with events := Function.update poller.events bankAccountId none }

def setLocal (poller : Poller) (bankAccountId : String) : Option EventId :=
  poller.events bankAccountId

/-- `tasks.get(account.id)`, unless it is done. -/
def running (poller : Poller) (bankAccountId : String) : Option PollTask :=
  (poller.tasks bankAccountId).bind poller.live.find?

/-- All that are not done. -/
def ofAccount (poller : Poller) (bankAccountId : String) : List PollTask :=
  poller.live.rows.filter fun task => task.account.id = bankAccountId

/-- Pops and cancels the tasks of accounts that are not in `current`. -/
def cancelStale (poller : Poller) (current : List BankAccount) : Poller :=
  let wantedIds := current.map BankAccount.id
  { poller with
    live := poller.live.update
      (fun task => task.cancelIf
        (poller.tasks task.account.id = some task.id ∧ task.account.id ∉ wantedIds))
      fun _ => PollTask.id_cancelIf _ _
    tasks := fun id => if id ∈ wantedIds then poller.tasks id else none }

/-- The result of `create_task`, which has not run yet. -/
def started (poller : Poller) (account : BankAccount) : PollTask :=
  ⟨poller.nextTask, account, .created, false⟩

def added (poller : Poller) (account : BankAccount) (live : Table PollTask.id) : Poller :=
  { poller with
    live
    tasks := Function.update poller.tasks account.id (some poller.nextTask)
    nextTask := poller.nextTask + 1 }

/-- `create_task`, for an account without a task or with one that is done. -/
def spawn (poller : Poller) (account : BankAccount) : Poller :=
  match poller.running account.id with
  | some _ => poller
  | none =>
      match poller.live.insert? (poller.started account) with
      | some live => poller.added account live
      | none => poller

def setStage (poller : Poller) (task : TaskId) (stage : Stage) : Poller :=
  { poller with live := poller.live.modify task (fun row => row.at stage) fun row => row.id_at stage }

def start (poller : Poller) (task : PollTask) : Poller :=
  if task.stage = .created ∧ task.cancelled = false then
    let (event, registered) := poller.register task.account.id
    registered.setStage task.id (.idle event)
  else poller

def enter (poller : Poller) (task : PollTask) : Poller :=
  match task.stage with
  | .idle event =>
      if task.cancelled then poller else poller.setStage task.id (.polling event)
  | _ => poller

def leave (poller : Poller) (task : PollTask) : Poller :=
  match task.stage with
  | .created | .idle _ => poller.setStage task.id .leaving
  | .polling _ => (poller.unregister task.account.id).setStage task.id .leaving
  | .leaving => poller

def finish (poller : Poller) (task : PollTask) : Poller :=
  match task.stage with
  | .leaving => { poller with live := poller.live.delete task.id }
  | _ => poller

/-- A step of one task, if it is not done. -/
def onTask (poller : Poller) (task : TaskId) (act : Poller → PollTask → Poller) : Poller :=
  match poller.live.find? task with
  | some row => act poller row
  | none => poller

def edit (poller : Poller) (id : String) (change : BankAccount → BankAccount)
    (keeps : ∀ account, (change account).id = account.id) : Poller :=
  { poller with accounts := poller.accounts.modify id change keeps }

/-- One event. One that is not possible now changes nothing. -/
def next (poller : Poller) : Event → Poller
  | .create id credentialsEnc =>
      match poller.accounts.insert? ⟨id, .active, true, credentialsEnc⟩ with
      | some accounts => { poller with accounts }
      | none => poller
  | .setPolling id enabled =>
      poller.edit id (fun account => { account with pollingEnabled := enabled }) fun _ => rfl
  | .delete id =>
      poller.edit id (fun account => { account with status := .deleted, pollingEnabled := false })
        fun _ => rfl
  | .rotate id credentialsEnc =>
      poller.edit id (fun account => { account with credentialsEnc }) fun _ => rfl
  | .read => { poller with current := some (poller.accounts.rows.filter BankAccount.wanted) }
  | .reconcile =>
      match poller.current with
      | some current =>
          { current.foldl spawn (poller.cancelStale current) with current := none }
      | none => poller
  | .start task => poller.onTask task start
  | .enter task => poller.onTask task enter
  | .leave task => poller.onTask task leave
  | .finish task => poller.onTask task finish

end Poller

open Poller

/-- The account has exactly one task that is not done. It was not cancelled, and it was
started with the credentials that are stored now. -/
def Polled (cipher : Cipher) (poller : Poller) (account : BankAccount) : Prop :=
  ∃ task, poller.ofAccount account.id = [task] ∧ task.cancelled = false ∧
    decodeCredentials cipher task.account = decodeCredentials cipher account

/-- `set_local` sets the event that a task waits for. -/
def Heard (poller : Poller) : Prop :=
  ∀ task ∈ poller.live.rows, ∀ event, task.stage.event? = some event →
    poller.setLocal task.account.id = some event

/-- What holds after a step: every task hears its kicks, and when a scan has ended every
account that is to be polled is polled. -/
structure Kept (cipher : Cipher) (poller : Poller) (event : Event) : Prop where
  heard : Heard (poller.next event)
  scanned : event = .reconcile → poller.current.isSome = true →
    ∀ account ∈ poller.accounts.rows, account.wanted = true →
      Polled cipher (poller.next event) account

/-- A scan that ends has seen the account. If its task runs it is the only one, and it was
started with the credentials that are stored now; if no task runs none is left, and the scan
has read these credentials. -/
def Current (cipher : Cipher) (poller : Poller) (current : List BankAccount)
    (account : BankAccount) : Prop :=
  ∃ seen ∈ current, seen.id = account.id ∧
    match poller.running account.id with
    | some task => poller.ofAccount account.id = [task] ∧
        decodeCredentials cipher task.account = decodeCredentials cipher account
    | none => poller.ofAccount account.id = [] ∧
        decodeCredentials cipher seen = decodeCredentials cipher account

def Alone (poller : Poller) (task : PollTask) : Prop :=
  ∀ event, task.stage = .polling event → ∀ other ∈ poller.live.rows,
    other.id ≠ task.id → other.account.id = task.account.id → other.stage.event? = none

/-- The condition on a step. -/
def Undisturbed (cipher : Cipher) (poller : Poller) : Event → Prop
  | .reconcile => ∀ current, poller.current = some current →
      ∀ account ∈ poller.accounts.rows, account.wanted = true →
        Current cipher poller current account
  | .leave task => ∀ row, poller.live.find? task = some row → Alone poller row
  | _ => True

/-- The entries of `tasks` and the tasks that are not done belong together. -/
structure Tracked (poller : Poller) : Prop where
  tracked : ∀ task ∈ poller.live.rows, task.cancelled = false →
    poller.tasks task.account.id = some task.id
  entries : ∀ task ∈ poller.live.rows, ∀ id, poller.tasks id = some task.id →
    task.account.id = id ∧ task.cancelled = false
  fresh : ∀ task ∈ poller.live.rows, task.id < poller.nextTask
  entryFresh : ∀ id task, poller.tasks id = some task → task < poller.nextTask
  current : ∀ current, poller.current = some current → (current.map BankAccount.id).Nodup

section Scans

variable {poller : Poller} {account seen : BankAccount} {current : List BankAccount} {id : String}

theorem running_eq_some (tracked : Tracked poller) {task : PollTask}
    (runs : poller.running id = some task) :
    task ∈ poller.ofAccount id ∧ task.cancelled = false := by
  obtain ⟨entry, listed, found⟩ := Option.bind_eq_some_iff.mp runs
  have member := Table.mem_of_find? found
  obtain rfl := Table.key_of_find? found
  obtain ⟨same, uncancelled⟩ := tracked.entries task member id listed
  exact ⟨List.mem_filter.mpr ⟨member, decide_eq_true same⟩, uncancelled⟩

theorem running_of_member (tracked : Tracked poller) {task : PollTask}
    (member : task ∈ poller.live.rows) (uncancelled : task.cancelled = false) :
    poller.running task.account.id = some task := by
  rw [running, tracked.tracked task member uncancelled]
  exact Table.find?_of_mem member

theorem mem_cancelStale {task : PollTask} :
    task ∈ (poller.cancelStale current).live.rows ↔ ∃ old ∈ poller.live.rows,
      old.cancelIf (poller.tasks old.account.id = some old.id ∧
        old.account.id ∉ current.map BankAccount.id) = task :=
  List.mem_map

theorem cancelIf_of_wanted {task : PollTask}
    (wanted : task.account.id ∈ current.map BankAccount.id) :
    task.cancelIf (poller.tasks task.account.id = some task.id ∧
      task.account.id ∉ current.map BankAccount.id) = task := by
  unfold PollTask.cancelIf
  rw [if_neg]
  simp [wanted]

theorem cancelled_of_unwanted (tracked : Tracked poller) {task : PollTask}
    (member : task ∈ poller.live.rows) (unwanted : task.account.id ∉ current.map BankAccount.id) :
    (task.cancelIf (poller.tasks task.account.id = some task.id ∧
      task.account.id ∉ current.map BankAccount.id)).cancelled = true := by
  unfold PollTask.cancelIf
  split
  · rfl
  · rename_i kept
    by_contra uncancelled
    apply kept
    exact decide_eq_true
      ⟨tracked.tracked task member (Bool.eq_false_iff.mpr uncancelled), unwanted⟩

theorem tracked_cancelStale (tracked : Tracked poller) :
    Tracked (poller.cancelStale current) := by
  have entry {id : String} {task : TaskId}
      (listed : (poller.cancelStale current).tasks id = some task) :
      id ∈ current.map BankAccount.id ∧ poller.tasks id = some task := by
    simp only [cancelStale] at listed
    split at listed
    · exact ⟨‹_›, listed⟩
    · contradiction
  constructor
  · intro task member uncancelled
    obtain ⟨old, before, rfl⟩ := mem_cancelStale.mp member
    by_cases wanted : old.account.id ∈ current.map BankAccount.id
    · rw [cancelIf_of_wanted wanted] at uncancelled ⊢
      simp only [cancelStale]
      rw [if_pos wanted]
      exact tracked.tracked old before uncancelled
    · rw [cancelled_of_unwanted tracked before wanted] at uncancelled
      contradiction
  · intro task member id listed
    obtain ⟨old, before, rfl⟩ := mem_cancelStale.mp member
    obtain ⟨wanted, was⟩ := entry listed
    rw [PollTask.id_cancelIf] at was
    obtain ⟨rfl, uncancelled⟩ := tracked.entries old before id was
    rw [cancelIf_of_wanted wanted]
    exact ⟨rfl, uncancelled⟩
  · intro task member
    obtain ⟨old, before, rfl⟩ := mem_cancelStale.mp member
    rw [PollTask.id_cancelIf]
    exact tracked.fresh old before
  · intro id task listed
    exact tracked.entryFresh id task (entry listed).2
  · exact tracked.current

theorem ofAccount_cancelStale (wanted : id ∈ current.map BankAccount.id) :
    (poller.cancelStale current).ofAccount id = poller.ofAccount id := by
  simp only [ofAccount, cancelStale, Table.rows_update, List.filter_map, Function.comp_def,
    PollTask.account_cancelIf]
  conv_rhs => rw [← List.map_id (poller.live.rows.filter _)]
  apply List.map_congr_left
  intro task member
  apply cancelIf_of_wanted
  rw [of_decide_eq_true (List.mem_filter.mp member).2]
  exact wanted

theorem cancelled_cancelStale (tracked : Tracked poller)
    (unwanted : id ∉ current.map BankAccount.id) :
    ∀ task ∈ (poller.cancelStale current).ofAccount id, task.cancelled = true := by
  intro task member
  obtain ⟨listed, same⟩ := List.mem_filter.mp member
  obtain ⟨old, before, rfl⟩ := mem_cancelStale.mp listed
  rw [PollTask.account_cancelIf] at same
  apply cancelled_of_unwanted tracked before
  rw [of_decide_eq_true same]
  exact unwanted

theorem running_cancelStale (tracked : Tracked poller)
    (wanted : id ∈ current.map BankAccount.id) :
    (poller.cancelStale current).running id = poller.running id := by
  simp only [running, cancelStale]
  rw [if_pos wanted]
  cases listed : poller.tasks id with
  | none => rfl
  | some task =>
      rw [Option.bind_some, Option.bind_some, Table.find?_update]
      cases found : poller.live.find? task with
      | none => rfl
      | some row =>
          obtain rfl := Table.key_of_find? found
          obtain ⟨rfl, -⟩ := tracked.entries row (Table.mem_of_find? found) id listed
          exact congrArg some (cancelIf_of_wanted wanted)

theorem spawn_cases (poller : Poller) (account : BankAccount) :
    poller.spawn account = poller ∨ ∃ live,
      poller.live.insert? (poller.started account) = some live ∧
        poller.running account.id = none ∧ poller.spawn account = poller.added account live := by
  unfold spawn
  cases runs : poller.running account.id with
  | some task => exact .inl rfl
  | none =>
      dsimp only
      split
      · rename_i live inserted
        exact .inr ⟨live, inserted, rfl, rfl⟩
      · exact .inl rfl

theorem spawn_of_missing (tracked : Tracked poller) (missing : poller.running account.id = none) :
    ∃ live, poller.live.insert? (poller.started account) = some live ∧
      poller.spawn account = poller.added account live := by
  have absent : poller.live.find? (poller.started account).id = none := by
    apply (Table.find?_eq_none_iff ..).mpr
    intro task member
    exact Nat.ne_of_lt (tracked.fresh task member)
  obtain ⟨live, inserted⟩ := Table.insert?_of_fresh absent
  refine ⟨live, inserted, ?_⟩
  rw [spawn, missing]
  dsimp only
  rw [inserted]

theorem mem_added {live : Table PollTask.id} {task : PollTask}
    (inserted : poller.live.insert? (poller.started account) = some live) :
    task ∈ (poller.added account live).live.rows ↔
      task ∈ poller.live.rows ∨ task = poller.started account := by
  change task ∈ live.rows ↔ _
  rw [Table.rows_of_insert? inserted, List.mem_append, List.mem_singleton]

theorem tracked_spawn (tracked : Tracked poller) : Tracked (poller.spawn account) := by
  rcases spawn_cases poller account with same | ⟨live, inserted, missing, spawned⟩
  · rw [same]
    exact tracked
  rw [spawned]
  have update (id : String) : (poller.added account live).tasks id =
      if id = account.id then some poller.nextTask else poller.tasks id :=
    Function.update_apply ..
  constructor
  · intro task member uncancelled
    rw [update]
    rcases (mem_added inserted).mp member with before | rfl
    · have runs := running_of_member tracked before uncancelled
      have other : task.account.id ≠ account.id := by
        intro same
        rw [same, missing] at runs
        contradiction
      rw [if_neg other]
      exact tracked.tracked task before uncancelled
    · exact if_pos rfl
  · intro task member id listed
    rw [update] at listed
    rcases (mem_added inserted).mp member with before | rfl
    · split at listed
      · have fresh := tracked.fresh task before
        rw [← Option.some.inj listed] at fresh
        exact absurd fresh (Nat.lt_irrefl _)
      · exact tracked.entries task before id listed
    · split at listed
      · rename_i same
        exact ⟨same.symm, rfl⟩
      · exact absurd (tracked.entryFresh id _ listed) (Nat.lt_irrefl _)
  · intro task member
    rcases (mem_added inserted).mp member with before | rfl
    · exact Nat.lt_succ_of_lt (tracked.fresh task before)
    · exact Nat.lt_succ_self _
  · intro id task listed
    rw [update] at listed
    split at listed
    · cases listed
      exact Nat.lt_succ_self _
    · exact Nat.lt_succ_of_lt (tracked.entryFresh id task listed)
  · exact tracked.current

theorem ofAccount_added {live : Table PollTask.id}
    (inserted : poller.live.insert? (poller.started account) = some live) :
    (poller.added account live).ofAccount id =
      poller.ofAccount id ++ if account.id = id then [poller.started account] else [] := by
  change live.rows.filter _ = _
  rw [Table.rows_of_insert? inserted, List.filter_append]
  congr 1
  simp [Poller.started, List.filter_singleton]

theorem ofAccount_spawn (tracked : Tracked poller) (missing : poller.running account.id = none) :
    (poller.spawn account).ofAccount account.id =
      poller.ofAccount account.id ++ [poller.started account] := by
  obtain ⟨live, inserted, spawned⟩ := spawn_of_missing tracked missing
  rw [spawned, ofAccount_added inserted, if_pos rfl]

theorem ofAccount_spawn_other (other : account.id ≠ id) :
    (poller.spawn account).ofAccount id = poller.ofAccount id := by
  rcases spawn_cases poller account with same | ⟨live, inserted, missing, spawned⟩
  · rw [same]
  · rw [spawned, ofAccount_added inserted, if_neg other, List.append_nil]

theorem running_spawn_other (tracked : Tracked poller) (other : account.id ≠ id) :
    (poller.spawn account).running id = poller.running id := by
  rcases spawn_cases poller account with same | ⟨live, inserted, missing, spawned⟩
  · rw [same]
  · rw [spawned]
    change ((Function.update poller.tasks account.id (some poller.nextTask)) id).bind live.find? = _
    rw [Function.update_of_ne other.symm]
    cases listed : poller.tasks id with
    | none => rw [running, listed]; rfl
    | some task =>
        have fresh := tracked.entryFresh id task listed
        have different : (poller.started account).id ≠ task := Nat.ne_of_gt fresh
        rw [running, listed, Option.bind_some, Option.bind_some, Table.find?_insert? inserted,
          if_neg different]

theorem tracked_spawns (tracked : Tracked poller) : Tracked (current.foldl spawn poller) := by
  induction current generalizing poller with
  | nil => exact tracked
  | cons first rest ih => exact ih (tracked_spawn tracked)

theorem ofAccount_spawns_other (others : id ∉ current.map BankAccount.id) :
    (current.foldl spawn poller).ofAccount id = poller.ofAccount id := by
  induction current generalizing poller with
  | nil => rfl
  | cons first rest ih =>
      rw [List.map_cons, List.mem_cons, not_or] at others
      rw [List.foldl_cons, ih others.2, ofAccount_spawn_other (Ne.symm others.1)]

theorem ofAccount_spawns_of_running {task : PollTask} (tracked : Tracked poller)
    (runs : poller.running id = some task) :
    (current.foldl spawn poller).ofAccount id = poller.ofAccount id := by
  induction current generalizing poller with
  | nil => rfl
  | cons first rest ih =>
      rw [List.foldl_cons]
      by_cases same : first.id = id
      · have kept : poller.spawn first = poller := by rw [spawn, same, runs]
        rw [kept]
        exact ih tracked runs
      · rw [ih (tracked_spawn tracked) ((running_spawn_other tracked same).trans runs),
          ofAccount_spawn_other same]

theorem ofAccount_spawns_of_missing (tracked : Tracked poller)
    (distinct : (current.map BankAccount.id).Nodup) (member : seen ∈ current)
    (missing : poller.running seen.id = none) :
    ∃ task, task.account = seen ∧ task.cancelled = false ∧
      (current.foldl spawn poller).ofAccount seen.id = poller.ofAccount seen.id ++ [task] := by
  induction current generalizing poller with
  | nil => contradiction
  | cons first rest ih =>
      rw [List.map_cons, List.nodup_cons] at distinct
      rw [List.foldl_cons]
      rcases List.mem_cons.mp member with rfl | later
      · refine ⟨poller.started seen, rfl, rfl, ?_⟩
        rw [ofAccount_spawns_other distinct.1, ofAccount_spawn tracked missing]
      · have other : first.id ≠ seen.id := by
          intro same
          exact distinct.1 (same ▸ List.mem_map_of_mem later)
        have stays := (running_spawn_other tracked other).trans missing
        obtain ⟨task, row, uncancelled, whole⟩ :=
          ih (tracked_spawn tracked) distinct.2 later stays
        rw [ofAccount_spawn_other other] at whole
        exact ⟨task, row, uncancelled, whole⟩

theorem next_reconcile (scanning : poller.current = some current) :
    poller.next .reconcile =
      { current.foldl spawn (poller.cancelStale current) with current := none } := by
  simp only [Poller.next, scanning]

theorem ofAccount_reconcile_of_running {task : PollTask} (tracked : Tracked poller)
    (scanning : poller.current = some current) (wanted : id ∈ current.map BankAccount.id)
    (runs : poller.running id = some task) :
    (poller.next .reconcile).ofAccount id = poller.ofAccount id := by
  rw [next_reconcile scanning]
  calc (current.foldl spawn (poller.cancelStale current)).ofAccount id
      = (poller.cancelStale current).ofAccount id :=
        ofAccount_spawns_of_running (tracked_cancelStale tracked)
          ((running_cancelStale tracked wanted).trans runs)
    _ = poller.ofAccount id := ofAccount_cancelStale wanted

theorem ofAccount_reconcile_of_missing (tracked : Tracked poller)
    (scanning : poller.current = some current) (member : seen ∈ current)
    (missing : poller.running seen.id = none) :
    ∃ task, task.account = seen ∧ task.cancelled = false ∧
      (poller.next .reconcile).ofAccount seen.id = poller.ofAccount seen.id ++ [task] := by
  have wanted : seen.id ∈ current.map BankAccount.id := List.mem_map_of_mem member
  obtain ⟨task, row, uncancelled, whole⟩ := ofAccount_spawns_of_missing
    (tracked_cancelStale tracked) (tracked.current current scanning) member
    ((running_cancelStale tracked wanted).trans missing)
  rw [ofAccount_cancelStale wanted] at whole
  rw [next_reconcile scanning]
  exact ⟨task, row, uncancelled, whole⟩

theorem cancelled_reconcile (tracked : Tracked poller) (scanning : poller.current = some current)
    (unwanted : id ∉ current.map BankAccount.id) :
    ∀ task ∈ (poller.next .reconcile).ofAccount id, task.cancelled = true := by
  rw [next_reconcile scanning]
  change ∀ task ∈ (current.foldl spawn (poller.cancelStale current)).ofAccount id, _
  rw [ofAccount_spawns_other unwanted]
  exact cancelled_cancelStale tracked unwanted

theorem polled_iff (cipher : Cipher) (tracked : Tracked poller)
    (scanning : poller.current = some current) :
    Polled cipher (poller.next .reconcile) account ↔ Current cipher poller current account := by
  by_cases wanted : account.id ∈ current.map BankAccount.id
  · obtain ⟨seen, member, same⟩ := List.mem_map.mp wanted
    have unique : ∀ other ∈ current, other.id = account.id → other = seen := fun other listed alike =>
      List.inj_on_of_nodup_map (tracked.current current scanning) listed member
        (alike.trans same.symm)
    unfold Polled Current
    cases runs : poller.running account.id with
    | some task =>
        rw [ofAccount_reconcile_of_running tracked scanning wanted runs]
        obtain ⟨listed, uncancelled⟩ := running_eq_some tracked runs
        constructor
        · rintro ⟨only, alone, -, credentials⟩
          rw [alone] at listed
          obtain rfl := List.mem_singleton.mp listed
          exact ⟨seen, member, same, alone, credentials⟩
        · rintro ⟨-, -, -, alone, credentials⟩
          exact ⟨task, alone, uncancelled, credentials⟩
    | none =>
        rw [← same] at runs
        obtain ⟨task, rfl, uncancelled, whole⟩ :=
          ofAccount_reconcile_of_missing tracked scanning member runs
        rw [← same, whole]
        constructor
        · rintro ⟨only, alone, -, credentials⟩
          obtain ⟨none_left, rfl⟩ : poller.ofAccount task.account.id = [] ∧ task = only := by
            simpa [List.append_eq_singleton_iff] using alone
          exact ⟨task.account, member, rfl, none_left, credentials⟩
        · rintro ⟨other, listed, alike, none_left, credentials⟩
          obtain rfl := unique other listed (alike.trans same)
          rw [none_left]
          exact ⟨task, rfl, uncancelled, credentials⟩
  · constructor
    · rintro ⟨task, only, uncancelled, -⟩
      have cancelled := cancelled_reconcile tracked scanning wanted task
        (only ▸ List.mem_singleton_self task)
      rw [uncancelled] at cancelled
      contradiction
    · rintro ⟨seen, member, same, -⟩
      exact absurd (List.mem_map.mpr ⟨seen, member, same⟩) wanted

end Scans

section Steps

variable {poller : Poller} {task : PollTask} {stage : Stage}

theorem mem_setStage {taskId : TaskId} {row : PollTask} :
    row ∈ (poller.setStage taskId stage).live.rows ↔ ∃ old ∈ poller.live.rows,
      row = if old.id = taskId then old.at stage else old :=
  poller.live.mem_modify_iff taskId (fun row => row.at stage) (fun row => row.id_at stage) row

theorem tracked_setStage {taskId : TaskId} (tracked : Tracked poller) :
    Tracked (poller.setStage taskId stage) := by
  have same {row : PollTask} (member : row ∈ (poller.setStage taskId stage).live.rows) :
      ∃ old ∈ poller.live.rows, row.id = old.id ∧ row.account = old.account ∧
        row.cancelled = old.cancelled := by
    obtain ⟨old, before, rfl⟩ := mem_setStage.mp member
    refine ⟨old, before, ?_⟩
    split <;> exact ⟨rfl, rfl, rfl⟩
  constructor
  · intro row member uncancelled
    obtain ⟨old, before, id, account, cancelled⟩ := same member
    rw [id, account]
    exact tracked.tracked old before (cancelled ▸ uncancelled)
  · intro row member id listed
    obtain ⟨old, before, id, account, cancelled⟩ := same member
    rw [account, cancelled]
    exact tracked.entries old before _ (id ▸ listed)
  · intro row member
    obtain ⟨old, before, id, -, -⟩ := same member
    rw [id]
    exact tracked.fresh old before
  · exact tracked.entryFresh
  · exact tracked.current

theorem tracked_events {events : String → Option EventId} {nextEvent : EventId}
    (tracked : Tracked poller) : Tracked { poller with events, nextEvent } :=
  ⟨tracked.tracked, tracked.entries, tracked.fresh, tracked.entryFresh, tracked.current⟩

theorem tracked_register {bankAccountId : String} (tracked : Tracked poller) :
    Tracked (poller.register bankAccountId).2 := by
  unfold register
  split
  · exact tracked
  · exact tracked_events tracked

theorem tracked_accounts {accounts : Table BankAccount.id} (tracked : Tracked poller) :
    Tracked { poller with accounts } :=
  ⟨tracked.tracked, tracked.entries, tracked.fresh, tracked.entryFresh, tracked.current⟩

theorem tracked_delete {taskId : TaskId} (tracked : Tracked poller) :
    Tracked { poller with live := poller.live.delete taskId } := by
  have before {row : PollTask} (member : row ∈ (poller.live.delete taskId).rows) :
      row ∈ poller.live.rows := (List.mem_filter.mp member).1
  exact ⟨fun row member => tracked.tracked row (before member),
    fun row member => tracked.entries row (before member),
    fun row member => tracked.fresh row (before member), tracked.entryFresh, tracked.current⟩

theorem onTask_of {Holds : Poller → Prop} {taskId : TaskId} {act : Poller → PollTask → Poller}
    (holds : Holds poller)
    (keeps : ∀ row, poller.live.find? taskId = some row → Holds (act poller row)) :
    Holds (poller.onTask taskId act) := by
  unfold onTask
  split
  · exact keeps _ ‹_›
  · exact holds

theorem tracked_next (tracked : Tracked poller) (event : Event) : Tracked (poller.next event) := by
  cases event with
  | create id credentialsEnc =>
      simp only [Poller.next]
      split
      · exact tracked_accounts tracked
      · exact tracked
  | setPolling | delete | rotate => exact tracked_accounts tracked
  | read =>
      refine ⟨tracked.tracked, tracked.entries, tracked.fresh, tracked.entryFresh, ?_⟩
      rintro current ⟨⟩
      exact poller.accounts.distinct.sublist (List.filter_sublist.map _)
  | reconcile =>
      simp only [Poller.next]
      split
      · rename_i current scanning
        have after : Tracked (current.foldl spawn (poller.cancelStale current)) :=
          tracked_spawns (tracked_cancelStale tracked)
        refine ⟨after.tracked, after.entries, after.fresh, after.entryFresh, ?_⟩
        intro _ ended
        contradiction
      · exact tracked
  | start taskId =>
      apply onTask_of tracked
      intro row _
      unfold start
      split
      · exact tracked_setStage (tracked_register tracked)
      · exact tracked
  | enter taskId =>
      apply onTask_of tracked
      intro row _
      unfold enter
      split
      · split
        · exact tracked
        · exact tracked_setStage tracked
      · exact tracked
  | leave taskId =>
      apply onTask_of tracked
      intro row _
      unfold leave
      split
      · exact tracked_setStage tracked
      · exact tracked_setStage tracked
      · exact tracked_setStage (tracked_events tracked)
      · exact tracked
  | finish taskId =>
      apply onTask_of tracked
      intro row _
      unfold finish
      split
      · exact tracked_delete tracked
      · exact tracked

theorem heard_cancelStale {current : List BankAccount} (heard : Heard poller) :
    Heard (poller.cancelStale current) := by
  intro row member event waits
  obtain ⟨old, before, rfl⟩ := mem_cancelStale.mp member
  rw [PollTask.stage_cancelIf] at waits
  rw [PollTask.account_cancelIf]
  exact heard old before event waits

theorem heard_spawns {current : List BankAccount} (heard : Heard poller) :
    Heard (current.foldl spawn poller) := by
  induction current generalizing poller with
  | nil => exact heard
  | cons first rest ih =>
      apply ih
      rcases spawn_cases poller first with same | ⟨live, inserted, -, spawned⟩
      · rw [same]
        exact heard
      · rw [spawned]
        intro row member event waits
        rcases (mem_added inserted).mp member with before | rfl
        · exact heard row before event waits
        · contradiction

theorem heard_setStage {taskId : TaskId} (heard : Heard poller)
    (hears : ∀ row ∈ poller.live.rows, row.id = taskId → ∀ event, stage.event? = some event →
      poller.setLocal row.account.id = some event) :
    Heard (poller.setStage taskId stage) := by
  intro row member event waits
  obtain ⟨old, before, rfl⟩ := mem_setStage.mp member
  split at waits
  · rename_i same
    rw [if_pos same]
    exact hears old before same event waits
  · rename_i different
    rw [if_neg different]
    exact heard old before event waits

theorem live_register (poller : Poller) (bankAccountId : String) :
    (poller.register bankAccountId).2.live = poller.live := by
  unfold register
  split <;> rfl

/-- A new event displaces none that a task waits for. -/
theorem heard_register {bankAccountId : String} (heard : Heard poller) :
    Heard (poller.register bankAccountId).2 ∧
      (poller.register bankAccountId).2.setLocal bankAccountId =
        some (poller.register bankAccountId).1 := by
  unfold register
  split
  · rename_i event listed
    exact ⟨heard, listed⟩
  · rename_i missing
    refine ⟨?_, Function.update_self ..⟩
    intro row member event waits
    have listed := heard row member event waits
    have other : row.account.id ≠ bankAccountId := by
      rintro rfl
      rw [setLocal, missing] at listed
      contradiction
    exact (Function.update_of_ne other ..).trans listed

theorem heard_unregister_iff (heard : Heard poller) {event : EventId} (polling : task.stage = .polling event) :
    Heard ((poller.unregister task.account.id).setStage task.id .leaving) ↔
      Alone poller task := by
  constructor
  · intro after waited _ other otherMember different same
    by_contra waits
    obtain ⟨lost, waits⟩ := Option.ne_none_iff_exists'.mp waits
    have listed := after other (mem_setStage.mpr ⟨other, otherMember, (if_neg different).symm⟩)
      lost waits
    rw [same] at listed
    have gone : (poller.unregister task.account.id).events task.account.id = none :=
      Function.update_self ..
    exact absurd (gone.symm.trans listed) (by simp)
  · intro alone row rowMember waited waits
    obtain ⟨old, before, rfl⟩ := mem_setStage.mp rowMember
    split at waits
    · contradiction
    · rename_i different
      rw [if_neg different]
      have other : old.account.id ≠ task.account.id := by
        intro same
        rw [alone event polling old before different same] at waits
        contradiction
      exact (Function.update_of_ne other ..).trans (heard old before waited waits)

theorem heard_next (heard : Heard poller) {event : Event} (stays : ∀ task, event ≠ .leave task) :
    Heard (poller.next event) := by
  cases event with
  | create id credentialsEnc =>
      simp only [Poller.next]
      split
      · exact heard
      · exact heard
  | setPolling | delete | rotate | read => exact heard
  | reconcile =>
      simp only [Poller.next]
      split
      · exact heard_spawns (heard_cancelStale heard)
      · exact heard
  | start taskId =>
      apply onTask_of heard
      intro row found
      unfold start
      split
      · obtain ⟨still, registered⟩ := heard_register heard
        apply heard_setStage still
        intro other member same event waits
        cases waits
        rw [live_register] at member
        obtain rfl := poller.live.eq_of_key_eq member (Table.mem_of_find? found) same
        exact registered
      · exact heard
  | enter taskId =>
      apply onTask_of heard
      intro row found
      unfold enter
      split
      · rename_i waited idle
        split
        · exact heard
        · apply heard_setStage heard
          intro other member same event waits
          cases waits
          obtain rfl := poller.live.eq_of_key_eq member (Table.mem_of_find? found) same
          exact heard other member waited (by rw [idle]; rfl)
      · exact heard
  | leave taskId => exact absurd rfl (stays taskId)
  | finish taskId =>
      apply onTask_of heard
      intro row _
      unfold finish
      split
      · intro other member
        exact heard other (List.mem_filter.mp member).1
      · exact heard

theorem heard_leave_iff (heard : Heard poller) (taskId : TaskId) :
    Heard (poller.next (.leave taskId)) ↔
      ∀ row, poller.live.find? taskId = some row → Alone poller row := by
  simp only [Poller.next, onTask]
  split
  · rename_i row found
    have only : Alone poller row ↔ ∀ other, some row = some other → Alone poller other := by
      simp
    have outside (out : ∀ event, row.stage ≠ .polling event) : Alone poller row :=
      fun event polling => absurd polling (out event)
    have left : Heard (poller.setStage row.id .leaving) :=
      heard_setStage heard fun _ _ _ event waits => by contradiction
    rw [found, ← only]
    unfold leave
    split
    · rename_i created
      exact iff_of_true left (outside (by simp [created]))
    · rename_i idle
      exact iff_of_true left (outside (by simp [idle]))
    · rename_i waited polling
      exact heard_unregister_iff heard polling
    · rename_i leaving
      exact iff_of_true heard (outside (by simp [leaving]))
  · rename_i gone
    rw [gone]
    exact iff_of_true heard (by simp)

/-- The step lemma: what has to hold after a step does, just when the step is undisturbed. -/
theorem kept_iff (cipher : Cipher) (tracked : Tracked poller) (heard : Heard poller)
    (event : Event) : Kept cipher poller event ↔ Undisturbed cipher poller event := by
  cases event with
  | reconcile =>
      have hears : Heard (poller.next .reconcile) := heard_next heard (by simp)
      constructor
      · intro kept current scanning account member wanted
        apply (polled_iff cipher tracked scanning).mp
        exact kept.scanned rfl (by rw [scanning]; rfl) account member wanted
      · intro undisturbed
        refine ⟨hears, ?_⟩
        intro _ scans account member wanted
        obtain ⟨current, scanning⟩ := Option.isSome_iff_exists.mp scans
        exact (polled_iff cipher tracked scanning).mpr
          (undisturbed current scanning account member wanted)
  | leave task =>
      constructor
      · intro kept
        exact (heard_leave_iff heard task).mp kept.heard
      · intro alone
        exact ⟨(heard_leave_iff heard task).mpr alone, fun same => by contradiction⟩
  | _ => exact iff_of_true ⟨heard_next heard (by simp), fun same => by contradiction⟩ trivial

theorem tracked_opened (accounts : Table BankAccount.id) : Tracked (opened accounts) := by
  constructor <;> simp [opened]

theorem heard_opened (accounts : Table BankAccount.id) : Heard (opened accounts) := by
  simp [Heard, opened]

end Steps

/-- Every account is polled after every scan, and every task hears its kicks at every moment,
if and only if no step is disturbed. -/
theorem registry_kept_iff (cipher : Cipher) (accounts : Table BankAccount.id)
    (events : List Event) :
    (∀ prior event later, events = prior ++ event :: later →
        Kept cipher (prior.foldl Poller.next (opened accounts)) event) ↔
      Run.Along (Undisturbed cipher) Poller.next (opened accounts) events := by
  rw [← Run.along_iff (fun poller => Tracked poller ∧ Heard poller)
    (fun poller event holds => kept_iff cipher holds.1 holds.2 event)
    (fun poller event holds kept => ⟨tracked_next holds.1 event, kept.heard⟩)
    ⟨tracked_opened accounts, heard_opened accounts⟩]
  exact (Run.along_iff_split ..).symm

def sampleCipher : Cipher := ⟨some⟩

/-- The credentials are rotated while the account is polled. -/
def rotatedEvents : List Event := [
  .create "ba_1" "user:old", .read, .reconcile, .start 0, .enter 0,
  .rotate "ba_1" "user:new", .read]

theorem rotated_credentials_are_not_used :
    ¬∀ (cipher : Cipher) (accounts : Table BankAccount.id) (events : List Event)
        (prior later : List Event) (event : Event), events = prior ++ event :: later →
      Kept cipher (prior.foldl Poller.next (opened accounts)) event := by
  intro claimed
  have kept := claimed sampleCipher .empty (rotatedEvents ++ [.reconcile]) rotatedEvents []
    .reconcile rfl
  have polled := kept.scanned rfl (by decide) ⟨"ba_1", .active, true, "user:new"⟩ (by decide) rfl
  obtain ⟨task, only, -, used⟩ := polled
  have listed : ((rotatedEvents.foldl Poller.next (opened .empty)).next .reconcile).ofAccount "ba_1" =
        [⟨0, ⟨"ba_1", .active, true, "user:old"⟩, .polling 0, false⟩] := by decide
  obtain rfl : _ = task := List.singleton_inj.mp (listed.symm.trans only)
  revert used
  decide

end ApiBank.Worker.TaskRegistry
