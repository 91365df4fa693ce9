import ApiBank.Worker.Supervised

/-!
# Kicks of a poll loop

The loop reads whether it should poll, fetches the history of the bank when it should,
and waits. It waits for its event at three sites, for `poll_interval` at most: before the
first login and later on while no order is pending, and after a tick without an error.
At each it reports its status, clears the event and starts to wait; nothing comes between
the last two. `kick` sets the event: a kick that finds the loop waiting ends the wait, one
that comes earlier is gone when the event is cleared.

A refused login backs off, and a tick that fails is followed by a sleep. Neither looks at
the event. A tick that ends in `BankAuthError` logs in again and goes on without a wait.
-/

namespace ApiBank.Worker.PollKicks

open ApiBank.Db ApiBank.Transition
open Supervised (Round)

set_option autoImplicit false

/-- What the task keeps of its account, and `poll_interval` of the settings in seconds. -/
structure PollTask where
  pollOnlyWhenPending : Bool
  pollInterval : Int
deriving DecidableEq, Repr

/-- The value of `login_backoff`. -/
structure Backoff where
  wait : Int
  least : seconds 30 ≤ wait
deriving DecidableEq, Repr

theorem seconds_mono {shorter longer : Int} (le : shorter ≤ longer) :
    seconds shorter ≤ seconds longer := by
  unfold seconds
  omega

theorem Backoff.least_doubled (backoff : Backoff) :
    seconds 30 ≤ min (backoff.wait * 2) (seconds 600) := by
  have least := backoff.least
  have positive : 0 ≤ seconds 30 := seconds_mono (by decide : (0 : Int) ≤ 30)
  have most : seconds 30 ≤ seconds 600 := seconds_mono (by decide)
  omega

def Backoff.first : Backoff := ⟨seconds 30, Int.le_refl _⟩

def Backoff.doubled (backoff : Backoff) : Backoff :=
  ⟨min (backoff.wait * 2) (seconds 600), backoff.least_doubled⟩

/-- The loop before the first login, and the one that polls. -/
inductive Loop where
  | idle
  | polling
deriving DecidableEq, Repr

/-- Where the event is waited for. -/
inductive Site where
  | idle
  | order
  | tick
deriving DecidableEq, Repr

/-- What the task is at. `checking` is `_should_poll` until its last query is answered,
`checked` what comes between that and the next step of the loop. `reporting` is the status
update before a wait, `troubled` the one before a sleep. -/
inductive Phase where
  | checking (loop : Loop)
  | checked (loop : Loop) (due : Bool)
  | reporting (site : Site)
  | awaiting (site : Site) (wakeAt : Int)
  | loggingIn (loginBackoff : Backoff)
  | refused (loginBackoff : Backoff)
  | backingOff (wakeAt : Int) (loginBackoff : Backoff)
  | loggedIn
  | fetching
  | expired
  | relogging
  | relogged
  | troubled (pause : Int)
  | sleeping (wakeAt : Int)
  | refreshing
  | stopped
deriving DecidableEq, Repr

/-- The task, its event, the clock, and the time that the task has spent waiting. -/
structure Poller where
  phase : Phase
  kicked : Bool
  now : Int
  waited : Int
deriving DecidableEq, Repr

/-- `read` is the answer of the last query of `_should_poll`: the policy that is stored now,
if the account is, and whether an order is pending. `resume` goes on to the next `await`,
`await` clears the event and waits for it. `stop` is a shutdown, a cancelation or an
exception that nobody catches. -/
inductive Event where
  | elapse (time : Nat)
  | kick
  | read (policy : Option Bool) (pending : Bool)
  | resume
  | await
  | wake
  | login (accepted : Bool)
  | fetch
  | finish (round : Round)
  | stop
deriving DecidableEq, Repr

/-- A wait that time ends, and what the task does after it. -/
structure Wait where
  wakeAt : Int
  after : Phase
deriving DecidableEq, Repr

/-- After an early kick as after a timeout. -/
def Site.after : Site → Phase
  | .idle => .checking .idle
  | .order => .checking .polling
  | .tick => .refreshing

def Phase.wait : Phase → Option Wait
  | .awaiting site wakeAt => some ⟨wakeAt, site.after⟩
  | .backingOff wakeAt loginBackoff => some ⟨wakeAt, .loggingIn loginBackoff⟩
  | .sleeping wakeAt => some ⟨wakeAt, .refreshing⟩
  | _ => none

/-- The end of the `try` statement of a tick. -/
def afterFetch : Round → Phase
  | .ok => .reporting .tick
  | .authError => .expired
  | .rateLimited => .troubled (seconds 60)
  | .failed => .troubled (seconds 30)

/-- The event is set, and the task waits for it. -/
def Poller.roused (poller : Poller) : Bool :=
  match poller.phase with
  | .awaiting _ _ => poller.kicked
  | _ => false

def Poller.kick (poller : Poller) : Poller := { poller with kicked := true }

/-- A task that waits goes on as soon as it can. -/
def Poller.elapse (poller : Poller) (time : Nat) : Option Poller :=
  match poller.phase.wait with
  | none => some { poller with now := poller.now + time }
  | some wait =>
      if poller.roused = false ∧ poller.now + time ≤ wait.wakeAt then
        some { poller with now := poller.now + time, waited := poller.waited + time }
      else none

def Poller.wake (poller : Poller) : Option Poller :=
  match poller.phase.wait with
  | none => none
  | some wait =>
      if poller.roused = true ∨ wait.wakeAt ≤ poller.now then
        some { poller with phase := wait.after }
      else none

namespace PollTask

variable (task : PollTask)

/-- `_should_poll`. A policy that is not stored any more is the one of the task. -/
def shouldPoll (policy : Option Bool) (pending : Bool) : Bool :=
  if policy.getD task.pollOnlyWhenPending then pending else true

def await (poller : Poller) : Option Poller :=
  match poller.phase with
  | .reporting site => some { poller with
      phase := .awaiting site (poller.now + seconds task.pollInterval)
      kicked := false }
  | _ => none

/-- What the task does next where neither the event nor a timeout decides. -/
def advance (now : Int) : Phase → Event → Option Phase
  | .checking loop, .read policy pending =>
      some (.checked loop (task.shouldPoll policy pending))
  | .checked .idle true, .resume => some (.loggingIn .first)
  | .checked .idle false, .resume => some (.reporting .idle)
  | .loggingIn _, .login true => some .loggedIn
  | .loggingIn loginBackoff, .login false => some (.refused loginBackoff)
  | .loggedIn, .resume => some (.checking .polling)
  | .refused loginBackoff, .resume =>
      some (.backingOff (now + loginBackoff.wait) loginBackoff.doubled)
  | .checked .polling false, .resume => some (.reporting .order)
  | .checked .polling true, .fetch => some .fetching
  | .fetching, .finish round => some (afterFetch round)
  | .expired, .resume => some .relogging
  | .relogging, .login _ => some .relogged
  | .relogged, .resume => some .refreshing
  | .troubled pause, .resume => some (.sleeping (now + pause))
  | .refreshing, .resume => some (.checking .polling)
  | _, _ => none

def next (poller : Poller) : Event → Option Poller
  | .elapse time => poller.elapse time
  | .kick => some poller.kick
  | .await => task.await poller
  | .wake => poller.wake
  | .stop => some { poller with phase := .stopped }
  | event => (task.advance poller.now poller.phase event).map fun phase => { poller with phase }

/-- The task after `register`, which gives it the event that the account has already, if it
has one. -/
def opened (kicked : Bool) (now : Int) : Poller where
  phase := if task.pollOnlyWhenPending then .checking .idle else .loggingIn .first
  kicked := kicked
  now := now
  waited := 0

abbrev Steps : Poller → Event → Poller → Prop :=
  fun poller event after => task.next poller event = some after

end PollTask

/-- How far a kick has come: no check was read since, one was read that calls for a fetch, or
all is done that there is to do. -/
inductive Answer where
  | unread
  | unfetched
  | answered
deriving DecidableEq, Repr

def Answer.next (task : PollTask) : Answer → Event → Answer
  | .answered, _ => .answered
  | _, .read policy pending => if task.shouldPoll policy pending then .unfetched else .answered
  | .unfetched, .fetch => .answered
  | answer, _ => answer

def answer (task : PollTask) (later : List Event) : Answer :=
  later.foldl (Answer.next task) .unread

/-- Neither a check nor a fetch. -/
def Event.quiet : Event → Bool
  | .read _ _ | .fetch => false
  | _ => true

/-- The steps that the task makes itself. -/
def Event.moves : Event → Bool
  | .elapse _ | .kick | .stop => false
  | _ => true

def moves (later : List Event) : Nat := later.countP Event.moves

/-- The task can make a step of its own, or it waits and time can pass. -/
def PollTask.GoesOn (task : PollTask) (poller : Poller) : Prop :=
  ∃ event after, task.next poller event = some after ∧
    (event.moves = true ∨ poller.waited < after.waited)

/-- However the run goes on: as long as the kick has not come far enough the loop has not
waited for a whole `poll_interval`, and it goes on, unless it was stopped, with only so many
steps until then. -/
def InTime (task : PollTask) (owed : Answer → Prop) (kicked : Poller) : Prop :=
  ∃ most : Nat, ∀ later last, Run task.Steps kicked later last → owed (answer task later) →
    last.waited < kicked.waited + seconds task.pollInterval ∧ moves later ≤ most ∧
      (last.phase = .stopped ∨ task.GoesOn last)

/-- The loop reads another check in time. -/
def ChecksInTime (task : PollTask) : Poller → Prop := InTime task fun answer => answer = .unread

/-- The loop reads another check in time, and if that says so it fetches in time. -/
def ActsInTime (task : PollTask) : Poller → Prop := InTime task fun answer => answer ≠ .answered

/-- The kicks of a run that come after a check was read or a fetch began, by what they find. -/
def Kicks (task : PollTask) (start : Poller) (events : List Event) (poller : Poller) : Prop :=
  ∃ prior later, events = prior ++ .kick :: later ∧ (∃ event ∈ prior, event.quiet = false) ∧
    Run task.Steps start prior poller

/-- The longest that the loop waits before it reads the next check, while the event is set.
There is none where it may clear the event first, or back off any number of times. -/
def Phase.ahead (now : Int) : Phase → Option Nat
  | .checked _ _ | .reporting _ | .fetching => none
  | .loggingIn _ | .refused _ | .backingOff _ _ => none
  | .troubled pause => some pause.toNat
  | .sleeping wakeAt => some (wakeAt - now).toNat
  | _ => some 0

/-- The event survives until the next check, which is less than `poll_interval` away. -/
def PollTask.Hears (task : PollTask) (poller : Poller) : Prop :=
  ∃ wait, poller.phase.ahead poller.now = some wait ∧ (wait : Int) < seconds task.pollInterval

/-- The first login was accepted. -/
def Phase.entered : Phase → Bool
  | .checking .idle | .checked .idle _ | .reporting .idle | .awaiting .idle _ => false
  | .loggingIn _ | .refused _ | .backingOff _ _ => false
  | _ => true

section Steps

variable {task : PollTask} {poller after : Poller} {event : Event} {phase : Phase} {now : Int}

/-- What one step can do. -/
inductive Stepped (task : PollTask) (poller : Poller) : Event → Poller → Prop where
  | passed (time : Nat) (busy : poller.phase.wait = none) :
      Stepped task poller (.elapse time) { poller with now := poller.now + time }
  | waited (time : Nat) (wait : Wait) (waits : poller.phase.wait = some wait)
      (undisturbed : poller.roused = false) (early : poller.now + time ≤ wait.wakeAt) :
      Stepped task poller (.elapse time)
        { poller with now := poller.now + time, waited := poller.waited + time }
  | kicked : Stepped task poller .kick poller.kick
  | cleared (site : Site) (reporting : poller.phase = .reporting site) :
      Stepped task poller .await { poller with
        phase := .awaiting site (poller.now + seconds task.pollInterval)
        kicked := false }
  | woke (wait : Wait) (waits : poller.phase.wait = some wait)
      (due : poller.roused = true ∨ wait.wakeAt ≤ poller.now) :
      Stepped task poller .wake { poller with phase := wait.after }
  | stopped : Stepped task poller .stop { poller with phase := .stopped }
  | advanced (event : Event) (phase : Phase)
      (went : task.advance poller.now poller.phase event = some phase) :
      Stepped task poller event { poller with phase }

theorem stepped_of_next (taken : task.next poller event = some after) :
    Stepped task poller event after := by
  cases event with
  | elapse time =>
      simp only [PollTask.next, Poller.elapse] at taken
      split at taken
      · rename_i busy
        cases taken
        exact .passed time busy
      · rename_i wait waits
        split at taken
        · rename_i condition
          cases taken
          exact .waited time wait waits condition.1 condition.2
        · contradiction
  | kick =>
      cases taken
      exact .kicked
  | await =>
      simp only [PollTask.next, PollTask.await] at taken
      split at taken
      · rename_i site reporting
        cases taken
        exact .cleared site reporting
      · contradiction
  | wake =>
      simp only [PollTask.next, Poller.wake] at taken
      split at taken
      · contradiction
      · rename_i wait waits
        split at taken
        · rename_i due
          cases taken
          exact .woke wait waits due
        · contradiction
  | stop =>
      cases taken
      exact .stopped
  | read policy pending | resume | login accepted | fetch | finish round =>
      obtain ⟨phase, went, rfl⟩ := Option.map_eq_some_iff.mp taken
      exact .advanced _ phase went

theorem elapse_eq {wait : Wait} {time : Nat} (waits : poller.phase.wait = some wait)
    (undisturbed : poller.roused = false) (early : poller.now + time ≤ wait.wakeAt) :
    task.next poller (.elapse time) =
      some { poller with now := poller.now + time, waited := poller.waited + time } := by
  simp only [PollTask.next, Poller.elapse, waits]
  rw [if_pos ⟨undisturbed, early⟩]

theorem wake_eq {wait : Wait} (waits : poller.phase.wait = some wait)
    (due : poller.roused = true ∨ wait.wakeAt ≤ poller.now) :
    task.next poller .wake = some { poller with phase := wait.after } := by
  simp only [PollTask.next, Poller.wake, waits]
  rw [if_pos due]

theorem goesOn_of_wait {wait : Wait} (waits : poller.phase.wait = some wait) :
    task.GoesOn poller := by
  by_cases due : poller.roused = true ∨ wait.wakeAt ≤ poller.now
  · exact ⟨.wake, _, wake_eq waits due, .inl rfl⟩
  · obtain ⟨disturbed, early⟩ := not_or.mp due
    have passed : task.next poller (.elapse 1) = some { poller with
        now := poller.now + 1, waited := poller.waited + 1 } :=
      elapse_eq waits (Bool.eq_false_iff.mpr disturbed) (by omega)
    exact ⟨.elapse 1, _, passed, .inr (Int.lt_succ poller.waited)⟩

theorem goesOn_of_advance (event : Event) (moves : event.moves = true)
    (taken : task.next poller event = some after) : task.GoesOn poller :=
  ⟨event, after, taken, .inl moves⟩

theorem stopped_or_goesOn (task : PollTask) (poller : Poller) :
    poller.phase = .stopped ∨ task.GoesOn poller := by
  obtain ⟨phase, kicked, now, waited⟩ := poller
  cases phase with
  | awaiting | backingOff | sleeping => exact .inr (goesOn_of_wait rfl)
  | checking => exact .inr (goesOn_of_advance (.read none true) rfl rfl)
  | checked loop due =>
      cases loop <;> cases due
      all_goals first
        | exact .inr (goesOn_of_advance .resume rfl rfl)
        | exact .inr (goesOn_of_advance .fetch rfl rfl)
  | reporting => exact .inr (goesOn_of_advance .await rfl rfl)
  | loggingIn | relogging => exact .inr (goesOn_of_advance (.login true) rfl rfl)
  | fetching => exact .inr (goesOn_of_advance (.finish .ok) rfl rfl)
  | refused | loggedIn | expired | relogged | troubled | refreshing =>
      exact .inr (goesOn_of_advance .resume rfl rfl)
  | stopped => exact .inl rfl

/-- A bound on the steps that the task makes until it reads the next check, where it waits
for no answer but that of the bank to one login. -/
def Phase.rank : Phase → Nat
  | .awaiting .tick _ | .sleeping _ | .relogged => 2
  | .awaiting _ _ | .loggedIn | .refreshing => 1
  | .troubled _ | .relogging => 3
  | .expired => 4
  | _ => 0

/-- One phase closer to the next check. -/
structure Closer (now : Int) (phase next : Phase) (wait : Nat) : Prop where
  ahead : ∃ left ≤ wait, next.ahead now = some left
  rank : next.rank < phase.rank
  entered : phase.entered = true → next.entered = true

theorem closer_of_advance {wait : Nat} {next : Phase} (ahead : phase.ahead now = some wait)
    (unread : ∀ policy pending, event ≠ .read policy pending)
    (went : task.advance now phase event = some next) : Closer now phase next wait := by
  unfold PollTask.advance at went
  split at went
  all_goals cases went
  case h_1 => exact absurd rfl (unread _ _)
  case h_14 pause =>
      cases ahead
      have same : now + pause - now = pause := by omega
      exact ⟨⟨_, Nat.le_refl _, by rw [Phase.ahead, same]⟩, Nat.lt_succ_self 2, fun _ => rfl⟩
  all_goals first
    | contradiction
    | cases ahead; exact ⟨⟨0, Nat.le_refl _, rfl⟩, by decide, fun _ => rfl⟩

theorem closer_of_wait {wait : Nat} {pausing : Wait} (ahead : phase.ahead now = some wait)
    (waits : phase.wait = some pausing) : Closer now phase pausing.after wait := by
  cases phase with
  | awaiting site wakeAt =>
      cases waits
      exact ⟨⟨0, Nat.zero_le _, by cases site <;> rfl⟩, by cases site <;> exact Nat.lt_succ_self _,
        by cases site <;> simp [Phase.entered, Site.after]⟩
  | sleeping wakeAt =>
      cases waits
      exact ⟨⟨0, Nat.zero_le _, rfl⟩, Nat.lt_succ_self 1, fun _ => rfl⟩
  | _ => contradiction

/-- Time that passes while the event is set is waited for only in a sleep. -/
theorem ahead_of_waited {wait time : Nat} {pausing : Wait} (kicked : poller.kicked = true)
    (ahead : poller.phase.ahead poller.now = some wait)
    (waits : poller.phase.wait = some pausing) (undisturbed : poller.roused = false)
    (early : poller.now + time ≤ pausing.wakeAt) :
    ∃ left, poller.phase.ahead (poller.now + time) = some left ∧ left + time = wait := by
  obtain ⟨phase, isKicked, now, waited⟩ := poller
  cases phase with
  | awaiting site wakeAt => exact absurd (kicked.symm.trans undisturbed) (by decide)
  | sleeping wakeAt =>
      cases waits
      cases ahead
      refine ⟨_, rfl, ?_⟩
      dsimp only at early ⊢
      omega
  | _ => contradiction

theorem ahead_of_passed {time wait : Nat} (ahead : phase.ahead now = some wait)
    (busy : phase.wait = none) : phase.ahead (now + time) = some wait := by
  cases phase with
  | sleeping wakeAt => contradiction
  | _ => exact ahead

/-- The event is set, and what was waited and what is still ahead stay within a bound. -/
structure Underway (heard poller : Poller) (wait : Nat) : Prop where
  kicked : poller.kicked = true
  ahead : ∃ left, poller.phase.ahead poller.now = some left ∧
    poller.waited + left ≤ heard.waited + wait
  entered : heard.phase.entered = true → poller.phase.entered = true

/-- As long as no check is read the task stays under way, and every step that it makes brings
it closer to the check. -/
theorem underway_step {heard : Poller} {wait : Nat} (underway : Underway heard poller wait)
    (unread : ∀ policy pending, event ≠ .read policy pending)
    (taken : task.next poller event = some after) :
    Underway heard after wait ∧
      after.phase.rank + (if event.moves then 1 else 0) ≤ poller.phase.rank := by
  obtain ⟨kicked, ⟨left, ahead, within⟩, entered⟩ := underway
  cases stepped_of_next taken with
  | passed time busy =>
      exact ⟨⟨kicked, ⟨left, ahead_of_passed ahead busy, within⟩, entered⟩, Nat.le_refl _⟩
  | waited time pausing waits undisturbed early =>
      obtain ⟨rest, still, spent⟩ := ahead_of_waited kicked ahead waits undisturbed early
      refine ⟨⟨kicked, ⟨rest, still, ?_⟩, entered⟩, Nat.le_refl _⟩
      dsimp only
      omega
  | kicked => exact ⟨⟨rfl, ⟨left, ahead, within⟩, entered⟩, Nat.le_refl _⟩
  | cleared site reporting =>
      rw [reporting] at ahead
      contradiction
  | woke pausing waits due =>
      obtain ⟨⟨rest, less, still⟩, rank, keeps⟩ := closer_of_wait ahead waits
      refine ⟨⟨kicked, ⟨rest, still, ?_⟩, fun started => keeps (entered started)⟩, rank⟩
      dsimp only
      omega
  | stopped =>
      refine ⟨⟨kicked, ⟨0, rfl, ?_⟩, fun _ => rfl⟩, Nat.zero_le _⟩
      dsimp only
      omega
  | advanced event phase went =>
      obtain ⟨⟨rest, less, still⟩, rank, keeps⟩ := closer_of_advance ahead unread went
      refine ⟨⟨kicked, ⟨rest, still, ?_⟩, fun started => keeps (entered started)⟩, ?_⟩
      · dsimp only
        omega
      · have one : (if event.moves then 1 else 0) ≤ 1 := by split <;> decide
        dsimp only
        omega

theorem held_step (held : poller.phase = .checked .polling true ∨ poller.phase = .stopped)
    (unfetched : event ≠ .fetch) (taken : task.next poller event = some after) :
    (after.phase = .checked .polling true ∨ after.phase = .stopped) ∧
      after.waited = poller.waited ∧ event.moves = false := by
  have busy : poller.phase.wait = none := by
    rcases held with phase | phase <;> rw [phase] <;> rfl
  cases stepped_of_next taken with
  | passed time => exact ⟨held, rfl, rfl⟩
  | waited time pausing waits =>
      rw [busy] at waits
      contradiction
  | kicked => exact ⟨held, rfl, rfl⟩
  | cleared site reporting =>
      rw [reporting] at held
      rcases held with phase | phase <;> contradiction
  | woke pausing waits =>
      rw [busy] at waits
      contradiction
  | stopped => exact ⟨.inr rfl, rfl, rfl⟩
  | advanced event phase went =>
      rcases held with held | held <;> rw [held] at went <;> cases event <;> contradiction

theorem checked_of_read {policy : Option Bool} {pending : Bool}
    (taken : task.next poller (.read policy pending) = some after) :
    ∃ loop, poller.phase = .checking loop ∧
      after = { poller with phase := .checked loop (task.shouldPoll policy pending) } := by
  obtain ⟨phase, went, rfl⟩ := Option.map_eq_some_iff.mp taken
  cases current : poller.phase with
  | checking loop =>
      rw [current] at went
      cases went
      exact ⟨loop, rfl, rfl⟩
  | checked loop due =>
      rw [current] at went
      cases loop <;> cases due <;> contradiction
  | _ =>
      rw [current] at went
      contradiction

theorem next_eq_unread {before : Answer} (kept : before.next task event = .unread) :
    before = .unread ∧ ∀ policy pending, event ≠ .read policy pending := by
  cases before with
  | unread =>
      refine ⟨rfl, ?_⟩
      rintro policy pending rfl
      unfold Answer.next at kept
      dsimp only at kept
      split at kept <;> contradiction
  | unfetched => cases event <;> unfold Answer.next at kept <;> grind
  | answered => contradiction

theorem next_eq_unfetched {before : Answer} (kept : before.next task event = .unfetched) :
    (before = .unfetched ∧ event ≠ .fetch) ∨
      before = .unread ∧ ∃ policy pending, event = .read policy pending ∧
        task.shouldPoll policy pending = true := by
  cases before with
  | unread =>
      cases event with
      | read policy pending =>
          refine .inr ⟨rfl, policy, pending, rfl, ?_⟩
          by_contra no
          unfold Answer.next at kept
          dsimp only at kept
          rw [if_neg no] at kept
          contradiction
      | _ => contradiction
  | unfetched =>
      refine .inl ⟨rfl, ?_⟩
      rintro rfl
      contradiction
  | answered => contradiction

/-- What holds of a run since the kick. -/
structure OnTime (task : PollTask) (heard : Poller) (wait : Nat) (later : List Event)
    (poller : Poller) : Prop where
  unread : answer task later = .unread →
    Underway heard poller wait ∧ moves later + poller.phase.rank ≤ heard.phase.rank
  unfetched : heard.phase.entered = true → answer task later = .unfetched →
    (poller.phase = .checked .polling true ∨ poller.phase = .stopped) ∧
      poller.waited ≤ heard.waited + wait ∧ moves later ≤ heard.phase.rank + 1

theorem answer_snoc (task : PollTask) (later : List Event) (event : Event) :
    answer task (later ++ [event]) = (answer task later).next task event :=
  List.foldl_concat ..

theorem moves_snoc (later : List Event) (event : Event) :
    moves (later ++ [event]) = moves later + (if event.moves then 1 else 0) := by
  rw [moves, List.countP_append, List.countP_singleton]
  rfl

theorem onTime_step {heard : Poller} {wait : Nat} {later : List Event}
    (onTime : OnTime task heard wait later poller) (taken : task.next poller event = some after) :
    OnTime task heard wait (later ++ [event]) after := by
  constructor
  · intro kept
    rw [answer_snoc] at kept
    obtain ⟨before, unread⟩ := next_eq_unread kept
    obtain ⟨underway, bounded⟩ := onTime.unread before
    obtain ⟨still, rank⟩ := underway_step underway unread taken
    refine ⟨still, ?_⟩
    rw [moves_snoc]
    omega
  · intro entered kept
    rw [answer_snoc] at kept
    rw [moves_snoc]
    rcases next_eq_unfetched kept with ⟨before, unfetched⟩ | ⟨before, policy, pending, rfl, due⟩
    · obtain ⟨held, within, bounded⟩ := onTime.unfetched entered before
      obtain ⟨still, same, unmoved⟩ := held_step held unfetched taken
      rw [same, unmoved]
      exact ⟨still, within, bounded⟩
    · obtain ⟨underway, bounded⟩ := onTime.unread before
      obtain ⟨loop, checking, rfl⟩ := checked_of_read taken
      obtain ⟨left, ahead, within⟩ := underway.ahead
      have polling := underway.entered entered
      rw [checking] at polling
      cases loop with
      | idle => contradiction
      | polling =>
          rw [due]
          refine ⟨.inl rfl, ?_, ?_⟩
          · dsimp only
            omega
          · have one : (if (Event.read policy pending).moves then 1 else 0) = 1 := rfl
            omega

theorem onTime_run {heard last : Poller} {wait : Nat} {later : List Event}
    (run : Run task.Steps heard later last) (kicked : heard.kicked = true)
    (ahead : heard.phase.ahead heard.now = some wait) : OnTime task heard wait later last := by
  refine run.history (OnTime task heard wait) ⟨?_, ?_⟩ fun _ _ _ _ => onTime_step
  · intro _
    exact ⟨⟨kicked, ⟨wait, ahead, Int.le_refl _⟩, id⟩, by simp [moves]⟩
  · intro _ none
    contradiction

theorem checksInTime_of_hears (hears : task.Hears poller) : ChecksInTime task poller.kick := by
  obtain ⟨wait, ahead, short⟩ := hears
  refine ⟨poller.phase.rank, ?_⟩
  intro later last run unread
  obtain ⟨⟨-, ⟨left, -, within⟩, -⟩, bounded⟩ := (onTime_run run rfl ahead).unread unread
  exact ⟨by omega, Nat.le_trans (Nat.le_add_right _ _) bounded, stopped_or_goesOn task last⟩

theorem actsInTime_of_hears (hears : task.Hears poller) (entered : poller.phase.entered = true) :
    ActsInTime task poller.kick := by
  obtain ⟨wait, ahead, short⟩ := hears
  refine ⟨poller.phase.rank + 1, ?_⟩
  intro later last run owed
  have onTime := onTime_run run rfl ahead
  cases now : answer task later with
  | unread =>
      obtain ⟨⟨-, ⟨left, -, within⟩, -⟩, bounded⟩ := onTime.unread now
      have rank : poller.kick.phase.rank = poller.phase.rank := rfl
      exact ⟨by omega, by omega, stopped_or_goesOn task last⟩
  | unfetched =>
      obtain ⟨-, within, bounded⟩ := onTime.unfetched entered now
      exact ⟨by omega, bounded, stopped_or_goesOn task last⟩
  | answered => exact absurd now owed

end Steps

section Lost

variable {task : PollTask} {before between : Answer} {poller middle : Poller}

/-- In some run the task waits that long while the kick comes from `before` to `last`. -/
def Waits (task : PollTask) (before last : Answer) (amount : Int) (poller : Poller) : Prop :=
  ∃ later reached, Run task.Steps poller later reached ∧
    later.foldl (Answer.next task) before = last ∧ poller.waited + amount ≤ reached.waited

theorem not_inTime_of_waits (owed : Answer → Prop) {last : Answer} (unsettled : owed last)
    (waits : Waits task .unread last (seconds task.pollInterval) poller) :
    ¬InTime task owed poller := by
  rintro ⟨most, inTime⟩
  obtain ⟨later, reached, run, rfl, waited⟩ := waits
  have short := (inTime later reached run unsettled).1
  omega

theorem waits_mono {shorter longer : Int} {last : Answer} (le : shorter ≤ longer)
    (waits : Waits task before last longer poller) : Waits task before last shorter poller := by
  obtain ⟨later, reached, run, kept, waited⟩ := waits
  exact ⟨later, reached, run, kept, by omega⟩

theorem waits_zero (poller : Poller) : Waits task before before 0 poller :=
  ⟨[], poller, .nil, rfl, by omega⟩

theorem waits_step {amount rest : Int} {last : Answer} (event : Event)
    (later : Waits task between last rest middle) (taken : task.next poller event = some middle)
    (comes : before.next task event = between)
    (waited : poller.waited + amount ≤ middle.waited + rest) :
    Waits task before last amount poller := by
  obtain ⟨events, reached, run, still, whole⟩ := later
  refine ⟨event :: events, reached, (Run.single taken).append run, ?_, by omega⟩
  rw [List.foldl_cons, comes]
  exact still

theorem next_of_quiet {event : Event} (quiet : event.quiet = true) :
    before.next task event = before := by
  cases event <;> first | contradiction | cases before <;> rfl

theorem waits_elapse {amount : Int} {wait : Wait} (waits : poller.phase.wait = some wait)
    (undisturbed : poller.roused = false) (early : poller.now + amount ≤ wait.wakeAt) :
    Waits task before before amount poller := by
  rcases Int.le_total amount 0 with nothing | long
  · exact waits_mono nothing (waits_zero poller)
  · have whole := Int.toNat_of_nonneg long
    have passed : task.next poller (.elapse amount.toNat) = some { poller with
        now := poller.now + amount.toNat, waited := poller.waited + amount.toNat } :=
      elapse_eq waits undisturbed (by omega)
    apply waits_step (.elapse amount.toNat) (waits_zero _) passed (next_of_quiet rfl)
    dsimp only
    omega

/-- The event is cleared after the kick, and the wait times out. -/
theorem waits_reporting (site : Site) (kicked : Bool) (now waited : Int) :
    Waits task before before (seconds task.pollInterval)
      ⟨.reporting site, kicked, now, waited⟩ := by
  have wait : Waits task before before (seconds task.pollInterval)
      ⟨.awaiting site (now + seconds task.pollInterval), false, now, waited⟩ :=
    waits_elapse rfl rfl (Int.le_refl _)
  exact waits_step .await wait rfl (next_of_quiet rfl) (Int.le_refl _)

theorem waits_fetching (kicked : Bool) (now waited : Int) :
    Waits task before before (seconds task.pollInterval) ⟨.fetching, kicked, now, waited⟩ :=
  waits_step (.finish .ok) (waits_reporting .tick kicked now waited) rfl (next_of_quiet rfl)
    (Int.le_refl _)

theorem waits_backingOff {rest : Int} {wakeAt now : Int} {loginBackoff : Backoff} {kicked : Bool}
    (waited : Int)
    (later : ∀ now waited,
      Waits task before before rest ⟨.loggingIn loginBackoff, kicked, now, waited⟩) :
    Waits task before before ((wakeAt - now).toNat + rest)
      ⟨.backingOff wakeAt loginBackoff, kicked, now, waited⟩ := by
  have rested (now waited : Int) (past : wakeAt ≤ now) : Waits task before before rest
      ⟨.backingOff wakeAt loginBackoff, kicked, now, waited⟩ := by
    have woken : task.next ⟨.backingOff wakeAt loginBackoff, kicked, now, waited⟩ .wake =
        some ⟨.loggingIn loginBackoff, kicked, now, waited⟩ :=
      @wake_eq task ⟨.backingOff wakeAt loginBackoff, kicked, now, waited⟩
        ⟨wakeAt, .loggingIn loginBackoff⟩ rfl (.inr past)
    exact waits_step .wake (later now waited) woken (next_of_quiet rfl) (Int.le_refl _)
  rcases Int.le_total wakeAt now with past | early
  · apply waits_mono _ (rested now waited past)
    omega
  · have whole := Int.toNat_of_nonneg (Int.sub_nonneg_of_le early)
    have passed : task.next ⟨.backingOff wakeAt loginBackoff, kicked, now, waited⟩
        (.elapse (wakeAt - now).toNat) = some ⟨.backingOff wakeAt loginBackoff, kicked,
          now + (wakeAt - now).toNat, waited + (wakeAt - now).toNat⟩ :=
      elapse_eq rfl rfl (by dsimp only; omega)
    apply waits_step _ (rested _ _ (by omega)) passed (next_of_quiet rfl)
    dsimp only
    omega

/-- The bank refuses the login, again and again. -/
theorem waits_loggingIn (count : Nat) (loginBackoff : Backoff) (kicked : Bool)
    (now waited : Int) :
    Waits task before before count ⟨.loggingIn loginBackoff, kicked, now, waited⟩ := by
  induction count generalizing loginBackoff now waited with
  | zero => exact waits_zero _
  | succ count ih =>
      have least := loginBackoff.least
      have positive : 1 ≤ seconds 30 := by decide
      have backing : Waits task before before (count + 1)
          ⟨.backingOff (now + loginBackoff.wait) loginBackoff.doubled, kicked, now, waited⟩ := by
        apply waits_mono _ (waits_backingOff waited (ih loginBackoff.doubled))
        omega
      have refused : Waits task before before (count + 1)
          ⟨.refused loginBackoff, kicked, now, waited⟩ :=
        waits_step .resume backing rfl (next_of_quiet rfl) (Int.le_refl _)
      exact waits_step (.login false) refused rfl (next_of_quiet rfl) (Int.le_refl _)

/-- No number of backoffs is the last. -/
theorem waits_login (amount : Int) (loginBackoff : Backoff) (kicked : Bool) (now waited : Int) :
    Waits task before before amount ⟨.loggingIn loginBackoff, kicked, now, waited⟩ :=
  waits_mono (Int.self_le_toNat amount) (waits_loggingIn _ loginBackoff kicked now waited)

theorem waits_backedOff (amount wakeAt : Int) (loginBackoff : Backoff) (kicked : Bool)
    (now waited : Int) :
    Waits task before before amount ⟨.backingOff wakeAt loginBackoff, kicked, now, waited⟩ := by
  apply waits_mono _ (waits_backingOff waited (waits_login amount loginBackoff kicked))
  omega

theorem waits_called (amount : Int) (kicked : Bool) (now waited : Int) :
    Waits task before before amount ⟨.checked .idle true, kicked, now, waited⟩ :=
  waits_step .resume (waits_login amount .first kicked now waited) rfl (next_of_quiet rfl)
    (Int.le_refl _)

theorem waits_of_deaf (deaf : ¬task.Hears poller) :
    Waits task .unread .unread (seconds task.pollInterval) poller.kick := by
  by_cases positive : 0 < seconds task.pollInterval
  swap
  · exact waits_mono (Int.not_lt.mp positive) (waits_zero _)
  obtain ⟨phase, isKicked, now, waited⟩ := poller
  have far {wait : Nat} (ahead : phase.ahead now = some wait) :
      seconds task.pollInterval ≤ wait :=
    Int.not_lt.mp fun short => deaf ⟨wait, ahead, short⟩
  cases phase with
  | checked loop due =>
      cases loop <;> cases due
      · exact waits_step .resume (waits_reporting .idle true now waited) rfl (next_of_quiet rfl)
          (Int.le_refl _)
      · exact waits_called _ true now waited
      · exact waits_step .resume (waits_reporting .order true now waited) rfl (next_of_quiet rfl)
          (Int.le_refl _)
      · exact waits_step .fetch (waits_fetching true now waited) rfl rfl (Int.le_refl _)
  | reporting site => exact waits_reporting site true now waited
  | fetching => exact waits_fetching true now waited
  | loggingIn loginBackoff => exact waits_login _ loginBackoff true now waited
  | refused loginBackoff =>
      exact waits_step .resume (waits_backedOff _ _ loginBackoff.doubled true now waited) rfl
        (next_of_quiet rfl) (Int.le_refl _)
  | backingOff wakeAt loginBackoff => exact waits_backedOff _ wakeAt loginBackoff true now waited
  | troubled pause =>
      have long : seconds task.pollInterval ≤ pause.toNat := far rfl
      have sleeps : Waits task .unread .unread (seconds task.pollInterval)
          ⟨.sleeping (now + pause), true, now, waited⟩ :=
        waits_elapse rfl rfl (by dsimp only; omega)
      exact waits_step .resume sleeps rfl (next_of_quiet rfl) (Int.le_refl _)
  | sleeping wakeAt =>
      have long : seconds task.pollInterval ≤ (wakeAt - now).toNat := far rfl
      exact waits_elapse rfl rfl (by dsimp only [Poller.kick]; omega)
  | _ =>
      have long : seconds task.pollInterval ≤ (0 : Nat) := far rfl
      omega

/-- Before the first login the check is read in time, but the bank may refuse the login. -/
theorem waits_of_not_entered (hears : task.Hears poller) (out : poller.phase.entered = false) :
    Waits task .unread .unfetched (seconds task.pollInterval) poller.kick := by
  obtain ⟨wait, ahead, -⟩ := hears
  obtain ⟨phase, isKicked, now, waited⟩ := poller
  have due : task.shouldPoll none true = true := ite_self true
  have checking : Waits task .unread .unfetched (seconds task.pollInterval)
      ⟨.checking .idle, true, now, waited⟩ := by
    have checked : task.next ⟨.checking .idle, true, now, waited⟩ (.read none true) =
        some ⟨.checked .idle true, true, now, waited⟩ := by
      simp [PollTask.next, PollTask.advance, due]
    have called : Answer.unread.next task (.read none true) = .unfetched := by
      simp [Answer.next, due]
    exact waits_step (.read none true) (waits_called _ true now waited) checked called
      (Int.le_refl _)
  cases phase with
  | checking loop =>
      cases loop with
      | idle => exact checking
      | polling => contradiction
  | awaiting site wakeAt =>
      cases site with
      | idle =>
          have woken : task.next ⟨.awaiting .idle wakeAt, true, now, waited⟩ .wake =
              some ⟨.checking .idle, true, now, waited⟩ := rfl
          exact waits_step .wake checking woken (next_of_quiet rfl) (Int.le_refl _)
      | order | tick => contradiction
  | _ => contradiction

end Lost

theorem checksInTime_iff (task : PollTask) (poller : Poller) :
    ChecksInTime task poller.kick ↔ task.Hears poller := by
  constructor
  · intro inTime
    by_contra deaf
    exact not_inTime_of_waits (fun answer => answer = .unread) rfl (waits_of_deaf deaf) inTime
  · exact checksInTime_of_hears

theorem actsInTime_iff (task : PollTask) (poller : Poller) :
    ActsInTime task poller.kick ↔ task.Hears poller ∧ poller.phase.entered = true := by
  constructor
  · intro inTime
    have hears : task.Hears poller := by
      by_contra deaf
      exact not_inTime_of_waits (fun answer => answer ≠ .answered) (by decide) (waits_of_deaf deaf) inTime
    refine ⟨hears, ?_⟩
    by_contra out
    exact not_inTime_of_waits (fun answer => answer ≠ .answered) (by decide)
      (waits_of_not_entered hears (Bool.eq_false_iff.mpr out)) inTime
  · rintro ⟨hears, entered⟩
    exact actsInTime_of_hears hears entered

/-- No kick of a run is lost if and only if each of them finds a loop that hears it, after the
first login. -/
theorem no_kick_lost_iff (task : PollTask) (kicked : Bool) (now : Int) (events : List Event) :
    (∀ poller, Kicks task (task.opened kicked now) events poller →
        ActsInTime task poller.kick) ↔
      ∀ poller, Kicks task (task.opened kicked now) events poller →
        task.Hears poller ∧ poller.phase.entered = true := by
  apply forall_congr'
  intro poller
  apply imp_congr_right
  intro _
  exact actsInTime_iff task poller

/-- Every 20 seconds, while an order is pending. -/
def sampleTask : PollTask := ⟨true, 20⟩

def untilFetch : List Event :=
  [.read none true, .resume, .login true, .resume, .read none true, .fetch]

theorem kick_during_fetch_is_lost :
    ¬∀ (task : PollTask) (kicked : Bool) (now : Int) (events : List Event) (poller : Poller),
      Kicks task (task.opened kicked now) events poller → ActsInTime task poller.kick := by
  intro claimed
  have run : Run sampleTask.Steps (sampleTask.opened false 0) untilFetch
      ⟨.fetching, false, 0, 0⟩ := Run.of_foldlM_some sampleTask.next rfl
  have inTime := claimed sampleTask false 0 (untilFetch ++ [.kick]) _
    ⟨untilFetch, [], rfl, ⟨.fetch, by decide, rfl⟩, run⟩
  obtain ⟨most, prompt⟩ := inTime
  have lost : Run sampleTask.Steps ⟨.fetching, true, 0, 0⟩
      [.finish .ok, .await, .elapse 20000000]
      ⟨.awaiting .tick 20000000, false, 20000000, 20000000⟩ :=
    Run.of_foldlM_some sampleTask.next rfl
  have waited := (prompt _ _ lost (by decide)).1
  revert waited
  decide

end ApiBank.Worker.PollKicks
