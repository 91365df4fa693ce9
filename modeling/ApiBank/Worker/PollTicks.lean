import ApiBank.Core.Polling

/-!
# Ticks of the poll loop

A tick opens a session, loads the cursor of the account, fetches the window from the
cursor up to now, ingests what the adapter yields, saves the cursor and commits. Every
new transaction is committed on its own on the way, and with it whatever else the
session holds, the cursor row included. An exception or a restart loses what the session
has not committed.

A credit that loses a race for its idempotency key rolls the whole session back. The
order it was called with has expired then, and the next attribute of it that is read
raises.
-/

namespace ApiBank.Worker.PollTicks

open ApiBank.Billing ApiBank.Db ApiBank.Relational ApiBank.Transition
open Core.Ingest Core.Matcher Core.Polling

set_option autoImplicit false

/-- A row of `poll_cursors`. -/
structure PollCursor where
  bankAccountId : String
  lastSeenAt : Option DateTime
  lastRefNo : Option String
deriving DecidableEq, Repr

abbrev Cursors := Table PollCursor.bankAccountId

def loadCursor (cursors : Cursors) (bankAccountId : String) : Option (PollCursor × Cursors) :=
  match cursors.find? bankAccountId with
  | some cursor => some (cursor, cursors)
  | none =>
      let cursor : PollCursor := ⟨bankAccountId, none, none⟩
      (cursors.insert? cursor).map fun added => (cursor, added)

def saveCursor (cursors : Cursors) (bankAccountId : String) (lastSeenAt : Option DateTime)
    (lastRefNo : Option String) : Option Cursors :=
  (loadCursor cursors bankAccountId).map fun loaded =>
    loaded.2.modify bankAccountId (fun cursor => { cursor with lastSeenAt, lastRefNo })
      fun _ => rfl

/-- Where a window that ends at `finish` starts: at the cursor, but at most two days
before its end. -/
def windowStart (cursorSeen : Option DateTime) (finish : DateTime) : DateTime :=
  let earliest := finish.add (-days 2)
  let start := match cursorSeen with
    | some seen => seen.aware
    | none => earliest
  if start.instant < earliest.instant then earliest else start

/-- The end is a reading of `datetime.now(UTC)`. -/
structure Window where
  start : DateTime
  finish : Int
deriving DecidableEq, Repr

/-- The account, and whether the database gives datetimes back with their offset. -/
structure Site where
  unicode : UnicodeData
  bankAccountId : String
  keepsOffset : Bool

/-- A clock reading as the next session reads it from its column. -/
def Site.stored (site : Site) (now : Int) : DateTime :=
  if site.keepsOffset then .utc now else ⟨now, none⟩

/-- The variables of a tick, the cursors as its session has them, and what the adapter
has yielded so far. -/
structure Tick where
  window : Window
  cursors : Cursors
  lastRef : Option String
  returned : List BankTransaction

def Tick.ingested (tick : Tick) (bankTransaction : BankTransaction) : Tick :=
  { tick with
    lastRef := some bankTransaction.bankRefNo
    returned := tick.returned ++ [bankTransaction] }

/-- What the loop is at. `saving` is the tick between `save_cursor` and its commit,
`expired` the call of `ingest_transaction` after the session was rolled back. -/
inductive Activity where
  | idle
  | fetching (tick : Tick)
  | ingesting (tick : Tick) (working : Database) (bankTransaction : BankTransaction)
      (draws : IngestDraws) (stage : Stage)
  | expired
  | saving (tick : Tick)

/-- A tick that has committed its cursor. -/
structure Success where
  window : Window
  returned : List BankTransaction

/-- The committed rows, and the successful ticks, the last one first. -/
structure Poller where
  db : Database
  cursors : Cursors
  successes : List Success
  activity : Activity

/-- `stop` is an exception of any statement, or the end of the process. `other` is a
commit of another session, between two calls of `ingest_transaction`. -/
inductive Event where
  | begin (now : Int)
  | receive (bankTransaction : BankTransaction) (draws : IngestDraws)
  | advance
  | race
  | finish
  | commit
  | stop
  | other (db : Database)

namespace Site

variable (site : Site)

def begin (poller : Poller) (now : Int) : Poller :=
  match poller.activity with
  | .idle =>
      match loadCursor poller.cursors site.bankAccountId with
      | some (cursor, cursors) =>
          let window : Window := ⟨windowStart cursor.lastSeenAt (.utc now), now⟩
          { poller with activity := .fetching ⟨window, cursors, cursor.lastRefNo, []⟩ }
      | none => poller
  | _ => poller

/-- The next statement of `ingest_transaction`, its commit included. -/
def advance (poller : Poller) : Poller :=
  match poller.activity with
  | .ingesting tick working bankTransaction draws stage =>
      match stage with
      | .known => { poller with activity := .fetching (tick.ingested bankTransaction) }
      | .closing => { poller with
          db := working
          cursors := tick.cursors
          activity := .fetching (tick.ingested bankTransaction) }
      | stage =>
          match stage.advance site.unicode site.bankAccountId bankTransaction draws working with
          | .ok next after =>
              { poller with activity := .ingesting tick after bankTransaction draws next }
          | .error _ _ => { poller with activity := .idle }
  | .expired => { poller with activity := .idle }
  | _ => poller

/-- The idempotency key of the credit was committed by another session after it was looked
for. -/
def race (poller : Poller) : Poller :=
  match poller.activity with
  | .ingesting _ _ _ _ (.crediting paid _) =>
      if Topup.isTopupOrder paid then { poller with activity := .expired } else poller
  | _ => poller

def finish (poller : Poller) : Poller :=
  match poller.activity with
  | .fetching tick =>
      match saveCursor tick.cursors site.bankAccountId (some (site.stored tick.window.finish))
          tick.lastRef with
      | some cursors => { poller with activity := .saving { tick with cursors } }
      | none => { poller with activity := .idle }
  | _ => poller

def commit (poller : Poller) : Poller :=
  match poller.activity with
  | .saving tick => { poller with
      cursors := tick.cursors
      successes := ⟨tick.window, tick.returned⟩ :: poller.successes
      activity := .idle }
  | _ => poller

/-- Nobody deletes transactions or gives them other references. -/
def retains (before after : Database) : Bool :=
  before.transactions.rows.all fun row => row.bankAccountId ≠ site.bankAccountId ||
    (storedTransaction after site.bankAccountId row.bankRefNo).isSome

def other (poller : Poller) (db : Database) : Poller :=
  match poller.activity with
  | .ingesting .. => poller
  | _ => if site.retains poller.db db then { poller with db } else poller

/-- One event. One that is not possible now changes nothing. -/
def next (poller : Poller) : Event → Poller
  | .begin now => site.begin poller now
  | .receive bankTransaction draws =>
      match poller.activity with
      | .fetching tick => { poller with
          activity := .ingesting tick poller.db bankTransaction draws .looking }
      | _ => poller
  | .advance => site.advance poller
  | .race => race poller
  | .finish => site.finish poller
  | .commit => commit poller
  | .stop => { poller with activity := .idle }
  | .other db => site.other poller db

/-- The `last_seen_at` of the account. -/
def lastSeen (cursors : Cursors) : Option DateTime :=
  (cursors.find? site.bankAccountId).bind PollCursor.lastSeenAt

end Site

/-- Before the first tick. -/
def opened (db : Database) (cursors : Cursors) : Poller where
  db := db
  cursors := cursors
  successes := []
  activity := .idle

section Cursors

variable {site : Site} {cursors loaded : Cursors} {cursor : PollCursor}

@[simp] theorem instant_stored (site : Site) (now : Int) : (site.stored now).instant = now := by
  unfold Site.stored
  split
  · exact DateTime.instant_utc now
  · exact Int.sub_zero now

/-- Loading reads the column and leaves it. -/
theorem lastSeen_of_loadCursor
    (ran : loadCursor cursors site.bankAccountId = some (cursor, loaded)) :
    cursor.lastSeenAt = site.lastSeen cursors ∧ site.lastSeen loaded = site.lastSeen cursors := by
  unfold loadCursor at ran
  split at ran
  · rename_i row found
    cases ran
    exact ⟨by simp [Site.lastSeen, found], rfl⟩
  · rename_i missing
    obtain ⟨added, inserted, same⟩ := Option.map_eq_some_iff.mp ran
    cases same
    have first : site.lastSeen cursors = none := by simp [Site.lastSeen, missing]
    refine ⟨first.symm, ?_⟩
    rw [first, Site.lastSeen, Table.find?_insert? inserted, if_pos rfl]
    rfl

theorem lastSeen_of_saveCursor {lastSeenAt : Option DateTime} {lastRefNo : Option String}
    (ran : saveCursor cursors site.bankAccountId lastSeenAt lastRefNo = some loaded) :
    site.lastSeen loaded = lastSeenAt := by
  obtain ⟨⟨cursor, opened⟩, loading, rfl⟩ := Option.map_eq_some_iff.mp ran
  have present : ∃ row, opened.find? site.bankAccountId = some row := by
    unfold loadCursor at loading
    split at loading
    · rename_i found
      cases loading
      exact ⟨_, found⟩
    · obtain ⟨added, inserted, same⟩ := Option.map_eq_some_iff.mp loading
      cases same
      exact ⟨_, by rw [Table.find?_insert? inserted, if_pos rfl]⟩
  obtain ⟨row, found⟩ := present
  rw [Site.lastSeen, Table.find?_modify, if_pos rfl, found]
  rfl

theorem instant_windowStart {seen finish : DateTime}
    (near : finish.instant ≤ seen.instant + days 2) :
    (windowStart (some seen) finish).instant = seen.instant := by
  simp only [windowStart]
  split
  · rename_i before
    simp only [DateTime.instant_aware, DateTime.instant_add] at before
    omega
  · exact DateTime.instant_aware seen

end Cursors

end ApiBank.Worker.PollTicks
