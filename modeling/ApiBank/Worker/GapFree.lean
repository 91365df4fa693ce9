import ApiBank.Core.ExactlyOnce
import ApiBank.Transition.Run
import ApiBank.Worker.PollTicks

/-!
# Polls leave no gap

The cursor is committed last in a tick, after every transaction of the window. So a tick
that fails anywhere leaves `last_seen_at` where it was, and the next one starts there.
-/

namespace ApiBank.Worker.GapFree

open ApiBank.Db ApiBank.Relational ApiBank.Transition
open Core.Ingest Core.SameButIds PollTicks
open Core.ExactlyOnce (bankDay drawn fee shop)
open Core.MatchDecision (transfer)
open Core.Polling (Reached reached_of_advance)

set_option autoImplicit false

def IsStored (site : Site) (db : Database) (bankTransaction : BankTransaction) : Prop :=
  (storedTransaction db site.bankAccountId bankTransaction.bankRefNo).isSome = true

/-- Windows that are at most two days apart are contiguous, the cursor is at the end of
the last one, and what the adapter returned for them is stored. -/
structure Covered (site : Site) (start poller : Poller) : Prop where
  contiguous : poller.successes.IsChain fun later earlier =>
    later.window.finish ≤ earlier.window.finish + days 2 →
      later.window.start.instant = earlier.window.finish
  cursor : site.lastSeen poller.cursors = match poller.successes with
    | [] => site.lastSeen start.cursors
    | last :: _ => some (site.stored last.window.finish)
  stored : ∀ success ∈ poller.successes, ∀ bankTransaction ∈ success.returned,
    IsStored site poller.db bankTransaction

/-- A tick starts at the committed cursor, and what it was shown so far is stored. -/
structure TickSound (site : Site) (poller : Poller) (tick : Tick) : Prop where
  start : tick.window.start =
    windowStart (site.lastSeen poller.cursors) (.utc tick.window.finish)
  stored : ∀ bankTransaction ∈ tick.returned, IsStored site poller.db bankTransaction

/-- What the activity relies on. Until the tick saves it, the cursor of its session is
the committed one. -/
def Doing (site : Site) (poller : Poller) : Activity → Prop
  | .idle => True
  | .fetching tick =>
      TickSound site poller tick ∧ site.lastSeen tick.cursors = site.lastSeen poller.cursors
  | .ingesting tick working bankTransaction draws stage =>
      (TickSound site poller tick ∧ site.lastSeen tick.cursors = site.lastSeen poller.cursors) ∧
        Reached site.unicode site.bankAccountId bankTransaction draws poller.db working stage
  | .expired => True
  | .saving tick =>
      TickSound site poller tick ∧
        site.lastSeen tick.cursors = some (site.stored tick.window.finish)

structure Tracks (site : Site) (start poller : Poller) : Prop where
  covered : Covered site start poller
  doing : Doing site poller poller.activity

section Steps

variable {site : Site} {start poller : Poller} {tick : Tick} {db working : Database}
variable {bankTransaction : BankTransaction} {draws : IngestDraws}

theorem stored_of_retains (retained : site.retains db working = true)
    (stored : IsStored site db bankTransaction) : IsStored site working bankTransaction := by
  obtain ⟨row, member, account, reference⟩ := storedTransaction_isSome_iff.mp stored
  have kept := List.all_eq_true.mp retained row member
  rw [reference] at kept
  simpa [IsStored, account] using kept

/-- The commit of a new transaction: its row, and all the rows before it. -/
theorem stored_of_closing (reached : Reached site.unicode site.bankAccountId bankTransaction
      draws db working .closing) :
    IsStored site working bankTransaction ∧
      ∀ other, IsStored site db other → IsStored site working other := by
  obtain ⟨ingestion, fresh⟩ := reached
  obtain ⟨row, added⟩ := stored_of_ingestion fresh ingestion
  have appended : row ∈ working.transactions.rows := by
    rw [added.rows]
    exact List.mem_append_right _ (List.mem_singleton_self row)
  constructor
  · exact storedTransaction_isSome_iff.mpr ⟨row, appended, added.bankAccountId, added.bankRefNo⟩
  · intro other stored
    obtain ⟨old, member, same⟩ := storedTransaction_isSome_iff.mp stored
    refine storedTransaction_isSome_iff.mpr ⟨old, ?_, same⟩
    rw [added.rows]
    exact List.mem_append_left _ member

/-- More rows, and a cursor that has not moved, leave what is covered. -/
theorem covered_of_more {after : Poller} (covered : Covered site start poller)
    (same : after.successes = poller.successes)
    (unmoved : site.lastSeen after.cursors = site.lastSeen poller.cursors)
    (kept : ∀ other, IsStored site poller.db other → IsStored site after.db other) :
    Covered site start after where
  contiguous := same ▸ covered.contiguous
  cursor := by
    rw [unmoved, same]
    exact covered.cursor
  stored := by
    intro success member other returned
    exact kept other (covered.stored success (same ▸ member) other returned)

theorem tickSound_of_more {after : Poller} (sound : TickSound site poller tick)
    (unmoved : site.lastSeen after.cursors = site.lastSeen poller.cursors)
    (kept : ∀ other, IsStored site poller.db other → IsStored site after.db other) :
    TickSound site after tick where
  start := by
    rw [unmoved]
    exact sound.start
  stored := fun other returned => kept other (sound.stored other returned)

theorem tickSound_ingested (sound : TickSound site poller tick)
    (stored : IsStored site poller.db bankTransaction) :
    TickSound site poller (tick.ingested bankTransaction) where
  start := sound.start
  stored := by
    intro other member
    rcases List.mem_append.mp member with earlier | last
    · exact sound.stored other earlier
    · exact List.mem_singleton.mp last ▸ stored

/-- A tick that ends without its commit changes nothing. -/
theorem tracks_idle (tracks : Tracks site start poller) :
    Tracks site start { poller with activity := .idle } :=
  ⟨covered_of_more tracks.covered rfl rfl fun _ stored => stored, trivial⟩

theorem tracks_begin (tracks : Tracks site start poller) (now : Int) :
    Tracks site start (site.begin poller now) := by
  unfold Site.begin
  split
  · split
    · rename_i cursor cursors loaded
      obtain ⟨read, kept⟩ := lastSeen_of_loadCursor loaded
      refine ⟨covered_of_more tracks.covered rfl rfl fun _ stored => stored, ⟨?_, ?_⟩, kept⟩
      · exact congrArg (windowStart · (.utc now)) read
      · intro bankTransaction member
        cases member
    · exact tracks
  · exact tracks

theorem tracks_advance (tracks : Tracks site start poller) :
    Tracks site start (site.advance poller) := by
  have doing := tracks.doing
  unfold Site.advance
  split
  · rename_i tick working bankTransaction draws stage ingesting
    rw [ingesting] at doing
    obtain ⟨⟨sound, unmoved⟩, reached⟩ := doing
    split
    · obtain ⟨rfl, existing, known⟩ := reached
      refine ⟨covered_of_more tracks.covered rfl rfl fun _ stored => stored, ?_, unmoved⟩
      exact tickSound_ingested ⟨sound.start, sound.stored⟩ (Option.isSome_of_eq_some known)
    · obtain ⟨stored, kept⟩ := stored_of_closing reached
      refine ⟨covered_of_more tracks.covered rfl unmoved kept, ?_, rfl⟩
      exact tickSound_ingested (tickSound_of_more sound unmoved kept) stored
    · split
      · rename_i advanced
        refine ⟨covered_of_more tracks.covered rfl rfl fun _ stored => stored,
          ⟨⟨sound.start, sound.stored⟩, unmoved⟩, ?_⟩
        exact reached_of_advance reached advanced
      · exact tracks_idle tracks
  · exact tracks_idle tracks
  · exact tracks

theorem tracks_finish (tracks : Tracks site start poller) :
    Tracks site start (site.finish poller) := by
  have doing := tracks.doing
  unfold Site.finish
  split
  · rename_i tick fetching
    rw [fetching] at doing
    split
    · rename_i cursors saved
      exact ⟨covered_of_more tracks.covered rfl rfl fun _ stored => stored,
        ⟨doing.1.start, doing.1.stored⟩, lastSeen_of_saveCursor saved⟩
    · exact tracks_idle tracks
  · exact tracks

theorem contiguous_commit (covered : Covered site start poller)
    (sound : TickSound site poller tick) :
    (⟨tick.window, tick.returned⟩ :: poller.successes).IsChain fun later earlier : Success =>
      later.window.finish ≤ earlier.window.finish + days 2 →
        later.window.start.instant = earlier.window.finish := by
  have contiguous := covered.contiguous
  have cursor := covered.cursor
  cases successes : poller.successes with
  | nil => exact .singleton _
  | cons last rest =>
      rw [successes] at contiguous cursor
      refine .cons_cons ?_ contiguous
      intro near
      have start := sound.start
      rw [cursor] at start
      have within : (DateTime.utc tick.window.finish).instant ≤
          (site.stored last.window.finish).instant + days 2 := by simpa using near
      rw [start, instant_windowStart within, instant_stored]

theorem tracks_commit (tracks : Tracks site start poller) :
    Tracks site start (Site.commit poller) := by
  have doing := tracks.doing
  unfold Site.commit
  split
  · rename_i tick saving
    rw [saving] at doing
    obtain ⟨sound, saved⟩ := doing
    refine ⟨⟨contiguous_commit tracks.covered sound, saved, ?_⟩, trivial⟩
    intro success member
    rcases List.mem_cons.mp member with rfl | earlier
    · exact sound.stored
    · exact tracks.covered.stored success earlier
  · exact tracks

theorem tracks_other (tracks : Tracks site start poller) (db : Database) :
    Tracks site start (site.other poller db) := by
  have doing := tracks.doing
  unfold Site.other
  split
  · exact tracks
  · rename_i outside
    split
    · rename_i retained
      have kept : ∀ bankTransaction, IsStored site poller.db bankTransaction →
          IsStored site db bankTransaction := fun _ => stored_of_retains retained
      refine ⟨covered_of_more tracks.covered rfl rfl kept, ?_⟩
      cases activity : poller.activity with
      | idle => trivial
      | expired => trivial
      | ingesting tick working bankTransaction draws stage =>
          exact (outside tick working bankTransaction draws stage activity).elim
      | fetching tick =>
          rw [activity] at doing
          exact ⟨tickSound_of_more doing.1 rfl kept, doing.2⟩
      | saving tick =>
          rw [activity] at doing
          exact ⟨tickSound_of_more doing.1 rfl kept, doing.2⟩
    · exact tracks

theorem tracks_next (tracks : Tracks site start poller) (event : Event) :
    Tracks site start (site.next poller event) := by
  cases event with
  | begin now => exact tracks_begin tracks now
  | receive bankTransaction draws =>
      have doing := tracks.doing
      simp only [Site.next]
      split
      · rename_i tick fetching
        rw [fetching] at doing
        exact ⟨covered_of_more tracks.covered rfl rfl fun _ stored => stored,
          ⟨⟨doing.1.start, doing.1.stored⟩, doing.2⟩, rfl⟩
      · exact tracks
  | advance => exact tracks_advance tracks
  | race =>
      simp only [Site.next, Site.race]
      split
      · split
        · exact ⟨covered_of_more tracks.covered rfl rfl fun _ stored => stored, trivial⟩
        · exact tracks
      · exact tracks
  | finish => exact tracks_finish tracks
  | commit => exact tracks_commit tracks
  | stop => exact tracks_idle tracks
  | other db => exact tracks_other tracks db

theorem tracks_opened (db : Database) (cursors : Cursors) :
    Tracks site (opened db cursors) (opened db cursors) where
  covered := ⟨.nil, rfl, by simp [opened]⟩
  doing := trivial

theorem lastSeen_next (tracks : Tracks site start poller) {event : Event}
    (other : event ≠ .commit) :
    site.lastSeen (site.next poller event).cursors = site.lastSeen poller.cursors := by
  have doing := tracks.doing
  have same {after : Poller} (kept : after.cursors = poller.cursors) :
      site.lastSeen after.cursors = site.lastSeen poller.cursors := congrArg site.lastSeen kept
  cases event with
  | commit => exact absurd rfl other
  | advance =>
      simp only [Site.next, Site.advance]
      split
      · rename_i tick working bankTransaction draws stage ingesting
        rw [ingesting] at doing
        split
        · rfl
        · exact doing.1.2
        · split <;> rfl
      · rfl
      · rfl
  | begin now =>
      apply same
      simp only [Site.next, Site.begin]
      repeat' split
      all_goals rfl
  | receive bankTransaction draws =>
      apply same
      simp only [Site.next]
      split <;> rfl
  | race =>
      apply same
      simp only [Site.next, Site.race]
      repeat' split
      all_goals rfl
  | finish =>
      apply same
      simp only [Site.next, Site.finish]
      repeat' split
      all_goals rfl
  | stop => rfl
  | other db =>
      apply same
      simp only [Site.next, Site.other]
      repeat' split
      all_goals rfl

end Steps

/-- However the ticks end, successive windows are contiguous when they are at most two
days apart, everything the adapter returned for a committed window is stored, and nothing
but the commit of a tick moves the cursor. -/
theorem polls_gap_free (site : Site) (db : Database) (cursors : Cursors) (events : List Event) :
    let poller := events.foldl site.next (opened db cursors)
    Covered site (opened db cursors) poller ∧ ∀ event, event ≠ .commit →
      site.lastSeen (site.next poller event).cursors = site.lastSeen poller.cursors := by
  have tracks : Tracks site (opened db cursors) (events.foldl site.next (opened db cursors)) :=
    (Run.of_computed site.next (opened db cursors) events).invariant
      (Tracks site (opened db cursors)) (tracks_opened db cursors)
      fun _ event _ earlier taken => taken ▸ tracks_next earlier event
  exact ⟨tracks.covered, fun _ other => lastSeen_next tracks other⟩

def shopAccount : Site where
  unicode := .ascii
  bankAccountId := "b1"
  keepsOffset := false

def call (bankTransaction : BankTransaction) (name : String) (statements : Nat) : List Event :=
  .receive bankTransaction (bankDay.draws bankTransaction.bankRefNo (drawn name)) ::
    List.replicate statements .advance

/-- The first tick loses the race for a credit, the second one is cut off by a restart
after the commit of the transfer, and two ticks succeed. -/
def stumblingTicks : List Event :=
  List.flatten [[.begin (seconds 10)], call transfer "1" 4, [.race, .advance],
    [.begin (seconds 20)], call transfer "2" 7, [.stop],
    [.begin (seconds 30)], call transfer "3" 2, call fee "4" 4,
    [.finish, .commit], [.begin (seconds 40), .finish, .commit]]

theorem polls_gap_free_stumbling :
    let start := opened shop .empty
    let poller := stumblingTicks.foldl shopAccount.next start
    poller.successes.map Success.window = [⟨.utc (seconds 30), seconds 40⟩,
        ⟨(DateTime.utc (seconds 30)).add (-days 2), seconds 30⟩] ∧
      poller.db.transactions.rows.map Transaction.bankRefNo = ["FT1", "FT2"] ∧
        Covered shopAccount start poller := by
  refine ⟨?_, ?_, (polls_gap_free shopAccount shop .empty stumblingTicks).1⟩
  · decide +kernel
  · decide +kernel

end ApiBank.Worker.GapFree
