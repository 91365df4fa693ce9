import ApiBank.Core.Polling
import ApiBank.Core.SameButIds
import ApiBank.Transition.Run

/-!
# Exactly-once ingestion

Whatever windows the polls have and wherever they stop, the committed rows are those
of one run over the transactions so far without their repeats.
-/

namespace ApiBank.Core.ExactlyOnce

open ApiBank.Db ApiBank.Relational ApiBank.Transition
open Ingest MatchDecision Polling SameButIds

set_option autoImplicit false

section Reference

variable {feed : Feed} {tokens : String → Tokens} {start middle final : Database}

theorem ingestAll_singleton {bankTransaction : BankTransaction}
    (returned : feed.ingestAll tokens [bankTransaction] start = .ok () final) :
    Ingestion feed.unicode feed.bankAccountId bankTransaction
      (feed.draws bankTransaction.bankRefNo (tokens bankTransaction.bankRefNo)) start final := by
  obtain ⟨⟨⟩, after, ran, done⟩ := (Effect.bind_ok_iff ..).mp returned
  cases done
  obtain ⟨ingested, returned⟩ := Effect.discard_ok ran
  exact ingestTransaction_ok returned

/-- The run over the list passes through the run over its beginning. -/
theorem ingestAll_prefix (returned : feed.uninterrupted tokens start = .ok () final)
    (covered : Nat) : ∃ middle, feed.ingestAll tokens
      (firstOfEach BankTransaction.bankRefNo (feed.listed.take covered)) start =
        .ok () middle := by
  obtain ⟨others, split⟩ := firstOfEach_prefix BankTransaction.bankRefNo
    (feed.listed.take covered) (feed.listed.drop covered)
  rw [List.take_append_drop] at split
  rw [Feed.uninterrupted, split] at returned
  obtain ⟨middle, ran, -⟩ := (Effect.forM_append_ok_iff ..).mp returned
  exact ⟨middle, ran⟩

end Reference

def Doing (feed : Feed) (committed : Database) (covered : Nat) : Activity → Prop
  | .idle => True
  | .polling working position => working = committed ∧ position ≤ covered
  | .ingesting working position bankTransaction draws stage =>
      position ≤ covered ∧ feed.listed[position]? = some bankTransaction ∧
        draws.now = feed.now ∧ draws.creditRaises = feed.creditRaises bankTransaction.bankRefNo ∧
          Reached feed.unicode feed.bankAccountId bankTransaction draws committed working stage

/-- The committed rows are those of the run over the covered transactions. -/
structure Agrees (feed : Feed) (tokens : String → Tokens) (start committed : Database)
    (covered : Nat) : Prop where
  bounded : covered ≤ feed.listed.length
  same : ∃ middle, feed.ingestAll tokens
    (firstOfEach BankTransaction.bankRefNo (feed.listed.take covered)) start = .ok () middle ∧
      Same committed middle
  stored : ∀ bankTransaction ∈ feed.listed.take covered,
    (storedTransaction committed feed.bankAccountId bankTransaction.bankRefNo).isSome

structure Tracks (feed : Feed) (tokens : String → Tokens) (start : Database) (worker : Worker) :
    Prop where
  agrees : Agrees feed tokens start worker.committed worker.covered
  doing : Doing feed worker.committed worker.covered worker.activity

section Steps

variable {feed : Feed} {tokens : String → Tokens} {start final : Database} {worker : Worker}
variable {committed working : Database} {position covered : Nat}
variable {bankTransaction : BankTransaction}

theorem take_succ_of_listed {listed : List BankTransaction}
    (present : listed[position]? = some bankTransaction) :
    listed.take (position + 1) = listed.take position ++ [bankTransaction] := by
  rw [List.take_add_one, present]
  rfl

theorem agrees_of_next {after : Database} (agrees : Agrees feed tokens start committed position)
    (listed : feed.listed[position]? = some bankTransaction)
    (same : ∃ middle, feed.ingestAll tokens
      (firstOfEach BankTransaction.bankRefNo (feed.listed.take (position + 1))) start =
        .ok () middle ∧ Same after middle)
    (kept : ∀ row ∈ committed.transactions.rows, row ∈ after.transactions.rows)
    (stored : (storedTransaction after feed.bankAccountId bankTransaction.bankRefNo).isSome) :
    Agrees feed tokens start after (position + 1) := by
  obtain ⟨inside, -⟩ := List.getElem?_eq_some_iff.mp listed
  refine ⟨inside, same, ?_⟩
  intro earlier member
  rw [take_succ_of_listed listed, List.mem_append, List.mem_singleton] at member
  rcases member with before | rfl
  · obtain ⟨row, present, same⟩ := storedTransaction_isSome_iff.mp (agrees.stored earlier before)
    exact storedTransaction_isSome_iff.mpr ⟨row, kept row present, same⟩
  · exact stored

/-- The run without the next transaction and the run with it. -/
theorem reference_next (returned : feed.uninterrupted tokens start = .ok () final)
    (agrees : Agrees feed tokens start committed position)
    (listed : feed.listed[position]? = some bankTransaction) :
    ∃ middle next, Same committed middle ∧ feed.ingestAll tokens
        (firstOfEach BankTransaction.bankRefNo (feed.listed.take (position + 1))) start =
          .ok () next ∧
      (middle = next ∧ bankTransaction.bankRefNo ∈
          (feed.listed.take position).map BankTransaction.bankRefNo ∨
        Ingestion feed.unicode feed.bankAccountId bankTransaction
          (feed.draws bankTransaction.bankRefNo (tokens bankTransaction.bankRefNo))
            middle next) := by
  obtain ⟨middle, ran, same⟩ := agrees.same
  obtain ⟨next, ranNext⟩ := ingestAll_prefix returned (position + 1)
  refine ⟨middle, next, same, ranNext, ?_⟩
  rw [take_succ_of_listed listed, firstOfEach_snoc] at ranNext
  split at ranNext
  · rename_i repeated
    rw [ran] at ranNext
    cases ranNext
    exact .inl ⟨rfl, repeated⟩
  · obtain ⟨again, ranAgain, last⟩ := (Effect.forM_append_ok_iff ..).mp ranNext
    have unchanged : feed.ingestAll tokens
      (firstOfEach BankTransaction.bankRefNo (feed.listed.take position)) start =
        .ok () again := ranAgain
    rw [ran] at unchanged
    cases unchanged
    exact .inr (ingestAll_singleton last)

theorem agrees_of_known {existing : Transaction}
    (returned : feed.uninterrupted tokens start = .ok () final)
    (agrees : Agrees feed tokens start committed covered) (near : position ≤ covered)
    (listed : feed.listed[position]? = some bankTransaction)
    (known : storedTransaction committed feed.bankAccountId bankTransaction.bankRefNo =
      some existing) :
    Agrees feed tokens start committed (max covered (position + 1)) := by
  rcases Nat.lt_or_eq_of_le near with before | rfl
  · rw [Nat.max_eq_left before]
    exact agrees
  · rw [Nat.max_eq_right (Nat.le_succ position)]
    obtain ⟨middle, next, same, ran, kind⟩ := reference_next returned agrees listed
    have unchanged : middle = next := by
      rcases kind with ⟨equal, -⟩ | ingestion
      · exact equal
      · have stored := stored_same same feed.bankAccountId bankTransaction.bankRefNo
        rw [known] at stored
        cases ingestion with
        | known => rfl
        | outgoing _ entry | unmatched _ entry | ambiguous _ entry | matched _ entry =>
            rw [entry.fresh] at stored
            contradiction
    subst unchanged
    exact agrees_of_next agrees listed ⟨middle, ran, same⟩ (fun _ member => member)
      (Option.isSome_of_eq_some known)

theorem agrees_of_closing {draws : IngestDraws}
    (returned : feed.uninterrupted tokens start = .ok () final)
    (agrees : Agrees feed tokens start committed covered) (near : position ≤ covered)
    (listed : feed.listed[position]? = some bankTransaction) (clock : draws.now = feed.now)
    (raises : draws.creditRaises = feed.creditRaises bankTransaction.bankRefNo)
    (reached : Reached feed.unicode feed.bankAccountId bankTransaction draws committed working
      .closing) :
    Agrees feed tokens start working (max covered (position + 1)) := by
  obtain ⟨ingestion, fresh⟩ := reached
  obtain ⟨row, added⟩ := stored_of_ingestion fresh ingestion
  rcases Nat.lt_or_eq_of_le near with before | rfl
  · -- a transaction before the covered position has its row
    have member : bankTransaction ∈ feed.listed.take covered := by
      apply List.mem_of_getElem?
      rw [List.getElem?_take_of_lt before]
      exact listed
    have stored := agrees.stored bankTransaction member
    rw [fresh] at stored
    contradiction
  · rw [Nat.max_eq_right (Nat.le_succ position)]
    obtain ⟨middle, next, same, ran, kind⟩ := reference_next returned agrees listed
    have appended : row ∈ working.transactions.rows := by
      rw [added.rows]
      exact List.mem_append_right _ (List.mem_singleton_self row)
    have kept : ∀ other ∈ committed.transactions.rows, other ∈ working.transactions.rows := by
      intro other member
      rw [added.rows]
      exact List.mem_append_left _ member
    refine agrees_of_next agrees listed ⟨next, ran, ?_⟩ kept
      (storedTransaction_isSome_iff.mpr ⟨row, appended, added.bankAccountId, added.bankRefNo⟩)
    rcases kind with ⟨-, repeated⟩ | later
    · obtain ⟨earlier, member, sameReference⟩ := List.mem_map.mp repeated
      have stored := agrees.stored earlier member
      rw [sameReference, fresh] at stored
      contradiction
    · exact same_of_ingestion same clock raises ingestion later

theorem tracks_poll (tracks : Tracks feed tokens start worker) (first : Nat) :
    Tracks feed tokens start (worker.poll first) := by
  unfold Worker.poll
  split
  · split
    · rename_i near
      exact ⟨tracks.agrees, rfl, near⟩
    · exact tracks
  · exact tracks

theorem tracks_receive (tracks : Tracks feed tokens start worker) (drawn : Tokens) :
    Tracks feed tokens start (feed.receive worker drawn) := by
  have doing := tracks.doing
  unfold Feed.receive
  split
  · rename_i working position polling
    rw [polling] at doing
    split
    · exact tracks
    · rename_i listed
      exact ⟨tracks.agrees, doing.2, listed, rfl, rfl, doing.1⟩
  · exact tracks

/-- The end of a call, with the rows that are committed then. -/
theorem tracks_proceed (agrees : Agrees feed tokens start worker.committed
      (max worker.covered (position + 1))) :
    Tracks feed tokens start (worker.proceed worker.committed position) :=
  ⟨agrees, rfl, Nat.le_max_right ..⟩

theorem tracks_advance (returned : feed.uninterrupted tokens start = .ok () final)
    (tracks : Tracks feed tokens start worker) :
    Tracks feed tokens start (feed.advance worker) := by
  have doing := tracks.doing
  unfold Feed.advance
  split
  · rename_i working position bankTransaction draws stage ingesting
    rw [ingesting] at doing
    obtain ⟨near, listed, clock, raises, reached⟩ := doing
    split
    · obtain ⟨rfl, existing, known⟩ := reached
      exact tracks_proceed (agrees_of_known returned tracks.agrees near listed known)
    · have agrees := agrees_of_closing returned tracks.agrees near listed clock raises reached
      exact ⟨agrees, rfl, Nat.le_max_right ..⟩
    · split
      · rename_i advanced
        exact ⟨tracks.agrees, near, listed, clock, raises, reached_of_advance reached advanced⟩
      · exact ⟨tracks.agrees, trivial⟩
  · exact tracks

theorem tracks_finish (tracks : Tracks feed tokens start worker) :
    Tracks feed tokens start worker.finish := by
  unfold Worker.finish
  split
  · exact ⟨tracks.agrees, trivial⟩
  · exact tracks

theorem tracks_next (returned : feed.uninterrupted tokens start = .ok () final)
    (tracks : Tracks feed tokens start worker) (event : Polling.Event) :
    Tracks feed tokens start (feed.next worker event) := by
  cases event with
  | poll first => exact tracks_poll tracks first
  | receive drawn => exact tracks_receive tracks drawn
  | advance => exact tracks_advance returned tracks
  | finish => exact tracks_finish tracks
  | crash => exact ⟨tracks.agrees, trivial⟩

theorem tracks_opened : Tracks feed tokens start (opened start) where
  agrees := ⟨Nat.zero_le _, ⟨start, rfl, same_self start⟩, by simp [opened]⟩
  doing := trivial

end Steps

/-- However the list is polled and wherever the polls stop, once it is covered the
committed rows are those of the one run over the list without its repeats. -/
theorem ingested_exactly_once (feed : Feed) (tokens : String → Tokens) (start final : Database)
    (events : List Polling.Event)
    (covered : (events.foldl feed.next (opened start)).covered = feed.listed.length)
    (returned : feed.uninterrupted tokens start = .ok () final) :
    Same (events.foldl feed.next (opened start)).committed final := by
  have tracks : Tracks feed tokens start (events.foldl feed.next (opened start)) :=
    (Run.of_computed feed.next (opened start) events).invariant (Tracks feed tokens start)
      tracks_opened fun _ event _ earlier taken => taken ▸ tracks_next returned earlier event
  obtain ⟨middle, ran, same⟩ := tracks.agrees.same
  rw [covered, List.take_length] at ran
  have unique : feed.ingestAll tokens
      (firstOfEach BankTransaction.bankRefNo feed.listed) start = .ok () final := returned
  rw [unique] at ran
  cases ran
  exact same

def topupOrder : Order :=
  { namedOrder with metadataJson := Billing.Topup.topupMetadata "u1" }

def shop : Database := { Database.empty with
  users := ⟨[⟨"u1", "shop@example.com", 0⟩], by decide⟩
  orders := ⟨[topupOrder], by decide⟩
  webhooks := ⟨[⟨"wh1", some "u1", true⟩], by decide⟩ }

def fee : BankTransaction where
  bankRefNo := "FT2"
  postedAt := .utc 6
  amount := -1100
  content := "PHI"
  timestampReliable := true
  nonzero := by decide
  referenced := by decide

def bankDay : Feed where
  unicode := .ascii
  bankAccountId := "b1"
  listed := [transfer, fee, transfer]
  now := 10
  creditRaises := fun _ => false

def drawn (name : String) : Tokens where
  txId := s!"tx{name}"
  walletRowId := s!"row{name}"
  attemptId := fun webhookId => s!"{name}{webhookId}"

/-- The process stops before both commits of new transactions, each time at the last
moment, and starts again from the beginning. -/
def stumbling : List Polling.Event :=
  let call (name : String) (statements : Nat) : List Polling.Event :=
    .receive (drawn name) :: List.replicate statements .advance
  List.flatten [[.poll 0], call "1" 6, [.crash, .poll 0], call "2" 7, call "3" 3,
    [.crash, .poll 0], call "4" 2, call "5" 4, call "6" 2, [.finish]]

theorem bank_day_ingested_once : ∃ final,
    bankDay.uninterrupted drawn shop = .ok () final ∧
      Same (stumbling.foldl bankDay.next (opened shop)).committed final := by
  obtain ⟨⟨⟩, final, returned⟩ := Effect.ok_of_returns
    (show Effect.returns (bankDay.uninterrupted drawn) shop = true by decide +kernel)
  exact ⟨final, returned, ingested_exactly_once bankDay drawn shop final stumbling
    (by decide +kernel) returned⟩

end ApiBank.Core.ExactlyOnce
