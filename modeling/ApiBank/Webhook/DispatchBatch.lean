import ApiBank.Transition.BoundedLoop
import ApiBank.Webhook.Claims

/-!
# Draining the due attempts

The scheduler claims and sends batch after batch, at most twenty, and leaves the loop at
the first batch that delivered nothing. It is meant to leave it when nothing is due. A
batch of attempts that all fail ends it just as well, with attempts still due behind it.
-/

namespace ApiBank.Webhook.DispatchBatch

open ApiBank.Db ApiBank.Relational ApiBank.Transition
open BoundedLoop Claims Dispatcher DispatchSessions

set_option autoImplicit false

abbrev Attempts := Table WebhookAttempt.id

/-- What a round meets: the readings of the clock, the draws, and what the endpoint of
each attempt answers. -/
structure Round where
  resetNow : Int
  now : Int
  offset : Fin 1000000
  ties : Ties
  outcome : String → Outcome × Int

def maxRounds : Nat := 20

def defaultBatchSize : Nat := 50

theorem id_resetIfStuck (threshold : Int) (row : WebhookAttempt) :
    (resetIfStuck threshold row).id = row.id :=
  AttemptWrite.id_apply (.reset threshold) row

theorem id_applyOutcome (now jitter : Int) (outcome : Outcome) (row : WebhookAttempt) :
    (applyOutcome now jitter outcome row).id = row.id := by
  unfold applyOutcome
  split
  · rfl
  · dsimp only
    split
    · rfl
    · split <;> rfl

def resetStuckDispatching (now : Int) (attempts : Attempts) : Attempts :=
  attempts.update (resetIfStuck (now - stuckDispatchTimeout)) (id_resetIfStuck _)

section Batch

variable (dialect : Dialect) (batchSize : Nat) (round : Round)

def Round.call (round : Round) : Call := ⟨round.now, round.now + round.offset.val⟩

def selectedIds (attempts : Attempts) : List String :=
  selectDue round.now batchSize round.ties attempts.rows

/-- The attempts that are returned, and the table after the commit. -/
def claimAttempts (attempts : Attempts) : List WebhookAttempt × Attempts :=
  let ids := selectedIds batchSize round attempts
  let claimed := attempts.update (claimIfPending ids round.call.token)
    (id_claimIfPending ids round.call.token)
  (loadClaimed dialect round.call ids claimed.rows, claimed)

def counts (outcome : Outcome) : Bool :=
  (outcome.fatalReason.filter (· ≠ "")).isNone && outcome.delivered

/-- The second phase on one row. -/
def settle (sent : List WebhookAttempt) (row : WebhookAttempt) : WebhookAttempt :=
  if row.id ∈ sent.map WebhookAttempt.id then
    applyOutcome round.now (round.outcome row.id).2 (round.outcome row.id).1 row
  else row

theorem id_settle (sent : List WebhookAttempt) (row : WebhookAttempt) :
    (settle round sent row).id = row.id := by
  unfold settle
  split
  · exact id_applyOutcome ..
  · rfl

def dispatchDueAttempts (attempts : Attempts) : Nat × Attempts :=
  let (sent, claimed) := claimAttempts dialect batchSize round attempts
  (sent.countP fun attempt => counts (round.outcome attempt.id).1,
    claimed.update (settle round sent) (id_settle round sent))

/-- The table, and `delivered_total`. -/
structure Progress where
  attempts : Attempts
  deliveredTotal : Nat

/-- The body of the loop. It breaks when nothing was delivered. -/
def dispatchRound (progress : Progress) : Progress × Bool :=
  let (delivered, attempts) := dispatchDueAttempts dialect batchSize round
    (resetStuckDispatching round.resetNow progress.attempts)
  (⟨attempts, progress.deliveredTotal + delivered⟩, delivered = 0)

end Batch

section Loop

variable (dialect : Dialect) (batchSize : Nat) (rounds : Nat → Round) (attempts : Attempts)

/-- How many rounds there were, and what they made of the table. -/
def runDispatchBatch : Nat × Progress :=
  forRange (fun index => dispatchRound dialect batchSize (rounds index)) maxRounds 0 ⟨attempts, 0⟩

/-- The table that a round claims from, if the loop gets there. -/
def claimedFrom (index : Nat) : Attempts :=
  resetStuckDispatching (rounds index).resetNow (stateBefore
    (fun index => dispatchRound dialect batchSize (rounds index)) ⟨attempts, 0⟩ index).attempts

def NoneDue (index : Nat) : Prop :=
  ∀ row ∈ (claimedFrom dialect batchSize rounds attempts index).rows,
    due (rounds index).now row = false

def Delivers (index : Nat) : Prop :=
  ∃ attempt ∈ (claimAttempts dialect batchSize (rounds index)
      (claimedFrom dialect batchSize rounds attempts index)).1,
    counts ((rounds index).outcome attempt.id).1 = true

/-- The endpoint of the attempt accepts whatever it is sent. -/
def Healthy (attemptId : String) : Prop :=
  ∀ index, counts ((rounds index).outcome attemptId).1 = true

/-- The loop ended after twenty rounds, or after a claim that found nothing due, and with
every attempt delivered that was due at the start and has a healthy endpoint. -/
structure Drained (start : Int) : Prop where
  exhausted : (runDispatchBatch dialect batchSize rounds attempts).1 = maxRounds ∨
    ∃ last, (runDispatchBatch dialect batchSize rounds attempts).1 = last + 1 ∧
      NoneDue dialect batchSize rounds attempts last
  healthy : (runDispatchBatch dialect batchSize rounds attempts).1 = maxRounds ∨
    ∀ row ∈ attempts.rows, due start row = true → Healthy rounds row.id →
      ∃ after, (runDispatchBatch dialect batchSize rounds attempts).2.attempts.find? row.id =
        some after ∧ after.status = "delivered"

end Loop

section Rounds

variable {dialect : Dialect} {batchSize : Nat} {round : Round} {attempts : Attempts}

theorem status_of_counts {outcome : Outcome} (delivered : counts outcome = true)
    (now jitter : Int) (row : WebhookAttempt) :
    (applyOutcome now jitter outcome row).status = "delivered" := by
  simp only [counts, Bool.and_eq_true, Option.isNone_iff_eq_none] at delivered
  simp only [applyOutcome, delivered.1, delivered.2, if_true]

theorem dispatching_of_claimed {attempt : WebhookAttempt}
    (sent : attempt ∈ (claimAttempts dialect batchSize round attempts).1) :
    attempt ∈ (claimAttempts dialect batchSize round attempts).2.rows ∧
      attempt.status = "dispatching" := by
  cases dialect with
  | postgresql =>
      simp only [claimAttempts, loadClaimed] at sent ⊢
      obtain ⟨member, found⟩ := List.mem_filter.mp sent
      rw [Bool.and_eq_true, decide_eq_true_eq] at found
      refine ⟨member, ?_⟩
      -- a selected id is that of a pending row, which the claim has put to dispatching
      obtain ⟨row, stored, rfl⟩ := List.mem_map.mp member
      rw [id_claimIfPending] at found
      obtain ⟨selected, selectedStored, same, isDue⟩ := due_of_selected found.1
      obtain rfl := attempts.eq_of_key_eq selectedStored stored same
      simp only [due, Bool.and_eq_true, decide_eq_true_eq] at isDue
      rw [claimIfPending, if_pos ⟨found.1, isDue.1⟩]
  | sqlite =>
      simp only [claimAttempts, loadClaimed] at sent ⊢
      split at sent
      · simp at sent
      · obtain ⟨member, found⟩ := List.mem_filter.mp sent
        rw [Bool.and_eq_true, decide_eq_true_eq] at found
        exact ⟨member, found.2⟩

theorem settle_of_not_dispatching {row : WebhookAttempt}
    (stored : row ∈ (claimAttempts dialect batchSize round attempts).2.rows)
    (other : row.status ≠ "dispatching") :
    settle round (claimAttempts dialect batchSize round attempts).1 row = row := by
  refine if_neg fun named => ?_
  obtain ⟨attempt, sent, same⟩ := List.mem_map.mp named
  obtain ⟨member, dispatching⟩ := dispatching_of_claimed sent
  obtain rfl := Table.eq_of_key_eq _ member stored same
  exact other dispatching

theorem sent_of_selected {row : WebhookAttempt} (stored : row ∈ attempts.rows)
    (pending : row.status = "pending") (selected : row.id ∈ selectedIds batchSize round attempts) :
    row.id ∈ (claimAttempts dialect batchSize round attempts).1.map WebhookAttempt.id := by
  have claimed : claimIfPending (selectedIds batchSize round attempts) round.call.token row =
      { row with status := "dispatching", claimedAt := some (.utc round.call.token) } :=
    if_pos ⟨selected, pending⟩
  have member := List.mem_map_of_mem
    (f := claimIfPending (selectedIds batchSize round attempts) round.call.token) stored
  refine List.mem_map.mpr ⟨claimIfPending (selectedIds batchSize round attempts)
    round.call.token row, ?_, id_claimIfPending ..⟩
  cases dialect with
  | postgresql =>
      simp only [claimAttempts, loadClaimed]
      refine List.mem_filter.mpr ⟨member, ?_⟩
      simp [claimed, selected, carries]
  | sqlite =>
      simp only [claimAttempts, loadClaimed, List.ne_nil_of_mem selected, if_false]
      refine List.mem_filter.mpr ⟨member, ?_⟩
      simp [claimed, carries]

/-- The attempt is delivered, or waits for its first dispatch as it did at the start. -/
def Followed (row : WebhookAttempt) (attempts : Attempts) : Prop :=
  ∃ after, attempts.find? row.id = some after ∧
    (after.status = "delivered" ∨ after.status = "pending" ∧ after.nextRunAt = row.nextRunAt)

theorem followed_reset {row : WebhookAttempt} (followed : Followed row attempts) (now : Int) :
    Followed row (resetStuckDispatching now attempts) := by
  obtain ⟨after, found, state⟩ := followed
  have kept : resetIfStuck (now - stuckDispatchTimeout) after = after := by
    refine if_neg fun isStuck => ?_
    simp only [stuck, Bool.and_eq_true, decide_eq_true_eq] at isStuck
    rcases state with delivered | ⟨pending, -⟩
    · exact absurd (delivered.symm.trans isStuck.1) (by decide)
    · exact absurd (pending.symm.trans isStuck.1) (by decide)
  refine ⟨after, ?_, state⟩
  rw [resetStuckDispatching, Table.find?_update, found, Option.map_some, kept]

theorem find_dispatched (attempts : Attempts) (attemptId : String) :
    (dispatchDueAttempts dialect batchSize round attempts).2.find? attemptId =
      (attempts.find? attemptId).map fun row =>
        settle round (claimAttempts dialect batchSize round attempts).1
          (claimIfPending (selectedIds batchSize round attempts) round.call.token row) := by
  simp only [dispatchDueAttempts, claimAttempts, Table.find?_update, Option.map_map,
    Function.comp_def]

/-- A row that the claim leaves where it is, out of dispatch, is left alone. -/
theorem find_of_unclaimed {attemptId : String} {row : WebhookAttempt}
    (found : attempts.find? attemptId = some row)
    (unclaimed : ¬(row.id ∈ selectedIds batchSize round attempts ∧ row.status = "pending"))
    (other : row.status ≠ "dispatching") :
    (dispatchDueAttempts dialect batchSize round attempts).2.find? attemptId = some row := by
  have same : claimIfPending (selectedIds batchSize round attempts) round.call.token row = row :=
    if_neg unclaimed
  have kept : row ∈ (claimAttempts dialect batchSize round attempts).2.rows :=
    List.mem_map.mpr ⟨row, Table.mem_of_find? found, same⟩
  rw [find_dispatched, found, Option.map_some, same, settle_of_not_dispatching kept other]

theorem followed_dispatch {row : WebhookAttempt} (followed : Followed row attempts)
    (healthy : counts (round.outcome row.id).1 = true) :
    Followed row (dispatchDueAttempts dialect batchSize round attempts).2 := by
  obtain ⟨after, found, state⟩ := followed
  by_cases claimed : after.id ∈ selectedIds batchSize round attempts ∧ after.status = "pending"
  · have keyed : after.id = row.id := Table.key_of_find? found
    have sent := @sent_of_selected dialect _ _ _ _ (Table.mem_of_find? found) claimed.2 claimed.1
    refine ⟨_, by rw [find_dispatched, found, Option.map_some], .inl ?_⟩
    rw [settle, if_pos (by rwa [id_claimIfPending]), id_claimIfPending, keyed]
    exact status_of_counts healthy _ _ _
  · refine ⟨after, find_of_unclaimed found claimed ?_, state⟩
    rcases state with delivered | ⟨pending, -⟩
    · simp [delivered]
    · simp [pending]

end Rounds

section Runs

variable {dialect : Dialect} {batchSize : Nat} {rounds : Nat → Round} {attempts : Attempts}
  {start : Int}

theorem breaks_iff (index : Nat) :
    Breaks (fun index => dispatchRound dialect batchSize (rounds index)) ⟨attempts, 0⟩ index ↔
      ¬Delivers dialect batchSize rounds attempts index := by
  simp only [Breaks, dispatchRound, dispatchDueAttempts, decide_eq_true_eq, List.countP_eq_zero,
    Delivers, claimedFrom, not_exists, not_and]

theorem ends_of_run : Ends (fun index => dispatchRound dialect batchSize (rounds index))
    ⟨attempts, 0⟩ maxRounds (runDispatchBatch dialect batchSize rounds attempts) :=
  forRange_ends ..

theorem followed_at {row : WebhookAttempt} (stored : row ∈ attempts.rows)
    (pending : row.status = "pending") (healthy : Healthy rounds row.id) (index : Nat) :
    Followed row (claimedFrom dialect batchSize rounds attempts index) := by
  have begun : Followed row attempts := ⟨row, Table.find?_of_mem stored, .inr ⟨pending, rfl⟩⟩
  have before : Followed row (stateBefore
      (fun index => dispatchRound dialect batchSize (rounds index)) ⟨attempts, 0⟩ index).attempts :=
    @stateBefore_keeps _ _ _ (fun progress : Progress => Followed row progress.attempts)
      (fun index _ followed => followed_dispatch (followed_reset followed _) (healthy index))
      begun index
  exact followed_reset before _

theorem delivered_of_noneDue (clock : ∀ index, start ≤ (rounds index).now) {last : Nat}
    (none : NoneDue dialect batchSize rounds attempts last)
    (ended : (runDispatchBatch dialect batchSize rounds attempts).1 = last + 1)
    {row : WebhookAttempt} (stored : row ∈ attempts.rows) (isDue : due start row = true)
    (healthy : Healthy rounds row.id) :
    ∃ after, (runDispatchBatch dialect batchSize rounds attempts).2.attempts.find? row.id =
      some after ∧ after.status = "delivered" := by
  simp only [due, Bool.and_eq_true, decide_eq_true_eq] at isDue
  obtain ⟨after, found, state⟩ := @followed_at dialect batchSize _ _ _ stored isDue.1 healthy last
  have delivered : after.status = "delivered" := by
    rcases state with delivered | ⟨pending, waiting⟩
    · exact delivered
    · have notDue := none after (Table.mem_of_find? found)
      have late := clock last
      simp only [due, pending, waiting, decide_true, Bool.true_and,
        decide_eq_false_iff_not] at notDue
      omega
  refine ⟨after, ?_, delivered⟩
  rw [ends_of_run.state, ended]
  exact find_of_unclaimed found (by simp [delivered]) (by simp [delivered])

/-- The loop drains the attempts if and only if no round before the twentieth claims
attempts that are due and delivers none of them. -/
theorem batch_drained_iff (clock : ∀ index, start ≤ (rounds index).now) :
    Drained dialect batchSize rounds attempts start ↔
      ∀ index, index + 1 < maxRounds →
        (∀ earlier < index, Delivers dialect batchSize rounds attempts earlier) →
          NoneDue dialect batchSize rounds attempts index ∨
            Delivers dialect batchSize rounds attempts index := by
  have ends := @ends_of_run dialect batchSize rounds attempts
  constructor
  · intro drained index inside reached
    by_contra neither
    obtain ⟨notNone, delivers⟩ := not_or.mp neither
    -- the loop ends here, though something is due
    have count := ends.count_of_breaks (by omega)
      (fun round before breaks => (breaks_iff round).mp breaks (reached round before))
      ((breaks_iff index).mpr delivers)
    rcases drained.exhausted with all | ⟨last, counted, none⟩
    · omega
    · obtain rfl : last = index := by omega
      exact notNone none
  · intro met
    rcases ends.last with all | ⟨last, counted, breaks⟩
    · exact ⟨.inl all, .inl all⟩
    · by_cases all : last + 1 = maxRounds
      · exact ⟨.inl (counted.trans all), .inl (counted.trans all)⟩
      · have bound := ends.bound
        have none : NoneDue dialect batchSize rounds attempts last := by
          refine (met last (by omega) fun earlier before => ?_).resolve_right
            ((breaks_iff last).mp breaks)
          by_contra fails
          exact ends.earlier earlier (by omega) ((breaks_iff earlier).mpr fails)
        refine ⟨.inr ⟨last, counted, none⟩, .inr fun row stored isDue healthy => ?_⟩
        exact delivered_of_noneDue clock none counted stored isDue healthy

end Runs

/-- The first endpoint answers 500, every other one accepts. -/
def firstDown : Round where
  resetNow := 0
  now := 0
  offset := noOffset
  ties := asStored
  outcome := fun attemptId =>
    (if attemptId = "evt_1" then ⟨false, some 500, some "http 500", none⟩
      else ⟨true, some 200, none, none⟩, 0)

/-- One batch holds both attempts, and the next finds nothing due. -/
theorem mixed_batch_is_drained :
    Drained .postgresql defaultBatchSize (fun _ => firstDown) twoDue.webhookAttempts 0 := by
  have idle : NoneDue .postgresql defaultBatchSize (fun _ => firstDown) twoDue.webhookAttempts 1 := by
    unfold NoneDue
    decide +kernel
  have silent : ¬Delivers .postgresql defaultBatchSize (fun _ => firstDown)
      twoDue.webhookAttempts 1 := by
    unfold Delivers
    decide +kernel
  refine (batch_drained_iff fun _ => Int.le_refl 0).mpr fun index inside reached => ?_
  match index with
  | 0 =>
      refine .inr ?_
      unfold Delivers
      decide +kernel
  | 1 => exact .inl idle
  | later + 2 => exact absurd (reached 1 (by omega)) silent

theorem not_drained_of_one_round {batchSize : Nat} {attempts : Attempts}
    (stored : attemptRow "evt_1" ∈ attempts.rows)
    (count : (runDispatchBatch .postgresql batchSize (fun _ => firstDown) attempts).1 = 1) :
    ¬Drained .postgresql batchSize (fun _ => firstDown) attempts 0 := by
  intro drained
  rcases drained.exhausted with all | ⟨last, counted, none⟩
  · exact absurd (count.symm.trans all) (by decide)
  · obtain rfl : last = 0 := by omega
    have notDue := none (attemptRow "evt_1") (List.mem_map.mpr ⟨_, stored, rfl⟩)
    exact absurd notDue (by decide)

/-- One failing attempt ends the loop after its first round, though the claim found it
due. With a batch size of 1 the attempt behind it is due and healthy, and is not sent. -/
theorem failing_attempt_ends_the_batch :
    ¬Drained .postgresql defaultBatchSize (fun _ => firstDown)
        ⟨[attemptRow "evt_1"], by decide⟩ 0 ∧
      ¬Drained .postgresql 1 (fun _ => firstDown) twoDue.webhookAttempts 0 ∧
      ((runDispatchBatch .postgresql 1 (fun _ => firstDown)
        twoDue.webhookAttempts).2.attempts.find? "evt_2").map WebhookAttempt.status =
          some "pending" := by
  refine ⟨not_drained_of_one_round List.mem_cons_self ?_,
    not_drained_of_one_round List.mem_cons_self ?_, ?_⟩
  · decide +kernel
  · decide +kernel
  · decide +kernel

end ApiBank.Webhook.DispatchBatch
