import ApiBank.Core.Reconcile

/-!
# Silent payments

The job runs every five minutes and looks for transfers that fit an expired order. It
asks only for the orders that expired since the midnight of its own clock, so a pair
whose first run falls on the next day is never reported.
-/

namespace ApiBank.Core.SilentPayments

open ApiBank.Db ApiBank.Relational ApiBank.Transition
open Reconcile

set_option autoImplicit false

/-- `minutes=5` of the scheduled job. -/
def interval : Int := seconds 300

/-- Runs of the job at every fifth minute, with anything at all in between. -/
structure Runs where
  first : Int
  start : Database
  between : Nat → Database → Database

def Runs.tick (runs : Runs) (index : Nat) : Int := runs.first + index * interval

def Runs.stateAt (runs : Runs) : Nat → Database
  | 0 => runs.start
  | index + 1 =>
      runs.between index (Effect.commit (reconcile (runs.tick index)) (runs.stateAt index))

/-- What `detect_silent_payments` returns to `reconcile`. -/
def suspects (now : Int) : Session (List (String × String)) := do
  let _ ← expireOverdueOrders now
  detectSilentPayments now

/-- An order that was not paid, and a transfer that fits it. -/
structure SilentPayment where
  orderId : String
  txId : String
  bankAccountId : String
  amountVnd : Int
  expiredAt : DateTime

/-- The order is pending or expired, and nothing is matched to the transfer. -/
structure SilentPayment.Exists (payment : SilentPayment) (db : Database) : Prop where
  order : ∃ row ∈ db.orders.rows, row.id = payment.orderId ∧
    row.bankAccountId = payment.bankAccountId ∧ row.amountVnd = payment.amountVnd ∧
    row.expiredAt = payment.expiredAt ∧ (row.status = .pending ∨ row.status = .expired)
  transaction : ∃ row ∈ db.transactions.rows, row.id = payment.txId ∧
    row.bankAccountId = payment.bankAccountId ∧ row.amountVnd = payment.amountVnd ∧
    row.matchedOrderId = none

def SilentPayment.since (payment : SilentPayment) (arrival : Int) : Int :=
  max payment.expiredAt.instant arrival

/-- The pair is there in the runs of the five minutes after. -/
def SilentPayment.Present (payment : SilentPayment) (runs : Runs) (arrival : Int) : Prop :=
  ∀ index, payment.since arrival ≤ runs.tick index →
    runs.tick index ≤ payment.since arrival + interval → payment.Exists (runs.stateAt index)

/-- One of these runs returns the pair. -/
def SilentPayment.Reported (payment : SilentPayment) (runs : Runs) (arrival : Int) : Prop :=
  ∃ index, payment.since arrival ≤ runs.tick index ∧
    runs.tick index ≤ payment.since arrival + interval ∧
    ∃ found after, suspects (runs.tick index) (runs.stateAt index) = .ok found after ∧
      (payment.orderId, payment.txId) ∈ found

def Runs.nextTick (runs : Runs) (moment : Int) : Int :=
  runs.first + (moment - runs.first + interval - 1) / interval * interval

def dayEnd (moment : Int) : Int := moment - moment % days 1 + days 1

variable {runs : Runs} {payment : SilentPayment} {arrival now : Int} {db : Database}

theorem status_of_expireIfOverdue {order : Order} :
    (expireIfOverdue now order).status = .expired ↔
      order.status = .expired ∨ overdue now order = true := by
  unfold expireIfOverdue
  split
  · rename_i due
    simp [due, Order.setStatus]
  · rename_i due
    simp [due]

/-- Only the status and the time of the last change differ after the expiry. -/
theorem columns_of_expireIfOverdue (now : Int) (order : Order) :
    (expireIfOverdue now order).bankAccountId = order.bankAccountId ∧
      (expireIfOverdue now order).amountVnd = order.amountVnd ∧
      (expireIfOverdue now order).expiredAt = order.expiredAt := by
  unfold expireIfOverdue
  split <;> exact ⟨rfl, rfl, rfl⟩

/-- A run returns the pair when the order expired since the run's midnight. -/
theorem suspects_mem_iff (present : payment.Exists db) (due : payment.expiredAt.instant ≤ now) :
    (∃ found after, suspects now db = .ok found after ∧
        (payment.orderId, payment.txId) ∈ found) ↔
      now - now % days 1 ≤ payment.expiredAt.instant := by
  obtain ⟨⟨order, orderStored, orderId, account, amount, expiry, unpaid⟩,
    transaction, txStored, txId, txAccount, txAmount, unmatched⟩ := present
  have expired : (expireIfOverdue now order).status = .expired := by
    refine status_of_expireIfOverdue.mpr ?_
    rcases unpaid with pending | already
    · exact .inr (by simp [overdue, pending, expiry, due])
    · exact .inl already
  obtain ⟨sameAccount, sameAmount, sameExpiry⟩ := columns_of_expireIfOverdue now order
  constructor
  · rintro ⟨found, after, returned, member⟩
    cases returned
    obtain ⟨listed, chosen, pairs⟩ := List.mem_flatMap.mp member
    obtain ⟨stored, recent⟩ := List.mem_filter.mp chosen
    obtain ⟨other, -, same⟩ := List.mem_map.mp pairs
    rw [Table.rows_update] at stored
    obtain ⟨row, rowStored, rfl⟩ := List.mem_map.mp stored
    -- the id names one order, so the expiry that was tested is that of the pair
    have keyed : row.id = order.id := by
      rw [orderId, ← (Prod.mk.inj same).1, id_expireIfOverdue]
    obtain rfl := db.orders.eq_of_key_eq rowStored orderStored keyed
    simp only [Bool.and_eq_true, decide_eq_true_eq] at recent
    rw [← expiry, ← sameExpiry]
    exact recent.2
  · intro recent
    refine ⟨_, _, rfl, List.mem_flatMap.mpr ⟨expireIfOverdue now order, ?_, ?_⟩⟩
    · refine List.mem_filter.mpr ⟨?_, ?_⟩
      · rw [Table.rows_update]
        exact List.mem_map_of_mem orderStored
      · simp [expired, sameExpiry, expiry, recent]
    · refine List.mem_map.mpr ⟨transaction, List.mem_filter.mpr ⟨txStored, ?_⟩, ?_⟩
      · simp [sameAccount, sameAmount, account, amount, txAccount, txAmount, unmatched]
      · rw [id_expireIfOverdue, orderId, txId]

theorem day_start_le_iff (moment other : Int) :
    moment - moment % days 1 ≤ other ↔ moment < dayEnd other := by
  unfold dayEnd days seconds
  omega

theorem nextTick_le {moment : Int} {index : Nat} (after : moment ≤ runs.tick index) :
    runs.nextTick moment ≤ runs.tick index := by
  unfold Runs.nextTick Runs.tick interval seconds at *
  omega

/-- The next run after a moment comes within five minutes. -/
theorem nextTick_spec {moment : Int} (watched : runs.first ≤ moment) :
    ∃ index, runs.tick index = runs.nextTick moment ∧ moment ≤ runs.nextTick moment ∧
      runs.nextTick moment ≤ moment + interval := by
  refine ⟨((moment - runs.first + interval - 1) / interval).toNat, ?_, ?_⟩
  · unfold Runs.nextTick Runs.tick interval seconds at *
    omega
  · unfold Runs.nextTick interval seconds at *
    omega

theorem next_before_midnight_of_reported (present : payment.Present runs arrival)
    (reported : payment.Reported runs arrival) :
    runs.nextTick (payment.since arrival) < dayEnd payment.expiredAt.instant := by
  obtain ⟨index, after, soon, returned⟩ := reported
  have due : payment.expiredAt.instant ≤ runs.tick index := Int.le_trans (Int.le_max_left ..) after
  have recent := (suspects_mem_iff (present index after soon) due).mp returned
  exact Int.lt_of_le_of_lt (nextTick_le after) ((day_start_le_iff ..).mp recent)

/-- The pair is reported in time if and only if the first run that can see it falls on
the day on which the order expired. -/
theorem silent_payment_reported_iff (watched : runs.first ≤ payment.since arrival)
    (present : payment.Present runs arrival) :
    payment.Reported runs arrival ↔
      runs.nextTick (payment.since arrival) < dayEnd payment.expiredAt.instant := by
  refine ⟨next_before_midnight_of_reported present, fun sameDay => ?_⟩
  obtain ⟨index, next, after, soon⟩ := nextTick_spec watched
  rw [← next] at sameDay after soon
  have due : payment.expiredAt.instant ≤ runs.tick index := Int.le_trans (Int.le_max_left ..) after
  exact ⟨index, after, soon, (suspects_mem_iff (present index after soon) due).mpr
    ((day_start_le_iff ..).mpr sameDay)⟩

/-- The job itself leaves the pair there. -/
theorem exists_of_reconcile (present : payment.Exists db) (now : Int) :
    payment.Exists (Effect.commit (reconcile now) db) := by
  obtain ⟨⟨order, stored, orderId, account, amount, expiry, unpaid⟩, transaction⟩ := present
  refine ⟨⟨expireIfOverdue now order, ?_, ?_⟩, transaction⟩
  · exact List.mem_map_of_mem stored
  · obtain ⟨sameAccount, sameAmount, sameExpiry⟩ := columns_of_expireIfOverdue now order
    refine ⟨(id_expireIfOverdue ..).trans orderId, sameAccount.trans account,
      sameAmount.trans amount, sameExpiry.trans expiry, ?_⟩
    rcases expireIfOverdue_cases now order with ⟨-, changed⟩ | same
    · exact .inr (by rw [changed]; rfl)
    · rwa [same]

/-- A pair that nothing else touches stays, by induction on the runs. -/
theorem exists_of_kept (start : payment.Exists runs.start)
    (kept : ∀ index db, payment.Exists db → payment.Exists (runs.between index db))
    (index : Nat) : payment.Exists (runs.stateAt index) := by
  induction index with
  | zero => exact start
  | succ index ih => exact kept index _ (exists_of_reconcile ih _)

def unpaidOrder (expiry : Int) : Order where
  id := "o1"
  code := "DHJWM6YB"
  transferContent := none
  amountVnd := 100000
  status := .pending
  bankAccountId := "b1"
  userId := none
  expiredAt := .utc expiry
  paidTxId := none
  paidAt := none
  customerRef := none
  metadataJson := []
  createdAt := .utc 0
  updatedAt := .utc 0

def strayTransfer : Transaction where
  id := "t1"
  bankAccountId := "b1"
  bankRefNo := "FT1"
  amountVnd := 100000
  content := "chuyen tien"
  postedAt := .utc 0
  timestampReliable := true
  matchedOrderId := none
  state := .unmatched
  insertedAt := .utc 0

/-- Runs from the epoch on, and nothing else happens. -/
def quietRuns (expiry : Int) : Runs where
  first := 0
  start := { Database.empty with
    orders := ⟨[unpaidOrder expiry], by simp⟩
    transactions := ⟨[strayTransfer], by simp⟩ }
  between := fun _ db => db

def strayPayment (expiry : Int) : SilentPayment := ⟨"o1", "t1", "b1", 100000, .utc expiry⟩

theorem strayPayment_present (expiry arrival : Int) :
    (strayPayment expiry).Present (quietRuns expiry) arrival := by
  have start : (strayPayment expiry).Exists (quietRuns expiry).start :=
    ⟨⟨unpaidOrder expiry, List.mem_cons_self, rfl, rfl, rfl, rfl, .inl rfl⟩,
      strayTransfer, List.mem_cons_self, rfl, rfl, rfl, rfl⟩
  exact fun index _ _ => exists_of_kept start (fun _ _ kept => kept) index

/-- An order that expires at noon is reported with a transfer of two minutes later. -/
theorem noon_is_reported :
    (strayPayment (seconds 43200)).Reported (quietRuns (seconds 43200)) (seconds 43320) :=
  (silent_payment_reported_iff (by decide) (strayPayment_present _ _)).mpr (by decide)

/-- One that expires two minutes before midnight is not, though the transfer is there. -/
theorem late_expiry_is_missed :
    ¬∀ (runs : Runs) (payment : SilentPayment) (arrival : Int),
      arrival ≤ payment.expiredAt.instant + seconds 3600 →
      runs.first ≤ payment.since arrival → payment.Present runs arrival →
        payment.Reported runs arrival := by
  intro always
  have reported := always (quietRuns (seconds 86280)) (strayPayment (seconds 86280)) 0 (by decide)
    (by decide) (strayPayment_present _ _)
  have early := next_before_midnight_of_reported (strayPayment_present _ _) reported
  exact absurd early (by decide)

end ApiBank.Core.SilentPayments
