import ApiBank.Billing.Subscription
import Mathlib.Data.List.Forall2

/-!
# The daily expiry job

The job rewrites the status of active rows that are over, and with it the time of their last
update. The subscription of a user is the latest active row, if it is not over: a row that the
job rewrites is never it, now or later, and a row that the job leaves is found among fewer
others.
-/

namespace ApiBank.Subscriptions.Expiry

open ApiBank.Billing ApiBank.Db ApiBank.Relational ApiBank.Transition
open Billing.Subscription

set_option autoImplicit false

/-- The scheduler commits when a row was updated. -/
def expireSubscriptionsJob (now : Int) (db : Database) : Database :=
  match expireDueSubscriptions now db with
  | .ok count after => if count = 0 then db else after
  | .error _ _ => db

/-- A row of the table with the columns that none of the queries reads. -/
structure StoredSubscription where
  subscription : Db.Subscription
  autoRenew : Bool
  createdAt : DateTime
  updatedAt : DateTime

def StoredSubscription.id (stored : StoredSubscription) : String := stored.subscription.id

/-- The rows as the queries read them. -/
def shown (stored : Table StoredSubscription.id) : Table Db.Subscription.id where
  rows := stored.rows.map StoredSubscription.subscription
  distinct := by
    rw [List.map_map]
    exact stored.distinct

/-- A database with these rows. -/
def holding (db : Database) (stored : Table StoredSubscription.id) : Database :=
  { db with subscriptions := shown stored }

/-- The statement on one row: `onupdate` renews `updated_at` wherever the statement writes. -/
def expireStored (now updatedAt : Int) (stored : StoredSubscription) : StoredSubscription :=
  if due now stored.subscription then
    { stored with
      subscription := expireIfDue now stored.subscription
      updatedAt := .utc updatedAt }
  else stored

theorem id_expireStored (now updatedAt : Int) (stored : StoredSubscription) :
    (expireStored now updatedAt stored).id = stored.id := by
  unfold expireStored
  split
  · exact id_expireIfDue now stored.subscription
  · rfl

/-- `expire_due_subscriptions` on the whole rows, with the time at which the statement runs. -/
def expireRows (now updatedAt : Int) (stored : Table StoredSubscription.id) :
    Table StoredSubscription.id :=
  stored.update (expireStored now updatedAt) (id_expireStored now updatedAt)

/-- A row is as it was, or an active row that is over has another status and the time of the
update. -/
structure Restated (now updatedAt : Int) (old new : StoredSubscription) : Prop where
  rest : new = { old with
    subscription := { old.subscription with status := new.subscription.status }
    updatedAt := new.updatedAt }
  only : new ≠ old → old.subscription.status = "active" ∧
    old.subscription.expiresAt.instant < now ∧ new.updatedAt = .utc updatedAt

variable {now time : Int} {before : Database} {rows : List Db.Subscription}

def lasts (time : Int) (row : Db.Subscription) : Bool := time ≤ row.expiresAt.instant

theorem getActiveSubscription_eq (userId : String) (db : Database) :
    getActiveSubscription userId time db = ((db.subscriptions.rows.filter fun row =>
      row.userId = userId && row.status = "active").filter (lasts time)).foldl later none := by
  have kept : (fun row : Db.Subscription => decide (time ≤ row.expiresAt.aware.instant)) =
      lasts time := by
    funext row
    simp [lasts]
  rw [getActiveSubscription, latestActive, kept, later_eq]
  exact foldl_laterBy_filter time _ none

theorem expireIfDue_of_lasts {row : Db.Subscription} (ordered : now ≤ time)
    (kept : lasts time row = true) : expireIfDue now row = row := by
  have current : time ≤ row.expiresAt.instant := by simpa [lasts] using kept
  have early : due now row = false := by
    have running : ¬row.expiresAt.instant < now := by omega
    simp [due, running]
  rw [expireIfDue, early]
  rfl

theorem lasts_expireIfDue (row : Db.Subscription) :
    lasts time (expireIfDue now row) = lasts time row := by
  unfold expireIfDue
  split <;> rfl

theorem lasting_rows (ordered : now ≤ time) (wanted : Db.Subscription → Bool) :
    ((rows.map (expireIfDue now)).filter wanted).filter (lasts time) =
      (rows.filter wanted).filter (lasts time) := by
  induction rows with
  | nil => rfl
  | cons row rest ih =>
      by_cases kept : lasts time row = true
      · have same := expireIfDue_of_lasts ordered kept
        rw [List.map_cons, same]
        by_cases asked : wanted row = true
        · rw [List.filter_cons_of_pos asked, List.filter_cons_of_pos asked,
            List.filter_cons_of_pos kept, List.filter_cons_of_pos kept, ih]
        · rw [List.filter_cons_of_neg asked, List.filter_cons_of_neg asked, ih]
      · have gone : ¬lasts time (expireIfDue now row) = true := by
          rw [lasts_expireIfDue]
          exact kept
        have drop : ∀ (first : Db.Subscription) (others : List Db.Subscription),
            ¬lasts time first = true →
              ((first :: others).filter wanted).filter (lasts time) =
                (others.filter wanted).filter (lasts time) := by
          intro first others past
          by_cases asked : wanted first = true
          · rw [List.filter_cons_of_pos asked, List.filter_cons_of_neg past]
          · rw [List.filter_cons_of_neg asked]
        rw [List.map_cons, drop _ _ gone, drop _ _ kept, ih]

theorem restated_expireStored (updatedAt : Int) (stored : StoredSubscription) :
    Restated now updatedAt stored (expireStored now updatedAt stored) := by
  by_cases past : due now stored.subscription = true
  · have ended : stored.subscription.status = "active" ∧
        stored.subscription.expiresAt.instant < now := by
      simpa [due] using past
    rw [expireStored, if_pos past, expireIfDue, if_pos past]
    exact ⟨rfl, fun _ => ⟨ended.1, ended.2, rfl⟩⟩
  · rw [expireStored, if_neg past]
    exact ⟨rfl, fun changed => absurd rfl changed⟩

/-- The queries read what the statement on their columns leaves. -/
theorem subscription_expireStored (updatedAt : Int) (stored : StoredSubscription) :
    (expireStored now updatedAt stored).subscription = expireIfDue now stored.subscription := by
  by_cases past : due now stored.subscription = true
  · rw [expireStored, if_pos past]
  · rw [expireStored, if_neg past, expireIfDue, if_neg past]

theorem due_expireIfDue (row : Db.Subscription) : due now (expireIfDue now row) = false := by
  by_cases past : due now row = true
  · rw [expireIfDue, if_pos past]
    rfl
  · rw [expireIfDue, if_neg past]
    simpa using past

theorem expireStored_twice (updatedAt again : Int) (stored : StoredSubscription) :
    expireStored now again (expireStored now updatedAt stored) =
      expireStored now updatedAt stored := by
  have rest : ¬due now (expireStored now updatedAt stored).subscription = true := by
    rw [subscription_expireStored, due_expireIfDue]
    exact Bool.false_ne_true
  rw [expireStored, if_neg rest]

/-- The job does what the statement does: without a row to update there is nothing to
commit. -/
theorem job_eq_commit (now : Int) (db : Database) :
    expireSubscriptionsJob now db = Effect.commit (expireDueSubscriptions now) db := by
  by_cases none : (db.subscriptions.rows.filter (due now)).length = 0
  · have idle : db.subscriptions.update (expireIfDue now) (id_expireIfDue now) =
        db.subscriptions := by
      apply Table.ext_rows
      rw [Table.rows_update]
      conv_rhs => rw [← List.map_id db.subscriptions.rows]
      apply List.map_congr_left
      intro row member
      have early : ¬due now row = true :=
        List.filter_eq_nil_iff.mp (List.eq_nil_of_length_eq_zero none) row member
      rw [expireIfDue, if_neg early, id]
    simp [expireSubscriptionsJob, expireDueSubscriptions, Effect.commit, none, idle]
  · simp [expireSubscriptionsJob, expireDueSubscriptions, Effect.commit, none]

theorem shown_expireRows (updatedAt : Int) (stored : Table StoredSubscription.id) :
    shown (expireRows now updatedAt stored) =
      (shown stored).update (expireIfDue now) (id_expireIfDue now) := by
  apply Table.ext_rows
  simp only [shown, expireRows, Table.rows_update, List.map_map]
  exact List.map_congr_left fun row _ => subscription_expireStored updatedAt row

/-- The job changes no answer, now or later, writes nothing but the status and the time of the
update of active rows that are over, and has nothing left to do when it runs again. -/
theorem expiry_is_invisible (db : Database) (stored : Table StoredSubscription.id)
    (now updatedAt time : Int) (ordered : now ≤ time) :
    (∀ userId, getActiveSubscription userId time (holding db (expireRows now updatedAt stored)) =
      getActiveSubscription userId time (holding db stored)) ∧
    List.Forall₂ (Restated now updatedAt) stored.rows (expireRows now updatedAt stored).rows ∧
    (∀ again, expireRows now again (expireRows now updatedAt stored) =
      expireRows now updatedAt stored) ∧
    Effect.commit (expireDueSubscriptions now) (holding db stored) =
      holding db (expireRows now updatedAt stored) ∧
    expireSubscriptionsJob now (holding db stored) =
      holding db (expireRows now updatedAt stored) := by
  have written : Effect.commit (expireDueSubscriptions now) (holding db stored) =
      holding db (expireRows now updatedAt stored) := by
    rw [holding, holding, shown_expireRows]
    rfl
  refine ⟨?_, ?_, ?_, written, (job_eq_commit now (holding db stored)).trans written⟩
  · intro userId
    rw [getActiveSubscription_eq, getActiveSubscription_eq, holding, shown_expireRows]
    exact congrArg (List.foldl later none) (lasting_rows ordered _)
  · rw [expireRows, Table.rows_update, List.forall₂_map_right_iff, List.forall₂_same]
    exact fun row _ => restated_expireStored updatedAt row
  · intro again
    apply Table.ext_rows
    simp only [expireRows, Table.rows_update, List.map_map]
    exact List.map_congr_left fun row _ => expireStored_twice updatedAt again row

/-- One subscription that is over at 10 and one that runs until 20. -/
def overAndRunning : Table StoredSubscription.id :=
  ⟨[⟨⟨"s1", "u1", "p1", .utc 0, .utc 5, "active"⟩, false, .utc 0, .utc 0⟩,
    ⟨⟨"s2", "u1", "p1", .utc 0, .utc 20, "active"⟩, false, .utc 0, .utc 0⟩], by decide⟩

theorem running_is_found_after_expiry :
    getActiveSubscription "u1" 15 (holding .empty (expireRows 10 11 overAndRunning)) =
      some ⟨"s2", "u1", "p1", .utc 0, .utc 20, "active"⟩ :=
  ((expiry_is_invisible .empty overAndRunning 10 11 15 (by decide)).1 "u1").trans rfl

/-- The row that is over shows when the job has run. -/
theorem expiry_renews_updated_at :
    ¬∀ (stored : Table StoredSubscription.id) (now updatedAt : Int),
      (expireRows now updatedAt stored).rows.map StoredSubscription.updatedAt =
        stored.rows.map StoredSubscription.updatedAt := by
  intro kept
  have same := kept overAndRunning 10 11
  revert same
  decide

end ApiBank.Subscriptions.Expiry
