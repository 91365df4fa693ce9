import ApiBank.Api.AdminBilling
import ApiBank.Billing.PlanChanges
import ApiBank.Transition.Run

/-!
# The subscription in force

A purchase looks for the subscription in force and extends it, so a user who buys and
changes plans has one at most. An admin who extends or restarts a row looks at that row
alone, and can bring an old one back beside the present one.
-/

namespace ApiBank.Subscriptions.Effective

open ApiBank.Api ApiBank.Billing ApiBank.Db ApiBank.Relational ApiBank.Transition
open AdminBilling AdminOps Billing.Subscription Coupons PlanChanges

set_option autoImplicit false

def InForce (time : Int) (row : Db.Subscription) : Prop :=
  row.status = "active" ∧ time ≤ row.expiresAt.instant

def UniqueAt (time : Int) (db : Database) : Prop :=
  ∀ first ∈ db.subscriptions.rows, ∀ second ∈ db.subscriptions.rows,
    InForce time first → InForce time second → first.userId = second.userId → first = second

/-- At the time no user has two subscriptions in force, and the one there is is the
user's active subscription. -/
structure Single (time : Int) (db : Database) : Prop where
  unique : UniqueAt time db
  granted : ∀ row ∈ db.subscriptions.rows, InForce time row →
    getActiveSubscription row.userId time db = some row

/-- The requests; the clock is read when they are served. -/
inductive Request where
  | purchase (args : PurchaseArgs) (draws : PurchaseDraws)
  | changePlan (args : ChangePlanArgs) (draws : ChangePlanDraws)
  | cancelMine (userId : String)
  | expireDue
  | adminCancel (subId : String)
  | adminExtend (subId : String) (count : ExtendDays)
  | adminChangePlan (subId planCode : String) (resetPeriod : Bool)
  | adminRefund (subId : String) (amountVnd : Option Int) (note actorEmail tokenHex rowId : String)

def perform (text : CodeText) (now : Int) : Request → Session Unit
  | .purchase args draws => Effect.discard (purchase text args { draws with now })
  | .changePlan args draws => Effect.discard
      (changePlan text args { draws with purchase := { draws.purchase with now } })
  | .cancelMine userId => cancelMySubscription userId
  | .expireDue => Effect.discard (expireDueSubscriptions now)
  | .adminCancel subId => adminCancelSub subId
  | .adminExtend subId count => adminExtendSub subId count
  | .adminChangePlan subId planCode resetPeriod => adminChangePlan subId planCode resetPeriod now
  | .adminRefund subId amountVnd note actorEmail tokenHex rowId =>
      adminRefundSub subId amountVnd note actorEmail ⟨tokenHex, rowId, now⟩

/-- A request, and the time since the one before it. -/
structure Event where
  elapsed : Nat
  request : Request

structure State where
  clock : Int
  db : Database

def serve (text : CodeText) (state : State) (event : Event) : State where
  clock := state.clock + event.elapsed
  db := Effect.commit (perform text (state.clock + event.elapsed) event.request) state.db

/-- From now on, as long as nothing else happens. -/
def AlwaysSingle (state : State) : Prop := ∀ time, state.clock ≤ time → Single time state.db

def SingleAfter (text : CodeText) (state : State) (event : Event) : Prop :=
  AlwaysSingle (serve text state event)

def Alone (time : Int) (row : Db.Subscription) (db : Database) : Prop :=
  ∀ other ∈ db.subscriptions.rows, other.id ≠ row.id → other.userId = row.userId →
    ¬InForce time other

def LooksAround (now : Int) (db : Database) : Request → Prop
  | .adminExtend subId count => ∀ row, db.subscriptions.find? subId = some row →
      row.status = "active" ∨ row.status = "expired" ∨ row.status = "canceled" →
        now ≤ row.expiresAt.instant + days count → Alone now row db
  | .adminChangePlan subId planCode true => ∀ row plan,
      db.subscriptions.find? subId = some row → planOfCode planCode db = some plan →
        0 ≤ plan.durationDays → Alone now row db
  | _ => True

/-- A row is extended or restarted so that it is in force only when the user has no
other subscription in force. -/
def Careful (state : State) (event : Event) : Prop :=
  LooksAround (state.clock + event.elapsed) state.db event.request

variable {text : CodeText} {now time : Int} {before after : Database} {userId : String}

section Active

theorem foldl_later_bound {rows : List Db.Subscription} (best : Option Db.Subscription)
    {row : Db.Subscription} (known : row ∈ rows ∨ best = some row) :
    ∃ last, rows.foldl later best = some last ∧
      row.expiresAt.instant ≤ last.expiresAt.instant := by
  induction rows generalizing best row with
  | nil =>
      rcases known with listed | chosen
      · cases listed
      · exact ⟨row, chosen, le_refl _⟩
  | cons first rest ih =>
      have step : ∃ next, later best first = some next ∧
          first.expiresAt.instant ≤ next.expiresAt.instant ∧
            ∀ current, best = some current →
              current.expiresAt.instant ≤ next.expiresAt.instant := by
        cases best with
        | none => exact ⟨first, rfl, le_refl _, by simp⟩
        | some current =>
            by_cases sooner : current.expiresAt.instant < first.expiresAt.instant
            · refine ⟨first, by simp [later, sooner], le_refl _, ?_⟩
              rintro other same
              cases same
              exact sooner.le
            · refine ⟨current, by simp [later, sooner], not_lt.mp sooner, ?_⟩
              rintro other same
              cases same
              exact le_refl _
      obtain ⟨next, chosen, overFirst, overBest⟩ := step
      rcases known with listed | held
      · rcases List.mem_cons.mp listed with rfl | deeper
        · obtain ⟨last, found, bound⟩ := ih _ (.inr chosen)
          exact ⟨last, found, overFirst.trans bound⟩
        · exact ih (later best first) (.inl deeper)
      · obtain ⟨last, found, bound⟩ := ih _ (.inr chosen)
        exact ⟨last, found, (overBest row held).trans bound⟩

theorem active_of_inForce {row : Db.Subscription} (member : row ∈ before.subscriptions.rows)
    (runs : InForce time row) :
    ∃ last, getActiveSubscription row.userId time before = some last := by
  have listed : row ∈ before.subscriptions.rows.filter fun other =>
      other.userId = row.userId && other.status = "active" := by
    simp [member, runs.1]
  obtain ⟨last, found, bound⟩ := foldl_later_bound none (.inl listed)
  refine ⟨last, ?_⟩
  have current : time ≤ last.expiresAt.instant := runs.2.trans bound
  simp [getActiveSubscription, latestActive, found, current]

/-- The first half is enough, and later times follow. -/
theorem always_of_unique {state : State}
    (unique : UniqueAt state.clock state.db) : AlwaysSingle state := by
  intro time later
  have atTime : UniqueAt time state.db := by
    intro first firstMember second secondMember firstRuns secondRuns
    exact unique first firstMember second secondMember ⟨firstRuns.1, later.trans firstRuns.2⟩
      ⟨secondRuns.1, later.trans secondRuns.2⟩
  refine ⟨atTime, ?_⟩
  intro row member runs
  obtain ⟨last, found⟩ := active_of_inForce member runs
  obtain ⟨lastMember, owner, active, current⟩ := active_of_getActiveSubscription found
  rw [found, atTime row member last lastMember runs ⟨active, current⟩ owner.symm]

end Active

section Step

theorem unique_of_modify {subId : String} {change : Db.Subscription → Db.Subscription}
    (keeps : ∀ row, (change row).id = row.id) (owner : ∀ row, (change row).userId = row.userId)
    (single : Single time before)
    (changed : after.subscriptions = before.subscriptions.modify subId change keeps)
    (alone : ∀ row, before.subscriptions.find? subId = some row → InForce time (change row) →
      Alone time row before) :
    UniqueAt time after := by
  intro first firstMember second secondMember firstRuns secondRuns sameUser
  rw [changed] at firstMember secondMember
  obtain ⟨old, oldMember, rfl⟩ := (Table.mem_modify_iff ..).mp firstMember
  obtain ⟨other, otherMember, rfl⟩ := (Table.mem_modify_iff ..).mp secondMember
  by_cases firstTarget : old.id = subId
  · by_cases secondTarget : other.id = subId
    · rw [before.subscriptions.eq_of_key_eq oldMember otherMember
        (firstTarget.trans secondTarget.symm)]
    · rw [if_pos firstTarget] at firstRuns sameUser
      rw [if_neg secondTarget] at secondRuns sameUser
      have apart : other.id ≠ old.id := fun same => secondTarget (same.trans firstTarget)
      exact absurd secondRuns (alone old (firstTarget ▸ Table.find?_of_mem oldMember) firstRuns
        other otherMember apart (sameUser.symm.trans (owner old)))
  · rw [if_neg firstTarget] at firstRuns sameUser
    by_cases secondTarget : other.id = subId
    · rw [if_pos secondTarget] at secondRuns sameUser
      have apart : old.id ≠ other.id := fun same => firstTarget (same.trans secondTarget)
      exact absurd firstRuns (alone other (secondTarget ▸ Table.find?_of_mem otherMember)
        secondRuns old oldMember apart (sameUser.trans (owner other)))
    · rw [if_neg secondTarget] at secondRuns sameUser
      rw [if_neg firstTarget, if_neg secondTarget]
      exact single.unique old oldMember other otherMember firstRuns secondRuns sameUser

theorem alone_of_single {row : Db.Subscription} (single : Single time before)
    (member : row ∈ before.subscriptions.rows) (runs : InForce time row) :
    Alone time row before := by
  intro other otherMember apart sameUser otherRuns
  rw [single.unique other otherMember row member otherRuns runs sameUser] at apart
  exact apart rfl

theorem unique_of_shrunk (single : Single time before)
    (shrunk : ∀ row ∈ after.subscriptions.rows, InForce time row →
      ∃ old ∈ before.subscriptions.rows, InForce time old ∧ old.userId = row.userId ∧
        row.id = old.id) :
    UniqueAt time after := by
  intro first firstMember second secondMember firstRuns secondRuns sameUser
  obtain ⟨old, oldMember, oldRuns, oldUser, oldId⟩ := shrunk first firstMember firstRuns
  obtain ⟨other, otherMember, otherRuns, otherUser, otherId⟩ :=
    shrunk second secondMember secondRuns
  have same := single.unique old oldMember other otherMember oldRuns otherRuns
    (oldUser.trans (sameUser.trans otherUser.symm))
  apply after.subscriptions.eq_of_key_eq firstMember secondMember
  rw [oldId, otherId, same]

/-- Canceling a row takes it out of force. -/
theorem single_cancel {subId : String} (single : Single time before)
    (changed : after.subscriptions = before.subscriptions.modify subId cancel id_cancel) :
    UniqueAt time after := by
  apply unique_of_modify id_cancel (fun _ => rfl) single changed
  intro row _ runs
  exact absurd runs.1 (by simp [cancel])

theorem purchase_extends {args : PurchaseArgs} {draws : PurchaseDraws}
    {result : Db.Subscription × Invoice}
    (returned : purchase text args draws before = .ok result after) :
    ∃ plan charged row extended,
      extendOrCreate args.userId plan draws charged = .ok row extended ∧
        charged.subscriptions = before.subscriptions ∧
          after.subscriptions = extended.subscriptions := by
  obtain ⟨plan, price, row, redeemed, charged, extended, invoiced, steps⟩ :=
    PurchaseRetry.purchase_steps returned
  refine ⟨plan, charged, result.1, extended, steps.extending, ?_, ?_⟩
  · rw [Wallet.perform_frame steps.charging, (PurchaseRetry.redeemCoupon_ok steps.redeeming).2.2]
  · rw [PurchaseRetry.linkRedemption_ok steps.linking,
      (PurchaseRetry.insertInvoice_ok steps.invoicing).2]

/-- A purchase extends what is in force, or finds nothing in force. -/
theorem unique_of_purchase {args : PurchaseArgs} {draws : PurchaseDraws}
    {result : Db.Subscription × Invoice} (single : Single draws.now before)
    (returned : purchase text args draws before = .ok result after) :
    UniqueAt draws.now after := by
  obtain ⟨plan, charged, row, extended, extending, readBefore, written⟩ :=
    purchase_extends returned
  have found : getActiveSubscription args.userId draws.now charged =
      getActiveSubscription args.userId draws.now before := by
    simp only [getActiveSubscription, latestActive, readBefore]
  simp only [extendOrCreate, bind, EStateM.bind, Effect.get_apply, found] at extending
  cases active : getActiveSubscription args.userId draws.now before with
  | some existing =>
      simp only [active] at extending
      cases extending
      dsimp only at written
      rw [readBefore] at written
      obtain ⟨member, -, running, current⟩ := active_of_getActiveSubscription active
      apply unique_of_modify (id_extend plan) (fun _ => rfl) single written
      intro row foundRow _
      rw [Table.find?_of_mem member, Option.some.injEq] at foundRow
      subst foundRow
      exact alone_of_single single member ⟨running, current⟩
  | none =>
      simp only [active, insertSubscription] at extending
      split at extending
      · rename_i rows inserted
        cases extending
        have absent : ∀ old ∈ before.subscriptions.rows, InForce draws.now old →
            old.userId ≠ args.userId := by
          rintro old member runs same
          obtain ⟨last, granted⟩ := active_of_inForce member runs
          rw [same, active] at granted
          cases granted
        rw [readBefore] at inserted
        unfold UniqueAt
        rw [written, Table.rows_of_insert? inserted]
        intro first firstMember second secondMember firstRuns secondRuns sameUser
        rcases List.mem_append.mp firstMember with old | new
        · rcases List.mem_append.mp secondMember with other | other
          · exact single.unique first old second other firstRuns secondRuns sameUser
          · rw [List.mem_singleton.mp other] at sameUser
            exact absurd sameUser (absent first old firstRuns)
        · rcases List.mem_append.mp secondMember with other | other
          · rw [List.mem_singleton.mp new] at sameUser
            exact absurd sameUser.symm (absent second other secondRuns)
          · rw [List.mem_singleton.mp new, List.mem_singleton.mp other]
      · contradiction

theorem unique_of_giveUp {args : ChangePlanArgs} {draws : ChangePlanDraws}
    (single : Single time before) (returned : giveUp args draws before = .ok () after) :
    UniqueAt time after := by
  rcases giveUp_ok returned with rfl | ⟨existing, plan, -, -, given⟩
  · exact single.unique
  · exact single_cancel single given.canceled

theorem single_of_perform (single : AlwaysSingle ⟨now, before⟩) {request : Request}
    (plain : ∀ subId, (∀ count, request ≠ .adminExtend subId count) ∧
      ∀ planCode, request ≠ .adminChangePlan subId planCode true)
    (returned : perform text now request before = .ok () after) :
    AlwaysSingle ⟨now, after⟩ := by
  have atNow := single now (le_refl now)
  apply always_of_unique
  cases request with
  | purchase args draws =>
      obtain ⟨result, ran⟩ := Effect.discard_ok returned
      exact unique_of_purchase atNow ran
  | changePlan args draws =>
      obtain ⟨result, ran⟩ := Effect.discard_ok returned
      obtain ⟨⟨⟩, middle, giving, buying⟩ := (Effect.bind_ok_iff ..).mp ran
      have between : AlwaysSingle ⟨now, middle⟩ :=
        always_of_unique (unique_of_giveUp atNow giving)
      exact unique_of_purchase (between now (le_refl now)) buying
  | cancelMine userId =>
      obtain ⟨sub, -, rest⟩ := (fetch_bind_ok_iff ..).mp returned
      cases rest
      exact single_cancel atNow rfl
  | expireDue =>
      obtain ⟨count, ran⟩ := Effect.discard_ok returned
      cases ran
      apply unique_of_shrunk atNow
      intro row member runs
      obtain ⟨old, oldMember, rfl⟩ := List.mem_map.mp member
      unfold expireIfDue at runs ⊢
      split at runs
      · exact absurd runs.1 (by simp)
      · rename_i running
        rw [if_neg running]
        exact ⟨old, oldMember, runs, rfl, rfl⟩
  | adminCancel subId =>
      obtain ⟨sub, -, rest⟩ := (fetch_bind_ok_iff ..).mp returned
      cases rest
      exact single_cancel atNow rfl
  | adminExtend subId count => exact absurd rfl ((plain subId).1 count)
  | adminChangePlan subId planCode resetPeriod =>
      cases resetPeriod with
      | true => exact absurd rfl ((plain subId).2 planCode)
      | false =>
          obtain ⟨sub, -, rest⟩ := (fetch_bind_ok_iff ..).mp returned
          obtain ⟨plan, -, rest⟩ := (fetch_bind_ok_iff ..).mp rest
          cases rest
          apply unique_of_modify (id_moveTo plan false now) (fun _ => rfl) atNow rfl
          intro row found runs
          exact alone_of_single atNow (Table.mem_of_find? found) runs
  | adminRefund subId amountVnd note actorEmail tokenHex rowId =>
      obtain ⟨sub, row, credited, -, -, refunded, rfl⟩ := adminRefundSub_ok returned
      apply single_cancel atNow
      rw [subscriptions_voidIfAny, modifySubscription, Wallet.perform_frame refunded]

/-- Rewriting a row so that it is in force is safe exactly when its user has no other
subscription in force. -/
theorem single_of_modify_iff {subId : String} {change : Db.Subscription → Db.Subscription}
    {row : Db.Subscription} (keeps : ∀ row, (change row).id = row.id)
    (owner : ∀ row, (change row).userId = row.userId) (single : AlwaysSingle ⟨now, before⟩)
    (found : before.subscriptions.find? subId = some row) :
    AlwaysSingle ⟨now, modifySubscription before subId change keeps⟩ ↔
      (InForce now (change row) → Alone now row before) := by
  have written (other : Db.Subscription) (member : other ∈ before.subscriptions.rows) :
      (if other.id = subId then change other else other) ∈
        (before.subscriptions.modify subId change keeps).rows :=
    (Table.mem_modify_iff ..).mpr ⟨other, member, rfl⟩
  constructor
  · intro after runs other member apart sameUser otherRuns
    have keyed := Table.key_of_find? found
    have first := written row (Table.mem_of_find? found)
    have second := written other member
    rw [if_pos keyed] at first
    rw [if_neg (keyed ▸ apart)] at second
    have same := (after now (le_refl now)).unique _ first other second runs otherRuns
      ((owner row).trans sameUser.symm)
    exact apart (same ▸ keeps row)
  · intro alone
    apply always_of_unique
    apply unique_of_modify keeps owner (single now (le_refl now)) rfl
    intro other foundOther runs
    rw [found, Option.some.injEq] at foundOther
    subst foundOther
    exact alone runs

theorem inForce_prolong_iff (count : ExtendDays) (row : Db.Subscription) :
    InForce now (prolong count row) ↔
      (row.status = "active" ∨ row.status = "expired" ∨ row.status = "canceled") ∧
        now ≤ row.expiresAt.instant + days count := by
  simp only [InForce, prolong, DateTime.instant_add]
  by_cases past : row.status = "expired" ∨ row.status = "canceled"
  · simp [past]
  · rw [if_neg past]
    simp [past]

theorem inForce_restart_iff (plan : Plan) (row : Db.Subscription) :
    InForce now (moveTo plan true now row) ↔ 0 ≤ plan.durationDays := by
  simp only [InForce, moveTo, if_true, DateTime.instant_add, DateTime.instant_utc, true_and,
    days, seconds]
  omega

theorem single_extend_iff (single : AlwaysSingle ⟨now, before⟩) (subId : String)
    (count : ExtendDays) :
    AlwaysSingle ⟨now, Effect.commit (adminExtendSub subId count) before⟩ ↔
      LooksAround now before (.adminExtend subId count) := by
  cases found : before.subscriptions.find? subId with
  | none =>
      have refused : adminExtendSub subId count before =
          .error (.httpException 404 "not found") before := by
        simp [adminExtendSub, getSubscription, fetch, bind, EStateM.bind, found]
      rw [Effect.commit_of_error refused]
      exact iff_of_true single (by simp [LooksAround, found])
  | some row =>
      obtain rfl := Table.key_of_find? found
      have written : adminExtendSub row.id count before =
          .ok () (modifySubscription before row.id (prolong count) (id_prolong count)) := by
        simp [adminExtendSub, getSubscription, fetch, bind, EStateM.bind, found]
      have safe := single_of_modify_iff (id_prolong count) (fun _ => rfl) single found
      rw [inForce_prolong_iff] at safe
      rw [Effect.commit_of_ok written, safe]
      simp [LooksAround, found]

theorem single_restart_iff (single : AlwaysSingle ⟨now, before⟩) (subId planCode : String) :
    AlwaysSingle ⟨now, Effect.commit (adminChangePlan subId planCode true now) before⟩ ↔
      LooksAround now before (.adminChangePlan subId planCode true) := by
  cases found : before.subscriptions.find? subId with
  | none =>
      have refused : adminChangePlan subId planCode true now before =
          .error (.httpException 404 "not found") before := by
        simp [adminChangePlan, getSubscription, fetch, bind, EStateM.bind, found]
      rw [Effect.commit_of_error refused]
      exact iff_of_true single (by simp [LooksAround, found])
  | some row =>
      obtain rfl := Table.key_of_find? found
      cases sold : planOfCode planCode before with
      | none =>
          have refused : adminChangePlan row.id planCode true now before =
              .error (.httpException 404 "plan not found") before := by
            simp [adminChangePlan, getSubscription, fetch, bind, EStateM.bind, found, sold]
          rw [Effect.commit_of_error refused]
          exact iff_of_true single (by simp [LooksAround, sold])
      | some plan =>
          have written : adminChangePlan row.id planCode true now before =
              .ok () (modifySubscription before row.id (moveTo plan true now)
                (id_moveTo plan true now)) := by
            simp [adminChangePlan, getSubscription, fetch, bind, EStateM.bind, found, sold]
          have safe := single_of_modify_iff (id_moveTo plan true now) (fun _ => rfl) single found
          rw [inForce_restart_iff] at safe
          rw [Effect.commit_of_ok written, safe]
          simp [LooksAround, found, sold]

/-- The step lemma. -/
theorem singleAfter_iff {state : State} (single : AlwaysSingle state) (event : Event) :
    SingleAfter text state event ↔ Careful state event := by
  obtain ⟨elapsed, request⟩ := event
  have later : AlwaysSingle ⟨state.clock + elapsed, state.db⟩ := by
    intro time passed
    exact single time (le_trans (by simp) passed)
  have plain (quiet : ∀ subId, (∀ count, request ≠ .adminExtend subId count) ∧
        ∀ planCode, request ≠ .adminChangePlan subId planCode true) :
      SingleAfter text state ⟨elapsed, request⟩ := by
    unfold SingleAfter serve
    cases ran : perform text (state.clock + elapsed) request state.db with
    | ok value after =>
        rw [Effect.commit_of_ok ran]
        exact single_of_perform later quiet ran
    | error failure after =>
        rw [Effect.commit_of_error ran]
        exact later
  cases request with
  | adminExtend subId count => exact single_extend_iff later subId count
  | adminChangePlan subId planCode resetPeriod =>
      cases resetPeriod with
      | false => exact iff_of_true (plain (by simp)) trivial
      | true => exact single_restart_iff later subId planCode
  | _ => exact iff_of_true (plain (by simp)) trivial

end Step

/-- From a state in which it is so, every state of a run has at most one subscription in
force for each user, now and later, if and only if every extension and restart of the
run is careful. -/
theorem single_subscription_iff (text : CodeText) (start : State) (single : AlwaysSingle start)
    (events : List Event) :
    Run.Along (SingleAfter text) (serve text) start events ↔
      Run.Along Careful (serve text) start events := by
  apply Run.along_iff AlwaysSingle ?exact_guard ?keeps single
  case exact_guard =>
    intro state event single
    exact singleAfter_iff single event
  case keeps =>
    intro state event _ after
    exact after

def opened (db : Database) : State := ⟨0, db⟩

theorem single_opened : AlwaysSingle (opened PurchaseRetry.subscriber) := by
  apply always_of_unique
  intro first member
  cases member

def buyMonthly (key tokens : String) : Request :=
  .purchase ⟨"u1", "monthly", some key, none⟩ (PurchaseRetry.purchaseDraws tokens 0)

def canceledThenExtended : List Event := [
  ⟨0, buyMonthly "k1" "a"⟩, ⟨1, .cancelMine "u1"⟩,
  ⟨1, .adminExtend "sa" ⟨30, by decide⟩⟩]

theorem single_when_extended_alone :
    Run.Along (SingleAfter .ascii) (serve .ascii) (opened PurchaseRetry.subscriber)
      canceledThenExtended := by
  apply (single_subscription_iff .ascii (opened PurchaseRetry.subscriber) single_opened
    canceledThenExtended).mpr
  refine ⟨trivial, trivial, ?_, trivial⟩
  -- the user has one row
  obtain ⟨sole, rows⟩ : ∃ sole, (canceledThenExtended.take 2 |>.foldl (serve .ascii)
      (opened PurchaseRetry.subscriber)).db.subscriptions.rows = [sole] := ⟨_, rfl⟩
  intro row found _ _ other member apart
  have listed := Table.mem_of_find? found
  change row ∈ (canceledThenExtended.take 2 |>.foldl (serve .ascii)
    (opened PurchaseRetry.subscriber)).db.subscriptions.rows at listed
  change other ∈ (canceledThenExtended.take 2 |>.foldl (serve .ascii)
    (opened PurchaseRetry.subscriber)).db.subscriptions.rows at member
  rw [rows, List.mem_singleton] at listed member
  subst listed member
  exact absurd rfl apart

/-- The same after another purchase. -/
def boughtThenExtended : List Event := [
  ⟨0, buyMonthly "k1" "a"⟩, ⟨1, .cancelMine "u1"⟩, ⟨1, buyMonthly "k2" "b"⟩,
  ⟨1, .adminExtend "sa" ⟨30, by decide⟩⟩]

theorem extension_revives_beside_another : ¬∀ (text : CodeText) (start : State)
    (events : List Event), AlwaysSingle start →
      Run.Along (SingleAfter text) (serve text) start events := by
  intro claim
  have along := claim .ascii (opened PurchaseRetry.subscriber) boughtThenExtended single_opened
  have single : Single 3
      (boughtThenExtended.foldl (serve .ascii) (opened PurchaseRetry.subscriber)).db :=
    along.2.2.2.1 3 (le_refl _)
  obtain ⟨first, second, foundFirst, foundSecond, firstActive, firstEnd, secondActive, secondEnd,
      owner⟩ : ∃ first second,
      (boughtThenExtended.foldl (serve .ascii)
        (opened PurchaseRetry.subscriber)).db.subscriptions.find? "sa" = some first ∧
      (boughtThenExtended.foldl (serve .ascii)
        (opened PurchaseRetry.subscriber)).db.subscriptions.find? "sb" = some second ∧
      first.status = "active" ∧ first.expiresAt.instant = days 60 ∧
      second.status = "active" ∧ second.expiresAt.instant = 2 + days 30 ∧
      first.userId = second.userId :=
    ⟨_, _, rfl, rfl, rfl, rfl, rfl, rfl, rfl⟩
  have same := single.unique first (Table.mem_of_find? foundFirst) second
    (Table.mem_of_find? foundSecond) ⟨firstActive, firstEnd ▸ by decide⟩
    ⟨secondActive, secondEnd ▸ by decide⟩ owner
  rw [same, secondEnd] at firstEnd
  exact absurd firstEnd (by decide)

end ApiBank.Subscriptions.Effective
