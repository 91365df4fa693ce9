import ApiBank.Accounting.Prepaid
import ApiBank.Billing.PurchaseRetry
import ApiBank.Transition.Run

/-!
# Plan changes

What a user is refunded by plan changes against what the purchases took from the
wallet. Beside the database a run keeps the stretch of a subscription that every
call bought, with the money that the call took. A refund is read off the list price
of the last plan alone, so it keeps within the payments as long as no running
stretch was cheaper.
-/

namespace ApiBank.Billing.PlanChanges

open ApiBank.Accounting ApiBank.Db ApiBank.Relational ApiBank.Transition
open Coupons Subscription PurchaseRetry

set_option autoImplicit false

inductive Call where
  | purchase (args : PurchaseArgs) (draws : PurchaseDraws)
  | changePlan (args : ChangePlanArgs) (draws : ChangePlanDraws)

def Call.userId : Call → String
  | .purchase args _ => args.userId
  | .changePlan args _ => args.userId

def Call.planCode : Call → String
  | .purchase args _ => args.planCode
  | .changePlan args _ => args.newPlanCode

def Call.answer (text : CodeText) : Call → Session (Subscription × Invoice)
  | .purchase args draws => Subscription.purchase text args draws
  | .changePlan args draws => Subscription.changePlan text args draws

def posted (type : WalletType) (userId : String) (db : Database) : Int :=
  ((db.walletTransactions.rows.filter fun row => row.userId = userId && row.type = type).map
    WalletTransaction.amountVnd).sum

def debited (userId : String) (db : Database) : Int := -posted .debit userId db

def refunded (userId : String) (db : Database) : Int := posted .refund userId db

/-- The database, and the stretches bought so far with their subscriptions. -/
structure Books where
  db : Database
  bought : List (String × Stretch)

def Books.stretches (books : Books) (subscriptionId : String) : List Stretch :=
  (books.bought.filter fun entry => entry.1 = subscriptionId).map Prod.snd

/-- The stretch at the end of the subscription that the call answers with, and what
the call took from the wallet. -/
def newStretch (text : CodeText) (call : Call) (db : Database) : List (String × Stretch) :=
  match call.answer text db, getPlan call.planCode db with
  | .ok (subscription, _) after, .ok plan => [(subscription.id, {
      starts := subscription.expiresAt.instant - days plan.durationDays
      ends := subscription.expiresAt.instant
      paid := debited call.userId after - debited call.userId db })]
  | _, _ => []

/-- One call on its own session. -/
def serve (text : CodeText) (books : Books) (call : Call) : Books where
  db := Effect.commit (call.answer text) books.db
  bought := books.bought ++ newStretch text call books.db

def opened (db : Database) : Books := ⟨db, []⟩

def refundOf (text : CodeText) (books : Books) (call : Call) : Int :=
  refunded call.userId (serve text books call).db - refunded call.userId books.db

/-- A refund keeps within what was paid for the part to come of the subscription that
is given up. -/
def Covered (text : CodeText) (books : Books) (call : Call) : Prop :=
  ∀ args draws, call = .changePlan args draws → ∀ subscription,
    getActiveSubscription args.userId draws.purchase.now books.db = some subscription →
      (refundOf text books call : ℚ) ≤
        unusedTotal (books.stretches subscription.id) draws.purchase.now

def booksAfter (text : CodeText) (start : Database) (calls : List Call) : Books :=
  calls.foldl (serve text) (opened start)

/-- Over the calls the refunds stay within the debits, and every refund is covered. -/
structure NoProfit (text : CodeText) (userId : String) (start : Database) (calls : List Call) :
    Prop where
  total : refunded userId (booksAfter text start calls).db - refunded userId start ≤
    debited userId (booksAfter text start calls).db - debited userId start
  each : Throughout (fun prior call => Covered text (booksAfter text start prior) call) calls

/-- A user who has not subscribed yet. -/
def Newcomer (userId : String) (db : Database) : Prop :=
  ∀ row ∈ db.subscriptions.rows, row.userId ≠ userId

def RoundsDown (numerator denominator : Int) : Prop :=
  2 * (numerator % denominator) < denominator ∨
    2 * (numerator % denominator) = denominator ∧ numerator / denominator % 2 = 0

def wholeDaysPrice (plan : Plan) (remaining : Int) : Int := plan.priceVnd * (remaining / days 1)

/-- The subscription has begun, no stretch of it that still runs was cheaper than the
list price of its plan, and when the refund is rounded up, the last started day, which
is not counted, is worth the difference. -/
structure FullyPaid (books : Books) (now : Int) (subscription : Subscription) (plan : Plan) :
    Prop where
  begun : subscription.startedAt.instant ≤ now
  rate : ∀ stretch ∈ books.stretches subscription.id, now < stretch.ends →
    plan.priceVnd * stretch.length ≤ stretch.paid * days (max 1 plan.durationDays)
  rounding : RoundsDown (wholeDaysPrice plan (remainingTime subscription now))
      (max 1 plan.durationDays) ∨
    days 1 * (max 1 plan.durationDays -
        wholeDaysPrice plan (remainingTime subscription now) % max 1 plan.durationDays) ≤
      plan.priceVnd * (remainingTime subscription now % days 1)

def fullyPaid (books : Books) : Call → Prop
  | .purchase _ _ => True
  | .changePlan args draws => ∀ subscription plan,
      getActiveSubscription args.userId draws.purchase.now books.db = some subscription →
        books.db.plans.find? subscription.planId = some plan →
          days 1 ≤ remainingTime subscription draws.purchase.now →
            FullyPaid books draws.purchase.now subscription plan

variable {text : CodeText} {userId : String} {start before after : Database} {books : Books}

def Recorded (type : WalletType) (userId : String) (amountVnd : Int)
    (before after : Database) : Prop :=
  after.walletTransactions = before.walletTransactions ∨
    ∃ row, before.walletTransactions.insert? row = some after.walletTransactions ∧
      row.userId = userId ∧ row.type = type ∧ row.amountVnd = amountVnd

theorem recorded_of_perform {operation : Wallet.WalletOperation} {message : String}
    {type : WalletType} {sign : Int} {args : Wallet.WalletArgs} {fresh : RowDefaults}
    {row : WalletTransaction}
    (shape : operation.request = Wallet.positiveRequest message type sign args)
    (returned : Wallet.perform operation fresh before = .ok row after) :
    0 < args.amountVnd ∧ Recorded type args.userId (sign * args.amountVnd) before after := by
  obtain ⟨request, requested, applied⟩ := Wallet.perform_ok returned
  rw [shape] at requested
  obtain ⟨positive, rfl⟩ := Wallet.positiveRequest_ok requested
  refine ⟨positive, ?_⟩
  rcases Wallet.apply_ok applied with ⟨-, -, rfl⟩ | stored
  · exact .inl rfl
  · obtain ⟨owner, amount, type⟩ := stored.payload
    exact .inr ⟨row, stored.inserted, owner, type, amount⟩

theorem posted_recorded {type : WalletType} {amountVnd : Int}
    (recorded : Recorded type userId amountVnd before after) :
    posted type userId after = posted type userId before ∨
      posted type userId after = posted type userId before + amountVnd := by
  rcases recorded with same | ⟨row, inserted, owner, sort, amount⟩
  · exact .inl (by unfold posted; rw [same])
  · right
    unfold posted
    rw [Table.rows_of_insert? inserted]
    simp [owner, sort, amount]

theorem posted_other {type other : WalletType} {amountVnd : Int} (different : type ≠ other)
    (recorded : Recorded type userId amountVnd before after) :
    posted other userId after = posted other userId before := by
  rcases recorded with same | ⟨row, inserted, owner, sort, amount⟩
  · unfold posted
    rw [same]
  · unfold posted
    rw [Table.rows_of_insert? inserted]
    simp [sort, different]

/-- The subscription that a purchase extends or creates. -/
inductive Extended (userId : String) (plan : Plan) (draws : PurchaseDraws)
    (before after : Database) : Subscription → Prop where
  | longer (existing : Subscription)
      (active : getActiveSubscription userId draws.now before = some existing)
      (stored : after.subscriptions =
        before.subscriptions.modify existing.id (extend plan) (id_extend plan)) :
      Extended userId plan draws before after (extend plan existing)
  | fresh
      (inserted : before.subscriptions.insert? (newSubscription userId plan draws) =
        some after.subscriptions) :
      Extended userId plan draws before after (newSubscription userId plan draws)

theorem extended_of_extendOrCreate {plan : Plan} {draws : PurchaseDraws} {row : Subscription}
    (returned : extendOrCreate userId plan draws before = .ok row after) :
    Extended userId plan draws before after row := by
  simp only [extendOrCreate, bind, EStateM.bind, Effect.get_apply] at returned
  cases active : getActiveSubscription userId draws.now before with
  | some existing =>
      simp only [active] at returned
      cases returned
      exact .longer existing active rfl
  | none =>
      simp only [active, insertSubscription] at returned
      split at returned
      · rename_i rows inserted
        cases returned
        exact .fresh inserted
      · contradiction

/-- What a purchase does to the wallet rows and the subscriptions. -/
structure Sale (args : PurchaseArgs) (draws : PurchaseDraws) (plan : Plan) (priceVnd : Int)
    (before after : Database) (subscription : Subscription) : Prop where
  sold : getPlan args.planCode before = .ok plan
  positive : 0 < priceVnd
  charged : Recorded .debit args.userId (-priceVnd) before after
  extended : Extended args.userId plan draws before after subscription
  plans : after.plans = before.plans

theorem sale_of_purchase {args : PurchaseArgs} {draws : PurchaseDraws}
    {result : Subscription × Invoice}
    (returned : purchase text args draws before = .ok result after) :
    ∃ plan priceVnd, Sale args draws plan priceVnd before after result.1 := by
  have plans := (purchase_ok returned).plans
  obtain ⟨subscription, invoice⟩ := result
  obtain ⟨plan, price, row, redeemed, charged, extended, invoiced, steps⟩ :=
    purchase_steps returned
  obtain ⟨sold, redeeming, charging, extending, -, invoicing, linking⟩ := steps
  have redeemedFrame := (redeemCoupon_ok redeeming).2.2
  obtain ⟨positive, recorded⟩ := recorded_of_perform rfl charging
  have chargedFrame := Wallet.perform_frame charging
  have extendedFrame := (extendOrCreate_ok extending).2
  have invoicedFrame := (insertInvoice_ok invoicing).2
  have linkedFrame := linkRedemption_ok linking
  have walletRows : after.walletTransactions = charged.walletTransactions := by
    rw [linkedFrame, invoicedFrame, extendedFrame]
  have subscriptions : after.subscriptions = extended.subscriptions := by
    rw [linkedFrame, invoicedFrame]
  have readBefore : charged.subscriptions = before.subscriptions := by
    rw [chargedFrame, redeemedFrame]
  refine ⟨plan, price.finalVnd, sold, positive, ?_, ?_, plans⟩
  · unfold Recorded at recorded ⊢
    rw [redeemedFrame] at recorded
    rw [walletRows]
    simpa [purchaseDebit] using recorded
  · have active : getActiveSubscription args.userId draws.now charged =
        getActiveSubscription args.userId draws.now before := by
      simp only [getActiveSubscription, latestActive, readBefore]
    have stretched : Extended args.userId plan draws charged extended subscription :=
      extended_of_extendOrCreate extending
    cases stretched with
    | longer existing found stored =>
        rw [readBefore] at stored
        exact .longer existing (active ▸ found) (subscriptions.trans stored)
    | fresh inserted =>
        rw [readBefore] at inserted
        exact .fresh (subscriptions ▸ inserted)

def ended (db : Database) (subscriptionId : String) : Bool :=
  (db.subscriptions.find? subscriptionId).any fun row => row.status ≠ "active"

def endedPaid (db : Database) (bought : List (String × Stretch)) : Int :=
  (bought.map fun entry => if ended db entry.1 then entry.2.paid else 0).sum

/-- The stretches of a subscription cover it from its start to its end, the debits
are the payments, and only payments for subscriptions that are over came back. -/
structure PaidInvariant (userId : String) (start : Database) (books : Books) : Prop where
  known : ∀ entry ∈ books.bought, books.db.subscriptions.find? entry.1 ≠ none
  paid : ∀ entry ∈ books.bought, 0 ≤ entry.2.paid
  tiled : ∀ row ∈ books.db.subscriptions.rows, row.userId = userId → ∀ now,
    restTotal (books.stretches row.id) now =
      max now row.expiresAt.instant - max now row.startedAt.instant
  debits : (books.bought.map fun entry => entry.2.paid).sum =
    debited userId books.db - debited userId start
  refunds : refunded userId books.db - refunded userId start ≤ endedPaid books.db books.bought

theorem PaidInvariant.stretches_paid (invariant : PaidInvariant userId start books)
    (subscriptionId : String) : ∀ stretch ∈ books.stretches subscriptionId, 0 ≤ stretch.paid := by
  intro stretch listed
  obtain ⟨entry, bought, rfl⟩ := List.mem_map.mp listed
  exact invariant.paid entry (List.mem_filter.mp bought).1

theorem invariant_opened (newcomer : Newcomer userId start) :
    PaidInvariant userId start (opened start) where
  known := by simp [opened]
  paid := by simp [opened]
  tiled := by
    intro row member own
    exact absurd own (newcomer row member)
  debits := by simp [opened]
  refunds := by simp [opened, endedPaid]

theorem active_of_getActiveSubscription {now : Int} {existing : Subscription}
    (active : getActiveSubscription userId now before = some existing) :
    existing ∈ before.subscriptions.rows ∧ existing.userId = userId ∧
      existing.status = "active" ∧ now ≤ existing.expiresAt.instant := by
  obtain ⟨latest, current⟩ := Option.filter_eq_some_iff.mp active
  have listed : existing ∈ before.subscriptions.rows.filter fun row =>
      row.userId = userId && row.status = "active" := by
    rw [latestActive, later_eq] at latest
    exact (foldl_laterBy_eq_some_iff.mp latest).mem
  obtain ⟨member, mine⟩ := List.mem_filter.mp listed
  simp only [Bool.and_eq_true, decide_eq_true_eq] at mine
  exact ⟨member, mine.1, mine.2, by simpa using current⟩

theorem ended_eq_false {row : Subscription} (member : row ∈ before.subscriptions.rows)
    (active : row.status = "active") : ended before row.id = false := by
  simp [ended, Table.find?_of_mem member, active]

theorem endedPaid_ends {bought : List (String × Stretch)} {subscriptionId : String}
    (running : ended before subscriptionId = false) (past : ended after subscriptionId = true)
    (stays : ∀ id, ended before id = true → ended after id = true)
    (paid : ∀ entry ∈ bought, 0 ≤ entry.2.paid) :
    endedPaid before bought +
        paidTotal ((bought.filter fun entry => entry.1 = subscriptionId).map Prod.snd) ≤
      endedPaid after bought := by
  induction bought with
  | nil => simp [endedPaid, paidTotal]
  | cons entry rest ih =>
      have later := ih fun other member => paid other (List.mem_cons_of_mem entry member)
      have nonneg := paid entry List.mem_cons_self
      simp only [endedPaid, List.map_cons, List.sum_cons] at later ⊢
      by_cases same : entry.1 = subscriptionId
      · simp only [same, decide_true, List.filter_cons_of_pos, List.map_cons, paidTotal,
          List.sum_cons, running, past, Bool.false_eq_true, if_false, if_true] at later ⊢
        omega
      · simp only [same, decide_false, Bool.false_eq_true, not_false_eq_true,
          List.filter_cons_of_neg]
        cases earlier : ended before entry.1 with
        | true =>
            simp only [stays entry.1 earlier, if_true]
            omega
        | false =>
            simp only [Bool.false_eq_true, if_false]
            split <;> omega

theorem endedPaid_stays {bought : List (String × Stretch)}
    (stays : ∀ id, ended before id = true → ended after id = true)
    (paid : ∀ entry ∈ bought, 0 ≤ entry.2.paid) :
    endedPaid before bought ≤ endedPaid after bought := by
  apply List.sum_le_sum
  intro entry member
  have nonneg := paid entry member
  cases past : ended before entry.1 with
  | true => simp [stays entry.1 past]
  | false =>
      simp only [Bool.false_eq_true, if_false]
      split <;> omega

theorem endedPaid_le_paid {bought : List (String × Stretch)}
    (paid : ∀ entry ∈ bought, 0 ≤ entry.2.paid) :
    endedPaid before bought ≤ (bought.map fun entry => entry.2.paid).sum := by
  apply List.sum_le_sum
  intro entry member
  have nonneg := paid entry member
  split <;> omega

theorem stretches_append (books : Books) (entry : String × Stretch) (db : Database)
    (subscriptionId : String) :
    (Books.mk db (books.bought ++ [entry])).stretches subscriptionId =
      books.stretches subscriptionId ++
        if entry.1 = subscriptionId then [entry.2] else [] := by
  by_cases same : entry.1 = subscriptionId <;> simp [Books.stretches, same]

theorem Extended.stored {plan : Plan} {draws : PurchaseDraws} {subscription : Subscription}
    (extended : Extended userId plan draws before after subscription) :
    after.subscriptions.find? subscription.id = some subscription ∧
      (∀ id, before.subscriptions.find? id ≠ none → after.subscriptions.find? id ≠ none) ∧
      ∀ id, ended before id = true → ended after id = true := by
  cases extended with
  | longer existing active stored =>
      obtain ⟨member, -, running, -⟩ := active_of_getActiveSubscription active
      have found := Table.find?_of_mem member
      refine ⟨?_, ?_, ?_⟩
      · rw [stored, id_extend, Table.find?_modify, if_pos rfl, found]
        rfl
      · intro id present
        rw [stored, Table.find?_modify]
        split
        · simpa using present
        · exact present
      · intro id past
        have different : id ≠ existing.id := by
          rintro rfl
          rw [ended_eq_false member running] at past
          cases past
        unfold ended at past ⊢
        rwa [stored, Table.find?_modify, if_neg different]
  | fresh inserted =>
      have absent := Table.fresh_of_insert? inserted
      have kept : ∀ id, before.subscriptions.find? id ≠ none →
          after.subscriptions.find? id = before.subscriptions.find? id := by
        intro id present
        rw [Table.find?_insert? inserted, if_neg]
        rintro rfl
        exact present absent
      refine ⟨?_, ?_, ?_⟩
      · rw [Table.find?_insert? inserted, if_pos rfl]
      · intro id present
        rw [kept id present]
        exact present
      · intro id past
        have present : before.subscriptions.find? id ≠ none := by
          intro missing
          simp [ended, missing] at past
        unfold ended at past ⊢
        rwa [kept id present]

def saleStretch (plan : Plan) (subscription : Subscription) (paid : Int) : Stretch where
  starts := subscription.expiresAt.instant - days plan.durationDays
  ends := subscription.expiresAt.instant
  paid := paid

theorem Extended.tiled {plan : Plan} {draws : PurchaseDraws} {subscription : Subscription}
    (extended : Extended userId plan draws books.db after subscription)
    (known : ∀ entry ∈ books.bought, books.db.subscriptions.find? entry.1 ≠ none)
    (tiled : ∀ row ∈ books.db.subscriptions.rows, row.userId = userId → ∀ now,
      restTotal (books.stretches row.id) now =
        max now row.expiresAt.instant - max now row.startedAt.instant) (paid : Int) :
    ∀ row ∈ after.subscriptions.rows, row.userId = userId → ∀ now,
      restTotal ((Books.mk after (books.bought ++
          [(subscription.id, saleStretch plan subscription paid)])).stretches row.id) now =
        max now row.expiresAt.instant - max now row.startedAt.instant := by
  intro row member own now
  rw [stretches_append, restTotal_append]
  cases extended with
  | longer existing active stored =>
      rw [stored] at member
      obtain ⟨old, oldMember, rfl⟩ := (Table.mem_modify_iff ..).mp member
      by_cases same : old.id = existing.id
      · obtain rfl : old = existing := books.db.subscriptions.eq_of_key_eq oldMember
          (active_of_getActiveSubscription active).1 same
        have earlier := tiled old oldMember (active_of_getActiveSubscription active).2.1 now
        simp only [if_true, id_extend, earlier]
        simp [restTotal, Stretch.rest, saleStretch, extend]
      · simp only [if_neg same] at own ⊢
        have earlier := tiled old oldMember own now
        rw [earlier, id_extend, if_neg (Ne.symm same)]
        simp [restTotal]
  | fresh inserted =>
      rw [Table.rows_of_insert? inserted] at member
      rcases List.mem_append.mp member with oldMember | new
      · have different : (newSubscription userId plan draws).id ≠ row.id := by
          intro same
          have absent := Table.fresh_of_insert? inserted
          rw [same, Table.find?_of_mem oldMember] at absent
          cases absent
        rw [tiled row oldMember own now, if_neg different]
        simp [restTotal]
      · obtain rfl := List.mem_singleton.mp new
        have none : books.stretches (newSubscription userId plan draws).id = [] := by
          unfold Books.stretches
          rw [List.map_eq_nil_iff, List.filter_eq_nil_iff]
          intro entry listed same
          apply known entry listed
          rw [of_decide_eq_true same]
          exact Table.fresh_of_insert? inserted
        rw [none, if_pos rfl]
        simp [restTotal, Stretch.rest, saleStretch, newSubscription]

theorem debited_of_sale {args : PurchaseArgs} {draws : PurchaseDraws} {plan : Plan}
    {priceVnd : Int} {subscription : Subscription}
    (sale : Sale args draws plan priceVnd before after subscription) :
    debited args.userId before ≤ debited args.userId after ∧
      refunded args.userId after = refunded args.userId before := by
  refine ⟨?_, posted_other (by decide) sale.charged⟩
  have positive := sale.positive
  unfold debited
  rcases posted_recorded sale.charged with same | more <;> omega

theorem invariant_sale {args : PurchaseArgs} {draws : PurchaseDraws} {plan : Plan}
    {priceVnd : Int} {subscription : Subscription}
    (sale : Sale args draws plan priceVnd books.db after subscription)
    (own : args.userId = userId) (invariant : PaidInvariant userId start books) :
    PaidInvariant userId start ⟨after, books.bought ++ [(subscription.id,
      saleStretch plan subscription (debited userId after - debited userId books.db))]⟩ := by
  subst own
  obtain ⟨present, kept, stays⟩ := sale.extended.stored
  obtain ⟨more, sameRefunds⟩ := debited_of_sale sale
  constructor
  · intro entry listed
    rcases List.mem_append.mp listed with old | new
    · exact kept entry.1 (invariant.known entry old)
    · obtain rfl := List.mem_singleton.mp new
      simp [present]
  · intro entry listed
    rcases List.mem_append.mp listed with old | new
    · exact invariant.paid entry old
    · obtain rfl := List.mem_singleton.mp new
      simpa [saleStretch] using more
  · exact sale.extended.tiled invariant.known invariant.tiled _
  · simp only [List.map_append, List.sum_append, invariant.debits, List.map_cons, List.map_nil,
      List.sum_singleton, saleStretch]
    omega
  · have bound := invariant.refunds
    have later := endedPaid_stays stays invariant.paid
    have last : 0 ≤ if ended after subscription.id then
        debited args.userId after - debited args.userId books.db else 0 := by
      split <;> omega
    simp only [endedPaid, List.map_append, List.sum_append, List.map_cons, List.map_nil,
      List.sum_singleton, saleStretch] at bound later last ⊢
    omega

theorem quantize_mul_le (numerator slack : Int) {denominator : Int} (positive : 0 < denominator)
    (rounding : RoundsDown numerator denominator ∧ 0 ≤ slack ∨
      denominator - numerator % denominator ≤ slack) :
    quantize numerator denominator * denominator ≤ numerator + slack := by
  have division := Int.mul_ediv_add_emod numerator denominator
  have remainder := Int.emod_nonneg numerator positive.ne'
  have bounded := Int.emod_lt_of_pos numerator positive
  have below : numerator / denominator * denominator = numerator - numerator % denominator := by
    rw [Int.mul_comm]
    omega
  have above : (numerator / denominator + 1) * denominator =
      numerator - numerator % denominator + denominator := by
    rw [Int.add_mul, below, Int.one_mul]
  unfold RoundsDown at rounding
  simp only [quantize]
  split
  · omega
  · split
    · omega
    · split <;> omega

theorem days_eq (count : Int) : days count = count * days 1 := by
  unfold days seconds
  omega

/-- The refund keeps within the price of the time that is left. -/
theorem refundAmount_le {plan : Plan} {remaining : Int} (price : 0 ≤ plan.priceVnd)
    (rounding : RoundsDown (wholeDaysPrice plan remaining) (max 1 plan.durationDays) ∨
      days 1 * (max 1 plan.durationDays -
          wholeDaysPrice plan remaining % max 1 plan.durationDays) ≤
        plan.priceVnd * (remaining % days 1)) :
    refundAmount plan remaining * days (max 1 plan.durationDays) ≤
      plan.priceVnd * remaining := by
  have positive : 0 < max 1 plan.durationDays := by omega
  have dayPos : 0 < days 1 := by decide
  have started : 0 ≤ remaining % days 1 := Int.emod_nonneg remaining dayPos.ne'
  have worth : 0 ≤ plan.priceVnd * (remaining % days 1) := Int.mul_nonneg price started
  have split : wholeDaysPrice plan remaining * days 1 + plan.priceVnd * (remaining % days 1) =
      plan.priceVnd * remaining := by
    have division := Int.ediv_mul_add_emod remaining (days 1)
    rw [wholeDaysPrice, Int.mul_assoc, ← Int.mul_add, division]
  have scaled : refundAmount plan remaining * max 1 plan.durationDays * days 1 ≤
      wholeDaysPrice plan remaining * days 1 + plan.priceVnd * (remaining % days 1) := by
    rcases rounding with down | covered
    · have bound := quantize_mul_le _ 0 positive (.inl ⟨down, Int.le_refl 0⟩)
      have times := Int.mul_le_mul_of_nonneg_right bound dayPos.le
      rw [Int.add_zero] at times
      exact Int.le_trans times (Int.le_add_of_nonneg_right worth)
    · have bound := quantize_mul_le (wholeDaysPrice plan remaining) _ positive
        (.inr (Int.le_refl _))
      have times := Int.mul_le_mul_of_nonneg_right bound dayPos.le
      rw [Int.add_mul, Int.mul_comm (_ - _) (days 1)] at times
      exact Int.le_trans times (Int.add_le_add_left covered _)
  rw [days_eq, ← Int.mul_assoc, ← split]
  exact scaled

theorem quantize_nonpos {numerator denominator : Int} (positive : 0 < denominator)
    (nonpos : numerator ≤ 0) : quantize numerator denominator ≤ 0 := by
  rcases Int.lt_or_eq_of_le nonpos with negative | rfl
  · have below : numerator / denominator < 0 := Int.ediv_neg_of_neg_of_pos negative positive
    simp only [quantize]
    split
    · omega
    · split
      · omega
      · split <;> omega
  · simp [quantize, positive]

theorem price_nonneg_of_refund {plan : Plan} {remaining : Int} (time : 0 ≤ remaining)
    (refunds : 0 < refundAmount plan remaining) : 0 ≤ plan.priceVnd := by
  by_contra negative
  have whole : 0 ≤ remaining / days 1 := Int.ediv_nonneg time (by decide)
  have nonpos : plan.priceVnd * (remaining / days 1) ≤ 0 :=
    Int.mul_nonpos_of_nonpos_of_nonneg (by omega) whole
  have positive : 0 < max 1 plan.durationDays := by omega
  have none := quantize_nonpos positive nonpos
  unfold refundAmount at refunds
  omega

theorem day_left_of_refund {plan : Plan} {remaining : Int} (time : 0 ≤ remaining)
    (refunds : 0 < refundAmount plan remaining) : days 1 ≤ remaining := by
  by_contra short
  have none : remaining / days 1 = 0 := Int.ediv_eq_zero_of_lt time (Int.not_le.mp short)
  have positive : 0 < max 1 plan.durationDays := by omega
  have nothing : quantize 0 (max 1 plan.durationDays) ≤ 0 :=
    quantize_nonpos positive (Int.le_refl 0)
  unfold refundAmount at refunds
  rw [none, Int.mul_zero] at refunds
  omega

theorem refund_le_unused {now : Int} {subscription : Subscription} {plan : Plan}
    (invariant : PaidInvariant userId start books)
    (active : getActiveSubscription userId now books.db = some subscription)
    (wholeDay : days 1 ≤ remainingTime subscription now → FullyPaid books now subscription plan)
    (refunds : 0 < refundAmount plan (remainingTime subscription now)) :
    (refundAmount plan (remainingTime subscription now) : ℚ) ≤
      unusedTotal (books.stretches subscription.id) now := by
  obtain ⟨member, own, -, current⟩ := active_of_getActiveSubscription active
  have time : remainingTime subscription now = subscription.expiresAt.instant - now := by
    simp only [remainingTime, DateTime.instant_aware]
    omega
  have price := price_nonneg_of_refund (by omega) refunds
  have fair := wholeDay (day_left_of_refund (by omega) refunds)
  have begun := fair.begun
  have spanPos : 0 < days (max 1 plan.durationDays) := by
    unfold days seconds
    omega
  have paid := invariant.stretches_paid subscription.id
  have rest : restTotal (books.stretches subscription.id) now =
      remainingTime subscription now := by
    rw [invariant.tiled subscription member own, time]
    omega
  have worth := rate_le_unusedTotal price spanPos.le paid fair.rate
  have within : (refundAmount plan (remainingTime subscription now) *
      days (max 1 plan.durationDays) : ℚ) ≤ plan.priceVnd * remainingTime subscription now := by
    exact_mod_cast refundAmount_le price fair.rounding
  rw [rest] at worth
  have spanCast : (0 : ℚ) < days (max 1 plan.durationDays) := by exact_mod_cast spanPos
  exact le_of_mul_le_mul_right (within.trans worth) spanCast

/-- What giving up a subscription does. -/
structure GivenUp (args : ChangePlanArgs) (draws : ChangePlanDraws) (existing : Subscription)
    (plan : Plan) (before after : Database) : Prop where
  refunded : after.walletTransactions = before.walletTransactions ∨
    0 < refundAmount plan (remainingTime existing draws.purchase.now) ∧
      Recorded .refund args.userId (refundAmount plan (remainingTime existing draws.purchase.now))
        before after
  canceled : after.subscriptions = before.subscriptions.modify existing.id cancel id_cancel
  plans : after.plans = before.plans

theorem giveUp_ok {args : ChangePlanArgs} {draws : ChangePlanDraws}
    (returned : giveUp args draws before = .ok () after) :
    after = before ∨ ∃ existing plan,
      getActiveSubscription args.userId draws.purchase.now before = some existing ∧
        before.plans.find? existing.planId = some plan ∧
          GivenUp args draws existing plan before after := by
  simp only [giveUp, bind, EStateM.bind, Effect.get_apply] at returned
  cases active : getActiveSubscription args.userId draws.purchase.now before with
  | none =>
      simp only [active] at returned
      cases returned
      exact .inl rfl
  | some existing =>
      simp only [active] at returned
      cases found : before.plans.find? existing.planId with
      | none =>
          simp only [found] at returned
          cases returned
          exact .inl rfl
      | some plan =>
          simp only [found] at returned
          obtain ⟨⟨⟩, middle, refunding, rest⟩ := (Effect.bind_ok_iff ..).mp returned
          cases rest
          refine .inr ⟨existing, plan, rfl, found, ?_⟩
          simp only [refundRemaining] at refunding
          split at refunding
          · rename_i positive
            obtain ⟨row, refunded⟩ := Effect.discard_ok refunding
            have frame := Wallet.perform_frame refunded
            obtain ⟨-, recorded⟩ := recorded_of_perform rfl refunded
            refine ⟨.inr ⟨positive, ?_⟩, ?_, ?_⟩
            · simpa [Recorded, prorateRefund] using recorded
            · dsimp only
              rw [frame]
            · dsimp only
              rw [frame]
          · cases refunding
            exact ⟨.inl rfl, rfl, rfl⟩

theorem GivenUp.ends {args : ChangePlanArgs} {draws : ChangePlanDraws} {existing : Subscription}
    {plan : Plan} (given : GivenUp args draws existing plan before after)
    (member : existing ∈ before.subscriptions.rows) :
    ended after existing.id = true ∧ (∀ id, ended before id = true → ended after id = true) := by
  have found := Table.find?_of_mem member
  constructor
  · simp [ended, given.canceled, Table.find?_modify, found, cancel]
  · intro id past
    unfold ended at past ⊢
    rw [given.canceled, Table.find?_modify]
    split
    · rename_i same
      rw [same, found]
      rfl
    · exact past

/-- Giving up keeps the books, and the refund is covered. -/
theorem invariant_giveUp {args : ChangePlanArgs} {draws : ChangePlanDraws}
    {existing : Subscription} {plan : Plan} (own : args.userId = userId)
    (invariant : PaidInvariant userId start books)
    (active : getActiveSubscription userId draws.purchase.now books.db = some existing)
    (wholeDay : days 1 ≤ remainingTime existing draws.purchase.now →
      FullyPaid books draws.purchase.now existing plan)
    (given : GivenUp args draws existing plan books.db after) :
    PaidInvariant userId start ⟨after, books.bought⟩ ∧
      (refunded userId after - refunded userId books.db : ℚ) ≤
        unusedTotal (books.stretches existing.id) draws.purchase.now := by
  obtain ⟨member, mine, running, -⟩ := active_of_getActiveSubscription active
  obtain ⟨past, stays⟩ := given.ends member
  have paid := invariant.stretches_paid existing.id
  have covered : (refunded userId after - refunded userId books.db : ℚ) ≤
      unusedTotal (books.stretches existing.id) draws.purchase.now := by
    have nonneg := unusedTotal_nonneg draws.purchase.now paid
    rcases given.refunded with same | ⟨positive, recorded⟩
    · have unchanged : refunded userId after = refunded userId books.db := by
        unfold refunded posted
        rw [same]
      rw [unchanged, sub_self]
      exact nonneg
    · have bound := refund_le_unused invariant active wholeDay positive
      subst own
      rcases posted_recorded recorded with same | more
      · simpa [refunded, same] using nonneg
      · simpa [refunded, more] using bound
  refine ⟨⟨?_, invariant.paid, ?_, ?_, ?_⟩, covered⟩
  · intro entry listed
    have present := invariant.known entry listed
    rw [given.canceled, Table.find?_modify]
    split
    · simpa using present
    · exact present
  · intro row listed rowOwn now
    rw [given.canceled] at listed
    obtain ⟨old, oldMember, rfl⟩ := (Table.mem_modify_iff ..).mp listed
    split at rowOwn
    · rename_i same
      rw [if_pos same]
      exact invariant.tiled old oldMember rowOwn now
    · rename_i different
      rw [if_neg different]
      exact invariant.tiled old oldMember rowOwn now
  · have sameDebits : debited userId after = debited userId books.db := by
      unfold debited
      rcases given.refunded with same | ⟨-, recorded⟩
      · unfold posted
        rw [same]
      · rw [← own, posted_other (by decide) recorded]
    rw [sameDebits]
    exact invariant.debits
  · have bound := invariant.refunds
    have more := endedPaid_ends (ended_eq_false member running) past stays invariant.paid
    have whole := covered.trans (unusedTotal_le_paidTotal draws.purchase.now paid)
    have wholeInt : refunded userId after - refunded userId books.db ≤
        paidTotal (books.stretches existing.id) := by exact_mod_cast whole
    unfold Books.stretches at wholeInt
    dsimp only
    omega

theorem serve_of_error {call : Call} {failure : Error}
    (raised : call.answer text books.db = .error failure after) : serve text books call = books := by
  simp [serve, newStretch, raised, Effect.commit_of_error raised]

theorem serve_of_ok {call : Call} {plan : Plan} {subscription : Subscription} {invoice : Invoice}
    (returned : call.answer text books.db = .ok (subscription, invoice) after)
    (sold : getPlan call.planCode books.db = .ok plan) :
    serve text books call = ⟨after, books.bought ++ [(subscription.id, saleStretch plan subscription
      (debited call.userId after - debited call.userId books.db))]⟩ := by
  simp [serve, newStretch, saleStretch, returned, sold, Effect.commit_of_ok returned]

theorem getPlan_congr {code : String} (plans : after.plans = before.plans) :
    getPlan code after = getPlan code before := by
  simp only [getPlan, plans]

theorem invariant_serve {call : Call} (own : call.userId = userId) (fair : fullyPaid books call)
    (invariant : PaidInvariant userId start books) :
    PaidInvariant userId start (serve text books call) ∧ Covered text books call := by
  unfold Covered
  cases ran : call.answer text books.db with
  | error failure after =>
      rw [refundOf, serve_of_error ran]
      refine ⟨invariant, ?_⟩
      intro args draws _ subscription _
      rw [sub_self]
      exact unusedTotal_nonneg _ (invariant.stretches_paid subscription.id)
  | ok result after =>
      cases call with
      | purchase args draws =>
          obtain ⟨plan, priceVnd, sale⟩ := sale_of_purchase ran
          rw [serve_of_ok ran sale.sold]
          subst own
          exact ⟨invariant_sale sale rfl invariant, fun _ _ other => by cases other⟩
      | changePlan args draws =>
          obtain ⟨⟨⟩, middle, leaving, buying⟩ := (Effect.bind_ok_iff ..).mp ran
          obtain ⟨plan, priceVnd, sale⟩ := sale_of_purchase buying
          subst own
          have refunds := (debited_of_sale sale).2
          rcases giveUp_ok leaving with rfl | ⟨existing, old, active, found, given⟩
          · rw [refundOf, serve_of_ok ran sale.sold]
            refine ⟨invariant_sale sale rfl invariant, ?_⟩
            rintro _ _ ⟨⟩ subscription _
            have none : refunded args.userId after - refunded args.userId books.db = 0 :=
              Int.sub_eq_zero_of_eq refunds
            dsimp only [Call.userId]
            rw [none]
            exact unusedTotal_nonneg _ (invariant.stretches_paid subscription.id)
          · obtain ⟨kept, covered⟩ := invariant_giveUp rfl invariant active
              (fair existing old active found) given
            have sold : getPlan args.newPlanCode books.db = .ok plan :=
              (getPlan_congr given.plans).symm.trans sale.sold
            have sameDebits : debited args.userId middle = debited args.userId books.db := by
              have first := invariant.debits
              have second := kept.debits
              dsimp only [Call.userId] at first second
              omega
            rw [refundOf, serve_of_ok ran sold]
            refine ⟨?_, ?_⟩
            · have saleAt : Sale (newPlanPurchase args draws.purchase.now) draws.purchase plan
                priceVnd (Books.mk middle books.bought).db after result.1 := sale
              have bought := invariant_sale saleAt rfl kept
              dsimp only [newPlanPurchase] at bought
              rw [sameDebits] at bought
              exact bought
            · rintro _ _ ⟨⟩ subscription same
              obtain rfl := Option.some.inj (active.symm.trans same)
              have credited : refunded args.userId after = refunded args.userId middle := refunds
              dsimp only [Call.userId]
              rw [credited]
              exact_mod_cast covered

/-- A user gains nothing by changing plans, when every subscription that is given up
is fully paid. -/
theorem no_profit_of_fully_paid (text : CodeText) (userId : String) (start : Database)
    (calls : List Call) (newcomer : Newcomer userId start)
    (own : ∀ call ∈ calls, call.userId = userId)
    (fair : Run.Along fullyPaid (serve text) (opened start) calls) :
    NoProfit text userId start calls := by
  have run := Run.of_guarded (Run.along_and own fair)
  have base : booksAfter text start [] = opened start ∧ PaidInvariant userId start (opened start) :=
    ⟨rfl, invariant_opened newcomer⟩
  have keeps : ∀ events books call next,
      booksAfter text start events = books ∧ PaidInvariant userId start books →
      Guarded (fun books call => call.userId = userId ∧ fullyPaid books call)
        (Computed (serve text)) books call next →
      booksAfter text start (events ++ [call]) = next ∧ PaidInvariant userId start next := by
    rintro events books call next ⟨rfl, invariant⟩ ⟨⟨mine, paid⟩, rfl⟩
    exact ⟨List.foldl_append .., (invariant_serve mine paid invariant).1⟩
  have final : PaidInvariant userId start (booksAfter text start calls) :=
    (run.history (fun events books => booksAfter text start events = books ∧
      PaidInvariant userId start books) base keeps).2
  constructor
  · have refunds := final.refunds
    have debits := final.debits
    have bound := @endedPaid_le_paid (booksAfter text start calls).db _ final.paid
    omega
  · refine run.throughout (fun events books => booksAfter text start events = books ∧
      PaidInvariant userId start books) base keeps ?_
    rintro events books call next ⟨rfl, invariant⟩ ⟨⟨mine, paid⟩, -⟩
    exact (invariant_serve mine paid invariant).2

def twoPlans : Database := { Database.empty with
  users := ⟨[⟨"u1", "a@example.com", 100000⟩], by decide⟩
  plans := ⟨[⟨"p1", "monthly", 30000, 30, true⟩, ⟨"p2", "daily", 10000, 1, true⟩], by decide⟩ }

def buy (planCode tokens : String) (now : Int) : Call :=
  .purchase ⟨"u1", planCode, some tokens, none⟩ (purchaseDraws tokens now)

def change (planCode tokens : String) (now : Int) : Call :=
  .changePlan ⟨"u1", planCode, some tokens⟩ ⟨s!"x{tokens}", purchaseDraws tokens now⟩

theorem newcomer_twoPlans : Newcomer "u1" twoPlans := by
  intro row member
  cases member

/-- A month that is given up after ten days brings twenty days back. -/
theorem month_changed_after_ten_days :
    NoProfit .ascii "u1" twoPlans [buy "monthly" "1" 0, change "daily" "2" (days 10)] ∧
      refunded "u1" (booksAfter .ascii twoPlans
        [buy "monthly" "1" 0, change "daily" "2" (days 10)]).db = 20000 := by
  refine ⟨no_profit_of_fully_paid .ascii "u1" twoPlans _ newcomer_twoPlans ?_ ?_, by
    decide +kernel⟩
  · intro call listed
    simp only [List.mem_cons, List.not_mem_nil, or_false] at listed
    rcases listed with rfl | rfl <;> rfl
  · refine And.intro trivial (And.intro ?_ trivial)
    intro subscription plan active found _
    have bought : getActiveSubscription "u1" (days 10)
        (serve .ascii (opened twoPlans) (buy "monthly" "1" 0)).db =
          some ⟨"s1", "u1", "p1", .utc 0, .utc (days 30), "active"⟩ := by decide +kernel
    obtain rfl := Option.some.inj (bought.symm.trans active)
    have monthly : (serve .ascii (opened twoPlans) (buy "monthly" "1" 0)).db.plans.find? "p1" =
        some ⟨"p1", "monthly", 30000, 30, true⟩ := by decide +kernel
    obtain rfl := Option.some.inj (monthly.symm.trans found)
    have stretches : (serve .ascii (opened twoPlans) (buy "monthly" "1" 0)).stretches "s1" =
        [⟨0, days 30, 30000⟩] := by decide +kernel
    refine ⟨by decide, ?_, .inl (.inl (by decide))⟩
    intro stretch listed _
    rw [stretches] at listed
    obtain rfl := List.mem_singleton.mp listed
    decide

/-- A day of a dear plan on top of a month of a cheap one: the whole month comes back
at the price of the dear plan. -/
theorem stacked_plan_refunded_at_last_price :
    ¬∀ (text : CodeText) (userId : String) (start : Database) (calls : List Call),
      Newcomer userId start → (∀ call ∈ calls, call.userId = userId) →
        NoProfit text userId start calls := by
  intro claimed
  have own : ∀ call ∈ [buy "monthly" "1" 0, buy "daily" "2" 1, change "monthly" "3" 2],
      call.userId = "u1" := by
    intro call listed
    simp only [List.mem_cons, List.not_mem_nil, or_false] at listed
    rcases listed with rfl | rfl | rfl <;> rfl
  have total := (claimed .ascii "u1" twoPlans _ newcomer_twoPlans own).total
  have refunds : refunded "u1" (booksAfter .ascii twoPlans
      [buy "monthly" "1" 0, buy "daily" "2" 1, change "monthly" "3" 2]).db = 300000 := by
    decide +kernel
  have debits : debited "u1" (booksAfter .ascii twoPlans
      [buy "monthly" "1" 0, buy "daily" "2" 1, change "monthly" "3" 2]).db = 70000 := by
    decide +kernel
  have none : refunded "u1" twoPlans = 0 ∧ debited "u1" twoPlans = 0 := by decide
  omega

end ApiBank.Billing.PlanChanges
