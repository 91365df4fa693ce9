import ApiBank.Billing.PlanChanges

/-!
# What a purchase does to the tables

A purchase that returns debits what the invoice says, extends the subscription in force or
starts one, and links the redemption it has made: the latest of the coupon and the user
that names no invoice. A purchase that raises is rolled back with its session.
-/

namespace ApiBank.Billing.PurchaseEffects

open ApiBank.Db ApiBank.Relational ApiBank.Transition
open Coupons Subscription PurchaseRetry PlanChanges

set_option autoImplicit false

def effectiveEnd (userId : String) (now : Int) (db : Database) : Int :=
  match getActiveSubscription userId now db with
  | some existing => max now existing.expiresAt.instant
  | none => now

/-- What an accepted purchase leaves in the wallet and among the invoices. -/
structure Charged (args : PurchaseArgs) (before : Database) (plan : Plan)
    (result : Subscription × Invoice) (after : Database) : Prop where
  balance : ∃ user, before.users.find? args.userId = some user ∧
    after.users.find? args.userId =
      some { user with balanceVnd := user.balanceVnd - result.2.amountVnd }
  others : ∀ userId, userId ≠ args.userId → after.users.find? userId = before.users.find? userId
  priced : result.2.amountVnd + result.2.discountVnd = plan.priceVnd
  ledger : ∃ row, after.walletTransactions.rows = before.walletTransactions.rows ++ [row] ∧
    result.2.walletTxId = some row.id ∧ row.userId = args.userId ∧
      row.amountVnd = -result.2.amountVnd
  invoiced : after.invoices.rows = before.invoices.rows ++ [result.2]

/-- The subscription in force is that of the result, of the plan, and ends later by its
duration. -/
structure Subscribed (args : PurchaseArgs) (draws : PurchaseDraws) (before : Database)
    (plan : Plan) (result : Subscription × Invoice) (after : Database) : Prop where
  effective : getActiveSubscription args.userId draws.now after = some result.1
  planned : result.1.planId = plan.id
  ends : result.1.expiresAt.instant =
    effectiveEnd args.userId draws.now before + days plan.durationDays

def Redeemed (args : PurchaseArgs) (before : Database) (result : Subscription × Invoice)
    (after : Database) : Prop :=
  match nonempty args.couponCode with
  | none => after.couponRedemptions = before.couponRedemptions
  | some _ => ∃ row, after.couponRedemptions.rows = before.couponRedemptions.rows ++ [row] ∧
      row.invoiceId = some result.2.id ∧ row.subscriptionId = some result.1.id

/-- The tables that a purchase may write, as they were. -/
structure Untouched (before after : Database) : Prop where
  users : after.users = before.users
  walletTransactions : after.walletTransactions = before.walletTransactions
  subscriptions : after.subscriptions = before.subscriptions
  invoices : after.invoices = before.invoices
  coupons : after.coupons = before.coupons
  couponRedemptions : after.couponRedemptions = before.couponRedemptions

def LinkedBefore (text : CodeText) (args : PurchaseArgs) (now : Int) (db : Database) : Prop :=
  ∀ code coupon, nonempty args.couponCode = some code →
    getActiveCoupon text code now db = .ok coupon →
      ∀ row ∈ db.couponRedemptions.rows, row.couponId = coupon.id → row.userId = args.userId →
        row.invoiceId = none → row.createdAt.instant < now

variable {text : CodeText} {args : PurchaseArgs} {draws : PurchaseDraws} {plan : Plan}
  {before after redeemed charged extended : Database} {result : Subscription × Invoice}
  {price : Price} {row : WalletTransaction}

section Charging

/-- What a coupon takes off the price, as the preview shows it. -/
theorem price_of_redeemCoupon
    (returned : redeemCoupon text args plan draws before = .ok price redeemed) :
    match nonempty args.couponCode with
    | none => price = ⟨none, 0, plan.priceVnd⟩ ∧ redeemed = before
    | some code => ∃ coupon breakdown redemption,
        getActiveCoupon text code draws.now before = .ok coupon ∧
          computeDiscount coupon plan.priceVnd = .ok breakdown ∧
          price = ⟨some coupon, breakdown.discountVnd, breakdown.finalAmountVnd⟩ ∧
            redemption = newRedemption coupon args.userId plan.code breakdown none none
              ⟨draws.redemptionId, draws.now⟩ ∧
              before.couponRedemptions.insert? redemption = some redeemed.couponRedemptions := by
  unfold redeemCoupon at returned
  cases given : nonempty args.couponCode with
  | none =>
      simp only [given, Effect.pure_apply, EStateM.Result.ok.injEq] at returned
      exact ⟨returned.1.symm, returned.2.symm⟩
  | some code =>
      simp only [given] at returned
      obtain ⟨coupon, active, rest⟩ := (query_bind_ok_iff ..).mp returned
      obtain ⟨⟨breakdown, redemption⟩, middle, redeeming, done⟩ := (Effect.bind_ok_iff ..).mp rest
      simp only [Effect.pure_apply, EStateM.Result.ok.injEq] at done
      obtain ⟨rfl, rfl⟩ := done
      obtain ⟨computed, valid, rfl, counted, counting, inserting⟩ := redeem_ok_iff.mp redeeming
      refine ⟨coupon, breakdown, _, active, computed, rfl, rfl, ?_⟩
      have same : counted.couponRedemptions = before.couponRedemptions := by
        rw [counted_of_count counting]
      unfold insertRedemption at inserting
      rw [same] at inserting
      split at inserting
      · rename_i rows inserted
        cases inserting
        exact inserted
      · cases inserting

theorem discount_sum {coupon : Coupon} {amountVnd : Int} {breakdown : CouponBreakdown}
    (computed : computeDiscount coupon amountVnd = .ok breakdown) :
    breakdown.finalAmountVnd + breakdown.discountVnd = amountVnd := by
  unfold computeDiscount at computed
  simp only [bind, Except.bind] at computed
  repeat' split at computed
  all_goals cases computed
  all_goals simp

theorem priced_of_redeemCoupon
    (returned : redeemCoupon text args plan draws before = .ok price redeemed) :
    price.finalVnd + price.discountVnd = plan.priceVnd := by
  have cases := price_of_redeemCoupon returned
  split at cases
  · obtain ⟨rfl, -⟩ := cases
    simp
  · obtain ⟨coupon, breakdown, redemption, -, computed, rfl, -⟩ := cases
    exact discount_sum computed

theorem posted_of_perform {operation : Wallet.WalletOperation} {message : String}
    {type : WalletType} {sign : Int} {walletArgs : Wallet.WalletArgs} {fresh : RowDefaults}
    (shape : operation.request = Wallet.positiveRequest message type sign walletArgs)
    (unused : before.walletTransactions.find? walletArgs.idempotencyKey = none)
    (returned : Wallet.perform operation fresh before = .ok row after) :
    ∃ request, (request.userId = walletArgs.userId ∧ request.type = type ∧
        request.amountVnd = sign * walletArgs.amountVnd ∧
        request.idempotencyKey = walletArgs.idempotencyKey) ∧
      Wallet.Posted request fresh before row after := by
  obtain ⟨request, requested, applied⟩ := Wallet.perform_ok returned
  rw [shape] at requested
  obtain ⟨-, rfl⟩ := Wallet.positiveRequest_ok requested
  rcases Wallet.apply_ok applied with ⟨found, -, -⟩ | posted
  · rw [unused] at found
    cases found
  · exact ⟨_, ⟨rfl, rfl, rfl, rfl⟩, posted⟩

theorem charged_of_purchase (sold : getPlan args.planCode before = .ok plan)
    (unused : before.walletTransactions.find? (purchaseKey args plan draws.now) = none)
    (returned : purchase text args draws before = .ok result after) :
    Charged args before plan result after := by
  obtain ⟨other, price, row, redeemed, charged, extended, invoiced, steps⟩ :=
    purchase_steps returned
  obtain rfl : plan = other := Except.ok.inj (sold.symm.trans steps.sold)
  have redeemedFrame := (redeemCoupon_ok steps.redeeming).2.2
  have chargedFrame := Wallet.perform_frame steps.charging
  have extendedFrame := (extendOrCreate_ok steps.extending).2
  obtain ⟨inserted, invoicedFrame⟩ := insertInvoice_ok steps.invoicing
  have linkedFrame := linkRedemption_ok steps.linking
  have users : redeemed.users = before.users := by rw [redeemedFrame]
  have rows : redeemed.walletTransactions = before.walletTransactions := by rw [redeemedFrame]
  have usersAfter : after.users = charged.users := by
    rw [linkedFrame, invoicedFrame, extendedFrame]
  have rowsAfter : after.walletTransactions = charged.walletTransactions := by
    rw [linkedFrame, invoicedFrame, extendedFrame]
  have invoicesBefore : extended.invoices = before.invoices := by
    rw [extendedFrame, chargedFrame, redeemedFrame]
  have invoicesAfter : after.invoices = invoiced.invoices := by rw [linkedFrame]
  have amount : result.2.amountVnd = price.finalVnd := by rw [steps.built]; rfl
  obtain ⟨request, ⟨payee, -, spent, -⟩, posted⟩ :=
    posted_of_perform rfl (rows ▸ unused) steps.charging
  have payer : request.userId = args.userId := payee
  have total : request.amountVnd = -price.finalVnd := spent.trans (Int.neg_one_mul _)
  obtain ⟨user, known, balance⟩ := posted.known
  have changed := posted.users
  have appended := Table.rows_of_insert? posted.inserted
  rw [users, payer] at known
  rw [users, payer] at changed
  rw [total] at balance
  have shape := posted.shape
  refine ⟨⟨user, known, ?_⟩, ?_, ?_, ⟨row, ?_, ?_, ?_, ?_⟩, ?_⟩
  · rw [usersAfter, changed, Table.find?_modify, if_pos rfl, known, Option.map_some]
    have drop : row.balanceAfter = user.balanceVnd - result.2.amountVnd := by
      rw [balance, amount, Int.sub_eq_add_neg]
    rw [← drop]
    rfl
  · intro userId apart
    rw [usersAfter, changed, Table.find?_modify, if_neg apart]
  · have discount : result.2.discountVnd = price.discountVnd := by rw [steps.built]; rfl
    rw [amount, discount]
    exact priced_of_redeemCoupon steps.redeeming
  · rw [rowsAfter, appended, rows]
  · rw [steps.built]
    rfl
  · rw [shape]
    exact payer
  · rw [shape, amount]
    exact total
  · rw [invoicesAfter, ← invoicesBefore]
    exact Table.rows_of_insert? inserted

end Charging

section Subscribing

variable {userId : String} {subscription : Subscription}

theorem days_nonneg {count : Int} (nonneg : 0 ≤ count) : 0 ≤ days count := by
  unfold days seconds
  omega

theorem effective_of_longer {existing : Subscription} (term : 0 ≤ plan.durationDays)
    (active : getActiveSubscription userId draws.now before = some existing)
    (stored : after.subscriptions =
      before.subscriptions.modify existing.id (extend plan) (id_extend plan)) :
    getActiveSubscription userId draws.now after = some (extend plan existing) := by
  obtain ⟨member, mine, running, current⟩ := active_of_getActiveSubscription active
  have forward : existing.expiresAt.instant ≤ (extend plan existing).expiresAt.instant := by
    have nonneg := days_nonneg term
    simp only [extend, DateTime.instant_add, DateTime.instant_aware]
    omega
  have latest := (Option.filter_eq_some_iff.mp active).1
  rw [latestActive, later_eq, foldl_laterBy_eq_some_iff] at latest
  have sameRow : ∀ row ∈ before.subscriptions.rows, row.id = existing.id → row = existing :=
    fun row stored keyed => before.subscriptions.eq_of_key_eq stored member keyed
  -- the change keeps the user and the status of the one row that it is made to
  have selected : after.subscriptions.rows.filter (fun row =>
        row.userId = userId && row.status = "active") =
      (before.subscriptions.rows.filter fun row =>
        row.userId = userId && row.status = "active").map fun row =>
          if row.id = existing.id then extend plan row else row := by
    rw [stored, Table.modify, Table.rows_update, List.filter_map]
    congr 1
    apply List.filter_congr
    intro row listed
    simp only [Function.comp_apply]
    split
    · rename_i keyed
      rw [sameRow row listed keyed]
      simp [extend, mine, running]
    · rfl
  refine Option.filter_eq_some_iff.mpr ⟨?_, ?_⟩
  · rw [latestActive, selected, later_eq, foldl_laterBy_eq_some_iff]
    refine latest.map ?_ (if_pos rfl) forward
    intro row listed apart
    have unkeyed : row.id ≠ existing.id :=
      fun keyed => apart (sameRow row (List.mem_filter.mp listed).1 keyed)
    rw [if_neg unkeyed]
  · simp only [DateTime.instant_aware, decide_eq_true_eq]
    omega

theorem effective_of_fresh (term : 0 ≤ plan.durationDays)
    (inactive : getActiveSubscription userId draws.now before = none)
    (inserted : before.subscriptions.insert? (newSubscription userId plan draws) =
      some after.subscriptions) :
    getActiveSubscription userId draws.now after = some (newSubscription userId plan draws) := by
  have nonneg := days_nonneg term
  have ends : (newSubscription userId plan draws).expiresAt.instant =
      draws.now + days plan.durationDays := by
    simp [newSubscription]
  refine Option.filter_eq_some_iff.mpr ⟨?_, ?_⟩
  · rw [latestActive, Table.rows_of_insert? inserted]
    have mine : [newSubscription userId plan draws].filter (fun row =>
        row.userId = userId && row.status = "active") = [newSubscription userId plan draws] := by
      simp [newSubscription]
    rw [List.filter_append, mine, List.foldl_append, List.foldl_cons, List.foldl_nil]
    unfold getActiveSubscription latestActive at inactive
    cases latest : (before.subscriptions.rows.filter fun row =>
        row.userId = userId && row.status = "active").foldl later none with
    | none => rfl
    | some current =>
        rw [latest, Option.filter_eq_none_iff] at inactive
        have past := inactive current rfl
        simp only [DateTime.instant_aware, decide_eq_true_eq] at past
        have sooner : current.expiresAt.instant <
            (newSubscription userId plan draws).expiresAt.instant := by omega
        simp only [later, if_pos sooner]
  · simp only [DateTime.instant_aware, decide_eq_true_eq]
    omega

theorem subscribed_of_extend (term : 0 ≤ plan.durationDays)
    (returned : extendOrCreate userId plan draws before = .ok subscription after) :
    getActiveSubscription userId draws.now after = some subscription ∧
      subscription.planId = plan.id ∧
      subscription.expiresAt.instant =
        effectiveEnd userId draws.now before + days plan.durationDays := by
  simp only [extendOrCreate, bind, EStateM.bind, Effect.get_apply] at returned
  cases active : getActiveSubscription userId draws.now before with
  | some existing =>
      simp only [active] at returned
      cases returned
      refine ⟨effective_of_longer term active rfl, rfl, ?_⟩
      have current := (active_of_getActiveSubscription active).2.2.2
      simp only [effectiveEnd, active, extend, DateTime.instant_add, DateTime.instant_aware]
      omega
  | none =>
      simp only [active, insertSubscription] at returned
      split at returned
      · rename_i rows inserted
        cases returned
        refine ⟨effective_of_fresh term active inserted, rfl, ?_⟩
        simp [effectiveEnd, active, newSubscription]
      · contradiction

theorem subscribed_of_purchase (term : 0 ≤ plan.durationDays)
    (sold : getPlan args.planCode before = .ok plan)
    (returned : purchase text args draws before = .ok result after) :
    Subscribed args draws before plan result after := by
  obtain ⟨other, price, row, redeemed, charged, extended, invoiced, steps⟩ :=
    purchase_steps returned
  obtain rfl : plan = other := Except.ok.inj (sold.symm.trans steps.sold)
  have readBefore : charged.subscriptions = before.subscriptions := by
    rw [Wallet.perform_frame steps.charging, (redeemCoupon_ok steps.redeeming).2.2]
  have readAfter : after.subscriptions = extended.subscriptions := by
    rw [linkRedemption_ok steps.linking, (insertInvoice_ok steps.invoicing).2]
  obtain ⟨effective, planned, ends⟩ := subscribed_of_extend term steps.extending
  refine ⟨?_, planned, ?_⟩
  · simp only [getActiveSubscription, latestActive] at effective ⊢
    rw [readAfter]
    exact effective
  · rw [ends]
    simp only [effectiveEnd, getActiveSubscription, latestActive, readBefore]

end Subscribing

section Linking

/-- Of the redemptions without an invoice the one just made is the newest. -/
theorem latestUnlinked_of_insert {coupon : Coupon} {userId : String} {now : Int}
    {redemption : CouponRedemption}
    (linked : ∀ row ∈ before.couponRedemptions.rows, row.couponId = coupon.id →
      row.userId = userId → row.invoiceId = none → row.createdAt.instant < now)
    (inserted : before.couponRedemptions.insert? redemption = some after.couponRedemptions)
    (couponId : redemption.couponId = coupon.id) (owner : redemption.userId = userId)
    (loose : redemption.invoiceId = none) (created : redemption.createdAt.instant = now) :
    latestUnlinked coupon userId after = some redemption := by
  have wanted : [redemption].filter (fun row =>
      row.couponId = coupon.id && row.userId = userId && row.invoiceId.isNone) = [redemption] := by
    simp [couponId, owner, loose]
  rw [latestUnlinked, Table.rows_of_insert? inserted, List.filter_append, wanted, newer_eq,
    foldl_laterBy_eq_some_iff]
  refine ⟨_, [], rfl, ?_, by simp⟩
  intro row listed
  obtain ⟨member, selected⟩ := List.mem_filter.mp listed
  simp only [Bool.and_eq_true, decide_eq_true_eq, Option.isNone_iff_eq_none] at selected
  simp only [created]
  exact linked row member selected.1.1 selected.1.2 selected.2

theorem redeemed_of_purchase (linked : LinkedBefore text args draws.now before)
    (returned : purchase text args draws before = .ok result after) :
    Redeemed args before result after := by
  obtain ⟨plan, price, row, redeemed, charged, extended, invoiced, steps⟩ :=
    purchase_steps returned
  have readBefore : invoiced.couponRedemptions = redeemed.couponRedemptions := by
    rw [(insertInvoice_ok steps.invoicing).2, (extendOrCreate_ok steps.extending).2,
      Wallet.perform_frame steps.charging]
  have linking := steps.linking
  simp only [linkRedemption, assign_apply, EStateM.Result.ok.injEq, true_and] at linking
  have outcome := price_of_redeemCoupon steps.redeeming
  unfold Redeemed
  cases given : nonempty args.couponCode with
  | none =>
      simp only [given] at outcome
      obtain ⟨rfl, rfl⟩ := outcome
      simp only [Option.bind_none] at linking
      rw [← linking, readBefore]
  | some code =>
      simp only [given] at outcome
      obtain ⟨coupon, breakdown, redemption, active, -, rfl, fresh, inserted⟩ := outcome
      rw [← readBefore] at inserted
      have newest : latestUnlinked coupon args.userId invoiced = some redemption := by
        apply latestUnlinked_of_insert (linked code coupon given active) inserted
        all_goals rw [fresh]
        all_goals simp [newRedemption]
      simp only [Option.bind_some, newest] at linking
      refine ⟨link result.2 result.1 redemption, ?_, rfl, rfl⟩
      rw [← linking]
      exact Table.rows_of_insert? (Table.insert?_change inserted (id_link result.2 result.1))

end Linking

theorem purchase_accounting (sold : getPlan args.planCode before = .ok plan)
    (unused : before.walletTransactions.find? (purchaseKey args plan draws.now) = none)
    (term : 0 ≤ plan.durationDays) (linked : LinkedBefore text args draws.now before) :
    (∀ result after, purchase text args draws before = .ok result after →
      Charged args before plan result after ∧ Subscribed args draws before plan result after ∧
        Redeemed args before result after) ∧
    ∀ failure after, purchase text args draws before = .error failure after →
      Untouched before (Effect.commit (purchase text args draws) before) := by
  constructor
  · intro result after returned
    exact ⟨charged_of_purchase sold unused returned, subscribed_of_purchase term sold returned,
      redeemed_of_purchase linked returned⟩
  · intro failure after raised
    rw [Effect.commit_of_error raised]
    exact ⟨rfl, rfl, rfl, rfl, rfl, rfl⟩

def tenPercentOff : Coupon :=
  ⟨"c1", "SALE10", "percent", some 10, none, none, none, none, 2, 0, none, none, [], true⟩

/-- A redemption at 5 that names no invoice. -/
def looseRedemption : CouponRedemption :=
  ⟨"r0", "c1", "SALE10", "u1", none, none, none, 15000, 1500, 13500, .utc 5⟩

def redeemer : Database := { subscriber with
  coupons := ⟨[tenPercentOff], by decide⟩
  couponRedemptions := ⟨[looseRedemption], by decide⟩ }

def monthlyWithCoupon : PurchaseArgs := { monthly with couponCode := some "sale10" }

theorem redeemer_purchase_accounted :
    ∃ result after, purchase .ascii monthlyWithCoupon (purchaseDraws "1" 6) redeemer =
        .ok result after ∧ result.2.amountVnd = 13500 ∧
      Redeemed monthlyWithCoupon redeemer result after := by
  have sold : getPlan monthlyWithCoupon.planCode redeemer =
      .ok ⟨"p1", "monthly", 15000, 30, true⟩ := rfl
  have linked : LinkedBefore .ascii monthlyWithCoupon (purchaseDraws "1" 6).now redeemer := by
    intro code coupon given active row stored ofCoupon owner loose
    obtain rfl := List.mem_singleton.mp stored
    decide
  have unused : redeemer.walletTransactions.find? (purchaseKey monthlyWithCoupon
      ⟨"p1", "monthly", 15000, 30, true⟩ (purchaseDraws "1" 6).now) = none := rfl
  have accounted := purchase_accounting sold unused (by decide) linked
  exact ⟨_, _, rfl, rfl, (accounted.1 _ _ rfl).2.2⟩

/-- A plan that ends before it starts. -/
def backwards : Database := { subscriber with
  plans := ⟨[⟨"p1", "monthly", 15000, -30, true⟩], by decide⟩ }

/-- Of a plan with a negative term nothing is in force, and a redemption of a later date
is linked in place of the one just made. -/
theorem purchase_needs_term_and_order :
    (¬∀ text args draws plan before, getPlan args.planCode before = .ok plan →
      0 < plan.priceVnd →
      before.walletTransactions.find? (purchaseKey args plan draws.now) = none →
      ∀ result after, purchase text args draws before = .ok result after →
        Subscribed args draws before plan result after) ∧
    ¬∀ text args draws plan before, getPlan args.planCode before = .ok plan →
      0 < plan.priceVnd → 0 ≤ plan.durationDays →
      before.walletTransactions.find? (purchaseKey args plan draws.now) = none →
      ∀ result after, purchase text args draws before = .ok result after →
        Redeemed args before result after := by
  constructor
  · intro always
    have subscribed := always .ascii monthly (purchaseDraws "1" 0) ⟨"p1", "monthly", 15000, -30, true⟩
      backwards rfl (by decide) rfl _ _ rfl
    have missing := subscribed.effective
    cases missing
  · intro always
    have redeemed := always .ascii monthlyWithCoupon (purchaseDraws "1" 0)
      ⟨"p1", "monthly", 15000, 30, true⟩ redeemer rfl (by decide) (by decide) rfl _ _ rfl
    obtain ⟨row, appended, -, -⟩ := redeemed
    have first := congrArg (List.map CouponRedemption.invoiceId) appended
    have untouched := congrArg List.head? first
    cases untouched

end ApiBank.Billing.PurchaseEffects
