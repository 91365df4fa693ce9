import ApiBank.Billing.Subscription

/-!
# Retried purchases

The key of a purchase guards its wallet debit and nothing else. A retry of a
purchase that was accepted is refused or has the other effects once more; it is
harmless exactly when there was nothing to repeat.
-/

namespace ApiBank.Billing.PurchaseRetry

open ApiBank.Db ApiBank.Relational ApiBank.Transition Coupons Subscription

set_option autoImplicit false

/-- What a purchase would charge, on the checks that a preview makes. -/
def quote (text : CodeText) (args : PurchaseArgs) (plan : Plan) (now : Int) (db : Database) :
    Except Error Int :=
  match nonempty args.couponCode with
  | none => .ok plan.priceVnd
  | some code =>
      (preview text code args.userId plan.code plan.priceVnd now db).map
        CouponBreakdown.finalAmountVnd

/-- The plan is sold at a positive price that the wallet can be charged under the
key, and no token drawn for a new row is taken. -/
structure AcceptedAt (text : CodeText) (args : PurchaseArgs) (draws : PurchaseDraws)
    (db : Database) (plan : Plan) (priceVnd : Int) : Prop where
  sold : getPlan args.planCode db = .ok plan
  quoted : quote text args plan draws.now db = .ok priceVnd
  positive : 0 < priceVnd
  chargeable : Wallet.Chargeable args.userId (purchaseKey args plan draws.now) priceVnd db
  redemption : nonempty args.couponCode ≠ none →
    db.couponRedemptions.find? draws.redemptionId = none
  subscription : getActiveSubscription args.userId draws.now db = none →
    db.subscriptions.find? draws.subscriptionId = none
  invoice : db.invoices.find? draws.invoiceId = none

def Accepted (text : CodeText) (args : PurchaseArgs) (draws : PurchaseDraws)
    (db : Database) : Prop :=
  ∃ plan priceVnd, AcceptedAt text args draws db plan priceVnd

variable {text : CodeText} {args : PurchaseArgs} {draws : PurchaseDraws}
variable {plan : Plan} {before after : Database}

theorem preview_ok_iff (code userId planCode : String) (amountVnd now : Int) (db : Database)
    (breakdown : CouponBreakdown) :
    preview text code userId planCode amountVnd now db = .ok breakdown ↔
      ∃ coupon, getActiveCoupon text code now db = .ok coupon ∧
        validateForUser coupon userId planCode db = .ok () ∧
        computeDiscount coupon amountVnd = .ok breakdown := by
  unfold preview
  simp only [bind, Except.bind]
  cases getActiveCoupon text code now db with
  | error failure => simp
  | ok coupon =>
      dsimp only
      cases valid : validateForUser coupon userId planCode db with
      | error failure => simp [valid]
      | ok value => simp [valid]

theorem insertRedemption_ok {redemption : CouponRedemption}
    (returned : insertRedemption redemption before = .ok () after) :
    before.couponRedemptions.find? redemption.id = none ∧
      after = { before with couponRedemptions := after.couponRedemptions } := by
  unfold insertRedemption at returned
  split at returned
  · rename_i rows inserted
    cases returned
    exact ⟨Table.fresh_of_insert? inserted, rfl⟩
  · contradiction

theorem redeem_ok {coupon : Coupon} {userId planCode : String} {amountVnd : Int}
    {fresh : RowDefaults} {breakdown : CouponBreakdown} {redemption : CouponRedemption}
    (returned : redeem coupon userId planCode amountVnd none none fresh before =
      .ok (breakdown, redemption) after) :
    computeDiscount coupon amountVnd = .ok breakdown ∧
      validateForUser coupon userId planCode before = .ok () ∧
      before.couponRedemptions.find? fresh.id = none ∧
      after = { before with
        coupons := after.coupons
        couponRedemptions := after.couponRedemptions } := by
  obtain ⟨discount, valid, rfl, counted, counting, inserting⟩ := redeem_ok_iff.mp returned
  have counts := counted_of_count counting
  obtain ⟨unused, inserts⟩ := insertRedemption_ok inserting
  rw [counts] at unused inserts
  refine ⟨discount, valid, unused, ?_⟩
  rw [inserts]

/-- A coupon that was redeemed passed the preview, and only coupon rows changed. -/
theorem redeemCoupon_ok {price : Price}
    (returned : redeemCoupon text args plan draws before = .ok price after) :
    quote text args plan draws.now before = .ok price.finalVnd ∧
      (nonempty args.couponCode ≠ none →
        before.couponRedemptions.find? draws.redemptionId = none) ∧
      after = { before with
        coupons := after.coupons
        couponRedemptions := after.couponRedemptions } := by
  unfold redeemCoupon at returned
  unfold quote
  cases given : nonempty args.couponCode with
  | none =>
      simp only [given, Effect.pure_apply, EStateM.Result.ok.injEq] at returned
      obtain ⟨rfl, rfl⟩ := returned
      simp
  | some code =>
      simp only [given] at returned
      obtain ⟨coupon, active, rest⟩ := (query_bind_ok_iff ..).mp returned
      obtain ⟨⟨breakdown, redemption⟩, middle, redeemed, done⟩ := (Effect.bind_ok_iff ..).mp rest
      simp only [Effect.pure_apply, EStateM.Result.ok.injEq] at done
      obtain ⟨rfl, rfl⟩ := done
      obtain ⟨computed, valid, unused, frame⟩ := redeem_ok redeemed
      have previewed := (preview_ok_iff code args.userId plan.code plan.priceVnd draws.now before
        breakdown).mpr ⟨coupon, active, valid, computed⟩
      refine ⟨?_, fun _ => unused, frame⟩
      simp [previewed, Except.map]

theorem extendOrCreate_ok {userId : String} {row : Subscription}
    (returned : extendOrCreate userId plan draws before = .ok row after) :
    (getActiveSubscription userId draws.now before = none →
      before.subscriptions.find? draws.subscriptionId = none) ∧
      after = { before with subscriptions := after.subscriptions } := by
  simp only [extendOrCreate, bind, EStateM.bind, Effect.get_apply] at returned
  cases active : getActiveSubscription userId draws.now before with
  | some existing =>
      simp only [active] at returned
      cases returned
      simp
  | none =>
      simp only [active, insertSubscription] at returned
      split at returned
      · rename_i rows inserted
        cases returned
        exact ⟨fun _ => Table.fresh_of_insert? inserted, rfl⟩
      · contradiction

theorem insertInvoice_ok {invoice : Invoice}
    (returned : insertInvoice invoice before = .ok () after) :
    before.invoices.insert? invoice = some after.invoices ∧
      after = { before with invoices := after.invoices } := by
  unfold insertInvoice at returned
  split at returned
  · rename_i rows inserted
    cases returned
    exact ⟨inserted, rfl⟩
  · contradiction

theorem linkRedemption_ok {coupon : Option Coupon} {userId : String} {invoice : Invoice}
    {subscription : Subscription}
    (returned : linkRedemption coupon userId invoice subscription before = .ok () after) :
    after = { before with couponRedemptions := after.couponRedemptions } := by
  simp only [linkRedemption, assign_apply, EStateM.Result.ok.injEq, true_and] at returned
  subst returned
  split <;> rfl

/-- A row of the key is there after the purchase; one that was there before stands
for the debit. -/
structure Debited (key : String) (before after : Database) : Prop where
  recorded : after.walletTransactions.find? key ≠ none
  once : before.walletTransactions.find? key ≠ none →
    after.users = before.users ∧ after.walletTransactions = before.walletTransactions

/-- What a purchase that returns has found and done. -/
structure Purchased (text : CodeText) (args : PurchaseArgs) (draws : PurchaseDraws)
    (before : Database) (result : Subscription × Invoice) (after : Database) : Prop where
  accepted : Accepted text args draws before
  plans : after.plans = before.plans
  debited : ∀ plan, getPlan args.planCode before = .ok plan →
    Debited (purchaseKey args plan draws.now) before after
  invoiced : before.invoices.insert? result.2 = some after.invoices

/-- What the steps of a purchase that returns have found and left. -/
structure PurchaseSteps (text : CodeText) (args : PurchaseArgs) (draws : PurchaseDraws)
    (before : Database) (plan : Plan) (price : Price) (row : WalletTransaction)
    (redeemed charged extended invoiced : Database) (result : Subscription × Invoice)
    (after : Database) : Prop where
  sold : getPlan args.planCode before = .ok plan
  redeeming : redeemCoupon text args plan draws before = .ok price redeemed
  charging : Wallet.debit (purchaseDebit args plan price draws.now)
    ⟨draws.walletRowId, draws.now⟩ redeemed = .ok row charged
  extending : extendOrCreate args.userId plan draws charged = .ok result.1 extended
  built : result.2 = newInvoice args plan price row result.1 draws
  invoicing : insertInvoice result.2 extended = .ok () invoiced
  linking : linkRedemption price.coupon args.userId result.2 result.1 invoiced = .ok () after

theorem purchase_steps {result : Subscription × Invoice}
    (returned : purchase text args draws before = .ok result after) :
    ∃ plan price row redeemed charged extended invoiced,
      PurchaseSteps text args draws before plan price row redeemed charged extended invoiced
        result after := by
  obtain ⟨plan, sold, rest⟩ := (query_bind_ok_iff ..).mp returned
  obtain ⟨price, redeemed, redeeming, rest⟩ := (Effect.bind_ok_iff ..).mp rest
  obtain ⟨row, charged, charging, rest⟩ := (Effect.bind_ok_iff ..).mp rest
  obtain ⟨subscription, extended, extending, rest⟩ := (Effect.bind_ok_iff ..).mp rest
  obtain ⟨⟨⟩, invoiced, invoicing, rest⟩ := (Effect.bind_ok_iff ..).mp rest
  obtain ⟨⟨⟩, linked, linking, done⟩ := (Effect.bind_ok_iff ..).mp rest
  simp only [Effect.pure_apply, EStateM.Result.ok.injEq] at done
  obtain ⟨rfl, rfl⟩ := done
  exact ⟨plan, price, row, redeemed, charged, extended, invoiced,
    ⟨sold, redeeming, charging, extending, rfl, invoicing, linking⟩⟩

theorem purchase_ok {result : Subscription × Invoice}
    (returned : purchase text args draws before = .ok result after) :
    Purchased text args draws before result after := by
  obtain ⟨plan, price, row, redeemed, charged, extended, invoiced, steps⟩ :=
    purchase_steps returned
  obtain ⟨sold, redeeming, charging, extending, built, invoicing, linking⟩ := steps
  obtain ⟨quoted, redemptionFree, redeemedFrame⟩ := redeemCoupon_ok redeeming
  obtain ⟨positive, chargeable⟩ := (Wallet.debit_returns_iff ..).mp ⟨row, charged, charging⟩
  have chargedFrame := Wallet.perform_frame charging
  obtain ⟨recorded, once⟩ := Wallet.debit_once charging
  obtain ⟨subscriptionFree, extendedFrame⟩ := extendOrCreate_ok extending
  obtain ⟨inserted, invoicedFrame⟩ := insertInvoice_ok invoicing
  have linkedFrame := linkRedemption_ok linking
  have users : after.users = charged.users := by
    rw [linkedFrame, invoicedFrame, extendedFrame]
  have walletRows : after.walletTransactions = charged.walletTransactions := by
    rw [linkedFrame, invoicedFrame, extendedFrame]
  have plans : after.plans = before.plans := by
    rw [linkedFrame, invoicedFrame, extendedFrame, chargedFrame, redeemedFrame]
  have debited : Debited (purchaseKey args plan draws.now) before after := by
    refine ⟨?_, ?_⟩
    · rw [walletRows]
      exact ne_of_eq_of_ne recorded (by simp)
    · intro taken
      have unchanged := once (by rw [redeemedFrame]; exact taken)
      rw [users, walletRows, unchanged, redeemedFrame]
      exact ⟨rfl, rfl⟩
  -- every step leaves the tables alone that the later checks read
  rw [redeemedFrame] at chargeable chargedFrame
  rw [chargedFrame] at subscriptionFree extendedFrame
  rw [extendedFrame] at inserted invoicedFrame
  have invoiceFree : before.invoices.find? draws.invoiceId = none := by
    have free := Table.fresh_of_insert? inserted
    rw [built] at free
    exact free
  refine ⟨⟨plan, price.finalVnd, sold, quoted, positive, chargeable, redemptionFree,
    subscriptionFree, invoiceFree⟩, plans, ?_, ?_⟩
  · intro other found
    obtain rfl : plan = other := Except.ok.inj (sold.symm.trans found)
    exact debited
  · rw [linkedFrame]
    exact inserted

theorem retry_debits_once {again : PurchaseDraws} {mid final : Database}
    {first second : Subscription × Invoice}
    (sameKey : ∀ plan, purchaseKey args plan again.now = purchaseKey args plan draws.now)
    (returned : purchase text args draws before = .ok first mid)
    (retried : purchase text args again mid = .ok second final) :
    final.users = mid.users ∧ final.walletTransactions = mid.walletTransactions := by
  have bought := purchase_ok returned
  have repeated := purchase_ok retried
  obtain ⟨plan, priceVnd, accepted⟩ := bought.accepted
  have sold : getPlan args.planCode mid = .ok plan := by
    unfold getPlan
    rw [bought.plans]
    exact accepted.sold
  have debited := repeated.debited plan sold
  rw [sameKey plan] at debited
  exact debited.once (bought.debited plan accepted.sold).recorded

/-- A plan of 30 days for 15000, and a user who can pay it three times. -/
def subscriber : Database := { Database.empty with
  users := ⟨[⟨"u1", "a@example.com", 50000⟩], by decide⟩
  plans := ⟨[⟨"p1", "monthly", 15000, 30, true⟩], by decide⟩ }

def monthly : PurchaseArgs := ⟨"u1", "monthly", some "dup", none⟩

def purchaseDraws (tokens : String) (now : Int) : PurchaseDraws where
  redemptionId := s!"r{tokens}"
  walletRowId := s!"w{tokens}"
  subscriptionId := s!"s{tokens}"
  invoiceId := s!"i{tokens}"
  now := now

end ApiBank.Billing.PurchaseRetry
