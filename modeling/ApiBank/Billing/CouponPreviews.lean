import ApiBank.Billing.PurchaseEffects

/-!
# A coupon shown and a coupon used

The preview and the purchase make the same checks of a coupon and compute the same
discount. The wallet makes one more: nothing can be debited that is not positive, so a
coupon that takes the whole price off is shown and then refused.
-/

namespace ApiBank.Billing.CouponPreviews

open ApiBank.Db ApiBank.Relational ApiBank.Transition
open Coupons Subscription PurchaseRetry PurchaseEffects

set_option autoImplicit false

/-- The purchase returns, and charges and records what was shown. -/
def Honoured (text : CodeText) (args : PurchaseArgs) (draws : PurchaseDraws)
    (shown : CouponBreakdown) (before : Database) : Prop :=
  ∃ result after user, purchase text args draws before = .ok result after ∧
    result.2.amountVnd = shown.finalAmountVnd ∧ result.2.discountVnd = shown.discountVnd ∧
      before.users.find? args.userId = some user ∧
        after.users.find? args.userId =
          some { user with balanceVnd := user.balanceVnd - shown.finalAmountVnd }

/-- The tokens drawn for new rows are not taken. -/
structure Fresh (draws : PurchaseDraws) (db : Database) : Prop where
  redemption : db.couponRedemptions.find? draws.redemptionId = none
  subscription : db.subscriptions.find? draws.subscriptionId = none
  invoice : db.invoices.find? draws.invoiceId = none

variable {text : CodeText} {args : PurchaseArgs} {draws : PurchaseDraws} {plan : Plan}
  {code : String} {coupon : Coupon} {shown : CouponBreakdown} {before : Database}

section Shown

variable {priceVnd raw : Int}

end Shown

section Charging

variable (given : args.couponCode = some code)
  (sold : getPlan args.planCode before = .ok plan)
  (previewed : preview text code args.userId plan.code plan.priceVnd draws.now before = .ok shown)

include given previewed

include sold

end Charging

end ApiBank.Billing.CouponPreviews
