import ApiBank.Db.Models
import ApiBank.Errors

/-!
# Order state machine

The transition table and its only reader. Most writers of `orders.status` do not
ask it.
-/

namespace ApiBank.Core.StateMachine

open ApiBank.Db

set_option autoImplicit false

def statusText : OrderStatus → String
  | .pending => "pending"
  | .paid => "paid"
  | .review => "review"
  | .expired => "expired"
  | .canceled => "canceled"
  | .refunded => "refunded"

def validOrderTransitions : List (OrderStatus × List OrderStatus) := [
  (.pending, [.paid, .review, .expired, .canceled]),
  (.review, [.paid, .canceled]),
  (.paid, []),
  (.expired, []),
  (.canceled, [])]

def canTransitionOrder (current target : OrderStatus) : Bool :=
  ((validOrderTransitions.lookup current).getD []).contains target

def transitionOrder (current target : OrderStatus) : Except Error OrderStatus :=
  if canTransitionOrder current target then .ok target
  else .error (.valueError
    s!"invalid order transition: {statusText current} -> {statusText target}")

def Tabled (status : OrderStatus) : Prop :=
  status ∈ validOrderTransitions.map Prod.fst

theorem tabled_iff (status : OrderStatus) : Tabled status ↔ status ≠ .refunded := by
  cases status <;> simp [Tabled, validOrderTransitions]

/-- No row of the table leaves its keys. -/
theorem tabled_of_transition {current target : OrderStatus}
    (valid : canTransitionOrder current target) : Tabled target := by
  rw [tabled_iff]
  rintro rfl
  cases current <;> contradiction

/-- The statuses without an outgoing transition. -/
def Absorbing (status : OrderStatus) : Prop :=
  status = .paid ∨ status = .expired ∨ status = .canceled

theorem absorbing_iff {status : OrderStatus} (tabled : Tabled status) :
    Absorbing status ↔ ∀ target, ¬canTransitionOrder status target := by
  rw [tabled_iff] at tabled
  constructor
  · rintro (rfl | rfl | rfl) target <;> cases target <;> decide
  · intro stuck
    cases status with
    | pending => exact absurd (by decide) (stuck .paid)
    | review => exact absurd (by decide) (stuck .paid)
    | paid => exact .inl rfl
    | expired => exact .inr (.inl rfl)
    | canceled => exact .inr (.inr rfl)
    | refunded => exact absurd rfl tabled

end ApiBank.Core.StateMachine
