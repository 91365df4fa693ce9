import ApiBank.Db.Clock
import ApiBank.Relational.Table

/-!
# Tables and rows

The columns that the modelled functions read or write, under the names of the
SQLAlchemy models. Amounts are whole VND (`Numeric(18, 0)`) and are not bounded;
identifiers are the random tokens the column defaults draw, passed in by whoever
inserts a row. Primary keys and unique constraints are enforced by the tables.
Foreign keys are not: a violated one makes an operation fail and nothing else.
-/

namespace ApiBank.Db

open ApiBank.Relational

set_option autoImplicit false

/-- What the column defaults of a new row draw: its token and the clock. -/
structure RowDefaults where
  id : String
  now : Int
deriving DecidableEq, Repr

/-- JSON values as they sit in `metadata_json`. -/
inductive Json where
  | null
  | bool (value : Bool)
  | number (value : Int)
  | text (value : String)
  | array (items : List Json)
  | object (fields : List (String × Json))

def Json.truthy : Json → Bool
  | .null => false
  | .bool value => value
  | .number value => value ≠ 0
  | .text value => value ≠ ""
  | .array items => !items.isEmpty
  | .object fields => !fields.isEmpty

/-- A JSON object, in key order of insertion. -/
abbrev Metadata := List (String × Json)

structure User where
  id : String
  email : String
  balanceVnd : Int
deriving DecidableEq, Repr

inductive WalletType where
  | topup
  | debit
  | refund
  | adjust
deriving DecidableEq, Repr

structure WalletTransaction where
  id : String
  userId : String
  type : WalletType
  amountVnd : Int
  balanceAfter : Int
  refKind : Option String
  refId : Option String
  idempotencyKey : String
  note : Option String
  createdBy : Option String
  createdAt : DateTime
deriving DecidableEq, Repr

structure BankAccount where
  id : String
  userId : Option String
  status : String
  isSystemAccount : Bool
deriving DecidableEq, Repr

/-- The strings ever written to `orders.status`. -/
inductive OrderStatus where
  | pending
  | paid
  | review
  | expired
  | canceled
  | refunded
deriving DecidableEq, Repr

structure Order where
  id : String
  code : String
  transferContent : Option String
  amountVnd : Int
  status : OrderStatus
  bankAccountId : String
  userId : Option String
  expiredAt : DateTime
  paidTxId : Option String
  paidAt : Option DateTime
  customerRef : Option String
  metadataJson : Metadata
  createdAt : DateTime
  updatedAt : DateTime

/-- `transfer_content or code`: an empty transfer content counts as absent. -/
def Order.publicCode (order : Order) : String :=
  match order.transferContent with
  | none => order.code
  | some content => if content = "" then order.code else content

structure PaymentNameReservation where
  bankAccountId : String
  content : String
  reservedUntil : DateTime
deriving DecidableEq, Repr

def PaymentNameReservation.key (reservation : PaymentNameReservation) : String × String :=
  (reservation.bankAccountId, reservation.content)

def PaymentNameReservation.keepUntil (reservedUntil : DateTime)
    (reservation : PaymentNameReservation) : PaymentNameReservation :=
  { reservation with reservedUntil }

@[simp] theorem PaymentNameReservation.key_keepUntil (reservedUntil : DateTime)
    (reservation : PaymentNameReservation) :
    (reservation.keepUntil reservedUntil).key = reservation.key := rfl

inductive TransactionState where
  | new
  | matched
  | review
  | unmatched
  | rejected
  | refunded
deriving DecidableEq, Repr

structure Transaction where
  id : String
  bankAccountId : String
  bankRefNo : String
  amountVnd : Int
  content : String
  postedAt : DateTime
  timestampReliable : Bool
  matchedOrderId : Option String
  state : TransactionState
  insertedAt : DateTime
deriving DecidableEq, Repr

structure Webhook where
  id : String
  userId : Option String
  active : Bool
deriving DecidableEq, Repr

/-- The nested `data.order` alias of a webhook payload. -/
structure PayloadOrder where
  id : String
  code : String
  amountVnd : Int
  status : OrderStatus

/-- The nested `data.transaction` alias of a webhook payload. -/
structure PayloadTransaction where
  id : String
  bankRefNo : String
  amountVnd : Int
  postedAt : DateTime
  content : String

/-- The JSON body of a `payment.succeeded` event. -/
structure Payload where
  id : String
  type : String
  createdAt : DateTime
  orderId : String
  transactionId : String
  code : String
  amountVnd : Int
  bankRefNo : String
  postedAt : DateTime
  customerRef : Option String
  metadata : Metadata
  order : PayloadOrder
  transaction : PayloadTransaction

structure WebhookAttempt where
  id : String
  webhookId : String
  orderId : String
  transactionId : String
  payload : Payload
  attempt : Nat
  maxAttempts : Nat
  status : String
  nextRunAt : DateTime
  claimedAt : Option DateTime
  lastStatusCode : Option Int := none
  lastError : Option String := none
  sentAt : Option DateTime := none

structure Plan where
  id : String
  code : String
  priceVnd : Int
  durationDays : Int
  active : Bool
deriving DecidableEq, Repr

structure Subscription where
  id : String
  userId : String
  planId : String
  startedAt : DateTime
  expiresAt : DateTime
  status : String
deriving DecidableEq, Repr

structure Invoice where
  id : String
  userId : String
  subscriptionId : Option String
  planCode : Option String
  amountVnd : Int
  currency : String
  status : String
  walletTxId : Option String
  issuedAt : DateTime
  couponCode : Option String
  discountVnd : Int
  originalAmountVnd : Option Int
deriving DecidableEq, Repr

structure Coupon where
  id : String
  code : String
  discountType : String
  percentOff : Option Int
  amountOffVnd : Option Int
  maxDiscountVnd : Option Int
  minAmountVnd : Option Int
  maxRedemptions : Option Int
  maxPerUser : Int
  redeemedCount : Int
  validFrom : Option DateTime
  validUntil : Option DateTime
  planCodesJson : List String
  active : Bool
deriving DecidableEq, Repr

structure CouponRedemption where
  id : String
  couponId : String
  couponCode : String
  userId : String
  invoiceId : Option String
  subscriptionId : Option String
  planCode : Option String
  amountBeforeVnd : Int
  discountVnd : Int
  amountAfterVnd : Int
  createdAt : DateTime
deriving DecidableEq, Repr

/-- The database. Wallet rows are keyed by the unique `idempotency_key`: their
token is never looked up. -/
structure Database where
  users : Table User.id
  walletTransactions : Table WalletTransaction.idempotencyKey
  bankAccounts : Table BankAccount.id
  orders : Table Order.id
  paymentNameReservations : Table PaymentNameReservation.key
  transactions : Table Transaction.id
  webhooks : Table Webhook.id
  webhookAttempts : Table WebhookAttempt.id
  plans : Table Plan.id
  subscriptions : Table Subscription.id
  invoices : Table Invoice.id
  coupons : Table Coupon.id
  couponRedemptions : Table CouponRedemption.id

def Database.empty : Database where
  users := .empty
  walletTransactions := .empty
  bankAccounts := .empty
  orders := .empty
  paymentNameReservations := .empty
  transactions := .empty
  webhooks := .empty
  webhookAttempts := .empty
  plans := .empty
  subscriptions := .empty
  invoices := .empty
  coupons := .empty
  couponRedemptions := .empty

end ApiBank.Db
