import ApiBank.Billing.Topup
import ApiBank.Core.StateMachine

/-!
# Order endpoints of clients, users and the bot

The repository behind `/v1/orders`, the endpoint that creates orders with its
ownership check, the user's cancellation of a top-up and the Telegram callback.
What only refuses a request (sessions, quotas, replayed idempotency keys) and what
nothing here reads (audit rows, Redis kicks) is left out.
-/

namespace ApiBank.Api.Orders

open ApiBank.Billing ApiBank.Core ApiBank.Db ApiBank.Relational ApiBank.Transition PaymentNames

set_option autoImplicit false

/-- The request body; the schema checks its amount and its time to live. -/
structure OrderCreate where
  amountVnd : Int
  bankAccountId : String
  customerRef : Option String
  metadata : Metadata
  ttlSeconds : Int
  positive : 0 < amountVnd
  ttlPositive : 0 < ttlSeconds
  ttlBound : ttlSeconds ≤ 86400

def createOrder (payload : OrderCreate) (draws : OrderDraws) : Session Order :=
  allocateOrder (newOrder {
    amountVnd := payload.amountVnd
    bankAccountId := payload.bankAccountId
    ttlSeconds := payload.ttlSeconds
    customerRef := payload.customerRef
    metadataJson := payload.metadata
    userId := none } draws) draws

def cancelOrder (orderId : String) (now : Int) : Session (Option Order) := fun db =>
  match db.orders.find? orderId with
  | none => .ok none db
  | some order =>
      if order.status = .pending then
        .ok (some (order.setStatus .canceled now)) { db with
          orders := db.orders.modify orderId (Order.setStatus .canceled now)
            (Order.id_setStatus .canceled now)
          paymentNameReservations := db.keptNames order now }
      else .ok (some order) db

structure ApiClient where
  userId : Option String
  scopes : List String

/-- `not api_key.user_id`. -/
def ApiClient.anonymous (client : ApiClient) : Bool :=
  client.userId = none || client.userId = some ""

def requireScope (client : ApiClient) (scope : String) : Session Unit :=
  if client.scopes.contains scope || client.scopes.contains "admin:*" then pure ()
  else throw (.httpException 403 "missing scope")

def assertBankAccountOwned (client : ApiClient) (bankAccountId : String) : Session Unit :=
  if client.scopes.contains "admin:*" || client.anonymous then pure ()
  else do
    let bank ← fetch (fun db => db.bankAccounts.find? bankAccountId)
      (.httpException 404 "not found")
    if bank.userId = client.userId then pure () else throw (.httpException 404 "not found")

theorem requireScope_ok {client : ApiClient} {scope : String} {before after : Database}
    (returned : requireScope client scope before = .ok () after) : after = before := by
  unfold requireScope at returned
  split at returned
  · simp only [Effect.pure_apply, EStateM.Result.ok.injEq, true_and] at returned
    exact returned.symm
  · simp at returned

theorem assertBankAccountOwned_ok {client : ApiClient} {bankAccountId : String}
    {before after : Database}
    (returned : assertBankAccountOwned client bankAccountId before = .ok () after) :
    after = before := by
  unfold assertBankAccountOwned at returned
  split at returned
  · simp only [Effect.pure_apply, EStateM.Result.ok.injEq, true_and] at returned
    exact returned.symm
  · obtain ⟨bank, -, rest⟩ := (fetch_bind_ok_iff ..).mp returned
    split at rest
    · simp only [Effect.pure_apply, EStateM.Result.ok.injEq, true_and] at rest
      exact rest.symm
    · simp at rest

def poolFullToHttp : Error → Error
  | .paymentNamePoolFull message => .httpException 503 message
  | other => other

/-- `POST /v1/orders`. -/
def createOrderRoute (client : ApiClient) (payload : OrderCreate) (draws : OrderDraws) :
    Session Order := do
  requireScope client "orders:write"
  assertBankAccountOwned client payload.bankAccountId
  fun db =>
    match createOrder payload draws db with
    | .ok order after => .ok order after
    | .error failure after => .error (poolFullToHttp failure) after

/-- `POST /me/topups` after its own checks, for the authenticated user. -/
def createTopup (userId : String) (amountVnd ttlSeconds : Int) (draws : OrderDraws) :
    Session Order := do
  let user ← fetch (fun db => db.users.find? userId) (.httpException 401 "not authenticated")
  Topup.createTopupOrder user amountVnd ttlSeconds draws

def ownsTopup (user : User) (order : Order) : Bool :=
  (match order.metadataJson.lookup "user_id" with
    | some (.text userId) => userId = user.id
    | _ => false) || order.customerRef = some user.email

/-- `POST /me/topups/{order_id}:cancel`. -/
def cancelPendingTopup (userId orderId : String) (now : Int) : Session Unit := do
  let user ← fetch (fun db => db.users.find? userId) (.httpException 401 "not authenticated")
  let order ← fetch (fun db => db.orders.find? orderId) (.httpException 404 "topup not found")
  if !Topup.isTopupOrder order then throw (.httpException 404 "topup not found")
  else if !ownsTopup user order then throw (.httpException 404 "topup not found")
  else if order.status ≠ .pending then
    throw (.httpException 409
      s!"cannot cancel topup in status '{StateMachine.statusText order.status}'")
  else
    assign fun db => db.modifyOrder orderId (Order.setStatus .canceled now)
      (Order.id_setStatus .canceled now)

/-- A `callback_query` with the chat it comes from. -/
structure TelegramCallback where
  id : String
  data : String
  chatId : String

def Admitted (callback : TelegramCallback) (adminChatId : Option String) : Prop :=
  callback.id ≠ "" ∧ callback.data ≠ "" ∧ adminChatId ≠ some "" ∧
    adminChatId = some callback.chatId

/-- `data.partition(":")` without the separator. -/
def partitionColon (data : String) : String × String :=
  let action := data.toList.takeWhile fun char => char ≠ ':'
  (String.ofList action, String.ofList (data.toList.drop (action.length + 1)))

/-- `_handle_callback`: the text that answers the callback, if one does. -/
def handleCallback (callback : TelegramCallback) (adminChatId : Option String) (now : Int) :
    Session (Option String) := fun db =>
  if callback.id = "" ∨ callback.data = "" then .ok none db
  else if adminChatId = none ∨ adminChatId = some "" ∨ adminChatId ≠ some callback.chatId then
    .ok (some "Không có quyền.") db
  else
    let (action, target) := partitionColon callback.data
    if target = "" then .ok (some "Dữ liệu không hợp lệ.") db
    else
      match db.orders.find? target with
      | none => .ok (some "Không tìm thấy đơn.") db
      | some order =>
          if action = "confirm" then
            .ok (some s!"✅ Đã confirm {order.code}")
              (if order.status = .pending then
                db.modifyOrder target (Order.confirm now) (Order.id_confirm now)
              else db)
          else if action = "cancel" then
            .ok (some s!"❌ Đã hủy {order.code}")
              (if order.status = .pending then
                db.modifyOrder target (Order.setStatus .canceled now)
                  (Order.id_setStatus .canceled now)
              else db)
          else .ok (some "Lệnh không hỗ trợ.") db

end ApiBank.Api.Orders
