import ApiBank.Api.Orders
import ApiBank.Transition.Interleaving

/-!
# Requests with an idempotency key

`POST /v1/orders` in concurrent sessions. The lookup of the key, the commit of the
order inside the repository and the commit of the record are three steps; other
requests run in between, and the process can stop there.

The hash of a body is SHA-256 over its sorted JSON and is a parameter. Responses
are stored as JSON and come back as the same values. The unique index on
`(api_key_id, key)` refuses a second record, and the request fails with 500.
-/

namespace ApiBank.Api.OrderRequests

open ApiBank.Db ApiBank.Relational ApiBank.Transition ApiBank.Api.Orders PaymentNames

set_option autoImplicit false

structure OrderRead where
  id : String
  code : String
  transferContent : Option String
  payUrl : Option String
  amountVnd : Int
  status : OrderStatus
  bankAccountId : String
  expiredAt : DateTime
  paidTxId : Option String
  paidAt : Option DateTime
  customerRef : Option String
  metadataJson : Metadata
  createdAt : DateTime
  updatedAt : DateTime

/-- `text or other`. -/
def orElse (text : Option String) (other : String) : String :=
  match text with
  | none => other
  | some value => if value = "" then other else value

/-- The validator that runs after the fields are set. -/
def OrderRead.restorePublicCode (read : OrderRead) : OrderRead :=
  { read with
    payUrl := some (orElse read.payUrl s!"/pay/{read.code}")
    code := orElse read.transferContent read.code }

/-- `OrderRead.model_validate(order)`. -/
def orderRead (order : Order) : OrderRead :=
  OrderRead.restorePublicCode {
    id := order.id
    code := order.code
    transferContent := order.transferContent
    payUrl := none
    amountVnd := order.amountVnd
    status := order.status
    bankAccountId := order.bankAccountId
    expiredAt := order.expiredAt
    paidTxId := order.paidTxId
    paidAt := order.paidAt
    customerRef := order.customerRef
    metadataJson := order.metadataJson
    createdAt := order.createdAt
    updatedAt := order.updatedAt }

/-- The body as the client sends it. The description only reaches the order row. -/
structure Body where
  payload : OrderCreate
  description : Option String

structure Request where
  apiKeyId : String
  client : ApiClient
  key : String
  body : Body

/-- The columns of the unique index. -/
def Request.index (request : Request) : String × String :=
  (request.apiKeyId, request.key)

structure IdempotencyKey where
  key : String
  apiKeyId : String
  requestHash : String
  responseJson : OrderRead
  expiresAt : DateTime

def IdempotencyKey.index (record : IdempotencyKey) : String × String :=
  (record.apiKeyId, record.key)

def buildIdempotencyRecord (apiKeyId key requestHash : String) (responsePayload : OrderRead)
    (now : Int) : IdempotencyKey where
  key := key
  apiKeyId := apiKeyId
  requestHash := requestHash
  responseJson := responsePayload
  expiresAt := (DateTime.utc now).add (seconds (24 * 3600))

/-- The committed rows. -/
structure Shared where
  committed : Database
  idempotencyKeys : Table IdempotencyKey.index

def reuseOrCreateIdempotentResponse (shared : Shared) (index : String × String)
    (requestHash : String) : Except Error (Option IdempotencyKey) :=
  match shared.idempotencyKeys.find? index with
  | none => .ok none
  | some existing =>
      if existing.requestHash ≠ requestHash then
        .error (.valueError "idempotency key reused with different request body")
      else .ok (some existing)

/-- Where a session stands: between two requests, before the lookup, past a lookup
that found nothing, or with a committed order and no record yet. -/
inductive Local where
  | ready
  | checked (request : Request)
  | missed (request : Request)
  | created (request : Request) (order : Order)

inductive Action where
  | request (request : Request)
  | lookup
  | create (draws : OrderDraws)
  | record (now : Int)
  | crash

inductive Notice where
  | quiet
  | ordered (request : Request) (order : Order)
  | responded (request : Request) (statusCode : Nat) (body : Option OrderRead)

/-- The checks before the key is looked at. -/
def authorize (request : Request) : Session Unit := do
  requireScope request.client "orders:write"
  assertBankAccountOwned request.client request.body.payload.bankAccountId

def statusCode : Error → Nat
  | .httpException code _ => code
  | _ => 500

def receive (shared : Shared) (state : Local) (request : Request) :
    Option (Notice × Shared × Local) :=
  match state with
  | .ready =>
      match authorize request shared.committed with
      | .ok _ _ => some (.quiet, shared, .checked request)
      | .error failure _ => some (.responded request (statusCode failure) none, shared, .ready)
  | _ => none

def lookup (hashRequest : Body → String) (shared : Shared) (state : Local) :
    Option (Notice × Shared × Local) :=
  match state with
  | .checked request =>
      match reuseOrCreateIdempotentResponse shared request.index (hashRequest request.body) with
      | .error _ => some (.responded request 409 none, shared, .ready)
      | .ok (some existing) =>
          some (.responded request 200 (some existing.responseJson.restorePublicCode), shared,
            .ready)
      | .ok none => some (.quiet, shared, .missed request)
  | _ => none

/-- `repo.create_order` with its commit. -/
def create (shared : Shared) (state : Local) (draws : OrderDraws) :
    Option (Notice × Shared × Local) :=
  match state with
  | .missed request =>
      match createOrder request.body.payload draws shared.committed with
      | .ok order committed =>
          some (.ordered request order, { shared with committed }, .created request order)
      | .error failure _ =>
          some (.responded request (statusCode (poolFullToHttp failure)) none, shared, .ready)
  | _ => none

/-- The `INSERT` of the record and the second commit. -/
def record (hashRequest : Body → String) (shared : Shared) (state : Local) (now : Int) :
    Option (Notice × Shared × Local) :=
  match state with
  | .created request order =>
      match shared.idempotencyKeys.insert? (buildIdempotencyRecord request.apiKeyId request.key
          (hashRequest request.body) (orderRead order) now) with
      | some idempotencyKeys =>
          some (.responded request 201 (some (orderRead order)), { shared with idempotencyKeys },
            .ready)
      | none => some (.responded request 500 none, shared, .ready)
  | _ => none

def advance (hashRequest : Body → String) (_ : SessionId) (shared : Shared) (state : Local) :
    Action → Option (Notice × Shared × Local)
  | .request request => receive shared state request
  | .lookup => lookup hashRequest shared state
  | .create draws => create shared state draws
  | .record now => record hashRequest shared state now
  | .crash => some (.quiet, shared, .ready)

abbrev System := Interleaved Shared Local

abbrev Event := SessionEvent Action Notice

/-- No session has begun and no key has been used. -/
def opened (db : Database) : System where
  shared := { committed := db, idempotencyKeys := .empty }
  sessions := fun _ => .ready

/-- Everything that one step can do. -/
inductive Moves (hashRequest : Body → String) (shared : Shared) :
    Local → Action → Notice → Shared → Local → Prop where
  | enter (request : Request) :
      Moves hashRequest shared .ready (.request request) .quiet shared (.checked request)
  | refuse (request : Request) (code : Nat)
      (refused : ∀ db, authorize request shared.committed ≠ .ok () db) :
      Moves hashRequest shared .ready (.request request) (.responded request code none) shared
        .ready
  | conflict (request : Request) :
      Moves hashRequest shared (.checked request) .lookup (.responded request 409 none) shared
        .ready
  | reuse (request : Request) (existing : IdempotencyKey)
      (found : shared.idempotencyKeys.find? request.index = some existing)
      (same : existing.requestHash = hashRequest request.body) :
      Moves hashRequest shared (.checked request) .lookup
        (.responded request 200 (some existing.responseJson.restorePublicCode)) shared .ready
  | miss (request : Request) (absent : shared.idempotencyKeys.find? request.index = none) :
      Moves hashRequest shared (.checked request) .lookup .quiet shared (.missed request)
  | create (request : Request) (draws : OrderDraws) (order : Order) (committed : Database) :
      Moves hashRequest shared (.missed request) (.create draws) (.ordered request order)
        { shared with committed } (.created request order)
  | fail (request : Request) (draws : OrderDraws) (code : Nat) :
      Moves hashRequest shared (.missed request) (.create draws) (.responded request code none)
        shared .ready
  | record (request : Request) (order : Order) (now : Int) (stored : IdempotencyKey)
      (idempotencyKeys : Table IdempotencyKey.index)
      (built : stored = buildIdempotencyRecord request.apiKeyId request.key
        (hashRequest request.body) (orderRead order) now)
      (inserted : shared.idempotencyKeys.insert? stored = some idempotencyKeys) :
      Moves hashRequest shared (.created request order) (.record now)
        (.responded request 201 (some (orderRead order))) { shared with idempotencyKeys } .ready
  | duplicate (request : Request) (order : Order) (now : Int) (stored : IdempotencyKey)
      (taken : shared.idempotencyKeys.find? request.index = some stored) :
      Moves hashRequest shared (.created request order) (.record now) (.responded request 500 none)
        shared .ready
  | crash (state : Local) : Moves hashRequest shared state .crash .quiet shared .ready

section Steps

variable {hashRequest : Body → String} {session : SessionId} {shared shared' : Shared}
variable {state state' : Local} {notice : Notice}

theorem reuse_none_iff {index : String × String} {requestHash : String} :
    reuseOrCreateIdempotentResponse shared index requestHash = .ok none ↔
      shared.idempotencyKeys.find? index = none := by
  unfold reuseOrCreateIdempotentResponse
  cases shared.idempotencyKeys.find? index with
  | none => simp
  | some existing =>
      simp only [reduceCtorEq, iff_false]
      split <;> simp

theorem reuse_some_iff {index : String × String} {requestHash : String}
    {existing : IdempotencyKey} :
    reuseOrCreateIdempotentResponse shared index requestHash = .ok (some existing) ↔
      shared.idempotencyKeys.find? index = some existing ∧ existing.requestHash = requestHash := by
  unfold reuseOrCreateIdempotentResponse
  cases shared.idempotencyKeys.find? index with
  | none => simp
  | some other =>
      simp only [Option.some.injEq]
      split
      · rename_i different
        constructor
        · intro raised
          contradiction
        · rintro ⟨rfl, same⟩
          exact absurd same different
      · rename_i same
        have agree : other.requestHash = requestHash := by simpa using same
        constructor
        · intro returned
          obtain rfl : other = existing := by simpa using returned
          exact ⟨rfl, agree⟩
        · rintro ⟨rfl, -⟩
          rfl

theorem moves_of_advance {action : Action}
    (advanced : advance hashRequest session shared state action =
      some (notice, shared', state')) :
    Moves hashRequest shared state action notice shared' state' := by
  cases action with
  | request request =>
      simp only [advance, receive] at advanced
      split at advanced
      · split at advanced
        · obtain ⟨rfl, rfl, rfl⟩ : _ = notice ∧ _ = shared' ∧ _ = state' := by
            simpa using advanced
          exact .enter request
        · rename_i failure after refused
          obtain ⟨rfl, rfl, rfl⟩ : _ = notice ∧ _ = shared' ∧ _ = state' := by
            simpa using advanced
          exact .refuse request _ (by simp [refused])
      · contradiction
  | lookup =>
      simp only [advance, lookup] at advanced
      split at advanced
      · rename_i request
        split at advanced
        · obtain ⟨rfl, rfl, rfl⟩ : _ = notice ∧ _ = shared' ∧ _ = state' := by
            simpa using advanced
          exact .conflict request
        · rename_i existing returned
          obtain ⟨rfl, rfl, rfl⟩ : _ = notice ∧ _ = shared' ∧ _ = state' := by
            simpa using advanced
          obtain ⟨found, same⟩ := reuse_some_iff.mp returned
          exact .reuse request existing found same
        · rename_i returned
          obtain ⟨rfl, rfl, rfl⟩ : _ = notice ∧ _ = shared' ∧ _ = state' := by
            simpa using advanced
          exact .miss request (reuse_none_iff.mp returned)
      · contradiction
  | create draws =>
      simp only [advance, create] at advanced
      split at advanced
      · rename_i request
        split at advanced
        · obtain ⟨rfl, rfl, rfl⟩ : _ = notice ∧ _ = shared' ∧ _ = state' := by
            simpa using advanced
          exact .create request draws _ _
        · obtain ⟨rfl, rfl, rfl⟩ : _ = notice ∧ _ = shared' ∧ _ = state' := by
            simpa using advanced
          exact .fail request draws _
      · contradiction
  | record now =>
      simp only [advance, record] at advanced
      split at advanced
      · rename_i request order
        split at advanced
        · rename_i idempotencyKeys inserted
          obtain ⟨rfl, rfl, rfl⟩ : _ = notice ∧ _ = shared' ∧ _ = state' := by
            simpa using advanced
          exact .record request order now _ idempotencyKeys rfl inserted
        · rename_i refused
          obtain ⟨rfl, rfl, rfl⟩ : _ = notice ∧ _ = shared' ∧ _ = state' := by
            simpa using advanced
          obtain ⟨stored, member, same⟩ := (Table.insert?_eq_none_iff ..).mp refused
          have taken := Table.find?_of_mem member
          rw [same] at taken
          exact .duplicate request order now stored taken
      · contradiction
  | crash =>
      obtain ⟨rfl, rfl, rfl⟩ : _ = notice ∧ _ = shared' ∧ _ = state' := by
        simpa [advance] using advanced
      exact .crash state

theorem alone_creates (hashRequest : Body → String) (session : SessionId) (request : Request)
    (draws : OrderDraws) (db after : Database) (now : Int) (order : Order)
    (returned : createOrderRoute request.client request.body.payload draws db = .ok order after) :
    ∃ shared, Interleaved.alone (advance hashRequest) session (opened db).shared .ready
      [.request request, .lookup, .create draws, .record now] = some (shared, .ready) ∧
      shared.committed = after := by
  unfold createOrderRoute at returned
  obtain ⟨⟨⟩, first, permitted, rest⟩ := (Effect.bind_ok_iff ..).mp returned
  obtain ⟨⟨⟩, second, owned, creates⟩ := (Effect.bind_ok_iff ..).mp rest
  have authorized : authorize request db = .ok () second :=
    (Effect.bind_ok_iff ..).mpr ⟨(), first, permitted, owned⟩
  rw [assertBankAccountOwned_ok owned, requireScope_ok permitted] at creates
  split at creates
  · rename_i created committed made
    obtain ⟨rfl, rfl⟩ : created = order ∧ committed = after := by simpa using creates
    obtain ⟨table, inserted⟩ := Table.insert?_of_fresh (Table.find?_empty
      (buildIdempotencyRecord request.apiKeyId request.key (hashRequest request.body)
        (orderRead created) now).index)
    refine ⟨{ committed, idempotencyKeys := table }, ?_, rfl⟩
    simp [Interleaved.alone, advance, receive, opened, authorized, lookup,
      reuseOrCreateIdempotentResponse, create, made, record, inserted]
  · contradiction

end Steps

end ApiBank.Api.OrderRequests
