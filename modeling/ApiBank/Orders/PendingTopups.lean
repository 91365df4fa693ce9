import ApiBank.Orders.TopupOrigin

/-!
# The pending top-ups of a user

The list, the check and the cancellation tell a user's top-ups by the kind and the user in the
metadata, by the user of the order and by its customer reference. Clients write the metadata
and the reference of their orders themselves. As long as no client's order that says it is a
top-up names a user there, the three endpoints take nothing but top-ups created for the user
who asks, and the account they show is the system account.
-/

namespace ApiBank.Orders.PendingTopups

open ApiBank.Api ApiBank.Billing ApiBank.Core ApiBank.Db ApiBank.Relational ApiBank.Transition
open Matcher Operations Orders PaymentNames Payments Topup TopupOrigin

set_option autoImplicit false

/-- The QR code, the bank's code and name, the number and the holder of an item are read off
the row `bank`. -/
structure TopupListItem where
  orderId : String
  code : String
  amountVnd : Int
  status : OrderStatus
  createdAt : DateTime
  expiredAt : DateTime
  payUrl : String
  transferContent : String
  bank : Option BankAccount

def topupListItem (order : Order) (bank : Option BankAccount) : TopupListItem where
  orderId := order.id
  code := order.code
  amountVnd := order.amountVnd
  status := order.status
  createdAt := order.createdAt
  expiredAt := order.expiredAt
  payUrl := s!"/pay/{order.code}"
  transferContent := order.publicCode
  bank := bank

/-- The twenty youngest pending orders with the user's identifier or address. -/
def pendingRows (user : User) (db : Database) : List Order :=
  let rows := db.orders.rows.filter fun order =>
    order.status = .pending && (order.userId = some user.id || order.customerRef = some user.email)
  (rows.mergeSort fun first second => second.createdAt.instant ≤ first.createdAt.instant).take 20

/-- `meta.get("user_id") and meta.get("user_id") != user.id`. -/
def namesAnother (user : User) (order : Order) : Bool :=
  match order.metadataJson.lookup "user_id" with
  | none => false
  | some (.text userId) => userId ≠ "" && userId ≠ user.id
  | some other => other.truthy

/-- `GET /me/topups`. -/
def listPendingTopups (userId : String) : Session (List TopupListItem) := do
  let user ← fetch (fun db => db.users.find? userId) (.httpException 401 "not authenticated")
  fun db =>
    let shown := (pendingRows user db).filter fun order =>
      isTopupOrder order && !namesAnother user order
    .ok (shown.map fun order => topupListItem order (db.bankAccounts.find? order.bankAccountId)) db

/-- What the check of a top-up does first: it answers for a settled order and wakes the poller
of the order's account for any other. -/
inductive TopupCheck where
  | paid (balanceVnd : Int)
  | closed (status : OrderStatus)
  | kicked (bankAccountId : String)

/-- `POST /me/topups/{order_id}:check` up to the kick. -/
def checkPendingTopup (userId orderId : String) : Session TopupCheck := do
  let user ← fetch (fun db => db.users.find? userId) (.httpException 401 "not authenticated")
  let order ← fetch (fun db => db.orders.find? orderId) (.httpException 404 "topup not found")
  if !isTopupOrder order then throw (.httpException 404 "topup not found")
  else if !ownsTopup user order then throw (.httpException 404 "topup not found")
  else
    match order.status with
    | .paid => pure (.paid user.balanceVnd)
    | .expired => pure (.closed .expired)
    | .canceled => pure (.closed .canceled)
    | _ => pure (.kicked order.bankAccountId)

section Acceptance

variable {user : User} {order : Order} {db after : Database}

theorem isTopupOrder_iff (order : Order) :
    isTopupOrder order = true ↔ order.metadataJson.lookup "kind" = some (.text topupKind) := by
  unfold isTopupOrder
  split
  · rename_i kind found
    simp [found]
  · rename_i other
    constructor
    · intro topup
      contradiction
    · intro found
      exact absurd found (other _)

/-- The three ways in which an order can be taken for a user's. -/
def Names (order : Order) (userId email : String) : Prop :=
  order.metadataJson.lookup "user_id" = some (.text userId) ∨ order.userId = some userId ∨
    order.customerRef = some email

theorem names_of_owns (owns : ownsTopup user order = true) : Names order user.id user.email := by
  unfold ownsTopup at owns
  rcases Bool.or_eq_true_iff.mp owns with named | referenced
  · split at named
    · rename_i userId found
      rw [of_decide_eq_true named] at found
      exact .inl found
    · contradiction
  · exact .inr (.inr (of_decide_eq_true referenced))

theorem cancelPendingTopup_owned {userId orderId : String} {now : Int}
    (accepted : cancelPendingTopup userId orderId now db = .ok () after) :
    ∃ user order, db.users.find? userId = some user ∧ db.orders.find? orderId = some order ∧
      isTopupOrder order = true ∧ ownsTopup user order = true := by
  obtain ⟨user, known, rest⟩ := (fetch_bind_ok_iff ..).mp accepted
  obtain ⟨order, found, rest⟩ := (fetch_bind_ok_iff ..).mp rest
  split at rest
  · simp at rest
  · rename_i topup
    split at rest
    · simp at rest
    · rename_i owned
      exact ⟨user, order, known, found, by simpa using topup, by simpa using owned⟩

theorem checkPendingTopup_owned {userId orderId : String} {answer : TopupCheck}
    (accepted : checkPendingTopup userId orderId db = .ok answer after) :
    ∃ user order, db.users.find? userId = some user ∧ db.orders.find? orderId = some order ∧
      isTopupOrder order = true ∧ ownsTopup user order = true := by
  obtain ⟨user, known, rest⟩ := (fetch_bind_ok_iff ..).mp accepted
  obtain ⟨order, found, rest⟩ := (fetch_bind_ok_iff ..).mp rest
  split at rest
  · simp at rest
  · rename_i topup
    split at rest
    · simp at rest
    · rename_i owned
      exact ⟨user, order, known, found, by simpa using topup, by simpa using owned⟩

theorem listPendingTopups_owned {userId : String} {items : List TopupListItem}
    (answered : listPendingTopups userId db = .ok items after) {item : TopupListItem}
    (listed : item ∈ items) :
    ∃ user, db.users.find? userId = some user ∧ ∃ order ∈ db.orders.rows,
      item = topupListItem order (db.bankAccounts.find? order.bankAccountId) ∧
        isTopupOrder order = true ∧ Names order user.id user.email := by
  obtain ⟨user, known, rest⟩ := (fetch_bind_ok_iff ..).mp answered
  cases rest
  obtain ⟨order, shown, rfl⟩ := List.mem_map.mp listed
  obtain ⟨young, accepted⟩ := List.mem_filter.mp shown
  obtain ⟨stored, asked⟩ := List.mem_filter.mp (List.mem_mergeSort.mp (List.mem_of_mem_take young))
  simp only [Bool.and_eq_true, Bool.or_eq_true, decide_eq_true_eq] at asked accepted
  exact ⟨user, known, order, stored, rfl, accepted.1, .inr asked.2⟩

end Acceptance

def OwnTopup (unicode : UnicodeData) (start : Database) (ops : List Op) (db : Database)
    (orderId userId : String) : Prop :=
  CreatedByTopup unicode start ops orderId userId ∧ ∃ order bank,
    db.orders.find? orderId = some order ∧ systemBank? db = some bank ∧
      db.bankAccounts.find? order.bankAccountId = some bank

/-- The three endpoints take a user's own top-ups only. -/
structure TakesOwnTopups (unicode : UnicodeData) (start : Database) (ops : List Op)
    (db : Database) : Prop where
  listed : ∀ userId items, listPendingTopups userId db = .ok items db → ∀ item ∈ items,
    OwnTopup unicode start ops db item.orderId userId ∧
      ∃ bank, systemBank? db = some bank ∧ item.bank = some bank
  canceled : ∀ userId orderId now after, cancelPendingTopup userId orderId now db = .ok () after →
    OwnTopup unicode start ops db orderId userId
  checked : ∀ userId orderId answer, checkPendingTopup userId orderId db = .ok answer db →
    OwnTopup unicode start ops db orderId userId

/-- What the endpoints compare: the columns of a user that no operation changes. -/
def identities (db : Database) : List (String × String) :=
  db.users.rows.map fun user => (user.id, user.email)

/-- Nothing is ordered. The column `users.email` is unique. -/
structure Unordered (db : Database) : Prop where
  noOrders : db.orders.rows = []
  emails : ((identities db).map Prod.snd).Nodup

def NamesNobody (db : Database) : Op → Prop
  | .createOrder _ payload _ =>
      payload.metadata.lookup "kind" = some (.text topupKind) →
        ∀ userId email, (userId, email) ∈ identities db →
          payload.metadata.lookup "user_id" ≠ some (.text userId) ∧
            payload.customerRef ≠ some email
  | _ => True

/-- The order is a top-up of the user, as `create_topup_order` wrote it. -/
structure TopupOf (unicode : UnicodeData) (start : Database) (ops : List Op) (order : Order)
    (userId email : String) : Prop where
  known : (userId, email) ∈ identities start
  payer : order.userId = some userId
  reference : order.customerRef = some email
  metadata : order.metadataJson = topupMetadata userId
  created : CreatedByTopup unicode start ops order.id userId
  account : ∃ bank, systemBank? start = some bank ∧ order.bankAccountId = bank.id

def Unattached (start : Database) (order : Order) : Prop :=
  isTopupOrder order = true → ∀ userId email, (userId, email) ∈ identities start →
    ¬Names order userId email

structure AllAttributed (unicode : UnicodeData) (start : Database) (ops : List Op)
    (db : Database) : Prop where
  run : Run (Computed (serve unicode)) start ops db
  users : identities db = identities start
  banks : db.bankAccounts = start.bankAccounts
  orders : ∀ order ∈ db.orders.rows,
    (∃ userId email, TopupOf unicode start ops order userId email) ∨ Unattached start order

section Steps

variable {unicode : UnicodeData} {start before after db : Database} {ops : List Op} {op : Op}

theorem identities_modify {users : Table User.id} {wanted : String} {balance : Int}
    (changed : after.users = users.modify wanted (Wallet.setBalance balance)
      (Wallet.id_setBalance balance)) (same : users = before.users) :
    identities after = identities before := by
  subst same
  simp only [identities, changed, Table.modify, Table.rows_update, List.map_map]
  apply List.map_congr_left
  intro user _
  simp only [Function.comp]
  split
  · rfl
  · rfl

/-- No operation touches an account, or the identifier or the address of a user. -/
theorem change_keeps (change : Change unicode before op after) :
    identities after = identities before ∧ after.bankAccounts = before.bankAccounts := by
  by_cases refund : ∃ txId note actorEmail draws, op = .refund txId note actorEmail draws
  · obtain ⟨txId, note, actorEmail, draws, rfl⟩ := refund
    cases change with
    | nothing => exact ⟨rfl, rfl⟩
    | refunded _ _ _ _ tx order userId row credited foundTx matched found payee refund =>
        have banks : credited.bankAccounts = before.bankAccounts := by
          rw [Wallet.perform_frame refund]
        obtain ⟨request, -, applied⟩ := Wallet.perform_ok refund
        rcases Wallet.apply_ok applied with ⟨-, -, rfl⟩ | posted
        · exact ⟨rfl, rfl⟩
        · exact ⟨identities_modify posted.users rfl, banks⟩
    | canceled _ orderId now _ order found pending orders transactions ledger =>
        exact ⟨congrArg (fun users => users.rows.map fun user => (user.id, user.email))
          ledger.users, ledger.bankAccounts⟩
    | linked _ now order tx found foundTx sameBank cause => simp at cause
    | expired _ now cause => simp at cause
  · rcases ledger_of_change change (fun txId note actorEmail draws same =>
      refund ⟨txId, note, actorEmail, draws, same⟩) with
      ledger | ⟨_, _, _, _, _, _, -, -, -, -, posted, banks⟩
    · exact ⟨congrArg (fun users => users.rows.map fun user => (user.id, user.email))
        ledger.users, ledger.bankAccounts⟩
    · exact ⟨identities_modify posted.users rfl, banks⟩

theorem clientOrder_terms {client : ApiClient} {payload : OrderCreate} {draws : OrderDraws}
    {order : Order} (served : serve unicode before (.createOrder client payload draws) = after)
    (inserted : before.orders.insert? order = some after.orders) :
    order.customerRef = payload.customerRef ∧ order.metadataJson = payload.metadata := by
  have grown := Table.rows_of_insert? inserted
  unfold serve at served
  cases ran : perform unicode (.createOrder client payload draws) before with
  | error failure last =>
      rw [Effect.commit_of_error ran] at served
      subst served
      simp at grown
  | ok value last =>
      rw [Effect.commit_of_ok ran] at served
      subst served
      obtain ⟨created, returned⟩ := Effect.discard_ok ran
      have allocated := createOrderRoute_ok returned
      rw [Table.rows_of_insert? allocated.inserted] at grown
      obtain rfl : created = order := by simpa using grown
      obtain ⟨name, -, rfl⟩ := allocated.content
      exact ⟨rfl, rfl⟩

/-- A top-up order says for whom it is, three times. -/
theorem topupOrder_terms {userId : String} {amountVnd ttlSeconds : Int} {draws : OrderDraws}
    {order : Order} (returned : createTopup userId amountVnd ttlSeconds draws before =
      .ok order after) :
    ∃ email, (userId, email) ∈ identities before ∧ order.customerRef = some email := by
  obtain ⟨user, known, rest⟩ := (fetch_bind_ok_iff ..).mp returned
  obtain ⟨-, -, bank, -, allocated⟩ := createTopupOrder_ok rest
  obtain ⟨name, -, rfl⟩ := allocated.content
  obtain rfl := Table.key_of_find? known
  exact ⟨user.email, List.mem_map.mpr ⟨user, Table.mem_of_find? known, rfl⟩, rfl⟩

theorem TopupOf.later {order row : Order} {userId email : String}
    (own : TopupOf unicode start ops order userId email) (terms : SameTerms row order) (op : Op) :
    TopupOf unicode start (ops ++ [op]) row userId email where
  known := own.known
  payer := terms.userId.trans own.payer
  reference := terms.customerRef.trans own.reference
  metadata := terms.metadataJson.trans own.metadata
  created := terms.id ▸ own.created.later op
  account := terms.bankAccountId ▸ own.account

theorem unattached_of_terms {order row : Order} (apart : Unattached start order)
    (terms : SameTerms row order) : Unattached start row := by
  unfold Unattached Names
  rw [isTopupOrder_iff, terms.metadataJson, terms.userId, terms.customerRef, ← isTopupOrder_iff]
  exact apart

theorem allAttributed_start (unordered : Unordered start) :
    AllAttributed unicode start [] start where
  run := .nil
  users := rfl
  banks := rfl
  orders := by simp [unordered.noOrders]

theorem step_attributed (invariant : AllAttributed unicode start ops before)
    (nobody : NamesNobody before op) :
    AllAttributed unicode start (ops ++ [op]) (serve unicode before op) := by
  obtain ⟨after, served⟩ : ∃ after, serve unicode before op = after := ⟨_, rfl⟩
  have change := served ▸ change_of_serve unicode before op
  obtain ⟨users, banks⟩ := change_keeps change
  have run : Run (Computed (serve unicode)) start (ops ++ [op]) after :=
    invariant.run.snoc served.symm
  rw [served]
  refine ⟨run, users.trans invariant.users, banks.trans invariant.banks, ?_⟩
  have kept : ∀ order ∈ before.orders.rows, ∀ row, SameTerms row order →
      (∃ userId email, TopupOf unicode start (ops ++ [op]) row userId email) ∨
        Unattached start row := by
    intro order stored row terms
    rcases invariant.orders order stored with ⟨userId, email, own⟩ | apart
    · exact .inl ⟨userId, email, own.later terms op⟩
    · exact .inr (unattached_of_terms apart terms)
  rcases orders_of_change change with ⟨rewrite, keeps, changed, terms⟩ | ⟨new, inserted, -, created⟩
  · intro row member
    rw [changed] at member
    obtain ⟨order, stored, rfl⟩ := List.mem_map.mp member
    exact kept order stored _ (terms order)
  · intro row member
    rw [Table.rows_of_insert? inserted] at member
    rcases List.mem_append.mp member with stored | added
    · exact kept row stored row (.refl row)
    obtain rfl := List.mem_singleton.mp added
    cases created with
    | topup userId amountVnd ttlSeconds draws after bank configured returned payer metadata
        account =>
        obtain ⟨email, known, reference⟩ := topupOrder_terms returned
        refine .inl ⟨userId, email, invariant.users ▸ known, payer, reference, metadata,
          ⟨ops, [], amountVnd, ttlSeconds, draws, before, row, after, rfl, invariant.run, returned,
            rfl⟩, bank, ?_, account⟩
        rw [systemBank?, ← invariant.banks]
        exact configured
    | client client payload draws after payer =>
        obtain ⟨reference, metadata⟩ := clientOrder_terms served inserted
        refine .inr ?_
        intro topup userId email known names
        rw [isTopupOrder_iff, metadata] at topup
        obtain ⟨unnamed, unreferenced⟩ := nobody topup userId email (invariant.users ▸ known)
        unfold Names at names
        rw [metadata, payer, reference] at names
        simp [unnamed, unreferenced] at names

theorem TopupOf.named {order : Order} {userId email namedId namedEmail : String}
    (own : TopupOf unicode start ops order userId email) (unordered : Unordered start)
    (known : (namedId, namedEmail) ∈ identities start) (names : Names order namedId namedEmail) :
    namedId = userId := by
  rcases names with named | payer | reference
  · rw [own.metadata] at named
    simpa [topupMetadata, List.lookup_cons, eq_comm] using named
  · exact Option.some.inj (payer.symm.trans own.payer)
  · have sameEmail : namedEmail = email :=
      Option.some.inj (reference.symm.trans own.reference)
    have same := List.inj_on_of_nodup_map unordered.emails known own.known sameEmail
    exact congrArg Prod.fst same

theorem own_of_names (invariant : AllAttributed unicode start ops db)
    (unordered : Unordered start) {user : User} {order : Order} (stored : order ∈ db.orders.rows)
    (known : user ∈ db.users.rows) (topup : isTopupOrder order = true)
    (names : Names order user.id user.email) :
    CreatedByTopup unicode start ops order.id user.id ∧ ∃ bank, systemBank? db = some bank ∧
      db.bankAccounts.find? order.bankAccountId = some bank := by
  have identity : (user.id, user.email) ∈ identities start :=
    invariant.users ▸ List.mem_map.mpr ⟨user, known, rfl⟩
  rcases invariant.orders order stored with ⟨userId, email, own⟩ | apart
  · obtain rfl := own.named unordered identity names
    obtain ⟨bank, configured, account⟩ := own.account
    have system : systemBank? db = some bank := by
      rw [systemBank?, invariant.banks]
      exact configured
    refine ⟨own.created, bank, system, ?_⟩
    rw [account]
    exact Table.find?_of_mem (systemBank_of_found system).1
  · exact absurd names (apart topup user.id user.email identity)

theorem own_of_accepted (invariant : AllAttributed unicode start ops db)
    (unordered : Unordered start) {userId orderId : String}
    (accepted : ∃ user order, db.users.find? userId = some user ∧
      db.orders.find? orderId = some order ∧ isTopupOrder order = true ∧
        ownsTopup user order = true) :
    OwnTopup unicode start ops db orderId userId := by
  obtain ⟨user, order, known, found, topup, owns⟩ := accepted
  obtain ⟨created, bank, system, account⟩ := own_of_names invariant unordered
    (Table.mem_of_find? found) (Table.mem_of_find? known) topup (names_of_owns owns)
  rw [Table.key_of_find? found, Table.key_of_find? known] at created
  exact ⟨created, order, bank, found, system, account⟩

/-- In every run in which no client's order that says it is a top-up names a user, the list
shows, and the check and the cancellation accept, a user's own top-ups on the system account. -/
theorem takes_own_topups (unordered : Unordered start)
    (run : Run (Guarded NamesNobody (Computed (serve unicode))) start ops db) :
    TakesOwnTopups unicode start ops db := by
  have invariant : AllAttributed unicode start ops db := by
    apply run.history (AllAttributed unicode start) (allAttributed_start unordered)
    rintro earlier before op after attributed ⟨nobody, rfl⟩
    exact step_attributed attributed nobody
  refine ⟨?_, ?_, ?_⟩
  · intro userId items answered item listed
    obtain ⟨user, known, order, stored, rfl, topup, names⟩ :=
      listPendingTopups_owned answered listed
    obtain ⟨created, bank, system, account⟩ := own_of_names invariant unordered stored
      (Table.mem_of_find? known) topup names
    rw [Table.key_of_find? known] at created
    exact ⟨⟨created, order, bank, Table.find?_of_mem stored, system, account⟩, bank, system,
      account⟩
  · intro userId orderId now after accepted
    exact own_of_accepted invariant unordered (cancelPendingTopup_owned accepted)
  · intro userId orderId answer accepted
    exact own_of_accepted invariant unordered (checkPendingTopup_owned accepted)

end Steps

theorem unordered_market : Unordered market := ⟨rfl, by decide⟩

/-- One user's top-up beside an order of a client that refers to nobody. -/
def marketOps : List Op := [
  .createTopup "u1" 50000 topupTtlSeconds (orderDraws "o1" "AA" 0),
  .createOrder ⟨some "u2", ["orders:write"]⟩ { forgedTopup with metadata := [] }
    (orderDraws "o2" "AB" 1)]

theorem takes_own_topups_market : ∃ db,
    Run (Guarded NamesNobody (Computed (serve .ascii))) market marketOps db ∧
      TakesOwnTopups .ascii market marketOps db := by
  have guarded : Run.Along NamesNobody (serve .ascii) market marketOps := by
    refine ⟨trivial, ?_, trivial⟩
    intro topup
    contradiction
  have run := Run.of_guarded guarded
  exact ⟨_, run, takes_own_topups unordered_market run⟩

/-- An order of the client `u2` on its own account with the metadata of a top-up of `u1`. -/
def plantedOps : List Op := [
  .createOrder ⟨some "u2", ["orders:write"]⟩ { forgedTopup with
    customerRef := some "a@example.com"
    metadata := topupMetadata "u1" } (orderDraws "o1" "AA" 0)]

/-- The user is shown the account of the client who planted the order. -/
theorem planted_order_is_listed :
    ¬∀ (unicode : UnicodeData) (start db : Database) (ops : List Op), Unordered start →
      Run (Computed (serve unicode)) start ops db → TakesOwnTopups unicode start ops db := by
  intro claimed
  have own := claimed .ascii market _ plantedOps unordered_market (Run.of_computed _ _ _)
  obtain ⟨order, stored, pending, named, topup, alone, user, bank⟩ : ∃ order,
      (plantedOps.foldl (serve .ascii) market).orders.rows = [order] ∧
      order.status = .pending ∧ order.customerRef = some "a@example.com" ∧
      isTopupOrder order = true ∧ namesAnother ⟨"u1", "a@example.com", 0⟩ order = false ∧
      (plantedOps.foldl (serve .ascii) market).users.find? "u1" =
        some ⟨"u1", "a@example.com", 0⟩ ∧
      (plantedOps.foldl (serve .ascii) market).bankAccounts.find? order.bankAccountId =
        some ⟨"b2", some "u2", "active", false⟩ := ⟨_, rfl, rfl, rfl, rfl, rfl, rfl, rfl⟩
  have young : pendingRows ⟨"u1", "a@example.com", 0⟩ (plantedOps.foldl (serve .ascii) market) =
      [order] := by
    simp [pendingRows, stored, pending, named]
  have answered : listPendingTopups "u1" (plantedOps.foldl (serve .ascii) market) =
      .ok [topupListItem order (some ⟨"b2", some "u2", "active", false⟩)]
        (plantedOps.foldl (serve .ascii) market) := by
    refine (fetch_bind_ok_iff ..).mpr ⟨_, user, ?_⟩
    simp [young, topup, alone, bank]
  obtain ⟨-, system, configured, shown⟩ := own.listed "u1" _ answered _
    (List.mem_singleton_self _)
  have first : systemBank? (plantedOps.foldl (serve .ascii) market) =
      some ⟨"b1", none, "active", true⟩ := rfl
  rw [configured, ← shown] at first
  simp [topupListItem] at first

end ApiBank.Orders.PendingTopups
