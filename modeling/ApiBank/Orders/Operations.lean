import ApiBank.Api.AdminOps
import ApiBank.Api.Orders
import ApiBank.Core.MatchDecision
import ApiBank.Core.Reconcile
import ApiBank.Transition.Run

/-!
# The order system

Every operation that writes an order or a bank transaction, each on a session of
its own, and what one operation can do to the tables. The invariants of the system
are read off the cases of `Change`; no proof above this module looks into an
endpoint again.
-/

namespace ApiBank.Orders.Operations

open ApiBank.Api ApiBank.Billing ApiBank.Core ApiBank.Db ApiBank.Relational ApiBank.Transition
open PaymentNames Ingest Matcher MatchDecision Api.Orders AdminOps

set_option autoImplicit false

inductive Op where
  | createTopup (userId : String) (amountVnd ttlSeconds : Int) (draws : OrderDraws)
  | createOrder (client : ApiClient) (payload : OrderCreate) (draws : OrderDraws)
  | ingest (bankAccountId : String) (bankTransaction : BankTransaction) (draws : IngestDraws)
  | cancel (orderId : String) (now : Int)
  | cancelTopup (userId orderId : String) (now : Int)
  | adminCancel (orderId : String) (now : Int)
  | forceMatch (orderId txId : String) (now : Int)
  | reject (txId : String)
  | matchTx (txId orderId : String) (now : Int)
  | rematch (txId : String) (now : Int)
  | refund (txId note actorEmail : String) (draws : RefundDraws)
  | callback (callback : TelegramCallback) (adminChatId : Option String) (now : Int)
  | expire (now : Int)
  | reconcile (now : Int)

def perform (unicode : UnicodeData) : Op → Session Unit
  | .createTopup userId amountVnd ttlSeconds draws =>
      Effect.discard (createTopup userId amountVnd ttlSeconds draws)
  | .createOrder client payload draws => Effect.discard (createOrderRoute client payload draws)
  | .ingest bankAccountId bankTransaction draws =>
      Effect.discard (ingestTransaction unicode bankAccountId bankTransaction draws)
  | .cancel orderId now => Effect.discard (cancelOrder orderId now)
  | .cancelTopup userId orderId now => cancelPendingTopup userId orderId now
  | .adminCancel orderId now => adminCancelOrder orderId now
  | .forceMatch orderId txId now => adminForceMatchOrder orderId txId now
  | .reject txId => adminRejectTransaction txId
  | .matchTx txId orderId now => adminMatchTransaction txId orderId now
  | .rematch txId now => Effect.discard (adminRematchTransaction unicode txId now)
  | .refund txId note actorEmail draws => adminRefundTransaction txId note actorEmail draws
  | .callback callback adminChatId now => Effect.discard (handleCallback callback adminChatId now)
  | .expire now => Effect.discard (Reconcile.expireOverdueOrders now)
  | .reconcile now => Effect.discard (Reconcile.reconcile now)

/-- One request on a session of its own. -/
def serve (unicode : UnicodeData) (before : Database) (op : Op) : Database :=
  Effect.commit (perform unicode op) before

/-- The accounts, the users and the ledger are as before. -/
structure SameLedger (before after : Database) : Prop where
  users : after.users = before.users
  walletTransactions : after.walletTransactions = before.walletTransactions
  bankAccounts : after.bankAccounts = before.bankAccounts

def RematchFinds (unicode : UnicodeData) (db : Database) (tx : Transaction) (order : Order)
    (now : Int) : Prop :=
  rematchResult unicode db tx now = .matched order.id

/-- What one operation can do. -/
inductive Change (unicode : UnicodeData) (before : Database) : Op → Database → Prop where
  | nothing (op : Op) : Change unicode before op before
  | topupCreated (userId : String) (amountVnd ttlSeconds : Int) (draws : OrderDraws)
      (after : Database) (user : User) (bank : BankAccount) (order : Order)
      (known : before.users.find? userId = some user)
      (bounds : Topup.minTopupVnd ≤ amountVnd ∧ amountVnd ≤ Topup.maxTopupVnd)
      (configured : Topup.systemBank? before = some bank)
      (returned : createTopup userId amountVnd ttlSeconds draws before = .ok order after)
      (allocated : Allocated (newOrder ⟨amountVnd, bank.id, ttlSeconds, some user.email,
        Topup.topupMetadata user.id, some user.id⟩ draws) paymentNames before order after) :
      Change unicode before (.createTopup userId amountVnd ttlSeconds draws) after
  | orderCreated (client : ApiClient) (payload : OrderCreate) (draws : OrderDraws)
      (after : Database) (order : Order)
      (allocated : Allocated (newOrder ⟨payload.amountVnd, payload.bankAccountId,
        payload.ttlSeconds, payload.customerRef, payload.metadata, none⟩ draws) paymentNames
        before order after) :
      Change unicode before (.createOrder client payload draws) after
  | ingested (bankAccountId : String) (bankTransaction : BankTransaction)
      (draws : IngestDraws) (after : Database)
      (ingestion : Ingestion unicode bankAccountId bankTransaction draws before after) :
      Change unicode before (.ingest bankAccountId bankTransaction draws) after
  | canceled (op : Op) (orderId : String) (now : Int) (after : Database) (order : Order)
      (found : before.orders.find? orderId = some order) (pending : order.status = .pending)
      (orders : after.orders = before.orders.modify orderId (Order.setStatus .canceled now)
        (Order.id_setStatus .canceled now))
      (transactions : after.transactions = before.transactions)
      (ledger : SameLedger before after) : Change unicode before op after
  | forceMatched (orderId txId : String) (now : Int) (order : Order) (tx : Transaction)
      (found : before.orders.find? orderId = some order)
      (foundTx : before.transactions.find? txId = some tx)
      (sameBank : tx.bankAccountId = order.bankAccountId) :
      Change unicode before (.forceMatch orderId txId now)
        ((before.modifyOrder order.id (Order.pay tx.id now)
          (Order.id_pay tx.id now)).modifyTransaction tx.id (Transaction.assign order.id)
          (Transaction.id_assign order.id))
  | rejected (txId : String) (tx : Transaction)
      (foundTx : before.transactions.find? txId = some tx) :
      Change unicode before (.reject txId)
        (before.modifyTransaction tx.id Transaction.reject Transaction.id_reject)
  | linked (op : Op) (now : Int) (order : Order) (tx : Transaction)
      (found : before.orders.find? order.id = some order)
      (foundTx : before.transactions.find? tx.id = some tx)
      (sameBank : order.bankAccountId = tx.bankAccountId)
      (cause : op = .matchTx tx.id order.id now ∨
        op = .rematch tx.id now ∧ RematchFinds unicode before tx order now) :
      Change unicode before op (linkTransaction order tx now before)
  | confirmed (data : TelegramCallback) (adminChatId : Option String) (now : Int) (order : Order)
      (found : before.orders.find? order.id = some order) (pending : order.status = .pending)
      (target : partitionColon data.data = ("confirm", order.id))
      (admitted : Admitted data adminChatId) :
      Change unicode before (.callback data adminChatId now)
        (before.modifyOrder order.id (Order.confirm now) (Order.id_confirm now))
  | refunded (txId note actorEmail : String) (draws : RefundDraws) (tx : Transaction)
      (order : Order) (userId : String) (row : WalletTransaction) (credited : Database)
      (foundTx : before.transactions.find? txId = some tx)
      (matched : present tx.matchedOrderId = some order.id)
      (found : before.orders.find? order.id = some order)
      (payee : present order.userId = some userId)
      (refund : Wallet.refund (refundArgs tx userId note actorEmail draws) draws.row before =
        .ok row credited) :
      Change unicode before (.refund txId note actorEmail draws)
        ((credited.modifyTransaction tx.id (.setState .refunded)
          (Transaction.id_setState .refunded)).modifyOrder order.id
            (Order.setStatus .refunded draws.row.now) (Order.id_setStatus .refunded draws.row.now))
  | expired (op : Op) (now : Int) (cause : op = .expire now ∨ op = .reconcile now) :
      Change unicode before op { before with
        orders := before.orders.update (Reconcile.expireIfOverdue now)
          (Reconcile.id_expireIfOverdue now) }

section Inversion

variable {unicode : UnicodeData} {before after : Database}

theorem commit_discard {Value : Type} (work : Session Value) (before : Database) :
    Effect.commit (Effect.discard work) before = Effect.commit work before := by
  unfold Effect.discard Effect.commit
  simp only [bind, EStateM.bind]
  cases work before <;> rfl

theorem change_of_createTopup {userId : String} {amountVnd ttlSeconds : Int}
    {draws : OrderDraws} {order : Order}
    (returned : createTopup userId amountVnd ttlSeconds draws before = .ok order after) :
    Change unicode before (.createTopup userId amountVnd ttlSeconds draws) after := by
  obtain ⟨user, known, rest⟩ := (fetch_bind_ok_iff ..).mp returned
  obtain ⟨lower, upper, bank, configured, allocated⟩ := Topup.createTopupOrder_ok rest
  exact .topupCreated userId amountVnd ttlSeconds draws after user bank order known
    ⟨lower, upper⟩ configured returned allocated

theorem createOrderRoute_ok {client : ApiClient} {payload : OrderCreate} {draws : OrderDraws}
    {order : Order} (returned : createOrderRoute client payload draws before = .ok order after) :
    Allocated (newOrder ⟨payload.amountVnd, payload.bankAccountId, payload.ttlSeconds,
      payload.customerRef, payload.metadata, none⟩ draws) paymentNames before order after := by
  obtain ⟨⟨⟩, first, permitted, later⟩ := (Effect.bind_ok_iff ..).mp returned
  obtain ⟨⟨⟩, second, owned, last⟩ := (Effect.bind_ok_iff ..).mp later
  rw [assertBankAccountOwned_ok owned, requireScope_ok permitted] at last
  split at last
  · rename_i created
    simp only [EStateM.Result.ok.injEq] at last
    obtain ⟨rfl, rfl⟩ := last
    exact allocateOrder_ok created
  · contradiction

theorem change_of_createOrder {client : ApiClient} {payload : OrderCreate} {draws : OrderDraws}
    {order : Order} (returned : createOrderRoute client payload draws before = .ok order after) :
    Change unicode before (.createOrder client payload draws) after :=
  .orderCreated client payload draws after order (createOrderRoute_ok returned)

theorem change_of_cancelOrder (op : Op) {orderId : String} {now : Int} {result : Option Order}
    (returned : cancelOrder orderId now before = .ok result after) :
    Change unicode before op after := by
  unfold cancelOrder at returned
  split at returned
  · cases returned
    exact .nothing op
  · rename_i order found
    split at returned
    · rename_i pending
      cases returned
      exact .canceled op orderId now _ order found pending rfl rfl ⟨rfl, rfl, rfl⟩
    · cases returned
      exact .nothing op

theorem cancelPendingTopup_ok {userId orderId : String} {now : Int}
    (returned : cancelPendingTopup userId orderId now before = .ok () after) :
    ∃ order, before.orders.find? orderId = some order ∧ order.status = .pending ∧
      after = before.modifyOrder orderId (Order.setStatus .canceled now)
        (Order.id_setStatus .canceled now) := by
  obtain ⟨user, -, rest⟩ := (fetch_bind_ok_iff ..).mp returned
  obtain ⟨order, found, rest⟩ := (fetch_bind_ok_iff ..).mp rest
  split at rest
  · simp at rest
  · split at rest
    · simp at rest
    · split at rest
      · simp at rest
      · rename_i pending
        simp only [assign_apply, EStateM.Result.ok.injEq, true_and] at rest
        exact ⟨order, found, not_not.mp pending, rest.symm⟩

theorem change_of_cancelPendingTopup (op : Op) {userId orderId : String} {now : Int}
    (returned : cancelPendingTopup userId orderId now before = .ok () after) :
    Change unicode before op after := by
  obtain ⟨order, found, pending, rfl⟩ := cancelPendingTopup_ok returned
  exact .canceled op orderId now _ order found pending rfl rfl ⟨rfl, rfl, rfl⟩

theorem change_of_adminCancel (op : Op) {orderId : String} {now : Int}
    (returned : adminCancelOrder orderId now before = .ok () after) :
    Change unicode before op after := by
  obtain ⟨order, found, rest⟩ := (fetch_bind_ok_iff ..).mp returned
  split at rest
  · simp at rest
  · rename_i pending
    simp only [assign_apply, EStateM.Result.ok.injEq, true_and] at rest
    subst rest
    exact .canceled op orderId now _ order found (not_not.mp pending) rfl rfl ⟨rfl, rfl, rfl⟩

theorem change_of_forceMatch {orderId txId : String} {now : Int}
    (returned : adminForceMatchOrder orderId txId now before = .ok () after) :
    Change unicode before (.forceMatch orderId txId now) after := by
  obtain ⟨order, found, rest⟩ := (fetch_bind_ok_iff ..).mp returned
  obtain ⟨tx, foundTx, rest⟩ := (fetch_bind_ok_iff ..).mp rest
  split at rest
  · simp at rest
  · rename_i sameBank
    simp only [assign_apply, EStateM.Result.ok.injEq, true_and] at rest
    subst rest
    exact .forceMatched orderId txId now order tx found foundTx (not_not.mp sameBank)

theorem change_of_reject {txId : String}
    (returned : adminRejectTransaction txId before = .ok () after) :
    Change unicode before (.reject txId) after := by
  obtain ⟨tx, found, rest⟩ := (fetch_bind_ok_iff ..).mp returned
  simp only [assign_apply, EStateM.Result.ok.injEq, true_and] at rest
  subst rest
  exact .rejected txId tx found

theorem change_of_match {txId orderId : String} {now : Int}
    (returned : adminMatchTransaction txId orderId now before = .ok () after) :
    Change unicode before (.matchTx txId orderId now) after := by
  obtain ⟨tx, foundTx, rest⟩ := (fetch_bind_ok_iff ..).mp returned
  obtain ⟨order, found, rest⟩ := (fetch_bind_ok_iff ..).mp rest
  split at rest
  · simp at rest
  · rename_i sameBank
    simp only [assign_apply, EStateM.Result.ok.injEq, true_and] at rest
    subst rest
    obtain rfl := Table.key_of_find? found
    obtain rfl := Table.key_of_find? foundTx
    exact .linked _ now order tx found foundTx (not_not.mp sameBank) (.inl rfl)

theorem rematch_matched {tx : Transaction} {now : Int} {orderId : String}
    (matched : rematchResult unicode before tx now = .matched orderId) :
    ∃ order, before.orders.find? orderId = some order ∧ order.id = orderId ∧
      order.bankAccountId = tx.bankAccountId ∧ order.status = .pending := by
  unfold rematchResult at matched
  rw [findOrderMatch_map, verdict_eq_matched_iff, List.map_eq_singleton_iff] at matched
  obtain ⟨order, unique, rfl⟩ := matched
  have fitting := List.mem_singleton_self order
  rw [← unique] at fitting
  have candidate := List.mem_of_mem_filter fitting
  simp only [rematchCandidates, List.mem_filter, Bool.and_eq_true, decide_eq_true_eq] at candidate
  exact ⟨order, Table.find?_of_mem candidate.1, rfl, candidate.2⟩

theorem change_of_rematch {txId : String} {now : Int} {message : String}
    (returned : adminRematchTransaction unicode txId now before = .ok message after) :
    Change unicode before (.rematch txId now) after := by
  obtain ⟨tx, foundTx, rest⟩ := (fetch_bind_ok_iff ..).mp returned
  simp only [bind, EStateM.bind, Effect.get_apply] at rest
  obtain rfl := Table.key_of_find? foundTx
  cases result : rematchResult unicode before tx now with
  | matched orderId =>
      obtain ⟨order, found, rfl, sameBank, -⟩ := rematch_matched result
      simp only [result, found, assign_apply, EStateM.bind, Effect.pure_apply,
        EStateM.Result.ok.injEq] at rest
      obtain ⟨-, rfl⟩ := rest
      exact .linked _ now order tx found foundTx sameBank (.inr ⟨rfl, result⟩)
  | unmatched =>
      simp only [result, Effect.pure_apply, EStateM.Result.ok.injEq] at rest
      obtain ⟨-, rfl⟩ := rest
      exact .nothing _
  | ambiguous =>
      simp only [result, Effect.pure_apply, EStateM.Result.ok.injEq] at rest
      obtain ⟨-, rfl⟩ := rest
      exact .nothing _

theorem change_of_refund {txId note actorEmail : String} {draws : RefundDraws}
    (returned : adminRefundTransaction txId note actorEmail draws before = .ok () after) :
    Change unicode before (.refund txId note actorEmail draws) after := by
  obtain ⟨tx, order, userId, row, credited, foundTx, matched, found, payee, refund, rfl⟩ :=
    adminRefundTransaction_ok returned
  exact .refunded txId note actorEmail draws tx order userId row credited foundTx matched found
    payee refund

theorem change_of_callback {data : TelegramCallback} {adminChatId : Option String} {now : Int}
    {answer : Option String} (returned : handleCallback data adminChatId now before =
      .ok answer after) :
    Change unicode before (.callback data adminChatId now) after := by
  unfold handleCallback at returned
  split at returned
  · cases returned
    exact .nothing _
  · rename_i carried
    split at returned
    · cases returned
      exact .nothing _
    · rename_i chat
      have admitted : Admitted data adminChatId := by
        simp only [not_or, not_not] at carried chat
        exact ⟨carried.1, carried.2, chat.2.1, chat.2.2⟩
      dsimp only at returned
      split at returned
      · cases returned
        exact .nothing _
      · split at returned
        · cases returned
          exact .nothing _
        · rename_i order found
          have named := Table.key_of_find? found
          split at returned
          · rename_i action
            simp only [EStateM.Result.ok.injEq] at returned
            obtain ⟨-, rfl⟩ := returned
            split
            · rename_i pending
              rw [← named] at found ⊢
              exact .confirmed data adminChatId now order found pending
                (Prod.ext action named.symm) admitted
            · exact .nothing _
          · split at returned
            · simp only [EStateM.Result.ok.injEq] at returned
              obtain ⟨-, rfl⟩ := returned
              split
              · rename_i pending
                exact .canceled _ _ now _ order found pending rfl rfl ⟨rfl, rfl, rfl⟩
              · exact .nothing _
            · cases returned
              exact .nothing _

theorem change_of_perform {op : Op} (returned : perform unicode op before = .ok () after) :
    Change unicode before op after := by
  cases op with
  | createTopup userId amountVnd ttlSeconds draws =>
      obtain ⟨order, ran⟩ := Effect.discard_ok returned
      exact change_of_createTopup ran
  | createOrder client payload draws =>
      obtain ⟨order, ran⟩ := Effect.discard_ok returned
      exact change_of_createOrder ran
  | ingest bankAccountId bankTransaction draws =>
      obtain ⟨ingested, ran⟩ := Effect.discard_ok returned
      exact .ingested bankAccountId bankTransaction draws after (ingestTransaction_ok ran)
  | cancel orderId now =>
      obtain ⟨result, ran⟩ := Effect.discard_ok returned
      exact change_of_cancelOrder _ ran
  | cancelTopup userId orderId now => exact change_of_cancelPendingTopup _ returned
  | adminCancel orderId now => exact change_of_adminCancel _ returned
  | forceMatch orderId txId now => exact change_of_forceMatch returned
  | reject txId => exact change_of_reject returned
  | matchTx txId orderId now => exact change_of_match returned
  | rematch txId now =>
      obtain ⟨message, ran⟩ := Effect.discard_ok returned
      exact change_of_rematch ran
  | refund txId note actorEmail draws => exact change_of_refund returned
  | callback data adminChatId now =>
      obtain ⟨answer, ran⟩ := Effect.discard_ok returned
      exact change_of_callback ran
  | expire now =>
      obtain ⟨count, ran⟩ := Effect.discard_ok returned
      cases ran
      exact .expired _ now (.inl rfl)
  | reconcile now =>
      obtain ⟨report, ran⟩ := Effect.discard_ok returned
      cases ran
      exact .expired _ now (.inr rfl)

theorem orders_of_ingestion {bankAccountId : String} {bankTransaction : BankTransaction}
    {draws : IngestDraws}
    (ingestion : Ingestion unicode bankAccountId bankTransaction draws before after) :
    after.orders = before.orders ∨ ∃ order, fittingOrders unicode before
        (newTransaction bankAccountId bankTransaction draws) draws.now = [order] ∧
      after.orders = before.orders.modify order.id (Order.pay draws.txId draws.now)
        (Order.id_pay draws.txId draws.now) := by
  cases ingestion with
  | known existing stored => exact .inl rfl
  | outgoing entered entry negative => exact .inl (orders_entered entry)
  | unmatched entered entry positive none => exact .inl (by simp [orders_entered entry])
  | ambiguous entered entry positive several => exact .inl (by simp [orders_entered entry])
  | matched entered entry positive order unique webhookAttempts enqueued =>
      refine .inr ⟨order, unique, ?_⟩
      rw [orders_afterMatch, orders_entered entry]
      rfl

/-- A request changes the tables in one of the listed ways. -/
theorem change_of_serve (unicode : UnicodeData) (before : Database) (op : Op) :
    Change unicode before op (serve unicode before op) := by
  unfold serve
  cases ran : perform unicode op before with
  | ok value after =>
      rw [Effect.commit_of_ok ran]
      exact change_of_perform ran
  | error failure after =>
      rw [Effect.commit_of_error ran]
      exact .nothing op

/-- The columns of an order that are written once, at its creation. -/
structure SameTerms (row order : Order) : Prop where
  id : row.id = order.id
  code : row.code = order.code
  transferContent : row.transferContent = order.transferContent
  amountVnd : row.amountVnd = order.amountVnd
  bankAccountId : row.bankAccountId = order.bankAccountId
  userId : row.userId = order.userId
  expiredAt : row.expiredAt = order.expiredAt
  customerRef : row.customerRef = order.customerRef
  metadataJson : row.metadataJson = order.metadataJson
  createdAt : row.createdAt = order.createdAt

theorem SameTerms.refl (order : Order) : SameTerms order order :=
  ⟨rfl, rfl, rfl, rfl, rfl, rfl, rfl, rfl, rfl, rfl⟩

theorem sameTerms_pay (txId : String) (now : Int) (order : Order) :
    SameTerms (order.pay txId now) order := { SameTerms.refl order with }

theorem sameTerms_confirm (now : Int) (order : Order) : SameTerms (order.confirm now) order :=
  { SameTerms.refl order with }

theorem sameTerms_setStatus (status : OrderStatus) (now : Int) (order : Order) :
    SameTerms (order.setStatus status now) order := { SameTerms.refl order with }

theorem sameTerms_expire (now : Int) (order : Order) :
    SameTerms (Reconcile.expireIfOverdue now order) order := by
  rcases Reconcile.expireIfOverdue_cases now order with ⟨-, expires⟩ | same
  · rw [expires]
    exact sameTerms_setStatus .expired now order
  · rw [same]
    exact .refl order

def RewritesOrders (before after : Database) : Prop :=
  ∃ rewrite keeps, after.orders = before.orders.update rewrite keeps ∧
    ∀ order, SameTerms (rewrite order) order

theorem rewrites_of_same (same : after.orders = before.orders) : RewritesOrders before after :=
  ⟨id, fun _ => rfl, same.trans (Table.ext_rows (List.map_id _).symm), SameTerms.refl⟩

theorem rewrites_of_modify {orderId : String} {change : Order → Order}
    (keeps : ∀ order, (change order).id = order.id)
    (changed : after.orders = before.orders.modify orderId change keeps)
    (same : ∀ order, SameTerms (change order) order) : RewritesOrders before after := by
  refine ⟨_, _, changed, ?_⟩
  intro order
  split
  · exact same order
  · exact .refl order

/-- The operation creates the order: a client's for nobody, or a top-up of a known
user on the system account. -/
inductive Creates (before : Database) (order : Order) : Op → Database → Prop where
  | topup (userId : String) (amountVnd ttlSeconds : Int) (draws : OrderDraws) (after : Database)
      (bank : BankAccount) (configured : Topup.systemBank? before = some bank)
      (returned : createTopup userId amountVnd ttlSeconds draws before = .ok order after)
      (payer : order.userId = some userId)
      (metadata : order.metadataJson = Topup.topupMetadata userId)
      (account : order.bankAccountId = bank.id) :
      Creates before order (.createTopup userId amountVnd ttlSeconds draws) after
  | client (client : ApiClient) (payload : OrderCreate) (draws : OrderDraws) (after : Database)
      (payer : order.userId = none) : Creates before order (.createOrder client payload draws) after

/-- An operation creates one order or rewrites columns beside the terms. -/
theorem orders_of_change {op : Op} (change : Change unicode before op after) :
    RewritesOrders before after ∨ ∃ order, before.orders.insert? order = some after.orders ∧
      SameLedger before after ∧ Creates before order op after := by
  cases change with
  | nothing op => exact .inl (rewrites_of_same rfl)
  | topupCreated userId amountVnd ttlSeconds draws after user bank order known bounds configured
      returned allocated =>
      have fresh := fresh_of_allocated allocated
      obtain rfl := Table.key_of_find? known
      refine .inr ⟨order, allocated.inserted, ?_, .topup _ amountVnd ttlSeconds draws after bank
        configured returned fresh.userId fresh.metadataJson fresh.bankAccountId⟩
      rw [allocated.frame]
      exact ⟨rfl, rfl, rfl⟩
  | orderCreated client payload draws after order allocated =>
      have fresh := fresh_of_allocated allocated
      refine .inr ⟨order, allocated.inserted, ?_, .client client payload draws after fresh.userId⟩
      rw [allocated.frame]
      exact ⟨rfl, rfl, rfl⟩
  | ingested bankAccountId bankTransaction draws after ingestion =>
      rcases orders_of_ingestion ingestion with same | ⟨order, -, paid⟩
      · exact .inl (rewrites_of_same same)
      · exact .inl (rewrites_of_modify _ paid (sameTerms_pay draws.txId draws.now))
  | canceled op orderId now after order found pending orders transactions ledger =>
      exact .inl (rewrites_of_modify _ orders (sameTerms_setStatus .canceled now))
  | forceMatched orderId txId now order tx found foundTx sameBank =>
      exact .inl (rewrites_of_modify (Order.id_pay tx.id now) rfl (sameTerms_pay tx.id now))
  | rejected txId tx foundTx => exact .inl (rewrites_of_same rfl)
  | linked op now order tx found foundTx sameBank cause =>
      unfold linkTransaction
      split
      · exact .inl (rewrites_of_modify (Order.id_pay tx.id now) rfl (sameTerms_pay tx.id now))
      · exact .inl (rewrites_of_same rfl)
  | confirmed data adminChatId now order found pending target admitted =>
      exact .inl (rewrites_of_modify (Order.id_confirm now) rfl (sameTerms_confirm now))
  | refunded txId note actorEmail draws tx order userId row credited foundTx matched found payee
      refund =>
      have orders : credited.orders = before.orders := by rw [Wallet.perform_frame refund]
      have changed : (credited.orders.modify order.id (Order.setStatus .refunded draws.row.now)
          (Order.id_setStatus .refunded draws.row.now)) = before.orders.modify order.id
            (Order.setStatus .refunded draws.row.now)
            (Order.id_setStatus .refunded draws.row.now) := by rw [orders]
      exact .inl (rewrites_of_modify _ changed (sameTerms_setStatus .refunded draws.row.now))
  | expired op now cause =>
      exact .inl ⟨_, Reconcile.id_expireIfOverdue now, rfl, sameTerms_expire now⟩

end Inversion

def shop : Database := { Database.empty with
  users := ⟨[⟨"u1", "a@example.com", 0⟩], by decide⟩
  bankAccounts := ⟨[⟨"b1", none, "active", true⟩], by decide⟩ }

def inPoolOrder : Shuffle where
  order := id
  perm := fun _ => .refl _

def orderDraws (id codeHex : String) (now : Int) : OrderDraws :=
  ⟨id, codeHex, "LE VAN AN chuyen tien", inPoolOrder, now⟩

def ingestDraws (txId : String) (now : Int) : IngestDraws := ⟨txId, "w1", id, now, false⟩

/-- The transfer that a top-up of `o1` asks for. -/
def topupTransfer : BankTransaction := { transfer with
  postedAt := .utc 1
  amount := 50000
  content := "NGUYEN VAN DAT chuyen tien"
  nonzero := by decide }

/-- The same money with a text that no order expects. -/
def strayTransfer : BankTransaction := { topupTransfer with content := "hoan tien" }

def topupOps : List Op := [
  .createTopup "u1" 50000 Topup.topupTtlSeconds (orderDraws "o1" "AA" 0),
  .ingest "b1" topupTransfer (ingestDraws "t1" 1)]

end ApiBank.Orders.Operations
