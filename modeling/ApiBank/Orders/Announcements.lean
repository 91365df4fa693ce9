import ApiBank.Api.Rematch
import ApiBank.Orders.Operations

/-!
# Payments and their webhook attempts

An ingestion enqueues one attempt for each active webhook in the commit that makes an
order paid. The other writers of `paid`, the three admin requests and the Telegram
confirmation, enqueue none, so a payment of theirs is announced only when nobody
listens.
-/

namespace ApiBank.Orders.Announcements

open ApiBank.Api ApiBank.Core ApiBank.Db ApiBank.Relational ApiBank.Transition
open AdminOps Api.Orders Ingest MatchDecision Matcher Operations PaymentNames Rematch

set_option autoImplicit false

def TurnsPaid (before after : Database) (orderId : String) : Prop :=
  (∃ row, after.orders.find? orderId = some row ∧ row.status = .paid) ∧
    ∀ order, before.orders.find? orderId = some order → order.status ≠ .paid

/-- The attempts that the commit adds. -/
def created (before after : Database) : List WebhookAttempt :=
  after.webhookAttempts.rows.filter fun row => (before.webhookAttempts.find? row.id).isNone

/-- A commit adds one attempt for each order that turns paid and each webhook active
at that time, and no other. -/
structure Announced (before after : Database) : Prop where
  complete : ∀ orderId, TurnsPaid before after orderId →
    ∀ webhook ∈ before.webhooks.rows, webhook.active = true →
      ∃ attempt, (created before after).filter (fun row =>
          row.orderId = orderId && row.webhookId = webhook.id) = [attempt] ∧
        attempt.status = "pending" ∧ attempt.attempt = 0
  sound : ∀ attempt ∈ created before after, TurnsPaid before after attempt.orderId ∧
    ∃ webhook, before.webhooks.find? attempt.webhookId = some webhook ∧ webhook.active = true

/-- The requests, and between them whatever the owners do to their webhooks and the
dispatcher to the attempts. -/
inductive Event where
  | request (op : Op)
  | outbox (webhooks : Table Webhook.id) (webhookAttempts : Table WebhookAttempt.id)

def next (unicode : UnicodeData) (db : Database) : Event → Database
  | .request op => serve unicode db op
  | .outbox webhooks webhookAttempts => { db with webhooks, webhookAttempts }

def CommitAnnounced (unicode : UnicodeData) (db : Database) : Event → Prop
  | .request op => Announced db (serve unicode db op)
  | .outbox _ _ => True

/-- The request makes an order paid without an ingestion. -/
def PaysByHand (unicode : UnicodeData) (db : Database) : Op → Prop
  | .forceMatch orderId txId _ => ∃ order tx, db.orders.find? orderId = some order ∧
      db.transactions.find? txId = some tx ∧ tx.bankAccountId = order.bankAccountId ∧
        order.status ≠ .paid
  | .matchTx txId orderId _ => ∃ order tx, db.orders.find? orderId = some order ∧
      db.transactions.find? txId = some tx ∧ order.bankAccountId = tx.bankAccountId ∧
        order.status = .pending
  | .rematch txId now => ∃ order tx, db.transactions.find? txId = some tx ∧
      OnlyCoded unicode now tx db order
  | .callback data adminChatId _ => Admitted data adminChatId ∧ ∃ order, order.id ≠ "" ∧
      partitionColon data.data = ("confirm", order.id) ∧
        db.orders.find? order.id = some order ∧ order.status = .pending
  | _ => False

def NobodyListens (unicode : UnicodeData) (db : Database) : Event → Prop
  | .request op => PaysByHand unicode db op →
      ∀ webhook ∈ db.webhooks.rows, webhook.active = false
  | .outbox _ _ => True

variable {unicode : UnicodeData} {before after : Database}

section Payments

theorem not_turnsPaid_of_same (same : after.orders = before.orders) (orderId : String) :
    ¬TurnsPaid before after orderId := by
  rintro ⟨⟨row, found, paid⟩, unpaid⟩
  exact unpaid row (same ▸ found) paid

theorem turnsPaid_modify_iff {target orderId : String} {change : Order → Order}
    (keeps : ∀ order, (change order).id = order.id) {order : Order}
    (changed : after.orders = before.orders.modify target change keeps)
    (found : before.orders.find? target = some order) :
    TurnsPaid before after orderId ↔
      orderId = target ∧ (change order).status = .paid ∧ order.status ≠ .paid := by
  unfold TurnsPaid
  rw [changed, Table.find?_modify]
  by_cases same : orderId = target
  · subst same
    simp [found]
  · rw [if_neg same]
    constructor
    · rintro ⟨⟨row, foundRow, paid⟩, unpaid⟩
      exact absurd paid (unpaid row foundRow)
    · rintro ⟨rfl, -⟩
      exact absurd rfl same

theorem not_turnsPaid_of_insert {order : Order}
    (inserted : before.orders.insert? order = some after.orders)
    (pending : order.status = .pending) (orderId : String) :
    ¬TurnsPaid before after orderId := by
  rintro ⟨⟨row, found, paid⟩, unpaid⟩
  rw [Table.find?_insert? inserted] at found
  split at found
  · cases found
    rw [pending] at paid
    contradiction
  · exact unpaid row found paid

theorem not_turnsPaid_of_expiry (now : Int) (orderId : String) :
    ¬TurnsPaid before { before with
      orders := before.orders.update (Reconcile.expireIfOverdue now)
        (Reconcile.id_expireIfOverdue now) } orderId := by
  rintro ⟨⟨row, found, paid⟩, unpaid⟩
  rw [Table.find?_update, Option.map_eq_some_iff] at found
  obtain ⟨order, stored, rfl⟩ := found
  rcases Reconcile.expireIfOverdue_cases now order with ⟨-, expires⟩ | same
  · rw [expires] at paid
    contradiction
  · rw [same] at paid
    exact unpaid order stored paid

theorem paysByHand_of_change {op : Op} {orderId : String}
    (change : Change unicode before op after)
    (requested : ∀ bankAccountId bankTransaction draws,
      op ≠ .ingest bankAccountId bankTransaction draws)
    (reached : after = serve unicode before op) (turns : TurnsPaid before after orderId) :
    PaysByHand unicode before op := by
  cases change with
  | nothing op => exact absurd turns (not_turnsPaid_of_same rfl orderId)
  | topupCreated userId amountVnd ttlSeconds draws after user bank order known bounds configured
      returned allocated =>
      have status := (fresh_of_allocated allocated).status
      exact absurd turns (not_turnsPaid_of_insert allocated.inserted status orderId)
  | orderCreated client payload draws after order allocated =>
      have status := (fresh_of_allocated allocated).status
      exact absurd turns (not_turnsPaid_of_insert allocated.inserted status orderId)
  | ingested bankAccountId bankTransaction draws after ingestion =>
      exact absurd rfl (requested bankAccountId bankTransaction draws)
  | canceled op target now after order found pending orders transactions ledger =>
      have paid := ((turnsPaid_modify_iff _ orders found).mp turns).2.1
      contradiction
  | forceMatched target txId now order tx found foundTx sameBank =>
      obtain rfl := Table.key_of_find? found
      have unpaid := ((turnsPaid_modify_iff (Order.id_pay tx.id now) rfl found).mp turns).2.2
      exact ⟨order, tx, found, foundTx, sameBank, unpaid⟩
  | rejected txId tx foundTx => exact absurd turns (not_turnsPaid_of_same rfl orderId)
  | linked op now order tx found foundTx sameBank cause =>
      unfold linkTransaction at turns
      split at turns
      · rename_i pending
        rcases cause with rfl | ⟨rfl, finds⟩
        · exact ⟨order, tx, found, foundTx, sameBank, pending⟩
        · refine ⟨order, tx, foundTx, ?_⟩
          rw [RematchFinds, rematchResult_eq, verdict_eq_matched_iff,
            List.map_eq_singleton_iff] at finds
          obtain ⟨other, unique, same⟩ := finds
          have sole := codedOrders_eq_singleton_iff.mp unique
          rw [before.orders.eq_of_key_eq (Table.mem_of_find? found) sole.stored same.symm]
          exact sole
      · exact absurd turns (not_turnsPaid_of_same rfl orderId)
  | confirmed data adminChatId now order found pending target admitted =>
      refine ⟨admitted, order, ?_, target, found, pending⟩
      -- a callback without a target is answered before the order is looked up
      rintro empty
      have ignored : serve unicode before (.callback data adminChatId now) = before := by
        obtain ⟨carriesId, carriesData, chatNamed, rfl⟩ := admitted
        have chat : data.chatId ≠ "" := by simpa using chatNamed
        have answered : handleCallback data (some data.chatId) now before =
            .ok (some "Dữ liệu không hợp lệ.") before := by
          simp [handleCallback, carriesId, carriesData, chat, target, empty]
        rw [serve, perform, commit_discard, Effect.commit_of_ok answered]
      rw [ignored] at reached
      exact not_turnsPaid_of_same (congrArg Database.orders reached) orderId turns
  | refunded txId note actorEmail draws tx order userId row credited foundTx matched found payee
      refund =>
      have orders : credited.orders = before.orders := by rw [Billing.Wallet.perform_frame refund]
      have changed : (credited.orders.modify order.id (Order.setStatus .refunded draws.row.now)
          (Order.id_setStatus .refunded draws.row.now)) = before.orders.modify order.id
            (Order.setStatus .refunded draws.row.now)
            (Order.id_setStatus .refunded draws.row.now) := by rw [orders]
      have paid := ((turnsPaid_modify_iff _ changed found).mp turns).2.1
      contradiction
  | expired op now cause => exact absurd turns (not_turnsPaid_of_expiry now orderId)

theorem turnsPaid_of_paysByHand {op : Op} (pays : PaysByHand unicode before op) :
    ∃ orderId, TurnsPaid before (serve unicode before op) orderId := by
  cases op with
  | forceMatch orderId txId now =>
      obtain ⟨order, tx, found, foundTx, sameBank, unpaid⟩ := pays
      obtain rfl := Table.key_of_find? found
      have served : (serve unicode before (.forceMatch order.id txId now)).orders =
          before.orders.modify order.id (Order.pay tx.id now) (Order.id_pay tx.id now) := by
        simp [serve, perform, adminForceMatchOrder, getOrder, getTransaction, fetch, bind,
          EStateM.bind, found, foundTx, sameBank, Effect.commit, Database.modifyOrder]
      exact ⟨order.id, (turnsPaid_modify_iff _ served found).mpr ⟨rfl, rfl, unpaid⟩⟩
  | matchTx txId orderId now =>
      obtain ⟨order, tx, found, foundTx, sameBank, pending⟩ := pays
      obtain rfl := Table.key_of_find? found
      have served : (serve unicode before (.matchTx txId order.id now)).orders =
          before.orders.modify order.id (Order.pay tx.id now) (Order.id_pay tx.id now) := by
        simp [serve, perform, adminMatchTransaction, getOrder, getTransaction, fetch, bind,
          EStateM.bind, found, foundTx, sameBank, Effect.commit, linkTransaction_pending pending,
          Database.modifyOrder]
      exact ⟨order.id,
        (turnsPaid_modify_iff _ served found).mpr ⟨rfl, rfl, by simp [pending]⟩⟩
  | rematch txId now =>
      obtain ⟨order, tx, foundTx, sole⟩ := pays
      obtain rfl := Table.key_of_find? foundTx
      obtain ⟨message, returned⟩ := rematch_of_only foundTx sole
      have pending := sole.coded.pending
      have served : (serve unicode before (.rematch tx.id now)).orders =
          before.orders.modify order.id (Order.pay tx.id now) (Order.id_pay tx.id now) := by
        rw [serve, perform, commit_discard, Effect.commit_of_ok returned,
          linkTransaction_pending pending]
        rfl
      exact ⟨order.id, (turnsPaid_modify_iff _ served (Table.find?_of_mem sole.stored)).mpr
        ⟨rfl, rfl, by simp [pending]⟩⟩
  | callback data adminChatId now =>
      obtain ⟨admitted, order, named, target, found, pending⟩ := pays
      obtain ⟨carriesId, carriesData, chatNamed, rfl⟩ := admitted
      have chat : data.chatId ≠ "" := by simpa using chatNamed
      have served : (serve unicode before (.callback data (some data.chatId) now)).orders =
          before.orders.modify order.id (Order.confirm now) (Order.id_confirm now) := by
        rw [serve, perform, commit_discard]
        simp [Effect.commit, handleCallback, carriesId, carriesData, chat, target, named, found,
          pending, Database.modifyOrder]
      exact ⟨order.id,
        (turnsPaid_modify_iff _ served found).mpr ⟨rfl, rfl, by simp [pending]⟩⟩
  | _ => exact absurd pays id

end Payments

section Outbox

theorem created_of_same (same : after.webhookAttempts = before.webhookAttempts) :
    created before after = [] := by
  unfold created
  rw [same]
  apply List.filter_eq_nil_iff.mpr
  intro row member
  rw [Table.find?_of_mem member]
  simp

/-- A commit that adds no attempt is as claimed when nothing turned paid or nobody
listens. -/
theorem announced_iff_of_same (same : after.webhookAttempts = before.webhookAttempts) :
    Announced before after ↔ ((∃ orderId, TurnsPaid before after orderId) →
      ∀ webhook ∈ before.webhooks.rows, webhook.active = false) := by
  have none := created_of_same same
  constructor
  · rintro announced ⟨orderId, turns⟩ webhook member
    by_contra active
    obtain ⟨attempt, unique, -⟩ :=
      announced.complete orderId turns webhook member (by simpa using active)
    rw [none] at unique
    cases unique
  · intro quiet
    refine ⟨?_, by simp [none]⟩
    intro orderId turns webhook member active
    rw [quiet ⟨orderId, turns⟩ webhook member] at active
    contradiction

theorem announced_of_quiet (orders : after.orders = before.orders)
    (attempts : after.webhookAttempts = before.webhookAttempts) : Announced before after := by
  apply (announced_iff_of_same attempts).mpr
  rintro ⟨orderId, turns⟩
  exact absurd turns (not_turnsPaid_of_same orders orderId)

theorem keeps_assign {change : Database → Database}
    (same : ∀ db, (change db).webhookAttempts = db.webhookAttempts) :
    Effect.Keeps Database.webhookAttempts (assign change) := by
  intro before value after returned
  cases returned
  exact same before

theorem keeps_fetch {Row : Type} (select : Database → Option Row) (missing : Error) :
    Effect.Keeps Database.webhookAttempts (fetch select missing) := by
  intro before row after returned
  rw [((fetch_ok_iff ..).mp returned).2]

theorem keeps_createTopup (userId : String) (amountVnd ttlSeconds : Int) (draws : OrderDraws) :
    Effect.Keeps Database.webhookAttempts (createTopup userId amountVnd ttlSeconds draws) := by
  intro before order after returned
  obtain ⟨user, -, rest⟩ := (fetch_bind_ok_iff ..).mp returned
  obtain ⟨-, -, bank, -, allocated⟩ := Billing.Topup.createTopupOrder_ok rest
  rw [allocated.frame]

theorem keeps_createOrder (client : ApiClient) (payload : OrderCreate) (draws : OrderDraws) :
    Effect.Keeps Database.webhookAttempts (createOrderRoute client payload draws) := by
  refine Effect.keeps_bind ?_ fun _ => Effect.keeps_bind ?_ fun _ => ?_
  · intro before value after permitted
    rw [requireScope_ok permitted]
  · intro before value after owned
    rw [assertBankAccountOwned_ok owned]
  · intro before order after returned
    dsimp only at returned
    split at returned
    · rename_i created
      cases returned
      rw [(allocateOrder_ok created).frame]
    · cases returned

theorem keeps_cancelOrder (orderId : String) (now : Int) :
    Effect.Keeps Database.webhookAttempts (cancelOrder orderId now) := by
  intro before result after returned
  unfold cancelOrder at returned
  repeat' split at returned
  all_goals
    cases returned
    rfl

theorem keeps_cancelTopup (userId orderId : String) (now : Int) :
    Effect.Keeps Database.webhookAttempts (cancelPendingTopup userId orderId now) := by
  intro before value after returned
  obtain ⟨order, -, -, rfl⟩ := cancelPendingTopup_ok returned
  rfl

theorem keeps_adminCancel (orderId : String) (now : Int) :
    Effect.Keeps Database.webhookAttempts (adminCancelOrder orderId now) :=
  Effect.keeps_bind (keeps_fetch _ _) fun _ =>
    Effect.keeps_ite (Effect.keeps_throw _) (keeps_assign fun _ => rfl)

theorem keeps_forceMatch (orderId txId : String) (now : Int) :
    Effect.Keeps Database.webhookAttempts (adminForceMatchOrder orderId txId now) :=
  Effect.keeps_bind (keeps_fetch _ _) fun _ => Effect.keeps_bind (keeps_fetch _ _) fun _ =>
    Effect.keeps_ite (Effect.keeps_throw _) (keeps_assign fun _ => rfl)

theorem attempts_linkTransaction (order : Order) (tx : Transaction) (now : Int) (db : Database) :
    (linkTransaction order tx now db).webhookAttempts = db.webhookAttempts := by
  unfold linkTransaction
  split <;> rfl

theorem keeps_match (txId orderId : String) (now : Int) :
    Effect.Keeps Database.webhookAttempts (adminMatchTransaction txId orderId now) :=
  Effect.keeps_bind (keeps_fetch _ _) fun _ => Effect.keeps_bind (keeps_fetch _ _) fun _ =>
    Effect.keeps_ite (Effect.keeps_throw _) (keeps_assign (attempts_linkTransaction _ _ _))

theorem keeps_rematch (txId : String) (now : Int) :
    Effect.Keeps Database.webhookAttempts (adminRematchTransaction unicode txId now) := by
  refine Effect.keeps_bind (keeps_fetch _ _) fun tx => ?_
  refine Effect.keeps_bind Effect.keeps_get fun db => ?_
  split
  · split
    · exact Effect.keeps_bind (keeps_assign (attempts_linkTransaction _ _ _))
        fun _ => Effect.keeps_pure _
    · exact Effect.keeps_pure _
  · exact Effect.keeps_pure _

theorem keeps_refund (txId note actorEmail : String) (draws : RefundDraws) :
    Effect.Keeps Database.webhookAttempts (adminRefundTransaction txId note actorEmail draws) := by
  refine Effect.keeps_bind (keeps_fetch _ _) fun tx => ?_
  split
  · exact Effect.keeps_throw _
  · refine Effect.keeps_bind (keeps_fetch _ _) fun order => ?_
    split
    · exact Effect.keeps_throw _
    · refine Effect.keeps_bind ?_ fun _ => keeps_assign fun _ => rfl
      intro before row after refunded
      rw [Billing.Wallet.perform_frame refunded]

theorem keeps_callback (data : TelegramCallback) (adminChatId : Option String) (now : Int) :
    Effect.Keeps Database.webhookAttempts (handleCallback data adminChatId now) := by
  intro before answer after returned
  unfold handleCallback at returned
  dsimp only at returned
  repeat' split at returned
  all_goals
    cases returned
    rfl

theorem keeps_perform {op : Op} (requested : ∀ bankAccountId bankTransaction draws,
    op ≠ .ingest bankAccountId bankTransaction draws) :
    Effect.Keeps Database.webhookAttempts (perform unicode op) := by
  cases op with
  | createTopup userId amountVnd ttlSeconds draws =>
      exact Effect.keeps_discard (keeps_createTopup userId amountVnd ttlSeconds draws)
  | createOrder client payload draws =>
      exact Effect.keeps_discard (keeps_createOrder client payload draws)
  | ingest bankAccountId bankTransaction draws =>
      exact absurd rfl (requested bankAccountId bankTransaction draws)
  | cancel orderId now => exact Effect.keeps_discard (keeps_cancelOrder orderId now)
  | cancelTopup userId orderId now => exact keeps_cancelTopup userId orderId now
  | adminCancel orderId now => exact keeps_adminCancel orderId now
  | forceMatch orderId txId now => exact keeps_forceMatch orderId txId now
  | reject txId =>
      exact Effect.keeps_bind (keeps_fetch _ _) fun _ => keeps_assign fun _ => rfl
  | matchTx txId orderId now => exact keeps_match txId orderId now
  | rematch txId now => exact Effect.keeps_discard (keeps_rematch txId now)
  | refund txId note actorEmail draws => exact keeps_refund txId note actorEmail draws
  | callback data adminChatId now =>
      exact Effect.keeps_discard (keeps_callback data adminChatId now)
  | expire now =>
      intro before value after returned
      cases returned
      rfl
  | reconcile now =>
      intro before value after returned
      cases returned
      rfl

/-- A request other than an ingestion is announced when it pays nothing by hand or
nobody listens. -/
theorem announced_iff_of_request {op : Op} (requested : ∀ bankAccountId bankTransaction draws,
    op ≠ .ingest bankAccountId bankTransaction draws) :
    Announced before (serve unicode before op) ↔
      NobodyListens unicode before (.request op) := by
  have same : (serve unicode before op).webhookAttempts = before.webhookAttempts :=
    Effect.commit_of_keeps (keeps_perform requested) before
  rw [announced_iff_of_same same]
  have turns : (∃ orderId, TurnsPaid before (serve unicode before op) orderId) ↔
      PaysByHand unicode before op := by
    constructor
    · rintro ⟨orderId, turned⟩
      exact paysByHand_of_change (change_of_serve unicode before op) requested rfl turned
    · exact turnsPaid_of_paysByHand
  rw [turns]
  rfl

end Outbox

section Ingestion

variable {draws : IngestDraws}

theorem created_of_insertAll {attempts : List WebhookAttempt}
    {webhookAttempts : Table WebhookAttempt.id}
    (enqueued : before.webhookAttempts.insertAll? attempts = some webhookAttempts)
    (same : after.webhookAttempts = webhookAttempts) : created before after = attempts := by
  have rows := Table.rows_of_insertAll? enqueued
  have distinct := webhookAttempts.distinct
  rw [rows, List.map_append, List.nodup_append] at distinct
  have old : before.webhookAttempts.rows.filter
      (fun row => (before.webhookAttempts.find? row.id).isNone) = [] := by
    apply List.filter_eq_nil_iff.mpr
    intro row member
    rw [Table.find?_of_mem member]
    simp
  have fresh : attempts.filter (fun row => (before.webhookAttempts.find? row.id).isNone) =
      attempts := by
    apply List.filter_eq_self.mpr
    intro row member
    rw [Option.isNone_iff_eq_none, Table.find?_eq_none_iff]
    intro other stored keyed
    exact distinct.2.2 _ (List.mem_map_of_mem stored) _ (List.mem_map_of_mem member) keyed
  rw [created, same, rows, List.filter_append, old, fresh, List.nil_append]

theorem newAttempts_of_webhook (order : Order) (transaction : Transaction) {webhook : Webhook}
    (member : webhook ∈ before.webhooks.rows) (active : webhook.active = true) :
    (newAttempts before order transaction draws).filter (fun row =>
      row.orderId = order.id && row.webhookId = webhook.id) =
        [newAttempt webhook order transaction draws] := by
  have own : (fun row : WebhookAttempt =>
      decide (row.orderId = order.id) && decide (row.webhookId = webhook.id)) ∘
        (fun webhook => newAttempt webhook order transaction draws) =
      fun other : Webhook => decide (other.id = webhook.id) := by
    funext other
    simp [newAttempt]
  have swap : (before.webhooks.rows.filter Webhook.active).filter
      (fun other => other.id = webhook.id) =
        (before.webhooks.rows.filter fun other => other.id = webhook.id).filter
          Webhook.active := by
    rw [List.filter_filter, List.filter_filter]
    apply List.filter_congr
    intro other _
    exact Bool.and_comm _ _
  rw [newAttempts, List.filter_map, own, swap, Table.filter_key, Table.find?_of_mem member]
  simp [active]

theorem announced_of_ingestion {bankAccountId : String} {bankTransaction : BankTransaction}
    (ingestion : Ingestion unicode bankAccountId bankTransaction draws before after) :
    Announced before after := by
  cases ingestion with
  | known existing stored => exact announced_of_quiet rfl rfl
  | outgoing entered entry negative =>
      rw [entry.frame]
      exact announced_of_quiet rfl rfl
  | unmatched entered entry positive none =>
      rw [entry.frame]
      exact announced_of_quiet rfl rfl
  | ambiguous entered entry positive several =>
      rw [entry.frame]
      exact announced_of_quiet rfl rfl
  | matched entered entry positive order unique webhookAttempts enqueued =>
      obtain ⟨stored, pending, -⟩ := candidate_of_unique unique
      have orders : (afterMatch draws order (newTransaction bankAccountId bankTransaction draws)
          webhookAttempts entered).orders = before.orders.modify order.id
            (Order.pay draws.txId draws.now) (Order.id_pay draws.txId draws.now) := by
        rw [orders_afterMatch, orders_entered entry]
        rfl
      have turns (orderId : String) : TurnsPaid before _ orderId ↔ _ :=
        turnsPaid_modify_iff _ orders (Table.find?_of_mem stored)
      have added : created before (afterMatch draws order
          (newTransaction bankAccountId bankTransaction draws) webhookAttempts entered) =
            newAttempts before (order.pay draws.txId draws.now)
              (newTransaction bankAccountId bankTransaction draws) draws :=
        created_of_insertAll enqueued rfl
      constructor
      · intro orderId turned webhook member active
        obtain rfl := ((turns orderId).mp turned).1
        refine ⟨newAttempt webhook (order.pay draws.txId draws.now)
          (newTransaction bankAccountId bankTransaction draws) draws, ?_, rfl, rfl⟩
        rw [added]
        exact newAttempts_of_webhook (order.pay draws.txId draws.now) _ member active
      · intro attempt member
        rw [added, newAttempts, List.mem_map] at member
        obtain ⟨webhook, listed, rfl⟩ := member
        obtain ⟨kept, active⟩ := List.mem_filter.mp listed
        exact ⟨(turns order.id).mpr ⟨rfl, rfl, by simp [pending]⟩, webhook,
          Table.find?_of_mem kept, active⟩

theorem announced_of_ingest (unicode : UnicodeData) (db : Database) (bankAccountId : String)
    (bankTransaction : BankTransaction) (draws : IngestDraws) :
    Announced db (serve unicode db (.ingest bankAccountId bankTransaction draws)) := by
  rw [serve, perform, commit_discard]
  exact Effect.commit_keeps (announced_of_quiet rfl rfl) fun ingested after returned =>
    announced_of_ingestion (ingestTransaction_ok returned)

end Ingestion

/-- The step lemma: a commit is as claimed exactly when nobody listens to what it pays
by hand. -/
theorem commitAnnounced_iff (db : Database) (event : Event) :
    CommitAnnounced unicode db event ↔ NobodyListens unicode db event := by
  cases event with
  | outbox webhooks webhookAttempts => exact Iff.rfl
  | request op =>
      cases op with
      | ingest bankAccountId bankTransaction draws =>
          have announced := announced_of_ingest unicode db bankAccountId bankTransaction draws
          exact ⟨fun _ paid => absurd paid id, fun _ => announced⟩
      | _ => exact announced_iff_of_request (by simp)

/-- In every run, each commit enqueues what it should if and only if no webhook is active
whenever an order is paid by hand. -/
theorem payments_announced_iff (unicode : UnicodeData) (start : Database)
    (events : List Event) :
    Run.Along (CommitAnnounced unicode) (next unicode) start events ↔
      Run.Along (NobodyListens unicode) (next unicode) start events := by
  apply Run.along_iff (fun _ => True) ?exact_guard (fun _ _ _ _ => trivial) trivial
  intro state event _
  exact commitAnnounced_iff state event

/-- A shop whose owner wants to hear of payments. -/
def listeningShop : Database := { shop with
  webhooks := ⟨[⟨"w1", some "u1", true⟩], by decide⟩ }

def confirmedByHand : TelegramCallback := ⟨"c1", "confirm:o1", "7"⟩

/-- A payment that the admin confirms in Telegram is announced to nobody. -/
theorem confirmation_enqueues_nothing : ¬∀ (unicode : UnicodeData) (start : Database)
    (events : List Event), Run.Along (CommitAnnounced unicode) (next unicode) start events := by
  intro claim
  have along := claim .ascii listeningShop [
    .request (.createTopup "u1" 50000 Billing.Topup.topupTtlSeconds (orderDraws "o1" "AA" 0)),
    .request (.callback confirmedByHand (some "7") 1)]
  have quiet := (commitAnnounced_iff _ _).mp along.2.1
  obtain ⟨order, found, named, pending⟩ : ∃ order, (serve .ascii listeningShop
      (.createTopup "u1" 50000 Billing.Topup.topupTtlSeconds
        (orderDraws "o1" "AA" 0))).orders.find? "o1" = some order ∧ order.id = "o1" ∧
      order.status = .pending := ⟨_, rfl, rfl, rfl⟩
  have byHand : PaysByHand .ascii (serve .ascii listeningShop
      (.createTopup "u1" 50000 Billing.Topup.topupTtlSeconds (orderDraws "o1" "AA" 0)))
      (.callback confirmedByHand (some "7") 1) := by
    refine ⟨⟨by decide, by decide, by decide, rfl⟩, order, by simp [named], ?_, ?_, pending⟩
    · rw [named]
      rfl
    · rw [named]
      exact found
  have silent := quiet byHand ⟨"w1", some "u1", true⟩ (List.mem_singleton_self _)
  cases silent

end ApiBank.Orders.Announcements
