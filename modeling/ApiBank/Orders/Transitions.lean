import ApiBank.Orders.Operations

/-!
# Order statuses over runs

Every status change of every operation is a row of the transition table, except for
two endpoints that never ask it: a forced match revives any order, and a refund
writes a status the table does not know.
-/

namespace ApiBank.Orders.Transitions

open ApiBank.Api ApiBank.Core ApiBank.Db ApiBank.Relational ApiBank.Transition
open AdminOps Ingest Matcher StateMachine Operations

set_option autoImplicit false

def AllTabled (db : Database) : Prop := ∀ order ∈ db.orders.rows, Tabled order.status

/-- Every order is still there, and a changed status is a successor in the table. -/
def Advances (before after : Database) : Prop :=
  ∀ order ∈ before.orders.rows, ∃ row, after.orders.find? order.id = some row ∧
    (row.status = order.status ∨ canTransitionOrder order.status row.status)

/-- A forced match takes no order that expired, was canceled or was refunded, and
no refund is accepted. -/
def FollowsTable (db : Database) : Op → Prop
  | .forceMatch orderId txId _ => ∀ order tx, db.orders.find? orderId = some order →
      db.transactions.find? txId = some tx → tx.bankAccountId = order.bankAccountId →
      order.status = .pending ∨ order.status = .review ∨ order.status = .paid
  | .refund txId _ _ _ => ∀ tx order userId, db.transactions.find? txId = some tx →
      present tx.matchedOrderId = some order.id → db.orders.find? order.id = some order →
      present order.userId = some userId → tx.amountVnd ≤ 0
  | _ => True

variable {unicode : UnicodeData} {before after : Database}

theorem advances_of_same (same : after.orders = before.orders) : Advances before after := by
  intro order member
  exact ⟨order, same ▸ Table.find?_of_mem member, .inl rfl⟩

theorem tabled_of_same (same : after.orders = before.orders) (tabled : AllTabled before) :
    AllTabled after := by
  intro order member
  exact tabled order (same ▸ member)

/-- One order is rewritten: what its status becomes decides. -/
theorem advances_of_modify {orderId : String} {change : Order → Order}
    {keeps : ∀ order, (change order).id = order.id}
    (changed : after.orders = before.orders.modify orderId change keeps)
    (valid : ∀ order, before.orders.find? orderId = some order →
      (change order).status = order.status ∨
        canTransitionOrder order.status (change order).status) : Advances before after := by
  intro order member
  have found := Table.find?_of_mem member
  rw [changed, Table.find?_modify, found]
  by_cases target : order.id = orderId
  · rw [if_pos target]
    exact ⟨change order, rfl, valid order (target ▸ found)⟩
  · rw [if_neg target]
    exact ⟨order, rfl, .inl rfl⟩

theorem advances_of_insert {order : Order}
    (inserted : before.orders.insert? order = some after.orders) : Advances before after := by
  intro other member
  have fresh := Table.fresh_of_insert? inserted
  have apart : order.id ≠ other.id := by
    intro same
    exact (Table.find?_eq_none_iff ..).mp fresh other member same.symm
  refine ⟨other, ?_, .inl rfl⟩
  rw [Table.find?_insert? inserted, if_neg apart]
  exact Table.find?_of_mem member

theorem tabled_of_insert {order : Order} (tabled : AllTabled before)
    (inserted : before.orders.insert? order = some after.orders) (status : Tabled order.status) :
    AllTabled after := by
  intro other member
  rw [Table.rows_of_insert? inserted] at member
  rcases List.mem_append.mp member with old | new
  · exact tabled other old
  · rw [List.mem_singleton.mp new]
    exact status

/-- An operation that creates no order keeps the statuses in the table when it
advances along it. -/
theorem tabled_of_advances (tabled : AllTabled before) (advances : Advances before after)
    (sameOrders : after.orders.rows.map Order.id = before.orders.rows.map Order.id) :
    AllTabled after := by
  intro order member
  have known : order.id ∈ before.orders.rows.map Order.id := by
    rw [← sameOrders]
    exact List.mem_map_of_mem member
  obtain ⟨old, oldMember, sameId⟩ := List.mem_map.mp known
  obtain ⟨row, found, status⟩ := advances old oldMember
  rw [sameId, Table.find?_of_mem member, Option.some.injEq] at found
  subst found
  rcases status with same | valid
  · rw [same]
    exact tabled old oldMember
  · exact tabled_of_transition valid

theorem step_of_modify (orderId : String) {change : Order → Order}
    (keeps : ∀ order, (change order).id = order.id) (tabled : AllTabled before)
    (changed : after.orders = before.orders.modify orderId change keeps)
    (valid : ∀ order, before.orders.find? orderId = some order →
      (change order).status = order.status ∨
        canTransitionOrder order.status (change order).status) :
    AllTabled after ∧ Advances before after := by
  have advances := advances_of_modify changed valid
  refine ⟨tabled_of_advances tabled advances ?_, advances⟩
  rw [changed]
  exact Table.keys_modify ..

theorem step_of_pending {orderId : String} {change : Order → Order}
    (keeps : ∀ order, (change order).id = order.id) (tabled : AllTabled before)
    (changed : after.orders = before.orders.modify orderId change keeps) {order : Order}
    (found : before.orders.find? orderId = some order) (pending : order.status = .pending)
    (valid : canTransitionOrder .pending (change order).status) :
    AllTabled after ∧ Advances before after := by
  apply step_of_modify orderId keeps tabled changed
  intro other foundOther
  rw [found, Option.some.injEq] at foundOther
  subst foundOther
  rw [pending]
  exact .inr valid

theorem step_follows_table {op : Op} (tabled : AllTabled before)
    (follows : FollowsTable before op) (change : Change unicode before op after) :
    AllTabled after ∧ Advances before after := by
  cases change with
  | nothing op => exact ⟨tabled, advances_of_same rfl⟩
  | topupCreated userId amountVnd ttlSeconds draws after user bank order known bounds configured
      returned allocated =>
      have status := (PaymentNames.fresh_of_allocated allocated).status
      exact ⟨tabled_of_insert tabled allocated.inserted (by simp [tabled_iff, status]),
        advances_of_insert allocated.inserted⟩
  | orderCreated client payload draws after order allocated =>
      have status := (PaymentNames.fresh_of_allocated allocated).status
      exact ⟨tabled_of_insert tabled allocated.inserted (by simp [tabled_iff, status]),
        advances_of_insert allocated.inserted⟩
  | ingested bankAccountId bankTransaction draws after ingestion =>
      rcases orders_of_ingestion ingestion with same | ⟨order, unique, paid⟩
      · exact ⟨tabled_of_same same tabled, advances_of_same same⟩
      · obtain ⟨stored, pending, -⟩ := candidate_of_unique unique
        exact step_of_pending _ tabled paid (Table.find?_of_mem stored) pending rfl
  | canceled op orderId now after order found pending orders transactions ledger =>
      exact step_of_pending _ tabled orders found pending rfl
  | forceMatched orderId txId now order tx found foundTx sameBank =>
      have sameId := Table.key_of_find? found
      apply step_of_modify order.id (Order.id_pay tx.id now) tabled rfl
      intro other foundOther
      rw [sameId, found, Option.some.injEq] at foundOther
      subst foundOther
      rcases follows order tx found foundTx sameBank with status | status | status
      · exact .inr (status ▸ rfl)
      · exact .inr (status ▸ rfl)
      · exact .inl status.symm
  | rejected txId tx foundTx => exact ⟨tabled, advances_of_same rfl⟩
  | linked op now order tx found foundTx sameBank cause =>
      unfold linkTransaction
      split
      · rename_i pending
        exact step_of_pending (Order.id_pay tx.id now) tabled rfl found pending rfl
      · exact ⟨tabled, advances_of_same rfl⟩
  | confirmed data adminChatId now order found pending target admitted =>
      exact step_of_pending (Order.id_confirm now) tabled rfl found pending rfl
  | refunded txId note actorEmail draws tx order userId row credited foundTx matched found payee
      refund =>
      have amount := follows tx order userId foundTx matched found payee
      obtain ⟨request, requested, -⟩ := Billing.Wallet.perform_ok refund
      simp [Billing.Wallet.WalletOperation.request, Billing.Wallet.refundRequest,
        Billing.Wallet.positiveRequest, refundArgs, amount] at requested
  | expired op now cause =>
      have advances : Advances before { before with
          orders := before.orders.update (Reconcile.expireIfOverdue now)
            (Reconcile.id_expireIfOverdue now) } := by
        intro order member
        refine ⟨Reconcile.expireIfOverdue now order, ?_, ?_⟩
        · rw [Table.find?_update, Table.find?_of_mem member]
          rfl
        · rcases Reconcile.expireIfOverdue_cases now order with ⟨pending, expires⟩ | same
          · rw [expires, pending]
            exact .inr rfl
          · rw [same]
            exact .inl rfl
      refine ⟨tabled_of_advances tabled advances ?_, advances⟩
      simp [Reconcile.id_expireIfOverdue, Function.comp_def]

/-- In every run whose requests keep to the condition, the table governs every
status, and paid, expired and canceled orders stay what they are. -/
theorem statuses_follow_table {start db : Database} {ops : List Op} (tabled : AllTabled start)
    (run : Run (Guarded FollowsTable (Computed (serve unicode))) start ops db) :
    AllTabled db ∧ (∀ op, FollowsTable db op → Advances db (serve unicode db op)) ∧
      ∀ later final, Run (Guarded FollowsTable (Computed (serve unicode))) db later final →
        ∀ order ∈ db.orders.rows, Absorbing order.status →
          ∃ row, final.orders.find? order.id = some row ∧ row.status = order.status := by
  have reached : AllTabled db := by
    apply run.invariant AllTabled tabled
    rintro before op after invariant ⟨follows, rfl⟩
    exact (step_follows_table invariant follows (change_of_serve unicode before op)).1
  refine ⟨reached, ?_, ?_⟩
  · intro op follows
    exact (step_follows_table reached follows (change_of_serve unicode db op)).2
  · intro later final rest order member absorbing
    have kept : AllTabled final ∧
        ∃ row, final.orders.find? order.id = some row ∧ row.status = order.status := by
      apply rest.invariant (fun db => AllTabled db ∧
        ∃ row, db.orders.find? order.id = some row ∧ row.status = order.status)
        ⟨reached, order, Table.find?_of_mem member, rfl⟩
      rintro before op after ⟨invariant, row, found, status⟩ ⟨follows, rfl⟩
      have step := step_follows_table invariant follows (change_of_serve unicode before op)
      have sameId := Table.key_of_find? found
      obtain ⟨next, foundNext, nextStatus⟩ := step.2 row (Table.mem_of_find? found)
      refine ⟨step.1, next, sameId ▸ foundNext, ?_⟩
      rcases nextStatus with same | valid
      · exact same.trans status
      · rw [status] at valid
        exact absurd valid ((absorbing_iff (reached order member)).mp absorbing next.status)
    exact kept.2

def canceledOps : List Op := [
  .createTopup "u1" 100000 Billing.Topup.topupTtlSeconds (orderDraws "o1" "AA" 0),
  .ingest "b1" strayTransfer (ingestDraws "t1" 1),
  .cancel "o1" 2]

/-- The statuses of a request sequence that keeps to the condition. -/
theorem statuses_follow_table_canceled : ∃ db,
    Run (Guarded FollowsTable (Computed (serve .ascii))) shop canceledOps db ∧ AllTabled db ∧
      db.orders.rows.map Order.status = [.canceled] := by
  have guarded : Run.Along FollowsTable (serve .ascii) shop canceledOps :=
    ⟨trivial, trivial, trivial, trivial⟩
  have run := Run.of_guarded guarded
  exact ⟨_, run, (statuses_follow_table (by simp [AllTabled, shop, Database.empty]) run).1, rfl⟩

/-- A forced match makes a canceled order paid. -/
theorem force_match_leaves_table :
    ¬∀ (unicode : UnicodeData) (start db : Database) (ops : List Op) (op : Op)
      (order row : Order), AllTabled start → Run (Computed (serve unicode)) start ops db →
      order ∈ db.orders.rows → (serve unicode db op).orders.find? order.id = some row →
      row.status ≠ order.status → canTransitionOrder order.status row.status := by
  intro claimed
  have run := Run.of_computed (serve .ascii) shop canceledOps
  obtain ⟨order, row, found, matched, canceled, paid⟩ : ∃ order row,
      (canceledOps.foldl (serve .ascii) shop).orders.find? "o1" = some order ∧
      (serve .ascii (canceledOps.foldl (serve .ascii) shop)
        (.forceMatch "o1" "t1" 3)).orders.find? "o1" = some row ∧
      order.status = .canceled ∧ row.status = .paid := ⟨_, _, rfl, rfl, rfl, rfl⟩
  have sameId := Table.key_of_find? found
  have valid := claimed .ascii shop _ canceledOps (.forceMatch "o1" "t1" 3) order row
    (by simp [AllTabled, shop, Database.empty]) run (Table.mem_of_find? found)
    (sameId ▸ matched) (by simp [canceled, paid])
  rw [canceled, paid] at valid
  contradiction

end ApiBank.Orders.Transitions
