import ApiBank.Orders.Operations

/-!
# Orders and their transactions

An order names the transaction that paid it and the transaction names the order.
Both columns are rewritten by several endpoints, some of which look at one side
only. As long as no endpoint overwrites a link it did not read, the two columns
describe one partial one-to-one correspondence.
-/

namespace ApiBank.Orders.Pairing

open ApiBank.Api ApiBank.Core ApiBank.Db ApiBank.Relational ApiBank.Transition
open AdminOps Ingest MatchDecision Matcher Operations

set_option autoImplicit false

/-- The two columns agree, name existing rows and belong to paid orders and matched
transactions. -/
structure Paired (db : Database) : Prop where
  agree : ∀ order ∈ db.orders.rows, ∀ tx ∈ db.transactions.rows,
    order.paidTxId = some tx.id ↔ tx.matchedOrderId = some order.id
  paidBy : ∀ order ∈ db.orders.rows, ∀ txId, order.paidTxId = some txId →
    order.status = .paid ∧ ∃ tx ∈ db.transactions.rows, tx.id = txId
  matchedTo : ∀ tx ∈ db.transactions.rows, ∀ orderId, tx.matchedOrderId = some orderId →
    tx.state = .matched ∧ ∃ order ∈ db.orders.rows, order.id = orderId

/-- The correspondence as the endpoints' users see it. -/
structure OneToOne (db : Database) : Prop where
  agree : ∀ order ∈ db.orders.rows, ∀ tx ∈ db.transactions.rows,
    order.paidTxId = some tx.id ↔ tx.matchedOrderId = some order.id
  linked : ∀ order ∈ db.orders.rows, ∀ tx ∈ db.transactions.rows,
    order.paidTxId = some tx.id → order.status = .paid ∧ tx.state = .matched
  oneOrder : ∀ first ∈ db.orders.rows, ∀ second ∈ db.orders.rows, ∀ txId,
    first.paidTxId = some txId → second.paidTxId = some txId → first = second
  oneTransaction : ∀ first ∈ db.transactions.rows, ∀ second ∈ db.transactions.rows, ∀ orderId,
    first.matchedOrderId = some orderId → second.matchedOrderId = some orderId → first = second

theorem oneToOne_of_paired {db : Database} (paired : Paired db) : OneToOne db where
  agree := paired.agree
  linked := by
    intro order member tx txMember paid
    have matched := (paired.agree order member tx txMember).mp paid
    exact ⟨(paired.paidBy order member tx.id paid).1,
      (paired.matchedTo tx txMember order.id matched).1⟩
  oneOrder := by
    intro first firstMember second secondMember txId firstPaid secondPaid
    obtain ⟨-, tx, txMember, rfl⟩ := paired.paidBy first firstMember txId firstPaid
    have firstMatched := (paired.agree first firstMember tx txMember).mp firstPaid
    have secondMatched := (paired.agree second secondMember tx txMember).mp secondPaid
    have sameId := Option.some.inj (firstMatched.symm.trans secondMatched)
    exact db.orders.eq_of_key_eq firstMember secondMember sameId
  oneTransaction := by
    intro first firstMember second secondMember orderId firstMatched secondMatched
    obtain ⟨-, order, member, rfl⟩ := paired.matchedTo first firstMember orderId firstMatched
    have firstPaid := (paired.agree order member first firstMember).mpr firstMatched
    have secondPaid := (paired.agree order member second secondMember).mpr secondMatched
    have sameId := Option.some.inj (firstPaid.symm.trans secondPaid)
    exact db.transactions.eq_of_key_eq firstMember secondMember sameId

/-- No link is overwritten: a forced match joins an unpaid order and an unmatched
transaction or repeats a link, a rejected transaction is unmatched, a match joins a
pending order and an unmatched transaction or repeats a link, and a rematch that
finds an order starts from an unmatched transaction. Refunds stay outside. -/
def KeepsLinks (unicode : UnicodeData) (db : Database) : Op → Prop
  | .forceMatch orderId txId _ => ∀ order tx, db.orders.find? orderId = some order →
      db.transactions.find? txId = some tx → tx.bankAccountId = order.bankAccountId →
      (order.paidTxId = none ∧ tx.matchedOrderId = none) ∨ order.paidTxId = some tx.id
  | .reject txId => ∀ tx, db.transactions.find? txId = some tx → tx.matchedOrderId = none
  | .matchTx txId orderId _ => ∀ order tx, db.orders.find? orderId = some order →
      db.transactions.find? txId = some tx → order.bankAccountId = tx.bankAccountId →
      (order.status = .pending ∧ tx.matchedOrderId = none) ∨ order.paidTxId = some tx.id
  | .rematch txId now => ∀ order tx, db.transactions.find? txId = some tx →
      RematchFinds unicode db tx order now → tx.matchedOrderId = none
  | .refund _ _ _ _ => False
  | _ => True

variable {unicode : UnicodeData} {before after : Database}

theorem paired_of_orders_update (paired : Paired before) {change : Order → Order}
    (keeps : ∀ order, (change order).id = order.id)
    (orders : after.orders = before.orders.update change keeps)
    (transactions : after.transactions = before.transactions)
    (sameLink : ∀ order ∈ before.orders.rows, (change order).paidTxId = order.paidTxId)
    (linkedStays : ∀ order ∈ before.orders.rows, order.paidTxId ≠ none →
      (change order).status = .paid) : Paired after where
  agree := by
    rw [orders, transactions]
    intro row member tx txMember
    obtain ⟨order, old, rfl⟩ := List.mem_map.mp member
    rw [sameLink order old, keeps]
    exact paired.agree order old tx txMember
  paidBy := by
    rw [orders, transactions]
    intro row member txId paid
    obtain ⟨order, old, rfl⟩ := List.mem_map.mp member
    rw [sameLink order old] at paid
    exact ⟨linkedStays order old (by simp [paid]), (paired.paidBy order old txId paid).2⟩
  matchedTo := by
    rw [orders, transactions]
    intro tx txMember orderId matched
    obtain ⟨state, order, old, sameId⟩ := paired.matchedTo tx txMember orderId matched
    exact ⟨state, change order, List.mem_map_of_mem old, (keeps order).trans sameId⟩

theorem paired_of_unlinked_order (paired : Paired before) {orderId : String}
    {change : Order → Order} (keeps : ∀ order, (change order).id = order.id)
    (orders : after.orders = before.orders.modify orderId change keeps)
    (transactions : after.transactions = before.transactions)
    (sameLink : ∀ order, (change order).paidTxId = order.paidTxId) {order : Order}
    (found : before.orders.find? orderId = some order) (unlinked : order.paidTxId = none) :
    Paired after := by
  apply paired_of_orders_update paired _ orders transactions
  · intro other _
    split
    · exact sameLink other
    · rfl
  · intro other member linked
    split
    · rename_i target
      have same : other = order := by
        have foundOther := Table.find?_of_mem member
        rw [target, found, Option.some.injEq] at foundOther
        exact foundOther.symm
      exact absurd (same ▸ unlinked) linked
    · obtain ⟨txId, paid⟩ := Option.ne_none_iff_exists'.mp linked
      exact (paired.paidBy other member txId paid).1

theorem paired_of_transactions_update (paired : Paired before)
    {change : Transaction → Transaction} (keeps : ∀ tx, (change tx).id = tx.id)
    (orders : after.orders = before.orders)
    (transactions : after.transactions = before.transactions.update change keeps)
    (sameLink : ∀ tx ∈ before.transactions.rows,
      (change tx).matchedOrderId = tx.matchedOrderId)
    (linkedStays : ∀ tx ∈ before.transactions.rows, tx.matchedOrderId ≠ none →
      (change tx).state = .matched) : Paired after where
  agree := by
    rw [orders, transactions]
    intro order member row txMember
    obtain ⟨tx, old, rfl⟩ := List.mem_map.mp txMember
    rw [sameLink tx old, keeps]
    exact paired.agree order member tx old
  paidBy := by
    rw [orders, transactions]
    intro order member txId paid
    obtain ⟨status, tx, old, sameId⟩ := paired.paidBy order member txId paid
    exact ⟨status, change tx, List.mem_map_of_mem old, (keeps tx).trans sameId⟩
  matchedTo := by
    rw [orders, transactions]
    intro row txMember orderId matched
    obtain ⟨tx, old, rfl⟩ := List.mem_map.mp txMember
    rw [sameLink tx old] at matched
    exact ⟨linkedStays tx old (by simp [matched]), (paired.matchedTo tx old orderId matched).2⟩

theorem paired_of_one_transaction (paired : Paired before) {tx : Transaction}
    {change : Transaction → Transaction} (keeps : ∀ tx, (change tx).id = tx.id)
    (found : before.transactions.find? tx.id = some tx)
    (orders : after.orders = before.orders)
    (transactions : after.transactions = before.transactions.modify tx.id change keeps)
    (sameLink : (change tx).matchedOrderId = tx.matchedOrderId)
    (linkedStays : tx.matchedOrderId ≠ none → (change tx).state = .matched) : Paired after := by
  have only (other : Transaction) (member : other ∈ before.transactions.rows)
      (target : other.id = tx.id) : other = tx :=
    before.transactions.eq_of_key_eq member (Table.mem_of_find? found) target
  apply paired_of_transactions_update paired _ orders transactions
  · intro other member
    split
    · rename_i target
      rw [only other member target]
      exact sameLink
    · rfl
  · intro other member linked
    split
    · rename_i target
      rw [only other member target] at linked ⊢
      exact linkedStays linked
    · obtain ⟨orderId, matched⟩ := Option.ne_none_iff_exists'.mp linked
      exact (paired.matchedTo other member orderId matched).1

theorem paired_of_new_order (paired : Paired before) {order : Order}
    (inserted : before.orders.insert? order = some after.orders)
    (transactions : after.transactions = before.transactions)
    (unlinked : order.paidTxId = none) : Paired after := by
  have rows := Table.rows_of_insert? inserted
  have fresh := (Table.find?_eq_none_iff ..).mp (Table.fresh_of_insert? inserted)
  have unnamed : ∀ tx ∈ before.transactions.rows, tx.matchedOrderId ≠ some order.id := by
    intro tx txMember matched
    obtain ⟨-, other, member, sameId⟩ := paired.matchedTo tx txMember order.id matched
    exact fresh other member sameId
  constructor
  · rw [rows, transactions]
    intro other member tx txMember
    rcases List.mem_append.mp member with old | new
    · exact paired.agree other old tx txMember
    · rw [List.mem_singleton.mp new]
      simp [unlinked, unnamed tx txMember]
  · rw [rows, transactions]
    intro other member txId paid
    rcases List.mem_append.mp member with old | new
    · exact paired.paidBy other old txId paid
    · rw [List.mem_singleton.mp new, unlinked] at paid
      contradiction
  · rw [rows, transactions]
    intro tx txMember orderId matched
    obtain ⟨state, other, member, sameId⟩ := paired.matchedTo tx txMember orderId matched
    exact ⟨state, other, List.mem_append_left _ member, sameId⟩

theorem paired_of_new_transaction (paired : Paired before) {tx : Transaction}
    (orders : after.orders = before.orders)
    (inserted : before.transactions.insert? tx = some after.transactions)
    (unlinked : tx.matchedOrderId = none) : Paired after := by
  have rows := Table.rows_of_insert? inserted
  have fresh := (Table.find?_eq_none_iff ..).mp (Table.fresh_of_insert? inserted)
  have unnamed : ∀ order ∈ before.orders.rows, order.paidTxId ≠ some tx.id := by
    intro order member paid
    obtain ⟨-, other, otherMember, sameId⟩ := paired.paidBy order member tx.id paid
    exact fresh other otherMember sameId
  constructor
  · rw [rows, orders]
    intro order member other txMember
    rcases List.mem_append.mp txMember with old | new
    · exact paired.agree order member other old
    · rw [List.mem_singleton.mp new]
      simp [unlinked, unnamed order member]
  · rw [rows, orders]
    intro order member txId paid
    obtain ⟨status, other, otherMember, sameId⟩ := paired.paidBy order member txId paid
    exact ⟨status, other, List.mem_append_left _ otherMember, sameId⟩
  · rw [rows, orders]
    intro other txMember orderId matched
    rcases List.mem_append.mp txMember with old | new
    · exact paired.matchedTo other old orderId matched
    · rw [List.mem_singleton.mp new, unlinked] at matched
      contradiction

/-- Joining an unpaid order with an unmatched transaction, or a pair once more. -/
theorem paired_of_link (paired : Paired before) {order : Order} {tx : Transaction} {now : Int}
    (found : before.orders.find? order.id = some order)
    (foundTx : before.transactions.find? tx.id = some tx)
    (joinable : (order.paidTxId = none ∧ tx.matchedOrderId = none) ∨ order.paidTxId = some tx.id)
    (orders : after.orders =
      before.orders.modify order.id (Order.pay tx.id now) (Order.id_pay tx.id now))
    (transactions : after.transactions =
      before.transactions.modify tx.id (Transaction.assign order.id)
        (Transaction.id_assign order.id)) : Paired after := by
  have member := Table.mem_of_find? found
  have txMember := Table.mem_of_find? foundTx
  -- the old links of the two rows, if any, are to each other
  have oldTx (other : Transaction) (different : other.id ≠ tx.id) :
      order.paidTxId ≠ some other.id := by
    rcases joinable with ⟨unpaid, -⟩ | paid
    · simp [unpaid]
    · simpa [paid] using different.symm
  have oldOrder (other : Order) (different : other.id ≠ order.id) :
      tx.matchedOrderId ≠ some other.id := by
    rcases joinable with ⟨-, unmatched⟩ | paid
    · simp [unmatched]
    · have matched := (paired.agree order member tx txMember).mp paid
      simpa [matched] using different.symm
  constructor
  · rw [orders, transactions]
    intro row rowMember txRow txRowMember
    obtain ⟨other, old, rfl⟩ := (Table.mem_modify_iff ..).mp rowMember
    obtain ⟨otherTx, oldTxMember, rfl⟩ := (Table.mem_modify_iff ..).mp txRowMember
    have agree := paired.agree other old otherTx oldTxMember
    by_cases target : other.id = order.id
    · have same := before.orders.eq_of_key_eq old member target
      subst same
      by_cases targetTx : otherTx.id = tx.id
      · simp [targetTx, Order.pay, Transaction.assign]
      · simp only [if_true, if_neg targetTx, Order.id_pay]
        have unpaid := oldTx otherTx targetTx
        simp only [Order.pay, Option.some.injEq]
        constructor
        · intro equal
          exact absurd equal.symm targetTx
        · intro matched
          exact absurd (agree.mpr matched) unpaid
    · by_cases targetTx : otherTx.id = tx.id
      · have same := before.transactions.eq_of_key_eq oldTxMember txMember targetTx
        subst same
        simp only [if_neg target, if_true, Transaction.id_assign]
        have unmatched := oldOrder other target
        simp only [Transaction.assign, Option.some.injEq]
        constructor
        · intro paid
          exact absurd (agree.mp paid) unmatched
        · intro equal
          exact absurd equal.symm target
      · simpa only [if_neg target, if_neg targetTx] using agree
  · rw [orders, transactions]
    intro row rowMember txId paid
    obtain ⟨other, old, rfl⟩ := (Table.mem_modify_iff ..).mp rowMember
    have stays (known : ∃ old ∈ before.transactions.rows, old.id = txId) :
        ∃ row ∈ (before.transactions.modify tx.id (Transaction.assign order.id)
          (Transaction.id_assign order.id)).rows, row.id = txId := by
      obtain ⟨old, oldMember, sameId⟩ := known
      refine ⟨_, (Table.mem_modify_iff ..).mpr ⟨old, oldMember, rfl⟩, ?_⟩
      split
      · exact sameId
      · exact sameId
    by_cases target : other.id = order.id
    · simp only [if_pos target, Order.pay, Option.some.injEq] at paid ⊢
      exact ⟨trivial, stays ⟨tx, txMember, paid⟩⟩
    · simp only [if_neg target] at paid ⊢
      obtain ⟨status, known⟩ := paired.paidBy other old txId paid
      exact ⟨status, stays known⟩
  · rw [orders, transactions]
    intro txRow txRowMember orderId matched
    obtain ⟨otherTx, oldTxMember, rfl⟩ := (Table.mem_modify_iff ..).mp txRowMember
    have stays (known : ∃ old ∈ before.orders.rows, old.id = orderId) :
        ∃ row ∈ (before.orders.modify order.id (Order.pay tx.id now)
          (Order.id_pay tx.id now)).rows, row.id = orderId := by
      obtain ⟨old, oldMember, sameId⟩ := known
      refine ⟨_, (Table.mem_modify_iff ..).mpr ⟨old, oldMember, rfl⟩, ?_⟩
      split
      · exact sameId
      · exact sameId
    by_cases targetTx : otherTx.id = tx.id
    · simp only [if_pos targetTx, Transaction.assign, Option.some.injEq] at matched ⊢
      exact ⟨trivial, stays ⟨order, member, matched⟩⟩
    · simp only [if_neg targetTx] at matched ⊢
      obtain ⟨state, known⟩ := paired.matchedTo otherTx oldTxMember orderId matched
      exact ⟨state, stays known⟩

theorem unlinked_of_pending (paired : Paired before) {order : Order}
    (member : order ∈ before.orders.rows) (pending : order.status = .pending) :
    order.paidTxId = none := by
  by_contra linked
  obtain ⟨txId, paid⟩ := Option.ne_none_iff_exists'.mp linked
  have status := (paired.paidBy order member txId paid).1
  rw [pending] at status
  contradiction

theorem paired_of_entered {bankAccountId : String} {bankTransaction : BankTransaction}
    {draws : IngestDraws} {entered : Database} (paired : Paired before)
    (entry : Entered bankAccountId bankTransaction draws before entered) : Paired entered :=
  paired_of_new_transaction paired (orders_entered entry) entry.inserted rfl

/-- The state of the new transaction is set, its link stays empty. -/
theorem paired_of_undecided {bankAccountId : String} {bankTransaction : BankTransaction}
    {draws : IngestDraws} {entered : Database} (paired : Paired before)
    (entry : Entered bankAccountId bankTransaction draws before entered)
    (state : TransactionState) :
    Paired (entered.modifyTransaction draws.txId (.setState state)
      (Transaction.id_setState state)) := by
  have found : entered.transactions.find?
      (newTransaction bankAccountId bankTransaction draws).id =
        some (newTransaction bankAccountId bankTransaction draws) := find_entered entry
  refine paired_of_one_transaction (paired_of_entered paired entry)
    (Transaction.id_setState state) found rfl rfl rfl ?_
  intro linked
  exact absurd rfl linked

theorem paired_of_ingestion {bankAccountId : String} {bankTransaction : BankTransaction}
    {draws : IngestDraws} (paired : Paired before)
    (ingestion : Ingestion unicode bankAccountId bankTransaction draws before after) :
    Paired after := by
  cases ingestion with
  | known existing stored => exact paired
  | outgoing entered entry negative => exact paired_of_entered paired entry
  | unmatched entered entry positive none => exact paired_of_undecided paired entry .unmatched
  | ambiguous entered entry positive several => exact paired_of_undecided paired entry .review
  | matched entered entry positive order unique webhookAttempts enqueued =>
      obtain ⟨member, pending, -⟩ := candidate_of_unique unique
      have found : entered.orders.find? order.id = some order := by
        rw [orders_entered entry]
        exact Table.find?_of_mem member
      exact paired_of_link (paired_of_entered paired entry) found (find_entered entry)
        (.inl ⟨unlinked_of_pending paired member pending, rfl⟩)
        (orders_afterMatch order _ webhookAttempts entered)
        (transactions_afterMatch order _ webhookAttempts entered)

/-- A transaction takes its own order once more, and the order is not pending. -/
theorem paired_of_repeated_link (paired : Paired before) {order : Order} {tx : Transaction}
    (found : before.orders.find? order.id = some order)
    (foundTx : before.transactions.find? tx.id = some tx)
    (linked : order.paidTxId = some tx.id) :
    Paired (before.modifyTransaction tx.id (Transaction.assign order.id)
      (Transaction.id_assign order.id)) := by
  have matched := (paired.agree order (Table.mem_of_find? found) tx
    (Table.mem_of_find? foundTx)).mp linked
  exact paired_of_one_transaction paired (Transaction.id_assign order.id) foundTx rfl rfl
    matched.symm fun _ => rfl

theorem step_keeps_pairing {op : Op} (paired : Paired before)
    (keeps : KeepsLinks unicode before op) (change : Change unicode before op after) :
    Paired after := by
  cases change with
  | nothing op => exact paired
  | topupCreated userId amountVnd ttlSeconds draws after user bank order known bounds configured
      returned allocated =>
      have unlinked := (PaymentNames.fresh_of_allocated allocated).paidTxId
      exact paired_of_new_order paired allocated.inserted (by rw [allocated.frame]) unlinked
  | orderCreated client payload draws after order allocated =>
      have unlinked := (PaymentNames.fresh_of_allocated allocated).paidTxId
      exact paired_of_new_order paired allocated.inserted (by rw [allocated.frame]) unlinked
  | ingested bankAccountId bankTransaction draws after ingestion =>
      exact paired_of_ingestion paired ingestion
  | canceled op orderId now after order found pending orders transactions ledger =>
      have unlinked := unlinked_of_pending paired (Table.mem_of_find? found) pending
      exact paired_of_unlinked_order paired _ orders transactions (fun _ => rfl) found unlinked
  | forceMatched orderId txId now order tx found foundTx sameBank =>
      have joinable := keeps order tx found foundTx sameBank
      obtain rfl := Table.key_of_find? found
      obtain rfl := Table.key_of_find? foundTx
      exact paired_of_link paired found foundTx joinable rfl rfl
  | rejected txId tx foundTx =>
      have unmatched := keeps tx foundTx
      obtain rfl := Table.key_of_find? foundTx
      exact paired_of_one_transaction paired Transaction.id_reject foundTx rfl rfl unmatched.symm
        fun linked => absurd unmatched linked
  | linked op now order tx found foundTx sameBank cause =>
      have joinable : (order.status = .pending ∧ tx.matchedOrderId = none) ∨
          order.paidTxId = some tx.id := by
        rcases cause with rfl | ⟨rfl, finds⟩
        · exact keeps order tx found foundTx sameBank
        · obtain ⟨other, foundOther, -, -, pending⟩ := rematch_matched finds
          rw [found, Option.some.injEq] at foundOther
          subst foundOther
          exact .inl ⟨pending, keeps order tx foundTx finds⟩
      have member := Table.mem_of_find? found
      unfold linkTransaction
      split
      · rename_i pending
        have unlinked := unlinked_of_pending paired member pending
        rcases joinable with ⟨-, unmatched⟩ | linked
        · exact paired_of_link paired found foundTx (.inl ⟨unlinked, unmatched⟩) rfl rfl
        · rw [unlinked] at linked
          contradiction
      · rename_i notPending
        rcases joinable with ⟨pending, -⟩ | linked
        · exact absurd pending notPending
        · exact paired_of_repeated_link paired found foundTx linked
  | confirmed data adminChatId now order found pending target admitted =>
      have unlinked := unlinked_of_pending paired (Table.mem_of_find? found) pending
      exact paired_of_unlinked_order paired (Order.id_confirm now) rfl rfl (fun _ => rfl) found
        unlinked
  | refunded txId note actorEmail draws tx order userId row credited foundTx matched found payee
      refund => exact keeps.elim
  | expired op now cause =>
      refine paired_of_orders_update paired (Reconcile.id_expireIfOverdue now) rfl rfl ?_ ?_
      · intro order _
        rcases Reconcile.expireIfOverdue_cases now order with ⟨-, expires⟩ | same
        · rw [expires]
          rfl
        · rw [same]
      · intro order member linked
        have paid : order.status = .paid := by
          obtain ⟨txId, linkedTo⟩ := Option.ne_none_iff_exists'.mp linked
          exact (paired.paidBy order member txId linkedTo).1
        simp [Reconcile.expireIfOverdue, Reconcile.overdue, paid]

/-- In every run whose requests overwrite no link, orders and transactions are
paired one to one. -/
theorem pairing_one_to_one {start db : Database} {ops : List Op} (paired : Paired start)
    (run : Run (Guarded (KeepsLinks unicode) (Computed (serve unicode))) start ops db) :
    OneToOne db := by
  apply oneToOne_of_paired
  apply run.invariant Paired paired
  rintro before op after invariant ⟨keeps, rfl⟩
  exact step_keeps_pairing invariant keeps (change_of_serve unicode before op)

theorem paired_shop : Paired shop := by
  constructor <;> simp [shop, Database.empty]

/-- An order that a transfer pays, and a transfer that an admin attaches to another. -/
def linkedOps : List Op := [
  .createTopup "u1" 50000 Billing.Topup.topupTtlSeconds (orderDraws "o1" "AA" 0),
  .ingest "b1" strayTransfer (ingestDraws "t1" 1),
  .forceMatch "o1" "t1" 2]

theorem pairing_one_to_one_linked : ∃ db,
    Run (Guarded (KeepsLinks .ascii) (Computed (serve .ascii))) shop linkedOps db ∧ OneToOne db ∧
      db.orders.rows.map Order.paidTxId = [some "t1"] := by
  have guarded : Run.Along (KeepsLinks .ascii) (serve .ascii) shop linkedOps := by
    refine ⟨trivial, trivial, ?_, trivial⟩
    intro order tx found foundTx _
    cases found
    cases foundTx
    exact .inl ⟨rfl, rfl⟩
  have run := Run.of_guarded guarded
  exact ⟨_, run, pairing_one_to_one paired_shop run, rfl⟩

def rejectedOps : List Op := linkedOps ++ [.reject "t1"]

/-- Rejecting the transaction leaves its order paid by it. -/
theorem rejection_breaks_pairing :
    ¬∀ (unicode : UnicodeData) (start db : Database) (ops : List Op), Paired start →
      (∀ op ∈ ops, ∀ txId note actorEmail draws, op ≠ .refund txId note actorEmail draws) →
      Run (Computed (serve unicode)) start ops db → OneToOne db := by
  intro claimed
  have run := Run.of_computed (serve .ascii) shop rejectedOps
  have oneToOne := claimed .ascii shop _ _ paired_shop (by simp [rejectedOps, linkedOps]) run
  obtain ⟨order, tx, found, foundTx, paid, unmatched⟩ : ∃ order tx,
      (rejectedOps.foldl (serve .ascii) shop).orders.find? "o1" = some order ∧
      (rejectedOps.foldl (serve .ascii) shop).transactions.find? "t1" = some tx ∧
      order.paidTxId = some "t1" ∧ tx.matchedOrderId = none := ⟨_, _, rfl, rfl, rfl, rfl⟩
  have sameId := Table.key_of_find? foundTx
  have matched := (oneToOne.agree order (Table.mem_of_find? found) tx
    (Table.mem_of_find? foundTx)).mp (sameId ▸ paid)
  rw [unmatched] at matched
  contradiction

end ApiBank.Orders.Pairing
