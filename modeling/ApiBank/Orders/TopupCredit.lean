import ApiBank.Orders.Payments

/-!
# The credit of a paid top-up

Five endpoints make an order paid and one of them credits the wallet. A top-up is
credited exactly once in every run in which its payment goes through ingestion and
the credit is not dropped there; no later job repeats a dropped credit.
-/

namespace ApiBank.Orders.TopupCredit

open ApiBank.Api ApiBank.Billing ApiBank.Core ApiBank.Db ApiBank.Relational ApiBank.Transition
open AdminOps Ingest MatchDecision Matcher Operations Topup Api.Orders
open Payments

set_option autoImplicit false

def creditRows (db : Database) (orderId : String) : List WalletTransaction :=
  db.walletTransactions.rows.filter fun row => row.idempotencyKey = topupKey orderId

theorem creditRows_eq (db : Database) (orderId : String) :
    creditRows db orderId = (db.walletTransactions.find? (topupKey orderId)).toList :=
  db.walletTransactions.filter_key (topupKey orderId)

/-- Paid and credited once go together, and the credit is the order's. -/
structure CreditedOnce (db : Database) (order : Order) (userId : String) : Prop where
  paid_iff : order.status = .paid ↔ (creditRows db order.id).length = 1
  payload : ∀ row ∈ creditRows db order.id,
    row.amountVnd = order.amountVnd ∧ row.userId = userId

/-- Every order that funds a user is credited once when it is paid; the rest of the
invariant keeps the wallet from refusing the credit. -/
structure Credited (db : Database) : Prop where
  once : ∀ order ∈ db.orders.rows, ∀ userId, fundedUserId db order = some userId →
    CreditedOnce db order userId
  known : ∀ orderId row, db.walletTransactions.find? (topupKey orderId) = some row →
    ∃ order, db.orders.find? orderId = some order
  positive : ∀ order ∈ db.orders.rows, 0 < order.amountVnd
  solvent : ∀ user ∈ db.users.rows, 0 ≤ user.balanceVnd

/-- A payment of an unpaid order that funds a user comes from an ingestion whose
credit is not dropped. Refunds stay outside. -/
def CreditsTopups (unicode : UnicodeData) (db : Database) : Op → Prop
  | .ingest bankAccountId bankTransaction draws => draws.creditRaises = true →
      ∀ order, Pays unicode bankAccountId bankTransaction draws db order →
        fundedUserId db order = none
  | .forceMatch orderId txId _ => ∀ order tx, db.orders.find? orderId = some order →
      db.transactions.find? txId = some tx → tx.bankAccountId = order.bankAccountId →
      order.status ≠ .paid → fundedUserId db order = none
  | .matchTx txId orderId _ => ∀ order tx, db.orders.find? orderId = some order →
      db.transactions.find? txId = some tx → order.bankAccountId = tx.bankAccountId →
      order.status = .pending → fundedUserId db order = none
  | .rematch txId now => ∀ order tx, db.transactions.find? txId = some tx →
      db.orders.find? order.id = some order → RematchFinds unicode db tx order now →
      fundedUserId db order = none
  | .callback data adminChatId _ => ∀ order, Admitted data adminChatId →
      partitionColon data.data = ("confirm", order.id) →
      db.orders.find? order.id = some order → order.status = .pending →
      fundedUserId db order = none
  | .refund _ _ _ _ => False
  | _ => True

def KeepsFunding (before after : Database) : Prop :=
  ∀ order ∈ before.orders.rows, ∃ row, after.orders.find? order.id = some row ∧
    fundedUserId after row = fundedUserId before order ∧ row.amountVnd = order.amountVnd

variable {unicode : UnicodeData} {before after : Database}

theorem funding_of_ledger (ledger : SameLedger before after) {order row : Order}
    (sameMetadata : row.metadataJson = order.metadataJson) :
    fundedUserId after row = fundedUserId before order := by
  apply fundedUserId_congr sameMetadata
  intro userId
  rw [ledger.users]

theorem creditRows_of_ledger (ledger : SameLedger before after) (orderId : String) :
    creditRows after orderId = creditRows before orderId := by
  rw [creditRows, creditRows, ledger.walletTransactions]

/-- The orders change, the ledger does not: the terms of every order stay, and a
funded order does not become paid or unpaid. -/
theorem step_of_orders_update (credited : Credited before) {change : Order → Order}
    (keeps : ∀ order, (change order).id = order.id)
    (orders : after.orders = before.orders.update change keeps)
    (ledger : SameLedger before after)
    (sameMetadata : ∀ order, (change order).metadataJson = order.metadataJson)
    (sameAmount : ∀ order, (change order).amountVnd = order.amountVnd)
    (samePaid : ∀ order ∈ before.orders.rows, ∀ userId, fundedUserId before order = some userId →
      ((change order).status = .paid ↔ order.status = .paid)) :
    Credited after ∧ KeepsFunding before after := by
  refine ⟨⟨?_, ?_, ?_, ?_⟩, ?_⟩
  · intro row member userId funded
    rw [orders] at member
    obtain ⟨order, old, rfl⟩ := List.mem_map.mp member
    rw [funding_of_ledger ledger (sameMetadata order)] at funded
    have once := credited.once order old userId funded
    constructor
    · rw [samePaid order old userId funded, keeps, creditRows_of_ledger ledger]
      exact once.paid_iff
    · rw [keeps, creditRows_of_ledger ledger, sameAmount]
      exact once.payload
  · intro orderId row found
    rw [ledger.walletTransactions] at found
    obtain ⟨order, stored⟩ := credited.known orderId row found
    exact ⟨change order, by rw [orders, Table.find?_update, stored]; rfl⟩
  · intro row member
    rw [orders] at member
    obtain ⟨order, old, rfl⟩ := List.mem_map.mp member
    rw [sameAmount]
    exact credited.positive order old
  · rw [ledger.users]
    exact credited.solvent
  · intro order member
    refine ⟨change order, ?_, funding_of_ledger ledger (sameMetadata order), sameAmount order⟩
    rw [orders, Table.find?_update, Table.find?_of_mem member]
    rfl

theorem step_of_same (credited : Credited before) (orders : after.orders = before.orders)
    (ledger : SameLedger before after) : Credited after ∧ KeepsFunding before after := by
  have same : after.orders = before.orders.update id (fun _ => rfl) := by
    rw [orders]
    exact Table.ext_rows (List.map_id _).symm
  exact step_of_orders_update credited _ same ledger (fun _ => rfl) (fun _ => rfl)
    fun _ _ _ _ => .rfl

theorem step_of_order (credited : Credited before) {change : Order → Order}
    (keeps : ∀ order, (change order).id = order.id) {order : Order}
    (found : before.orders.find? order.id = some order)
    (orders : after.orders = before.orders.modify order.id change keeps)
    (ledger : SameLedger before after)
    (sameMetadata : ∀ order, (change order).metadataJson = order.metadataJson)
    (sameAmount : ∀ order, (change order).amountVnd = order.amountVnd)
    (samePaid : ∀ userId, fundedUserId before order = some userId →
      ((change order).status = .paid ↔ order.status = .paid)) :
    Credited after ∧ KeepsFunding before after := by
  apply step_of_orders_update credited _ orders ledger
  · intro row
    split
    · exact sameMetadata row
    · rfl
  · intro row
    split
    · exact sameAmount row
    · rfl
  · intro row member userId funded
    split
    · rename_i target
      have same := before.orders.eq_of_key_eq member (Table.mem_of_find? found) target
      subst same
      exact samePaid userId funded
    · rfl

theorem step_of_unfunded (credited : Credited before) {change : Order → Order}
    (keeps : ∀ order, (change order).id = order.id) {order : Order}
    (found : before.orders.find? order.id = some order)
    (orders : after.orders = before.orders.modify order.id change keeps)
    (ledger : SameLedger before after)
    (sameMetadata : ∀ order, (change order).metadataJson = order.metadataJson)
    (sameAmount : ∀ order, (change order).amountVnd = order.amountVnd)
    (unfunded : fundedUserId before order = none) :
    Credited after ∧ KeepsFunding before after := by
  apply step_of_order credited keeps found orders ledger sameMetadata sameAmount
  intro userId funded
  rw [unfunded] at funded
  contradiction

theorem step_of_insert (credited : Credited before) {order : Order}
    (inserted : before.orders.insert? order = some after.orders)
    (ledger : SameLedger before after) (pending : order.status = .pending)
    (positive : 0 < order.amountVnd) : Credited after ∧ KeepsFunding before after := by
  have fresh := Table.fresh_of_insert? inserted
  have rows := Table.rows_of_insert? inserted
  refine ⟨⟨?_, ?_, ?_, ?_⟩, ?_⟩
  · intro row member userId funded
    rw [rows] at member
    rcases List.mem_append.mp member with old | new
    · rw [funding_of_ledger ledger rfl] at funded
      have once := credited.once row old userId funded
      constructor
      · rw [creditRows_of_ledger ledger]
        exact once.paid_iff
      · rw [creditRows_of_ledger ledger]
        exact once.payload
    · obtain rfl := List.mem_singleton.mp new
      -- a row under the key of the new order would belong to an order stored before
      have unused : creditRows after row.id = [] := by
        rw [creditRows_of_ledger ledger, creditRows_eq]
        cases credit : before.walletTransactions.find? (topupKey row.id) with
        | none => rfl
        | some existing =>
            obtain ⟨other, stored⟩ := credited.known row.id existing credit
            rw [fresh] at stored
            contradiction
      constructor <;> simp [unused, pending]
  · intro orderId row found
    rw [ledger.walletTransactions] at found
    obtain ⟨other, stored⟩ := credited.known orderId row found
    rw [Table.find?_insert? inserted]
    split
    · exact ⟨order, rfl⟩
    · exact ⟨other, stored⟩
  · intro row member
    rw [rows] at member
    rcases List.mem_append.mp member with old | new
    · exact credited.positive row old
    · rw [List.mem_singleton.mp new]
      exact positive
  · rw [ledger.users]
    exact credited.solvent
  · intro other member
    have apart : order.id ≠ other.id := by
      intro same
      exact (Table.find?_eq_none_iff ..).mp fresh other member same.symm
    refine ⟨other, ?_, funding_of_ledger ledger rfl, rfl⟩
    rw [Table.find?_insert? inserted, if_neg apart]
    exact Table.find?_of_mem member

theorem step_of_posted (credited : Credited before) {order : Order} {userId txId : String}
    {now : Int} {draws : IngestDraws} {row : WalletTransaction}
    (found : before.orders.find? order.id = some order)
    (funded : fundedUserId before order = some userId)
    (orders : after.orders = before.orders.modify order.id (Order.pay txId now)
      (Order.id_pay txId now))
    (posted : CreditPosted draws before after order userId row) :
    Credited after ∧ KeepsFunding before after := by
  have keyed : row.idempotencyKey = topupKey order.id := posted.keyed
  have users : after.users = before.users.modify userId (Wallet.setBalance row.balanceAfter)
    (Wallet.id_setBalance row.balanceAfter) := posted.users
  have sameFunding (other new : Order) (sameMetadata : new.metadataJson = other.metadataJson) :
      fundedUserId after new = fundedUserId before other := by
    apply fundedUserId_congr sameMetadata
    intro anyId
    rw [users, Table.find?_modify]
    split
    · simp [Option.map_map, Function.comp_def]
    · rfl
  have credits (orderId : String) : creditRows after orderId =
      if order.id = orderId then [row] else creditRows before orderId := by
    have rows := Table.find?_insert? posted.inserted (topupKey orderId)
    rw [creditRows_eq, creditRows_eq, rows, keyed]
    by_cases same : order.id = orderId
    · simp [same]
    · have otherKey : topupKey order.id ≠ topupKey orderId := fun equal =>
        same (topupKey_injective equal)
      simp [same, otherKey]
  refine ⟨⟨?_, ?_, ?_, ?_⟩, ?_⟩
  · intro new member payee fundedNew
    rw [orders] at member
    obtain ⟨other, old, rfl⟩ := (Table.mem_modify_iff ..).mp member
    by_cases target : other.id = order.id
    · have same := before.orders.eq_of_key_eq old (Table.mem_of_find? found) target
      subst same
      rw [if_pos rfl] at fundedNew ⊢
      rw [sameFunding other (other.pay txId now) rfl, funded, Option.some.injEq] at fundedNew
      subst fundedNew
      have shape := posted.payload
      constructor
      · simp [credits, Order.pay]
      · intro entry listed
        rw [Order.id_pay, credits, if_pos rfl, List.mem_singleton] at listed
        subst listed
        exact ⟨shape.2.1, shape.1⟩
    · rw [if_neg target] at fundedNew ⊢
      rw [sameFunding other other rfl] at fundedNew
      have once := credited.once other old payee fundedNew
      have apart : order.id ≠ other.id := fun equal => target equal.symm
      constructor
      · rw [credits, if_neg apart]
        exact once.paid_iff
      · rw [credits, if_neg apart]
        exact once.payload
  · intro orderId entry stored
    have known : ∃ other, before.orders.find? orderId = some other := by
      rw [Table.find?_insert? posted.inserted, keyed] at stored
      split at stored
      · rename_i same
        exact ⟨order, topupKey_injective same ▸ found⟩
      · exact credited.known orderId entry stored
    obtain ⟨other, storedOrder⟩ := known
    rw [orders, Table.find?_modify, storedOrder]
    split
    · exact ⟨_, rfl⟩
    · exact ⟨_, rfl⟩
  · intro new member
    rw [orders] at member
    obtain ⟨other, old, rfl⟩ := (Table.mem_modify_iff ..).mp member
    have positive := credited.positive other old
    split
    · exact positive
    · exact positive
  · intro user member
    rw [users] at member
    obtain ⟨other, old, rfl⟩ := (Table.mem_modify_iff ..).mp member
    split
    · exact posted.solvent
    · exact credited.solvent other old
  · intro other member
    rw [orders, Table.find?_modify, Table.find?_of_mem member]
    split
    · exact ⟨other.pay txId now, rfl, sameFunding other _ rfl, rfl⟩
    · exact ⟨other, rfl, sameFunding other _ rfl, rfl⟩

theorem unused_of_unpaid {order : Order} {userId : String}
    (once : CreditedOnce before order userId) (unpaid : order.status ≠ .paid) :
    before.walletTransactions.find? (topupKey order.id) = none := by
  have none := (not_congr once.paid_iff).mp unpaid
  rw [creditRows_eq] at none
  cases stored : before.walletTransactions.find? (topupKey order.id) with
  | none => rfl
  | some existing => simp [stored] at none

/-- Paying a pending order by an ingestion: the credit is posted with it, unless
the order funds nobody. -/
theorem step_of_payment {bankAccountId : String} {bankTransaction : BankTransaction}
    {draws : IngestDraws} {entered : Database} {order : Order}
    {webhookAttempts : Table WebhookAttempt.id} (credited : Credited before)
    (entry : Entered bankAccountId bankTransaction draws before entered)
    (found : before.orders.find? order.id = some order) (pending : order.status = .pending)
    (quiet : draws.creditRaises = true → fundedUserId before order = none)
    (survives : ¬BreaksIngestion draws before order) :
    let paid := afterMatch draws order (newTransaction bankAccountId bankTransaction draws)
      webhookAttempts entered
    Credited paid ∧ KeepsFunding before paid := by
  intro paid
  have member := Table.mem_of_find? found
  have orders : paid.orders = before.orders.modify order.id (Order.pay draws.txId draws.now)
      (Order.id_pay draws.txId draws.now) := by
    rw [orders_afterMatch, orders_entered entry]
    rfl
  cases funded : fundedUserId before order with
  | none =>
      rcases ledger_of_payment entry order webhookAttempts with
        ledger | ⟨-, userId, row, payee, -⟩
      · exact step_of_unfunded credited (Order.id_pay draws.txId draws.now) found orders ledger
          (fun _ => rfl) (fun _ => rfl) funded
      · rw [funded] at payee
        contradiction
  | some userId =>
      have raises : draws.creditRaises = false := by
        by_contra dropped
        rw [quiet (by simpa using dropped)] at funded
        contradiction
      obtain ⟨-, -, user, known⟩ := (fundedUserId_eq_some_iff ..).mp funded
      have unused := unused_of_unpaid (credited.once order member userId funded)
        (by simp [pending])
      obtain ⟨row, posted⟩ := credit_of_payment entry webhookAttempts raises
        (credited.positive order member) survives funded known
        (credited.solvent user (Table.mem_of_find? known)) unused
      exact step_of_posted credited found funded orders posted

theorem step_of_ingestion {bankAccountId : String} {bankTransaction : BankTransaction}
    {draws : IngestDraws} (credited : Credited before)
    (quiet : CreditsTopups unicode before (.ingest bankAccountId bankTransaction draws))
    (ingestion : Ingestion unicode bankAccountId bankTransaction draws before after) :
    Credited after ∧ KeepsFunding before after := by
  cases ingestion with
  | known existing stored => exact step_of_same credited rfl ⟨rfl, rfl, rfl⟩
  | outgoing entered entry negative =>
      exact step_of_same credited (orders_entered entry) (sameLedger_entered entry)
  | unmatched entered entry positive none =>
      have ledger := sameLedger_entered entry
      have orders := orders_entered entry
      exact step_of_same credited orders
        ⟨ledger.users, ledger.walletTransactions, ledger.bankAccounts⟩
  | ambiguous entered entry positive several =>
      have ledger := sameLedger_entered entry
      have orders := orders_entered entry
      exact step_of_same credited orders
        ⟨ledger.users, ledger.walletTransactions, ledger.bankAccounts⟩
  | matched entered entry positive order unique webhookAttempts enqueued survives =>
      obtain ⟨member, pending, -⟩ := candidate_of_unique unique
      have found := Table.find?_of_mem member
      refine step_of_payment credited entry found pending ?_ survives
      intro raises
      exact quiet raises order ⟨entry.fresh, Table.fresh_of_insert? entry.inserted, positive,
        unique, ⟨webhookAttempts, enqueued⟩, survives⟩

theorem step_credits {op : Op} (credited : Credited before)
    (credits : CreditsTopups unicode before op) (change : Change unicode before op after) :
    Credited after ∧ KeepsFunding before after := by
  cases change with
  | nothing op => exact step_of_same credited rfl ⟨rfl, rfl, rfl⟩
  | topupCreated userId amountVnd ttlSeconds draws after user bank order known bounds configured
      returned allocated =>
      have fresh := PaymentNames.fresh_of_allocated allocated
      have positive : 0 < order.amountVnd := by
        have lower := bounds.1
        rw [fresh.amountVnd]
        simp only [minTopupVnd] at lower ⊢
        omega
      rw [allocated.frame]
      exact step_of_insert credited allocated.inserted ⟨rfl, rfl, rfl⟩ fresh.status positive
  | orderCreated client payload draws after order allocated =>
      have fresh := PaymentNames.fresh_of_allocated allocated
      have positive : 0 < order.amountVnd := by
        rw [fresh.amountVnd]
        exact payload.positive
      rw [allocated.frame]
      exact step_of_insert credited allocated.inserted ⟨rfl, rfl, rfl⟩ fresh.status positive
  | ingested bankAccountId bankTransaction draws after ingestion =>
      exact step_of_ingestion credited credits ingestion
  | canceled op orderId now after order found pending orders transactions ledger =>
      obtain rfl := Table.key_of_find? found
      apply step_of_order credited _ found orders ledger (fun _ => rfl) fun _ => rfl
      intro userId funded
      simp [Order.setStatus, pending]
  | forceMatched orderId txId now order tx found foundTx sameBank =>
      have unfunded := credits order tx found foundTx sameBank
      obtain rfl := Table.key_of_find? found
      refine step_of_order credited (Order.id_pay tx.id now) found rfl ⟨rfl, rfl, rfl⟩
        (fun _ => rfl) (fun _ => rfl) ?_
      intro userId funded
      by_cases paid : order.status = .paid
      · simp [Order.pay, paid]
      · rw [unfunded paid] at funded
        contradiction
  | rejected txId tx foundTx => exact step_of_same credited rfl ⟨rfl, rfl, rfl⟩
  | linked op now order tx found foundTx sameBank cause =>
      unfold linkTransaction
      split
      · rename_i pending
        have unfunded : fundedUserId before order = none := by
          rcases cause with rfl | ⟨rfl, finds⟩
          · exact credits order tx found foundTx sameBank pending
          · exact credits order tx foundTx found finds
        exact step_of_unfunded credited (Order.id_pay tx.id now) found rfl ⟨rfl, rfl, rfl⟩
          (fun _ => rfl) (fun _ => rfl) unfunded
      · exact step_of_same credited rfl ⟨rfl, rfl, rfl⟩
  | confirmed data adminChatId now order found pending target admitted =>
      exact step_of_unfunded credited (Order.id_confirm now) found rfl ⟨rfl, rfl, rfl⟩
        (fun _ => rfl) (fun _ => rfl) (credits order admitted target found pending)
  | refunded txId note actorEmail draws tx order userId row credited foundTx matched found payee
      refund => exact credits.elim
  | expired op now cause =>
      refine step_of_orders_update credited (Reconcile.id_expireIfOverdue now) rfl
        ⟨rfl, rfl, rfl⟩ (fun order => (sameTerms_expire now order).metadataJson)
        (fun order => (sameTerms_expire now order).amountVnd) ?_
      intro order member userId funded
      rcases Reconcile.expireIfOverdue_cases now order with ⟨pending, expires⟩ | same
      · rw [expires]
        simp [Order.setStatus, pending]
      · rw [same]

/-- The operation pays the order and credits its user with it. -/
structure CreditsWithPayment (before after : Database) (order : Order) (userId : String) :
    Prop where
  absent : creditRows before order.id = []
  posted : ∃ row, creditRows after order.id = [row] ∧ row.amountVnd = order.amountVnd ∧
    row.userId = userId

theorem credits_with_payment (credited : Credited before)
    (step : Credited after ∧ KeepsFunding before after) {order row : Order}
    (member : order ∈ before.orders.rows) {userId : String}
    (funded : fundedUserId before order = some userId) (unpaid : order.status ≠ .paid)
    (found : after.orders.find? order.id = some row) (paid : row.status = .paid) :
    CreditsWithPayment before after order userId := by
  obtain ⟨after', keeps⟩ := step
  obtain ⟨other, stored, sameFunding, sameAmount⟩ := keeps order member
  rw [found, Option.some.injEq] at stored
  subst stored
  have sameId := Table.key_of_find? found
  have once := after'.once row (Table.mem_of_find? found) userId (sameFunding.trans funded)
  obtain ⟨credit, single⟩ := List.length_eq_one_iff.mp (once.paid_iff.mp paid)
  constructor
  · rw [creditRows_eq, unused_of_unpaid (credited.once order member userId funded) unpaid]
    rfl
  · have payload := once.payload credit (by simp [single])
    exact ⟨credit, sameId ▸ single, payload.1.trans sameAmount, payload.2⟩

/-- In every run whose payments of funded top-ups go through an undisturbed
ingestion, every paid top-up is credited once, and the credit is committed together
with the payment. -/
theorem paid_topups_credited_once {start db : Database} {ops : List Op}
    (credited : Credited start)
    (run : Run (Guarded (CreditsTopups unicode) (Computed (serve unicode))) start ops db) :
    (∀ order ∈ db.orders.rows, ∀ userId, fundedUserId db order = some userId →
      CreditedOnce db order userId) ∧
    ∀ op, CreditsTopups unicode db op → ∀ order ∈ db.orders.rows, ∀ userId,
      fundedUserId db order = some userId → order.status ≠ .paid →
      ∀ row, (serve unicode db op).orders.find? order.id = some row → row.status = .paid →
        CreditsWithPayment db (serve unicode db op) order userId := by
  have reached : Credited db := by
    apply run.invariant Credited credited
    rintro before op after invariant ⟨credits, rfl⟩
    exact (step_credits invariant credits (change_of_serve unicode before op)).1
  refine ⟨reached.once, ?_⟩
  intro op credits order member userId funded unpaid row found paid
  have step := step_credits reached credits (change_of_serve unicode db op)
  exact credits_with_payment reached step member funded unpaid found paid

theorem credited_shop : Credited shop := by
  constructor
  · simp [shop, Database.empty]
  · intro orderId row found
    simp [shop, Database.empty] at found
  · simp [shop, Database.empty]
  · simp [shop, Database.empty]

theorem paid_topups_credited_once_transfer : ∃ db,
    Run (Guarded (CreditsTopups .ascii) (Computed (serve .ascii))) shop topupOps db ∧
      (∀ order ∈ db.orders.rows, ∀ userId, fundedUserId db order = some userId →
        CreditedOnce db order userId) ∧
      db.orders.rows.map Order.status = [.paid] ∧
      (creditRows db "o1").map WalletTransaction.amountVnd = [50000] := by
  have guarded : Run.Along (CreditsTopups .ascii) (serve .ascii) shop topupOps := by
    refine ⟨trivial, ?_, trivial⟩
    intro raises
    contradiction
  have run := Run.of_guarded guarded
  exact ⟨_, run, (paid_topups_credited_once credited_shop run).1, rfl, rfl⟩

def confirmedOps : List Op := [
  .createTopup "u1" 50000 Topup.topupTtlSeconds (orderDraws "o1" "AA" 0),
  .callback ⟨"c1", "confirm:o1", "42"⟩ (some "42") 1]

/-- A top-up confirmed in the chat is paid and never credited. -/
theorem confirmation_pays_without_credit :
    ¬∀ (unicode : UnicodeData) (start db : Database) (ops : List Op), Credited start →
      (∀ op ∈ ops, ∀ txId note actorEmail draws, op ≠ .refund txId note actorEmail draws) →
      Run (Computed (serve unicode)) start ops db → ∀ order ∈ db.orders.rows, ∀ userId,
        fundedUserId db order = some userId → CreditedOnce db order userId := by
  intro claimed
  have run := Run.of_computed (serve .ascii) shop confirmedOps
  obtain ⟨order, found, funded, paid, uncredited⟩ : ∃ order,
      (confirmedOps.foldl (serve .ascii) shop).orders.find? "o1" = some order ∧
      fundedUserId (confirmedOps.foldl (serve .ascii) shop) order = some "u1" ∧
      order.status = .paid ∧
      creditRows (confirmedOps.foldl (serve .ascii) shop) "o1" = [] := ⟨_, rfl, rfl, rfl, rfl⟩
  have once := claimed .ascii shop _ confirmedOps credited_shop (by simp [confirmedOps]) run order
    (Table.mem_of_find? found) "u1" funded
  have credit := once.paid_iff.mp paid
  rw [Table.key_of_find? found, uncredited] at credit
  contradiction

end ApiBank.Orders.TopupCredit
