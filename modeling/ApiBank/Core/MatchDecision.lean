import ApiBank.Core.Ingest

/-!
# The matching decision

The orders that a transaction can pay, stated as one condition, and the proof that
the query, the window filter and the matcher together single out exactly them. An
ingestion pays the one such order there is, and changes no order otherwise.
-/

namespace ApiBank.Core.MatchDecision

open ApiBank.Db ApiBank.Relational ApiBank.Transition
open Ingest Matcher

set_option autoImplicit false

/-- The transaction can pay the order. -/
structure Eligible (unicode : UnicodeData) (now : Int) (transaction : Transaction)
    (order : Order) : Prop where
  pending : order.status = .pending
  account : order.bankAccountId = transaction.bankAccountId
  amount : order.amountVnd = transaction.amountVnd
  live : now < order.expiredAt.instant
  named : normalizePaymentText unicode order.publicCode <:+:
    normalizePaymentText unicode transaction.content
  window : order.transferContent ≠ none → transaction.timestampReliable ∧
    order.createdAt.instant ≤ transaction.postedAt.instant ∧
    transaction.postedAt.instant < order.expiredAt.instant

variable {unicode : UnicodeData} {bankAccountId : String} {bankTransaction : BankTransaction}
variable {draws : IngestDraws} {before after entered : Database}

theorem mem_fittingOrders_iff (unicode : UnicodeData) (db : Database) (transaction : Transaction)
    (now : Int) (order : Order) :
    order ∈ fittingOrders unicode db transaction now ↔
      order ∈ db.orders.rows ∧ Eligible unicode now transaction order := by
  have window : inWindow transaction order = true ↔ (order.transferContent ≠ none →
      transaction.timestampReliable ∧ order.createdAt.instant ≤ transaction.postedAt.instant ∧
      transaction.postedAt.instant < order.expiredAt.instant) := by
    cases content : order.transferContent <;> simp [inWindow, content, and_assoc]
  have fitsIff : fits unicode now (matchInput transaction) (matchCandidate order) = true ↔
      order.status = .pending ∧ now < order.expiredAt.instant ∧
      order.amountVnd = transaction.amountVnd ∧
      normalizePaymentText unicode order.publicCode <:+:
        normalizePaymentText unicode transaction.content := by
    simp only [fits, Bool.and_eq_true, decide_eq_true_eq, isSubstring_iff, and_assoc]
    simp [matchInput, matchCandidate]
  have queried : order ∈ pendingOrders db transaction ↔ order ∈ db.orders.rows ∧
      order.status = .pending ∧ order.bankAccountId = transaction.bankAccountId ∧
      order.amountVnd = transaction.amountVnd := by
    simp [pendingOrders, and_assoc]
  rw [fittingOrders, candidateOrders, List.mem_filter, List.mem_filter, window, fitsIff, queried]
  constructor
  · rintro ⟨⟨⟨member, pending, account, amount⟩, inside⟩, -, live, -, named⟩
    exact ⟨member, pending, account, amount, live, named, inside⟩
  · rintro ⟨member, eligible⟩
    exact ⟨⟨⟨member, eligible.pending, eligible.account, eligible.amount⟩, eligible.window⟩,
      eligible.pending, eligible.live, eligible.amount, eligible.named⟩

theorem fittingOrders_nodup (unicode : UnicodeData) (db : Database) (transaction : Transaction)
    (now : Int) : (fittingOrders unicode db transaction now).Nodup :=
  ((db.orders.distinct.of_map _).filter _).filter _ |>.filter _

theorem eq_singleton_of_only {Row : Type} {rows : List Row} {row : Row} (member : row ∈ rows)
    (distinct : rows.Nodup) (only : ∀ other ∈ rows, other = row) : rows = [row] := by
  match rows with
  | [] => simp at member
  | [single] => rw [only single (by simp)]
  | first :: second :: rest =>
      have equal : first = second :=
        (only first (by simp)).trans (only second (by simp)).symm
      simp [equal] at distinct

/-- The order is the only one that the transaction can pay. -/
structure Decides (unicode : UnicodeData) (now : Int) (transaction : Transaction)
    (db : Database) (order : Order) : Prop where
  stored : order ∈ db.orders.rows
  eligible : Eligible unicode now transaction order
  only : ∀ other ∈ db.orders.rows, Eligible unicode now transaction other → other = order

theorem fittingOrders_eq_singleton_iff (unicode : UnicodeData) (db : Database)
    (transaction : Transaction) (now : Int) (order : Order) :
    fittingOrders unicode db transaction now = [order] ↔
      Decides unicode now transaction db order := by
  constructor
  · intro unique
    obtain ⟨stored, eligible⟩ := (mem_fittingOrders_iff unicode db transaction now order).mp
      (by simp [unique])
    refine ⟨stored, eligible, ?_⟩
    intro other otherStored otherEligible
    have fitting := (mem_fittingOrders_iff unicode db transaction now other).mpr
      ⟨otherStored, otherEligible⟩
    simpa [unique] using fitting
  · intro decides
    have fitting := (mem_fittingOrders_iff unicode db transaction now order).mpr
      ⟨decides.stored, decides.eligible⟩
    have same : ∀ other ∈ fittingOrders unicode db transaction now, other = order := by
      intro other otherFitting
      obtain ⟨stored, eligible⟩ := (mem_fittingOrders_iff ..).mp otherFitting
      exact decides.only other stored eligible
    exact eq_singleton_of_only fitting (fittingOrders_nodup unicode db transaction now) same

theorem several_fittingOrders {transaction : Transaction} {now : Int} {first second : Order}
    (firstStored : first ∈ before.orders.rows) (secondStored : second ∈ before.orders.rows)
    (firstEligible : Eligible unicode now transaction first)
    (secondEligible : Eligible unicode now transaction second) (different : first ≠ second) :
    2 ≤ (fittingOrders unicode before transaction now).length := by
  have firstFits := (mem_fittingOrders_iff ..).mpr ⟨firstStored, firstEligible⟩
  have secondFits := (mem_fittingOrders_iff ..).mpr ⟨secondStored, secondEligible⟩
  rcases fitting_cases (fittingOrders unicode before transaction now) with
    none | ⟨only, single⟩ | several
  · simp [none] at firstFits
  · rw [single, List.mem_singleton] at firstFits secondFits
    exact absurd (firstFits.trans secondFits.symm) different
  · exact several

/-- The tokens drawn for the new rows are unused and differ from each other. -/
structure FreshDraws (draws : IngestDraws) (db : Database) : Prop where
  transaction : db.transactions.find? draws.txId = none
  attempts : ∀ webhook ∈ db.webhooks.rows,
    db.webhookAttempts.find? (draws.attemptId webhook.id) = none
  distinct : ∀ first ∈ db.webhooks.rows, ∀ second ∈ db.webhooks.rows,
    draws.attemptId first.id = draws.attemptId second.id → first.id = second.id

theorem attempts_enqueued (fresh : FreshDraws draws before) (order : Order)
    (transaction : Transaction) :
    ∃ webhookAttempts, before.webhookAttempts.insertAll?
      (newAttempts before order transaction draws) = some webhookAttempts := by
  apply Table.insertAll?_of_fresh
  · intro attempt member
    obtain ⟨webhook, active, rfl⟩ := List.mem_map.mp member
    exact fresh.attempts webhook (List.mem_of_mem_filter active)
  · rw [newAttempts, List.map_map]
    apply List.Nodup.map_on
    · intro first firstActive second secondActive same
      have firstStored := List.mem_of_mem_filter firstActive
      have secondStored := List.mem_of_mem_filter secondActive
      exact before.webhooks.eq_of_key_eq firstStored secondStored
        (fresh.distinct first firstStored second secondStored same)
    · exact (before.webhooks.distinct.of_map _).filter _

theorem find_entered (entry : Entered bankAccountId bankTransaction draws before entered) :
    entered.transactions.find? draws.txId =
      some (newTransaction bankAccountId bankTransaction draws) := by
  rw [Table.find?_insert? entry.inserted]
  exact if_pos rfl

theorem orders_entered (entry : Entered bankAccountId bankTransaction draws before entered) :
    entered.orders = before.orders := by
  rw [entry.frame]

theorem orders_afterMatch (order : Order) (transaction : Transaction)
    (webhookAttempts : Table WebhookAttempt.id) (entered : Database) :
    (afterMatch draws order transaction webhookAttempts entered).orders =
      entered.orders.modify order.id (Order.pay transaction.id draws.now)
        (Order.id_pay transaction.id draws.now) := by
  unfold afterMatch
  rw [creditedState_frame]
  rfl

theorem transactions_afterMatch (order : Order) (transaction : Transaction)
    (webhookAttempts : Table WebhookAttempt.id) (entered : Database) :
    (afterMatch draws order transaction webhookAttempts entered).transactions =
      entered.transactions.modify transaction.id (Transaction.assign order.id)
        (Transaction.id_assign order.id) := by
  unfold afterMatch
  rw [creditedState_frame]
  rfl

theorem bankAccounts_afterMatch (order : Order) (transaction : Transaction)
    (webhookAttempts : Table WebhookAttempt.id) (entered : Database) :
    (afterMatch draws order transaction webhookAttempts entered).bankAccounts =
      entered.bankAccounts := by
  unfold afterMatch
  rw [creditedState_frame]
  rfl

theorem find_setState (entry : Entered bankAccountId bankTransaction draws before entered)
    (state : TransactionState) :
    (entered.modifyTransaction draws.txId (.setState state)
        (Transaction.id_setState state)).transactions.find?
        draws.txId =
      some ((newTransaction bankAccountId bankTransaction draws).setState state) := by
  simp only [Database.modifyTransaction, Table.find?_modify, find_entered entry, if_true,
    Option.map_some]

theorem find_assigned (entry : Entered bankAccountId bankTransaction draws before entered)
    (order : Order) (webhookAttempts : Table WebhookAttempt.id) :
    (afterMatch draws order (newTransaction bankAccountId bankTransaction draws) webhookAttempts
        entered).transactions.find? draws.txId =
      some ((newTransaction bankAccountId bankTransaction draws).assign order.id) := by
  rw [transactions_afterMatch, Table.find?_modify, find_entered entry]
  exact if_pos rfl

/-- The ingestion returns with this order paid: the transaction is new and comes in,
the order is the one that fits, no token is taken, and no credit breaks the session. -/
structure Pays (unicode : UnicodeData) (bankAccountId : String)
    (bankTransaction : BankTransaction) (draws : IngestDraws) (before : Database)
    (order : Order) : Prop where
  new : storedTransaction before bankAccountId bankTransaction.bankRefNo = none
  unused : before.transactions.find? draws.txId = none
  positive : 0 < bankTransaction.amount
  unique : fittingOrders unicode before (newTransaction bankAccountId bankTransaction draws)
    draws.now = [order]
  enqueued : ∃ webhookAttempts, before.webhookAttempts.insertAll? (newAttempts before
    (order.pay draws.txId draws.now) (newTransaction bankAccountId bankTransaction draws)
    draws) = some webhookAttempts
  survives : ¬BreaksIngestion draws before order

/-- The credit of the order that the transaction pays, if it pays one, is no statement that
the database refuses. -/
def Survives (unicode : UnicodeData) (bankAccountId : String)
    (bankTransaction : BankTransaction) (draws : IngestDraws) (before : Database) : Prop :=
  0 < bankTransaction.amount → ∀ order, Decides unicode draws.now
    (newTransaction bankAccountId bankTransaction draws) before order →
      ¬BreaksIngestion draws before order

theorem transaction_stored
    (new : storedTransaction before bankAccountId bankTransaction.bankRefNo = none)
    (ingestion : Ingestion unicode bankAccountId bankTransaction draws before after) :
    ∃ row, after.transactions.find? draws.txId = some row := by
  cases ingestion with
  | known existing stored => simp [new] at stored
  | outgoing entered entry negative => exact ⟨_, find_entered entry⟩
  | unmatched entered entry positive none => exact ⟨_, find_setState entry .unmatched⟩
  | ambiguous entered entry positive several => exact ⟨_, find_setState entry .review⟩
  | matched entered entry positive order unique webhookAttempts enqueued =>
      exact ⟨_, find_assigned entry order webhookAttempts⟩

theorem breaks_entered {order : Order}
    (entry : Entered bankAccountId bankTransaction draws before entered) :
    BreaksIngestion draws entered order ↔ BreaksIngestion draws before order := by
  rw [entry.frame]
  rfl

theorem matchIncoming_returns (unicode : UnicodeData) (fresh : FreshDraws draws before)
    (entry : Entered bankAccountId bankTransaction draws before entered)
    (survives : Survives unicode bankAccountId bankTransaction draws before) :
    ∃ outcome after, matchIncoming unicode (newTransaction bankAccountId bankTransaction draws)
      draws entered = .ok outcome after := by
  unfold matchIncoming
  split
  · rename_i positive
    have same := fitting_entered unicode entry
      (newTransaction bankAccountId bankTransaction draws) draws.now
    rcases fitting_cases (fittingOrders unicode before
      (newTransaction bankAccountId bankTransaction draws) draws.now) with
      none | ⟨order, unique⟩ | several
    · exact ⟨_, _, tryMatch_of_none (same.trans none)⟩
    · have decides := (fittingOrders_eq_singleton_iff ..).mp unique
      have usable : ¬BreaksIngestion draws entered order := fun breaks =>
        survives positive order decides ((breaks_entered entry).mp breaks)
      have matched := tryMatch_of_unique (same.trans unique) usable
      obtain ⟨webhookAttempts, enqueued⟩ := attempts_enqueued fresh
        (order.pay (newTransaction bankAccountId bankTransaction draws).id draws.now)
        (newTransaction bankAccountId bankTransaction draws)
      have sameAttempts : entered.webhookAttempts.insertAll? (newAttempts entered
          (order.pay (newTransaction bankAccountId bankTransaction draws).id draws.now)
          (newTransaction bankAccountId bankTransaction draws) draws) = some webhookAttempts := by
        rw [entry.frame]
        exact enqueued
      rw [sameAttempts] at matched
      exact ⟨_, _, matched⟩
    · exact ⟨_, _, tryMatch_of_several (same ▸ several)⟩
  · exact ⟨_, _, rfl⟩

theorem ingestTransaction_returns (fresh : FreshDraws draws before)
    (new : storedTransaction before bankAccountId bankTransaction.bankRefNo = none)
    (survives : Survives unicode bankAccountId bankTransaction draws before) :
    ∃ ingested after, ingestTransaction unicode bankAccountId bankTransaction draws before =
        .ok ingested after ∧
      after.transactions.find? draws.txId = some ingested.transaction := by
  obtain ⟨transactions, inserted⟩ : ∃ rows, before.transactions.insert?
      (newTransaction bankAccountId bankTransaction draws) = some rows :=
    Table.insert?_of_fresh fresh.transaction
  have entry : Entered bankAccountId bankTransaction draws before
      { before with transactions } := ⟨new, inserted, rfl⟩
  obtain ⟨outcome, after, matching⟩ := matchIncoming_returns unicode fresh entry survives
  obtain ⟨row, found⟩ := transaction_stored new (matchIncoming_ok entry matching)
  have stored : insertTransaction (newTransaction bankAccountId bankTransaction draws) before =
      .ok () { before with transactions } := (insertTransaction_ok_iff ..).mpr ⟨inserted, rfl⟩
  have reloaded : fetch (fun db => db.transactions.find?
      (newTransaction bankAccountId bankTransaction draws).id) .stopIteration after =
      .ok row after := (fetch_ok_iff ..).mpr ⟨found, rfl⟩
  refine ⟨⟨row, outcome.1, outcome.2⟩, after, ?_, found⟩
  simp [ingestTransaction, bind, EStateM.bind, new, stored, matching, reloaded]

def BecomesPaid (after : Database) (order : Order) : Prop :=
  order.status ≠ .paid ∧
    ∃ row, after.orders.find? order.id = some row ∧ row.status = .paid

/-- The decision about a new transaction, in terms of the orders it can pay. -/
structure Decided (unicode : UnicodeData) (now : Int) (transaction : Transaction)
    (before after : Database) : Prop where
  paid_iff : ∀ order ∈ before.orders.rows, BecomesPaid after order ↔
    0 < transaction.amountVnd ∧ Decides unicode now transaction before order
  paid : ∀ order, 0 < transaction.amountVnd → Decides unicode now transaction before order →
    after.orders.find? order.id = some (order.pay transaction.id now) ∧
      after.transactions.find? transaction.id = some (transaction.assign order.id)
  several : ∀ first ∈ before.orders.rows, ∀ second ∈ before.orders.rows, first ≠ second →
    0 < transaction.amountVnd → Eligible unicode now transaction first →
    Eligible unicode now transaction second → after.orders = before.orders ∧
      after.transactions.find? transaction.id = some (transaction.setState .review)
  none : 0 < transaction.amountVnd →
    (∀ order ∈ before.orders.rows, ¬Eligible unicode now transaction order) →
    after.orders = before.orders ∧
      after.transactions.find? transaction.id = some (transaction.setState .unmatched)
  outgoing : transaction.amountVnd < 0 → after.orders = before.orders ∧
    after.transactions.find? transaction.id = some (transaction.setState .new)
  others : ∀ order ∈ before.orders.rows,
    ¬(0 < transaction.amountVnd ∧ Decides unicode now transaction before order) →
    after.orders.find? order.id = some order
  sameOrders : after.orders.rows.map Order.id = before.orders.rows.map Order.id

/-- An ingestion that changes no order decides as claimed when nothing decides. -/
theorem decided_unchanged {transaction : Transaction} {now : Int} (state : TransactionState)
    (sameOrders : after.orders = before.orders)
    (undecided : ∀ order, 0 < transaction.amountVnd →
      ¬Decides unicode now transaction before order)
    (stored : after.transactions.find? transaction.id = some (transaction.setState state))
    (several : state ≠ .review → 0 < transaction.amountVnd →
      (fittingOrders unicode before transaction now).length < 2)
    (none : state ≠ .unmatched → 0 < transaction.amountVnd →
      fittingOrders unicode before transaction now ≠ [])
    (outgoing : state ≠ .new → 0 < transaction.amountVnd) :
    Decided unicode now transaction before after where
  paid_iff := by
    intro order member
    constructor
    · rintro ⟨unpaid, row, found, paid⟩
      rw [sameOrders, Table.find?_of_mem member, Option.some.injEq] at found
      exact absurd (found ▸ paid) unpaid
    · rintro ⟨positive, decides⟩
      exact absurd decides (undecided order positive)
  paid := fun order positive decides => absurd decides (undecided order positive)
  several := by
    intro first firstStored second secondStored different positive firstEligible secondEligible
    have length := several_fittingOrders firstStored secondStored firstEligible secondEligible
      different
    have review : state = .review := by
      by_contra other
      have := several other positive
      omega
    exact ⟨sameOrders, review ▸ stored⟩
  none := by
    intro positive ineligible
    have empty : fittingOrders unicode before transaction now = [] := by
      apply List.eq_nil_iff_forall_not_mem.mpr
      intro order fitting
      obtain ⟨member, eligible⟩ := (mem_fittingOrders_iff ..).mp fitting
      exact ineligible order member eligible
    have unmatched : state = .unmatched := by
      by_contra other
      exact none other positive empty
    exact ⟨sameOrders, unmatched ▸ stored⟩
  outgoing := by
    intro negative
    have new : state = .new := by
      by_contra other
      have := outgoing other
      omega
    exact ⟨sameOrders, new ▸ stored⟩
  others := by
    intro order member _
    rw [sameOrders]
    exact Table.find?_of_mem member
  sameOrders := by rw [sameOrders]

theorem decided_matched {transaction : Transaction} {now : Int} {order : Order}
    (positive : 0 < transaction.amountVnd)
    (decides : Decides unicode now transaction before order)
    (changed : after.orders =
      before.orders.modify order.id (Order.pay transaction.id now) (Order.id_pay transaction.id now))
    (stored : after.transactions.find? transaction.id = some (transaction.assign order.id)) :
    Decided unicode now transaction before after := by
  have self : after.orders.find? order.id = some (order.pay transaction.id now) := by
    rw [changed, Table.find?_modify, Table.find?_of_mem decides.stored]
    exact if_pos rfl
  have unchanged (other : Order) (member : other ∈ before.orders.rows)
      (different : other ≠ order) : after.orders.find? other.id = some other := by
    have apart : other.id ≠ order.id := fun equal =>
      different (before.orders.eq_of_key_eq member decides.stored equal)
    rw [changed, Table.find?_modify, Table.find?_of_mem member, if_neg apart]
  have only (other : Order) (otherDecides : Decides unicode now transaction before other) :
      other = order := decides.only other otherDecides.stored otherDecides.eligible
  constructor
  · intro other member
    by_cases same : other = order
    · subst same
      have unpaid : other.status ≠ .paid := by simp [decides.eligible.pending]
      exact ⟨fun _ => ⟨positive, decides⟩, fun _ => ⟨unpaid, _, self, rfl⟩⟩
    · constructor
      · rintro ⟨unpaid, row, found, paid⟩
        rw [unchanged other member same, Option.some.injEq] at found
        exact absurd (found ▸ paid) unpaid
      · rintro ⟨-, otherDecides⟩
        exact absurd (only other otherDecides) same
  · intro other _ otherDecides
    obtain rfl := only other otherDecides
    exact ⟨self, stored⟩
  · intro first firstStored second secondStored different _ firstEligible secondEligible
    have firstSame := decides.only first firstStored firstEligible
    have secondSame := decides.only second secondStored secondEligible
    exact absurd (firstSame.trans secondSame.symm) different
  · intro _ ineligible
    exact absurd decides.eligible (ineligible order decides.stored)
  · intro negative
    omega
  · intro other member undecided
    apply unchanged other member
    rintro rfl
    exact undecided ⟨positive, decides⟩
  · rw [changed]
    exact before.orders.keys_modify ..

theorem decided_of_ingestion
    (new : storedTransaction before bankAccountId bankTransaction.bankRefNo = none)
    (ingestion : Ingestion unicode bankAccountId bankTransaction draws before after) :
    Decided unicode draws.now (newTransaction bankAccountId bankTransaction draws) before
      after := by
  cases ingestion with
  | known existing stored => simp [new] at stored
  | outgoing entered entry negative =>
      have notPositive : ¬0 < (newTransaction bankAccountId bankTransaction draws).amountVnd :=
        fun positive => absurd positive (Int.not_lt.mpr (Int.le_of_lt negative))
      exact decided_unchanged .new (orders_entered entry)
        (fun order positive => absurd positive notPositive) (find_entered entry)
        (fun _ positive => absurd positive notPositive)
        (fun _ positive => absurd positive notPositive) (fun other => absurd rfl other)
  | unmatched entered entry positive none =>
      have undecided (order : Order) : ¬Decides unicode draws.now
          (newTransaction bankAccountId bankTransaction draws) before order := by
        intro decides
        have unique := (fittingOrders_eq_singleton_iff ..).mpr decides
        simp [none] at unique
      exact decided_unchanged .unmatched (by simp [orders_entered entry])
        (fun order _ => undecided order) (find_setState entry .unmatched)
        (fun _ _ => by simp [none]) (fun other => absurd rfl other) (fun _ => positive)
  | ambiguous entered entry positive several =>
      have undecided (order : Order) : ¬Decides unicode draws.now
          (newTransaction bankAccountId bankTransaction draws) before order := by
        intro decides
        have unique := (fittingOrders_eq_singleton_iff ..).mpr decides
        simp [unique] at several
      exact decided_unchanged .review (by simp [orders_entered entry])
        (fun order _ => undecided order) (find_setState entry .review)
        (fun other => absurd rfl other) (fun _ _ none => by simp [none] at several)
        (fun _ => positive)
  | matched entered entry positive order unique webhookAttempts enqueued =>
      have decides := (fittingOrders_eq_singleton_iff ..).mp unique
      have stored := find_assigned entry order webhookAttempts
      exact decided_matched positive decides
        (by rw [orders_afterMatch, orders_entered entry]) stored

def namedOrder : Order where
  id := "o1"
  code := "PAY01"
  transferContent := some "LE VAN AN chuyen tien"
  amountVnd := 100000
  status := .pending
  bankAccountId := "b1"
  userId := none
  expiredAt := .utc 900
  paidTxId := none
  paidAt := none
  customerRef := none
  metadataJson := []
  createdAt := .utc 0
  updatedAt := .utc 0

def oneOrder : Database := { Database.empty with orders := ⟨[namedOrder], by decide⟩ }

def transfer : BankTransaction where
  bankRefNo := "FT1"
  postedAt := .utc 5
  amount := 100000
  content := "MBVCB.LE-VAN-AN CHUYEN TIEN.CT"
  timestampReliable := true
  nonzero := by decide
  referenced := by decide

def transferDraws : IngestDraws := ⟨"t1", "w1", id, 10, false⟩

end ApiBank.Core.MatchDecision
