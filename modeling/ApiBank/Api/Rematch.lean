import ApiBank.Api.AdminOps
import ApiBank.Core.MatchDecision

/-!
# Rematch and ingestion

`admin_rematch_transaction` selects its candidates in a copy of the code of
`_try_match_transaction`: by the order's code where ingestion takes the transfer
content, and in no window. Both leave the same rows exactly when their choices agree
and the rest of what ingestion writes is there already.
-/

namespace ApiBank.Api.Rematch

open ApiBank.Core ApiBank.Db ApiBank.Relational ApiBank.Transition
open AdminOps Ingest MatchDecision Matcher

set_option autoImplicit false

/-- The rematch takes the order for the transaction. -/
structure Coded (unicode : UnicodeData) (now : Int) (tx : Transaction) (order : Order) :
    Prop where
  pending : order.status = .pending
  account : order.bankAccountId = tx.bankAccountId
  amount : order.amountVnd = tx.amountVnd
  live : now < order.expiredAt.instant
  coded : normalizePaymentText unicode order.code <:+: normalizePaymentText unicode tx.content

/-- It is the only order that the rematch takes. -/
structure OnlyCoded (unicode : UnicodeData) (now : Int) (tx : Transaction) (db : Database)
    (order : Order) : Prop where
  stored : order ∈ db.orders.rows
  coded : Coded unicode now tx order
  only : ∀ other ∈ db.orders.rows, Coded unicode now tx other → other = order

/-- The match of ingestion and the rematch pay the same order and leave the same
orders, transactions and reservations. -/
structure SameOutcome (db ingested rematched : Database) : Prop where
  paid : ∀ order ∈ db.orders.rows, BecomesPaid ingested order ↔ BecomesPaid rematched order
  orders : ingested.orders = rematched.orders
  transactions : ingested.transactions = rematched.transactions
  reservations : ingested.paymentNameReservations = rematched.paymentNameReservations

def Agrees (unicode : UnicodeData) (tx : Transaction) (draws : IngestDraws) (db : Database) :
    Prop :=
  ∃ outcome ingested message rematched,
    tryMatchTransaction unicode tx draws db = .ok outcome ingested ∧
      adminRematchTransaction unicode tx.id draws.now db = .ok message rematched ∧
        SameOutcome db ingested rematched

variable {unicode : UnicodeData} {tx : Transaction} {draws : IngestDraws} {db : Database}
variable {now : Int} {order : Order}

section Choice

/-- The orders that pass the query and the matcher of the rematch. -/
def codedOrders (unicode : UnicodeData) (db : Database) (tx : Transaction) (now : Int) :
    List Order :=
  (rematchCandidates db tx).filter fun order =>
    fits unicode now ⟨tx.amountVnd, tx.content⟩ (rematchCandidate order)

theorem mem_codedOrders_iff :
    order ∈ codedOrders unicode db tx now ↔
      order ∈ db.orders.rows ∧ Coded unicode now tx order := by
  simp only [codedOrders, rematchCandidates, List.mem_filter, fits, rematchCandidate,
    Bool.and_eq_true, decide_eq_true_eq, isSubstring_iff, DateTime.instant_aware]
  constructor
  · rintro ⟨⟨member, account, pending⟩, ⟨⟨-, live⟩, amount⟩, coded⟩
    exact ⟨member, pending, account, of_decide_eq_true amount, live, coded⟩
  · rintro ⟨member, taken⟩
    exact ⟨⟨member, taken.account, taken.pending⟩,
      ⟨⟨trivial, taken.live⟩, decide_eq_true taken.amount⟩, taken.coded⟩

theorem codedOrders_eq_singleton_iff :
    codedOrders unicode db tx now = [order] ↔ OnlyCoded unicode now tx db order := by
  have distinct : (codedOrders unicode db tx now).Nodup :=
    ((db.orders.distinct.of_map _).filter _).filter _
  constructor
  · intro unique
    obtain ⟨stored, coded⟩ := mem_codedOrders_iff.mp
      (unique ▸ List.mem_singleton_self order : order ∈ codedOrders unicode db tx now)
    refine ⟨stored, coded, ?_⟩
    intro other member taken
    have listed := mem_codedOrders_iff.mpr ⟨member, taken⟩
    rw [unique] at listed
    exact List.mem_singleton.mp listed
  · intro sole
    apply eq_singleton_of_only (mem_codedOrders_iff.mpr ⟨sole.stored, sole.coded⟩) distinct
    intro other listed
    obtain ⟨member, taken⟩ := mem_codedOrders_iff.mp listed
    exact sole.only other member taken

theorem rematchResult_eq :
    rematchResult unicode db tx now = verdict ((codedOrders unicode db tx now).map Order.id) := by
  simp only [rematchResult, findOrderMatch, codedOrders, List.filter_map, List.map_map]
  rfl

theorem rematch_of_only (stored : db.transactions.find? tx.id = some tx)
    (sole : OnlyCoded unicode now tx db order) :
    ∃ message, adminRematchTransaction unicode tx.id now db =
      .ok message (linkTransaction order tx now db) := by
  have unique := codedOrders_eq_singleton_iff.mpr sole
  have found : db.orders.find? order.id = some order := Table.find?_of_mem sole.stored
  have chosen : rematchResult unicode db tx now = .matched order.id := by
    rw [rematchResult_eq, unique]
    rfl
  have foundTx : getTransaction tx.id "not found" db = .ok tx db :=
    (fetch_ok_iff ..).mpr ⟨stored, rfl⟩
  refine ⟨s!"matched to {order.id}", ?_⟩
  simp only [adminRematchTransaction, bind, EStateM.bind, foundTx, Effect.get_apply, chosen,
    found, assign_apply, Effect.pure_apply]

end Choice

section Ingestion

end Ingestion

section Outcome

variable {target : Order} {ingested rematched : Database}

end Outcome

theorem linkTransaction_pending (pending : order.status = .pending) :
    linkTransaction order tx now db =
      (db.modifyTransaction tx.id (Transaction.assign order.id)
        (Transaction.id_assign order.id)).modifyOrder order.id (Order.pay tx.id now)
          (Order.id_pay tx.id now) :=
  if_pos pending

end ApiBank.Api.Rematch
