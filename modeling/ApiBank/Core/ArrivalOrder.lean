import ApiBank.Core.Polling
import ApiBank.Core.SameButIds
import ApiBank.Transition.Run

/-!
# The order in which transfers arrive

An ingestion pays at most one order, and a paid order fits no later transfer. As long as
no transfer can pay two of the orders, the orders that end paid are those that some
transfer of the list can pay, and nothing in that depends on the order of the list. But a
top-up whose credit the database refuses is not paid, and its transfer is not ingested.
-/

namespace ApiBank.Core.ArrivalOrder

open ApiBank.Db ApiBank.Relational ApiBank.Transition
open Ingest MatchDecision Polling SameButIds

set_option autoImplicit false

/-- The transfer brings money in and passes the filters for the order, whatever ids are
drawn for it. -/
def CanPay (feed : Feed) (order : Order) (arrival : BankTransaction) : Prop :=
  0 < arrival.amount ∧ ∀ draws : IngestDraws,
    Eligible feed.unicode feed.now (newTransaction feed.bankAccountId arrival draws) order

/-- No transfer is stored yet, and a reference stands for one transfer. -/
structure NewTransfers (feed : Feed) (arrivals : List BankTransaction) (db : Database) :
    Prop where
  unstored : ∀ arrival ∈ arrivals,
    storedTransaction db feed.bankAccountId arrival.bankRefNo = none
  referenced : ∀ first ∈ arrivals, ∀ second ∈ arrivals,
    first.bankRefNo = second.bankRefNo → first = second

/-- The generated ids are unused, and differ from each other. -/
structure FreshTokens (tokens : String → Tokens) (arrivals : List BankTransaction)
    (db : Database) : Prop where
  transaction : ∀ arrival ∈ arrivals,
    db.transactions.find? (tokens arrival.bankRefNo).txId = none
  transactions : ∀ first ∈ arrivals, ∀ second ∈ arrivals,
    (tokens first.bankRefNo).txId = (tokens second.bankRefNo).txId →
      first.bankRefNo = second.bankRefNo
  attempt : ∀ arrival ∈ arrivals, ∀ webhook ∈ db.webhooks.rows,
    db.webhookAttempts.find? ((tokens arrival.bankRefNo).attemptId webhook.id) = none
  attempts : ∀ first ∈ arrivals, ∀ second ∈ arrivals,
    ∀ webhook ∈ db.webhooks.rows, ∀ other ∈ db.webhooks.rows,
      (tokens first.bankRefNo).attemptId webhook.id =
          (tokens second.bankRefNo).attemptId other.id →
        first.bankRefNo = second.bankRefNo ∧ webhook.id = other.id

/-- Every transfer that was taken is stored, and every row more has the ids that were
drawn for one of them. -/
structure Grown (bankAccountId : String) (tokens : String → Tokens) (start : Database)
    (taken : List BankTransaction) (db : Database) : Prop where
  stored : ∀ arrival ∈ taken,
    (storedTransaction db bankAccountId arrival.bankRefNo).isSome = true
  transactions : ∀ row ∈ db.transactions.rows, row ∈ start.transactions.rows ∨
    ∃ arrival ∈ taken, row.id = (tokens arrival.bankRefNo).txId
  webhooks : db.webhooks = start.webhooks
  attempts : ∀ row ∈ db.webhookAttempts.rows, row ∈ start.webhookAttempts.rows ∨
    ∃ arrival ∈ taken, ∃ webhook ∈ start.webhooks.rows,
      row.id = (tokens arrival.bankRefNo).attemptId webhook.id

def AtMostOne (feed : Feed) (arrivals : List BankTransaction) (db : Database) : Prop :=
  ∀ arrival ∈ arrivals, ∀ first ∈ db.orders.rows, ∀ second ∈ db.orders.rows,
    CanPay feed first arrival → CanPay feed second arrival → first = second

section Arriving

variable (unicode : Core.Matcher.UnicodeData) (bankAccountId : String)
variable (draws : String → IngestDraws)

/-- One call, which commits when it returns. -/
def arrive (db : Database) (arrival : BankTransaction) : Database :=
  Effect.commit (ingestTransaction unicode bankAccountId arrival (draws arrival.bankRefNo)) db

/-- The transfer is known, or the database takes the credit of the order that it decides. -/
def CreditTaken (db : Database) (arrival : BankTransaction) : Prop :=
  storedTransaction db bankAccountId arrival.bankRefNo = none →
    Survives unicode bankAccountId arrival (draws arrival.bankRefNo) db

def CreditsTaken (db : Database) (arrivals : List BankTransaction) : Prop :=
  Run.Along (CreditTaken unicode bankAccountId draws) (arrive unicode bankAccountId draws) db
    arrivals

end Arriving

def drawsOf (feed : Feed) (tokens : String → Tokens) (bankRefNo : String) : IngestDraws :=
  feed.draws bankRefNo (tokens bankRefNo)

/-- After some of the transfers: the orders they can pay are paid and the others are as
they were, and every row more comes from one of them. -/
structure Progress (feed : Feed) (tokens : String → Tokens) (start : Database)
    (taken : List BankTransaction) (db : Database) : Prop where
  paid : ∀ order ∈ start.orders.rows, (∃ arrival ∈ taken, CanPay feed order arrival) →
    ∃ row, db.orders.find? order.id = some row ∧ row.status = .paid
  waiting : ∀ order ∈ start.orders.rows, (¬∃ arrival ∈ taken, CanPay feed order arrival) →
    db.orders.find? order.id = some order
  orderIds : db.orders.rows.map Order.id = start.orders.rows.map Order.id
  stored : ∀ arrival ∈ taken,
    (storedTransaction db feed.bankAccountId arrival.bankRefNo).isSome = true
  references : ∀ bankRefNo, (storedTransaction db feed.bankAccountId bankRefNo).isSome = true →
    (storedTransaction start feed.bankAccountId bankRefNo).isSome = true ∨
      ∃ arrival ∈ taken, arrival.bankRefNo = bankRefNo
  transactions : ∀ row ∈ db.transactions.rows, row ∈ start.transactions.rows ∨
    ∃ arrival ∈ taken, row.id = (tokens arrival.bankRefNo).txId
  webhooks : db.webhooks = start.webhooks
  attempts : ∀ row ∈ db.webhookAttempts.rows, row ∈ start.webhookAttempts.rows ∨
    ∃ arrival ∈ taken, ∃ webhook ∈ start.webhooks.rows,
      row.id = (tokens arrival.bankRefNo).attemptId webhook.id

variable {feed : Feed} {tokens : String → Tokens} {start before after : Database}
  {arrivals taken remaining : List BankTransaction} {arrival : BankTransaction}

theorem canPay_iff (draws : IngestDraws) (order : Order) : CanPay feed order arrival ↔
    0 < arrival.amount ∧ Eligible feed.unicode feed.now
      (newTransaction feed.bankAccountId arrival draws) order := by
  refine and_congr_right fun _ => ⟨fun every => every draws, fun eligible other => ?_⟩
  exact ⟨eligible.pending, eligible.account, eligible.amount, eligible.live, eligible.named,
    eligible.window⟩

section Rows

variable {unicode : Core.Matcher.UnicodeData} {bankAccountId : String} {draws : IngestDraws}

theorem webhooks_of_ingestion
    (ingestion : Ingestion unicode bankAccountId arrival draws before after) :
    after.webhooks = before.webhooks := by
  cases ingestion with
  | known existing stored => rfl
  | outgoing entered entry negative => rw [entry.frame]
  | unmatched entered entry positive none => rw [frame_filed entry]
  | ambiguous entered entry positive several => rw [frame_filed entry]
  | matched entered entry positive order unique webhookAttempts enqueued =>
      rw [afterMatch, creditedState_frame, entry.frame]
      rfl

theorem attempts_of_ingestion
    (ingestion : Ingestion unicode bankAccountId arrival draws before after) :
    ∀ row ∈ after.webhookAttempts.rows, row ∈ before.webhookAttempts.rows ∨
      ∃ webhook ∈ before.webhooks.rows, row.id = draws.attemptId webhook.id := by
  intro row member
  cases ingestion with
  | known existing stored => exact .inl member
  | outgoing entered entry negative =>
      rw [entry.frame] at member
      exact .inl member
  | unmatched entered entry positive none =>
      rw [frame_filed entry] at member
      exact .inl member
  | ambiguous entered entry positive several =>
      rw [frame_filed entry] at member
      exact .inl member
  | matched entered entry positive order unique webhookAttempts enqueued =>
      have listed : row ∈ webhookAttempts.rows := member
      rw [Table.rows_of_insertAll? enqueued] at listed
      rcases List.mem_append.mp listed with old | new
      · exact .inl old
      · obtain ⟨webhook, active, rfl⟩ := List.mem_map.mp new
        exact .inr ⟨webhook, List.mem_of_mem_filter active, rfl⟩

variable {row : Transaction}

/-- The tokens of the next transfer are unused still. -/
theorem Grown.fresh (grown : Grown bankAccountId tokens start taken before)
    (fresh : FreshTokens tokens arrivals start) (listed : arrival ∈ arrivals)
    (inside : ∀ other ∈ taken, other ∈ arrivals)
    (new : storedTransaction before bankAccountId arrival.bankRefNo = none)
    (txId : draws.txId = (tokens arrival.bankRefNo).txId)
    (attemptId : draws.attemptId = (tokens arrival.bankRefNo).attemptId) :
    FreshDraws draws before := by
  have untaken : ∀ other ∈ taken, other.bankRefNo ≠ arrival.bankRefNo := by
    intro other before same
    have present := grown.stored other before
    rw [same, new] at present
    cases present
  refine ⟨?_, ?_, ?_⟩
  · refine (Table.find?_eq_none_iff ..).mpr fun row member same => ?_
    rw [txId] at same
    rcases grown.transactions row member with old | ⟨other, before, drawn⟩
    · exact (Table.find?_eq_none_iff ..).mp (fresh.transaction arrival listed) row old same
    · exact untaken other before (fresh.transactions other (inside other before) arrival listed
        (drawn.symm.trans same))
  · intro webhook active
    rw [grown.webhooks] at active
    refine (Table.find?_eq_none_iff ..).mpr fun row member same => ?_
    rw [attemptId] at same
    rcases grown.attempts row member with old | ⟨other, before, hook, hooked, drawn⟩
    · exact (Table.find?_eq_none_iff ..).mp (fresh.attempt arrival listed webhook active) row old
        same
    · exact untaken other before (fresh.attempts other (inside other before) arrival listed hook
        hooked webhook active (drawn.symm.trans same)).1
  · intro first firstActive second secondActive same
    rw [grown.webhooks] at firstActive secondActive
    rw [attemptId] at same
    exact (fresh.attempts arrival listed arrival listed first firstActive second secondActive
      same).2

theorem Grown.next (grown : Grown bankAccountId tokens start taken before)
    (ingestion : Ingestion unicode bankAccountId arrival draws before after)
    (added : Stored bankAccountId arrival draws before after row)
    (txId : draws.txId = (tokens arrival.bankRefNo).txId)
    (attemptId : draws.attemptId = (tokens arrival.bankRefNo).attemptId) :
    Grown bankAccountId tokens start (taken ++ [arrival]) after where
  stored := by
    intro other member
    rcases List.mem_append.mp member with earlier | last
    · obtain ⟨old, oldMember, same⟩ :=
        storedTransaction_isSome_iff.mp (grown.stored other earlier)
      refine storedTransaction_isSome_iff.mpr ⟨old, ?_, same⟩
      rw [added.rows]
      exact List.mem_append_left _ oldMember
    · obtain rfl := List.mem_singleton.mp last
      refine storedTransaction_isSome_iff.mpr ⟨row, ?_, added.bankAccountId, added.bankRefNo⟩
      rw [added.rows]
      exact List.mem_append_right _ List.mem_cons_self
  transactions := by
    intro found member
    rw [added.rows] at member
    rcases List.mem_append.mp member with old | last
    · rcases grown.transactions found old with known | ⟨other, taking, drawn⟩
      · exact .inl known
      · exact .inr ⟨other, List.mem_append_left _ taking, drawn⟩
    · obtain rfl := List.mem_singleton.mp last
      exact .inr ⟨arrival, by simp, added.id.trans txId⟩
  webhooks := (webhooks_of_ingestion ingestion).trans grown.webhooks
  attempts := by
    intro found member
    rcases attempts_of_ingestion ingestion found member with old | ⟨webhook, hooked, drawn⟩
    · rcases grown.attempts found old with known | ⟨other, taking, earlier⟩
      · exact .inl known
      · exact .inr ⟨other, List.mem_append_left _ taking, earlier⟩
    · exact .inr ⟨arrival, by simp, webhook, grown.webhooks ▸ hooked,
        drawn.trans (congrFun attemptId webhook.id)⟩

/-- A transfer that is stored already brings no row. -/
theorem Grown.again (grown : Grown bankAccountId tokens start taken before)
    (present : (storedTransaction before bankAccountId arrival.bankRefNo).isSome = true) :
    Grown bankAccountId tokens start (taken ++ [arrival]) before where
  stored := by
    intro other member
    rcases List.mem_append.mp member with earlier | last
    · exact grown.stored other earlier
    · exact List.mem_singleton.mp last ▸ present
  transactions := fun found member => (grown.transactions found member).imp_right
    fun ⟨other, taking, drawn⟩ => ⟨other, List.mem_append_left _ taking, drawn⟩
  webhooks := grown.webhooks
  attempts := fun found member => (grown.attempts found member).imp_right
    fun ⟨other, taking, drawn⟩ => ⟨other, List.mem_append_left _ taking, drawn⟩

end Rows

section Steps

/-- It does not matter how often a transfer was taken, or when. -/
theorem Progress.congr (progress : Progress feed tokens start taken before)
    {others : List BankTransaction} (same : ∀ arrival, arrival ∈ taken ↔ arrival ∈ others) :
    Progress feed tokens start others before := by
  obtain ⟨paid, waiting, orderIds, stored, references, transactions, webhooks, attempts⟩ := progress
  simp only [same] at paid waiting stored references transactions attempts
  exact ⟨paid, waiting, orderIds, stored, references, transactions, webhooks, attempts⟩

theorem Progress.of_pending (progress : Progress feed tokens start taken before) {row : Order}
    (member : row ∈ before.orders.rows) (pending : row.status = .pending) :
    row ∈ start.orders.rows ∧ ¬∃ arrival ∈ taken, CanPay feed row arrival := by
  have listed : row.id ∈ start.orders.rows.map Order.id :=
    progress.orderIds ▸ List.mem_map_of_mem member
  obtain ⟨order, stored, same⟩ := List.mem_map.mp listed
  have found := Table.find?_of_mem member
  by_cases payable : ∃ arrival ∈ taken, CanPay feed order arrival
  · obtain ⟨other, present, paid⟩ := progress.paid order stored payable
    rw [same, found, Option.some.injEq] at present
    rw [← present, pending] at paid
    cases paid
  · have kept := progress.waiting order stored payable
    rw [same, found, Option.some.injEq] at kept
    exact kept ▸ ⟨stored, payable⟩

theorem Progress.orders_next (progress : Progress feed tokens start taken before)
    (single : AtMostOne feed arrivals start) (listed : arrival ∈ arrivals) {draws : IngestDraws}
    (decided : Decided feed.unicode feed.now (newTransaction feed.bankAccountId arrival draws)
      before after) :
    ∀ order ∈ start.orders.rows,
      ((∃ other ∈ taken ++ [arrival], CanPay feed order other) →
        ∃ row, after.orders.find? order.id = some row ∧ row.status = .paid) ∧
      ((¬∃ other ∈ taken ++ [arrival], CanPay feed order other) →
        after.orders.find? order.id = some order) := by
  intro order stored
  by_cases earlier : ∃ other ∈ taken, CanPay feed order other
  · -- it is paid already, and a paid order decides nothing
    obtain ⟨row, found, paid⟩ := progress.paid order stored earlier
    have keyed := Table.key_of_find? found
    have kept := decided.others row (Table.mem_of_find? found) (by
      rintro ⟨-, decides⟩
      have pending := decides.eligible.pending
      rw [paid] at pending
      cases pending)
    rw [keyed] at kept
    refine ⟨fun _ => ⟨row, kept, paid⟩, fun none => absurd ?_ none⟩
    obtain ⟨other, before, payable⟩ := earlier
    exact ⟨other, List.mem_append_left _ before, payable⟩
  · have found := progress.waiting order stored earlier
    have member := Table.mem_of_find? found
    by_cases payable : CanPay feed order arrival
    · obtain ⟨positive, eligible⟩ := (canPay_iff draws order).mp payable
      have decides : Decides feed.unicode feed.now
          (newTransaction feed.bankAccountId arrival draws) before order := by
        refine ⟨member, eligible, ?_⟩
        intro other otherMember otherEligible
        have otherStored := (progress.of_pending otherMember otherEligible.pending).1
        exact single arrival listed other otherStored order stored
          ((canPay_iff draws other).mpr ⟨positive, otherEligible⟩) payable
      refine ⟨fun _ => ⟨_, (decided.paid order positive decides).1, rfl⟩, fun none => absurd ?_ none⟩
      exact ⟨arrival, by simp, payable⟩
    · have kept := decided.others order member (by
        rintro ⟨positive, decides⟩
        exact payable ((canPay_iff draws order).mpr ⟨positive, decides.eligible⟩))
      refine ⟨?_, fun _ => kept⟩
      rintro ⟨other, taking, otherPays⟩
      rcases List.mem_append.mp taking with before | last
      · exact absurd ⟨other, before, otherPays⟩ earlier
      · obtain rfl := List.mem_singleton.mp last
        exact absurd otherPays payable

theorem Progress.grown (progress : Progress feed tokens start taken before) :
    Grown feed.bankAccountId tokens start taken before where
  stored := progress.stored
  transactions := progress.transactions
  webhooks := progress.webhooks
  attempts := progress.attempts

section Next

variable {draws : IngestDraws} {row : Transaction}

theorem Progress.references_next (progress : Progress feed tokens start taken before)
    (added : Stored feed.bankAccountId arrival draws before after row) (bankRefNo : String)
    (present : (storedTransaction after feed.bankAccountId bankRefNo).isSome = true) :
    (storedTransaction start feed.bankAccountId bankRefNo).isSome = true ∨
      ∃ other ∈ taken ++ [arrival], other.bankRefNo = bankRefNo := by
  obtain ⟨found, member, account, reference⟩ := storedTransaction_isSome_iff.mp present
  rw [added.rows] at member
  rcases List.mem_append.mp member with old | last
  · have earlier := storedTransaction_isSome_iff.mpr ⟨found, old, account, reference⟩
    rcases progress.references bankRefNo earlier with known | ⟨other, taking, same⟩
    · exact .inl known
    · exact .inr ⟨other, List.mem_append_left _ taking, same⟩
  · obtain rfl := List.mem_singleton.mp last
    exact .inr ⟨arrival, by simp, added.bankRefNo.symm.trans reference⟩

end Next

/-- A transfer that was taken already is known, and changes nothing. -/
theorem Progress.again (progress : Progress feed tokens start taken before)
    (new : NewTransfers feed arrivals start) (listed : arrival ∈ arrivals)
    (inside : ∀ other ∈ taken, other ∈ arrivals)
    (present : (storedTransaction before feed.bankAccountId arrival.bankRefNo).isSome = true) :
    Progress feed tokens start (taken ++ [arrival]) before := by
  have again : arrival ∈ taken := by
    rcases progress.references arrival.bankRefNo present with old | ⟨other, earlier, same⟩
    · rw [new.unstored arrival listed] at old
      cases old
    · exact new.referenced other (inside other earlier) arrival listed same ▸ earlier
  refine progress.congr fun other => ⟨List.mem_append_left _, fun member => ?_⟩
  rcases List.mem_append.mp member with earlier | last
  · exact earlier
  · exact List.mem_singleton.mp last ▸ again

theorem Progress.next (progress : Progress feed tokens start taken before)
    (new : NewTransfers feed arrivals start) (single : AtMostOne feed arrivals start)
    (fresh : FreshTokens tokens arrivals start) (listed : arrival ∈ arrivals)
    (inside : ∀ other ∈ taken, other ∈ arrivals)
    (credit : CreditTaken feed.unicode feed.bankAccountId (drawsOf feed tokens) before arrival) :
    ∃ ingested after, ingestTransaction feed.unicode feed.bankAccountId arrival
        (feed.draws arrival.bankRefNo (tokens arrival.bankRefNo)) before = .ok ingested after ∧
      Progress feed tokens start (taken ++ [arrival]) after := by
  cases stored : storedTransaction before feed.bankAccountId arrival.bankRefNo with
  | some existing =>
      refine ⟨⟨existing, none, false⟩, before, ?_, progress.again new listed inside ?_⟩
      · simp [ingestTransaction, bind, EStateM.bind, stored]
      · rw [stored]
        rfl
  | none =>
      have drawn : FreshDraws (feed.draws arrival.bankRefNo (tokens arrival.bankRefNo)) before :=
        progress.grown.fresh fresh listed inside stored rfl rfl
      obtain ⟨ingested, after, returned, -⟩ :=
        ingestTransaction_returns drawn stored (credit stored)
      have ingestion := ingestTransaction_ok returned
      have decided := decided_of_ingestion stored ingestion
      obtain ⟨row, added⟩ := stored_of_ingestion stored ingestion
      have orders := progress.orders_next single listed decided
      have grown := progress.grown.next ingestion added rfl rfl
      exact ⟨ingested, after, returned, {
        paid := fun order stored => (orders order stored).1
        waiting := fun order stored => (orders order stored).2
        orderIds := decided.sameOrders.trans progress.orderIds
        stored := grown.stored
        references := progress.references_next added
        transactions := grown.transactions
        webhooks := grown.webhooks
        attempts := grown.attempts }⟩

theorem arrive_of_returned {ingested : Ingested}
    (returned : ingestTransaction feed.unicode feed.bankAccountId arrival
      (feed.draws arrival.bankRefNo (tokens arrival.bankRefNo)) before = .ok ingested after) :
    arrive feed.unicode feed.bankAccountId (drawsOf feed tokens) before arrival = after :=
  Effect.commit_of_ok returned

/-- The whole list, from any point of a run. -/
theorem Progress.all (progress : Progress feed tokens start taken before)
    (new : NewTransfers feed arrivals start) (single : AtMostOne feed arrivals start)
    (fresh : FreshTokens tokens arrivals start)
    (inside : ∀ other ∈ taken ++ remaining, other ∈ arrivals)
    (credits : CreditsTaken feed.unicode feed.bankAccountId (drawsOf feed tokens) before
      remaining) :
    ∃ final, feed.ingestAll tokens remaining before = .ok () final ∧
      Progress feed tokens start (taken ++ remaining) final := by
  induction remaining generalizing taken before with
  | nil => exact ⟨before, rfl, by rwa [List.append_nil]⟩
  | cons arrival rest ih =>
      obtain ⟨credit, later⟩ := credits
      have earlier : ∀ other ∈ taken, other ∈ arrivals := fun other member =>
        inside other (List.mem_append_left _ member)
      obtain ⟨ingested, after, returned, next⟩ := progress.next new single fresh
        (inside arrival (by simp)) earlier credit
      rw [arrive_of_returned returned] at later
      obtain ⟨final, ran, done⟩ := ih next (by simpa using inside) later
      refine ⟨final, ?_, by simpa using done⟩
      exact (Effect.bind_ok_iff ..).mpr ⟨(), after, Effect.discard_of_ok returned, ran⟩

end Steps

end ApiBank.Core.ArrivalOrder
