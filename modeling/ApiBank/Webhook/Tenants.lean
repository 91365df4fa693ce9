import ApiBank.Orders.Announcements

/-!
# Webhooks of one tenant, payments of another

`_enqueue_webhook` selects the active webhooks of every user, so the owner of an
active webhook receives an attempt, with the whole payload, for each order that is
paid on anyone's account. What a user is sent is independent of the others exactly
when none of the user's webhooks is active or nothing is paid.
-/

namespace ApiBank.Webhook.Tenants

open ApiBank.Core ApiBank.Db ApiBank.Orders ApiBank.Relational ApiBank.Transition
open Announcements Ingest MatchDecision Matcher Operations

set_option autoImplicit false

/-- A bank transaction that an adapter delivers for an account. -/
structure Arrival where
  bankAccountId : String
  bankTransaction : BankTransaction
  draws : IngestDraws

def deliver (unicode : UnicodeData) (db : Database) (arrival : Arrival) : Database :=
  serve unicode db (.ingest arrival.bankAccountId arrival.bankTransaction arrival.draws)

def ownerOf (db : Database) (bankAccountId : String) : Option String :=
  (db.bankAccounts.find? bankAccountId).bind BankAccount.userId

/-- Both states hold the same accounts, orders, transactions and webhooks of the user. -/
structure AgreeOn (user : String) (left right : Database) : Prop where
  bankAccounts : left.bankAccounts.rows.filter (fun bank => bank.userId = some user) =
    right.bankAccounts.rows.filter fun bank => bank.userId = some user
  orders : left.orders.rows.filter (fun order => ownerOf left order.bankAccountId = some user) =
    right.orders.rows.filter fun order => ownerOf right order.bankAccountId = some user
  transactions : left.transactions.rows.filter
      (fun tx => ownerOf left tx.bankAccountId = some user) =
    right.transactions.rows.filter fun tx => ownerOf right tx.bankAccountId = some user
  webhooks : left.webhooks.rows.filter (fun webhook => webhook.userId = some user) =
    right.webhooks.rows.filter fun webhook => webhook.userId = some user

def ownedBy (user : String) (db : Database) (webhookId : String) : Bool :=
  (db.webhooks.find? webhookId).any fun webhook => webhook.userId = some user

def enqueuedFor (user : String) (before after : Database) : List WebhookAttempt :=
  (created before after).filter fun row => ownedBy user before row.webhookId

/-- Every attempt for a webhook of the user is about an order on an account of the
user. -/
def OwnOrders (unicode : UnicodeData) (user : String) (db : Database) (arrival : Arrival) :
    Prop :=
  ∀ attempt ∈ enqueuedFor user db (deliver unicode db arrival), ∃ order,
    (deliver unicode db arrival).orders.find? attempt.orderId = some order ∧
      ownerOf db order.bankAccountId = some user

/-- What one run tells the user does not depend on the data of others, and is about
the user's own orders. -/
structure Isolated (unicode : UnicodeData) (user : String) (left right : Database)
    (arrivals : List Arrival) : Prop where
  same : enqueuedFor user left (arrivals.foldl (deliver unicode) left) =
    enqueuedFor user right (arrivals.foldl (deliver unicode) right)
  ownLeft : Run.Along (OwnOrders unicode user) (deliver unicode) left arrivals
  ownRight : Run.Along (OwnOrders unicode user) (deliver unicode) right arrivals

def PaysAnOrder (unicode : UnicodeData) (db : Database) (arrival : Arrival) : Prop :=
  storedTransaction db arrival.bankAccountId arrival.bankTransaction.bankRefNo = none ∧
    0 < arrival.bankTransaction.amount ∧ ∃ order, Decides unicode arrival.draws.now
      (newTransaction arrival.bankAccountId arrival.bankTransaction arrival.draws) db order ∧
        ¬BreaksIngestion arrival.draws db order

def NothingPaid (unicode : UnicodeData) (db : Database) (arrival : Arrival) : Prop :=
  ¬PaysAnOrder unicode db arrival

def OutOfEarshot (unicode : UnicodeData) (user : String) (left right : Database)
    (arrivals : List Arrival) : Prop :=
  (∀ webhook ∈ left.webhooks.rows, webhook.userId = some user → webhook.active = false) ∨
    Run.Along (NothingPaid unicode) (deliver unicode) left arrivals ∧
      Run.Along (NothingPaid unicode) (deliver unicode) right arrivals

def Fresh (db : Database) (arrival : Arrival) : Prop := FreshDraws arrival.draws db

variable {unicode : UnicodeData} {user : String} {left right before after : Database}
variable {arrival : Arrival}

section Frames

theorem frame_of_ingestion {bankAccountId : String} {bankTransaction : BankTransaction}
    {draws : IngestDraws}
    (ingestion : Ingestion unicode bankAccountId bankTransaction draws before after) :
    after.webhooks = before.webhooks ∧ after.bankAccounts = before.bankAccounts ∧
      ∃ attempts, before.webhookAttempts.insertAll? attempts = some after.webhookAttempts := by
  cases ingestion with
  | known existing stored => exact ⟨rfl, rfl, [], rfl⟩
  | outgoing entered entry negative =>
      rw [entry.frame]
      exact ⟨rfl, rfl, [], rfl⟩
  | unmatched entered entry positive none =>
      rw [entry.frame]
      exact ⟨rfl, rfl, [], rfl⟩
  | ambiguous entered entry positive several =>
      rw [entry.frame]
      exact ⟨rfl, rfl, [], rfl⟩
  | matched entered entry positive order unique webhookAttempts enqueued =>
      refine ⟨?_, ?_, _, enqueued⟩
      · rw [afterMatch, creditedState_frame, entry.frame]
        rfl
      · rw [afterMatch, creditedState_frame, entry.frame]
        rfl

theorem frame_of_deliver (unicode : UnicodeData) (db : Database) (arrival : Arrival) :
    (deliver unicode db arrival).webhooks = db.webhooks ∧
      (deliver unicode db arrival).bankAccounts = db.bankAccounts ∧ ∃ attempts,
        db.webhookAttempts.insertAll? attempts =
          some (deliver unicode db arrival).webhookAttempts := by
  rw [deliver, serve, perform, commit_discard]
  exact Effect.commit_keeps ⟨rfl, rfl, [], rfl⟩ fun ingested after returned =>
    frame_of_ingestion (ingestTransaction_ok returned)

end Frames

section Step

theorem paysAnOrder_of_turnsPaid {orderId : String}
    (turns : TurnsPaid before (deliver unicode before arrival) orderId) :
    PaysAnOrder unicode before arrival := by
  rw [deliver, serve, perform, commit_discard] at turns
  cases ran : ingestTransaction unicode arrival.bankAccountId arrival.bankTransaction
      arrival.draws before with
  | error failure after =>
      rw [Effect.commit_of_error ran] at turns
      exact absurd turns (not_turnsPaid_of_same rfl orderId)
  | ok ingested after =>
      rw [Effect.commit_of_ok ran] at turns
      cases ingestTransaction_ok ran with
      | known existing stored => exact absurd turns (not_turnsPaid_of_same rfl orderId)
      | outgoing entered entry negative =>
          exact absurd turns (not_turnsPaid_of_same (orders_entered entry) orderId)
      | unmatched entered entry positive none =>
          exact absurd turns (not_turnsPaid_of_same (orders_entered entry) orderId)
      | ambiguous entered entry positive several =>
          exact absurd turns (not_turnsPaid_of_same (orders_entered entry) orderId)
      | matched entered entry positive order unique webhookAttempts enqueued survives =>
          have decides := (fittingOrders_eq_singleton_iff ..).mp unique
          exact ⟨entry.fresh, positive, order, decides, survives⟩

theorem turnsPaid_of_paysAnOrder (fresh : Fresh before arrival)
    (pays : PaysAnOrder unicode before arrival) : ∃ (order row : Order),
      TurnsPaid before (deliver unicode before arrival) order.id ∧
        (deliver unicode before arrival).orders.find? order.id = some row ∧
          row.bankAccountId = arrival.bankAccountId := by
  obtain ⟨new, positive, order, decides, usable⟩ := pays
  have survives : Survives unicode arrival.bankAccountId arrival.bankTransaction arrival.draws
      before := by
    intro _ other otherDecides
    rwa [decides.only other otherDecides.stored otherDecides.eligible]
  obtain ⟨ingested, after, returned, -⟩ := ingestTransaction_returns fresh new survives
  have delivered : deliver unicode before arrival = after := by
    rw [deliver, serve, perform, commit_discard, Effect.commit_of_ok returned]
  have orders : after.orders = before.orders.modify order.id
      (Order.pay arrival.draws.txId arrival.draws.now)
      (Order.id_pay arrival.draws.txId arrival.draws.now) := by
    have unique := (fittingOrders_eq_singleton_iff ..).mpr decides
    cases ingestTransaction_ok returned with
    | known existing stored => simp [new] at stored
    | outgoing entered entry negative => omega
    | unmatched entered entry positive none => simp [unique] at none
    | ambiguous entered entry positive several => simp [unique] at several
    | matched entered entry positive other sole webhookAttempts enqueued =>
        obtain rfl : order = other := by simpa [unique] using sole
        rw [orders_afterMatch, orders_entered entry]
        rfl
  have stored := Table.find?_of_mem decides.stored
  have account : order.bankAccountId = arrival.bankAccountId := decides.eligible.account
  refine ⟨order, order.pay arrival.draws.txId arrival.draws.now, ?_, ?_, account⟩
  · rw [delivered]
    exact (turnsPaid_modify_iff _ orders stored).mpr
      ⟨rfl, rfl, by simp [decides.eligible.pending]⟩
  · rw [delivered, orders, Table.find?_modify, if_pos rfl, stored]
    rfl

/-- An arrival that pays nothing, or meets no active webhook of the user, tells the
user nothing. -/
theorem enqueued_of_quiet (quiet : NothingPaid unicode before arrival ∨
      ∀ webhook ∈ before.webhooks.rows, webhook.userId = some user → webhook.active = false) :
    enqueuedFor user before (deliver unicode before arrival) = [] := by
  apply List.filter_eq_nil_iff.mpr
  intro attempt member owned
  obtain ⟨turns, webhook, found, active⟩ := (announced_of_ingest ..).sound attempt member
  rcases quiet with nothing | inactive
  · exact nothing (paysAnOrder_of_turnsPaid turns)
  · have owner : webhook.userId = some user := by simpa [ownedBy, found] using owned
    rw [inactive webhook (Table.mem_of_find? found) owner] at active
    contradiction

theorem ownOrders_of_quiet
    (quiet : enqueuedFor user before (deliver unicode before arrival) = []) :
    OwnOrders unicode user before arrival := by
  intro attempt member
  rw [quiet] at member
  cases member

/-- A payment on the account of another that an active webhook of the user hears of
is not about an order of the user. -/
theorem nothingPaid_of_ownOrders {webhook : Webhook} (fresh : Fresh before arrival)
    (elsewhere : ownerOf before arrival.bankAccountId ≠ some user)
    (listed : webhook ∈ before.webhooks.rows) (owner : webhook.userId = some user)
    (active : webhook.active = true) (own : OwnOrders unicode user before arrival) :
    NothingPaid unicode before arrival := by
  intro pays
  obtain ⟨order, row, turns, found, account⟩ := turnsPaid_of_paysAnOrder fresh pays
  obtain ⟨attempt, sole, -⟩ :=
    (announced_of_ingest ..).complete order.id turns webhook listed active
  have member : attempt ∈ [attempt] := List.mem_singleton_self attempt
  rw [← sole, List.mem_filter] at member
  obtain ⟨added, addressed⟩ := member
  simp only [Bool.and_eq_true, decide_eq_true_eq] at addressed
  have owned : ownedBy user before attempt.webhookId = true := by
    rw [ownedBy, addressed.2, Table.find?_of_mem listed]
    simp [owner]
  obtain ⟨other, foundOther, mine⟩ := own attempt (List.mem_filter.mpr ⟨added, owned⟩)
  rw [addressed.1, deliver] at foundOther
  rw [deliver] at found
  rw [found, Option.some.injEq] at foundOther
  subst foundOther
  exact elsewhere (account ▸ mine)

end Step

section Runs

theorem attempts_kept (arrivals : List Arrival) (db : Database) {row : WebhookAttempt}
    (stored : row ∈ db.webhookAttempts.rows) :
    row ∈ (arrivals.foldl (deliver unicode) db).webhookAttempts.rows := by
  induction arrivals generalizing db with
  | nil => exact stored
  | cons arrival rest ih =>
      apply ih
      obtain ⟨-, -, attempts, inserted⟩ := frame_of_deliver unicode db arrival
      rw [Table.rows_of_insertAll? inserted]
      exact List.mem_append_left attempts stored

theorem ownedBy_deliver (db : Database) (webhookId : String) :
    ownedBy user (deliver unicode db arrival) webhookId = ownedBy user db webhookId := by
  unfold ownedBy
  rw [(frame_of_deliver unicode db arrival).1]

/-- A run that adds nothing for the user at any step adds nothing for the user. -/
theorem enqueued_of_along {arrivals : List Arrival} {start : Database}
    (quiet : Run.Along (fun db arrival => enqueuedFor user db (deliver unicode db arrival) = [])
      (deliver unicode) start arrivals) :
    enqueuedFor user start (arrivals.foldl (deliver unicode) start) = [] := by
  induction arrivals generalizing start with
  | nil =>
      rw [List.foldl_nil, enqueuedFor, created_of_same rfl]
      rfl
  | cons arrival rest ih =>
      obtain ⟨first, later⟩ := quiet
      apply List.filter_eq_nil_iff.mpr
      intro row member owned
      obtain ⟨stored, new⟩ := List.mem_filter.mp member
      cases found : (deliver unicode start arrival).webhookAttempts.find? row.id with
      | none =>
          have added : row ∈ enqueuedFor user (deliver unicode start arrival)
              (rest.foldl (deliver unicode) (deliver unicode start arrival)) :=
            List.mem_filter.mpr ⟨List.mem_filter.mpr ⟨stored, by simp [found]⟩,
              (ownedBy_deliver ..).trans owned⟩
          rw [ih later] at added
          cases added
      | some earlier =>
          have kept : earlier ∈ (rest.foldl (deliver unicode)
              (deliver unicode start arrival)).webhookAttempts.rows :=
            attempts_kept rest _ (Table.mem_of_find? found)
          obtain rfl := Table.eq_of_key_eq _ stored kept (Table.key_of_find? found).symm
          have added : row ∈ enqueuedFor user start (deliver unicode start arrival) :=
            List.mem_filter.mpr
              ⟨List.mem_filter.mpr ⟨Table.mem_of_find? found, new⟩, owned⟩
          rw [first] at added
          cases added

theorem along_of_inactive {start : Database} (arrivals : List Arrival)
    (inactive : ∀ webhook ∈ start.webhooks.rows, webhook.userId = some user →
      webhook.active = false) :
    Run.Along (fun db arrival => enqueuedFor user db (deliver unicode db arrival) = [])
      (deliver unicode) start arrivals := by
  induction arrivals generalizing start with
  | nil => trivial
  | cons arrival rest ih =>
      refine ⟨enqueued_of_quiet (.inr inactive), ih ?_⟩
      rw [(frame_of_deliver unicode start arrival).1]
      exact inactive

theorem along_nothingPaid {start : Database} {arrivals : List Arrival} {webhook : Webhook}
    (elsewhere : ∀ arrival ∈ arrivals, ownerOf start arrival.bankAccountId ≠ some user)
    (listed : webhook ∈ start.webhooks.rows) (owner : webhook.userId = some user)
    (active : webhook.active = true)
    (fresh : Run.Along Fresh (deliver unicode) start arrivals)
    (own : Run.Along (OwnOrders unicode user) (deliver unicode) start arrivals) :
    Run.Along (NothingPaid unicode) (deliver unicode) start arrivals := by
  induction arrivals generalizing start with
  | nil => trivial
  | cons arrival rest ih =>
      obtain ⟨webhooks, bankAccounts, -⟩ := frame_of_deliver unicode start arrival
      refine ⟨nothingPaid_of_ownOrders fresh.1 (elsewhere arrival List.mem_cons_self) listed
        owner active own.1, ih ?_ ?_ fresh.2 own.2⟩
      · intro other member
        rw [ownerOf, bankAccounts]
        exact elsewhere other (List.mem_cons_of_mem arrival member)
      · rw [webhooks]
        exact listed

end Runs

section Agreement

theorem agree_webhook (agree : AgreeOn user left right) {webhook : Webhook}
    (owner : webhook.userId = some user) :
    webhook ∈ left.webhooks.rows ↔ webhook ∈ right.webhooks.rows := by
  have same := congrArg (fun rows => webhook ∈ rows) agree.webhooks
  simpa [owner] using same

/-- An account that is another's in one state is another's in the other. -/
theorem agree_owner (agree : AgreeOn user left right) {bankAccountId : String}
    (elsewhere : ownerOf left bankAccountId ≠ some user) :
    ownerOf right bankAccountId ≠ some user := by
  intro mine
  obtain ⟨bank, found, owner⟩ := Option.bind_eq_some_iff.mp mine
  have same := congrArg (fun rows => bank ∈ rows) agree.bankAccounts
  have stored : bank ∈ left.bankAccounts.rows := by
    simpa [owner, Table.mem_of_find? found] using same
  apply elsewhere
  rw [ownerOf, ← Table.key_of_find? found, Table.find?_of_mem stored]
  exact owner

end Agreement

/-- Two runs over the accounts of others, from states that agree on the user, tell the
user the same and only of the user's own orders if none of the user's webhooks is
active or no order is paid; with unused tokens, only if. -/
theorem outboxes_isolated_iff (unicode : UnicodeData) (user : String) (left right : Database)
    (arrivals : List Arrival) (agree : AgreeOn user left right)
    (elsewhere : ∀ arrival ∈ arrivals, ownerOf left arrival.bankAccountId ≠ some user) :
    (OutOfEarshot unicode user left right arrivals →
      Isolated unicode user left right arrivals) ∧
    (Run.Along Fresh (deliver unicode) left arrivals →
      Run.Along Fresh (deliver unicode) right arrivals →
        Isolated unicode user left right arrivals →
          OutOfEarshot unicode user left right arrivals) := by
  constructor
  · intro outside
    have quiet :
        Run.Along (fun db arrival => enqueuedFor user db (deliver unicode db arrival) = [])
          (deliver unicode) left arrivals ∧
        Run.Along (fun db arrival => enqueuedFor user db (deliver unicode db arrival) = [])
          (deliver unicode) right arrivals := by
      rcases outside with inactive | ⟨nothingLeft, nothingRight⟩
      · refine ⟨along_of_inactive arrivals inactive, along_of_inactive arrivals ?_⟩
        intro webhook member owner
        exact inactive webhook ((agree_webhook agree owner).mpr member) owner
      · exact ⟨Run.along_mono (fun _ _ nothing => enqueued_of_quiet (.inl nothing)) nothingLeft,
          Run.along_mono (fun _ _ nothing => enqueued_of_quiet (.inl nothing)) nothingRight⟩
    refine ⟨?_, Run.along_mono (fun _ _ => ownOrders_of_quiet) quiet.1,
      Run.along_mono (fun _ _ => ownOrders_of_quiet) quiet.2⟩
    rw [enqueued_of_along quiet.1, enqueued_of_along quiet.2]
  · intro freshLeft freshRight isolated
    by_cases heard : ∃ webhook ∈ left.webhooks.rows, webhook.userId = some user ∧
        webhook.active = true
    · obtain ⟨webhook, listed, owner, active⟩ := heard
      have listedRight := (agree_webhook agree owner).mp listed
      exact .inr ⟨along_nothingPaid elsewhere listed owner active freshLeft isolated.ownLeft,
        along_nothingPaid (fun arrival member => agree_owner agree (elsewhere arrival member))
          listedRight owner active freshRight isolated.ownRight⟩
    · left
      intro webhook listed owner
      by_contra active
      exact heard ⟨webhook, listed, owner, by simpa using active⟩

/-- An order on an account of `ua`, and a webhook of `ub`. -/
def twoTenants (active : Bool) : Database := { oneOrder with
  bankAccounts := ⟨[⟨"b1", some "ua", "active", false⟩], by decide⟩
  webhooks := ⟨[⟨"w1", some "ub", active⟩], by simp⟩ }

/-- The same without the order of `ua`. -/
def idleTenant (active : Bool) : Database := { twoTenants active with orders := .empty }

def payment : Arrival := ⟨"b1", transfer, transferDraws⟩

theorem agree_idle (active : Bool) : AgreeOn "ub" (twoTenants active) (idleTenant active) :=
  ⟨rfl, rfl, rfl, rfl⟩

theorem elsewhere_payment (active : Bool) :
    ∀ arrival ∈ [payment], ownerOf (twoTenants active) arrival.bankAccountId ≠ some "ub" := by
  intro arrival member
  obtain rfl := List.mem_singleton.mp member
  simp [ownerOf, payment, twoTenants, Table.find?]

theorem inactive_webhook_isolated :
    Isolated .ascii "ub" (twoTenants false) (idleTenant false) [payment] ∧
      (deliver .ascii (twoTenants false) payment).orders.rows.map Order.status = [.paid] := by
  refine ⟨(outboxes_isolated_iff .ascii "ub" (twoTenants false) (idleTenant false) [payment]
    (agree_idle false) (elsewhere_payment false)).1 (.inl ?_), rfl⟩
  intro webhook listed _
  obtain rfl := List.mem_singleton.mp listed
  rfl

/-- The owner of any active webhook is told of a payment to another. -/
theorem payment_reaches_other_tenant : ¬∀ (unicode : UnicodeData) (user : String)
    (left right : Database) (arrivals : List Arrival), AgreeOn user left right →
      (∀ arrival ∈ arrivals, ownerOf left arrival.bankAccountId ≠ some user) →
        Isolated unicode user left right arrivals := by
  intro always
  have isolated := always .ascii "ub" (twoTenants true) (idleTenant true) [payment]
    (agree_idle true) (elsewhere_payment true)
  have lengths := congrArg List.length isolated.same
  have one : (enqueuedFor "ub" (twoTenants true)
      ([payment].foldl (deliver .ascii) (twoTenants true))).length = 1 := rfl
  have zero : (enqueuedFor "ub" (idleTenant true)
      ([payment].foldl (deliver .ascii) (idleTenant true))).length = 0 := rfl
  rw [one, zero] at lengths
  contradiction

end ApiBank.Webhook.Tenants
