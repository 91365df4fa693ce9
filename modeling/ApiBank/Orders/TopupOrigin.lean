import ApiBank.Orders.Payments

/-!
# Where top-up credits come from

The credit of a paid order believes the order's metadata, and clients write the
metadata of their own orders. As long as no payment of a client's order meets
metadata that names a user, every top-up row goes back to a call of
`create_topup_order` for its user, on the system account.
-/

namespace ApiBank.Orders.TopupOrigin

open ApiBank.Api ApiBank.Billing ApiBank.Core ApiBank.Db ApiBank.Relational ApiBank.Transition
open Ingest MatchDecision Matcher Operations Orders Payments Topup

set_option autoImplicit false

def CreatedByTopup (unicode : UnicodeData) (start : Database) (ops : List Op)
    (orderId userId : String) : Prop :=
  ∃ earlier later amountVnd ttlSeconds draws before order after,
    ops = earlier ++ .createTopup userId amountVnd ttlSeconds draws :: later ∧
    Run (Computed (serve unicode)) start earlier before ∧
    createTopup userId amountVnd ttlSeconds draws before = .ok order after ∧ order.id = orderId

def OnSystemAccount (db : Database) (order : Order) : Prop :=
  ∃ bank ∈ db.bankAccounts.rows, bank.id = order.bankAccountId ∧ bank.isSystemAccount

/-- The row under an order's top-up key goes back to a top-up of the row's user. -/
structure FromTopup (unicode : UnicodeData) (start : Database) (ops : List Op) (db : Database)
    (orderId : String) (row : WalletTransaction) : Prop where
  created : CreatedByTopup unicode start ops orderId row.userId
  account : ∃ order, db.orders.find? orderId = some order ∧ OnSystemAccount db order

/-- Nothing is ordered and no top-up is credited. -/
structure Opening (db : Database) : Prop where
  noOrders : db.orders.rows = []
  noTopups : ∀ orderId, db.walletTransactions.find? (topupKey orderId) = none

/-- A paid order without a user, that is a client's order, funds nobody. Refunds stay
outside. -/
def CreditsOwnTopups (unicode : UnicodeData) (db : Database) : Op → Prop
  | .ingest bankAccountId bankTransaction draws => draws.creditRaises = false →
      ∀ order, Pays unicode bankAccountId bankTransaction draws db order →
        order.userId = none → fundedUserId db order = none
  | .refund _ _ _ _ => False
  | _ => True

/-- The part of the invariant about one order. -/
structure Traced (unicode : UnicodeData) (start : Database) (ops : List Op) (db : Database)
    (order : Order) (userId : String) : Prop where
  metadata : order.metadataJson = topupMetadata userId
  created : CreatedByTopup unicode start ops order.id userId
  account : OnSystemAccount db order

/-- Orders with a user are top-ups of that user, and top-up rows are theirs. -/
structure AllTraced (unicode : UnicodeData) (start : Database) (ops : List Op)
    (db : Database) : Prop where
  run : Run (Computed (serve unicode)) start ops db
  orders : ∀ order ∈ db.orders.rows, ∀ userId, order.userId = some userId →
    Traced unicode start ops db order userId
  rows : ∀ orderId row, db.walletTransactions.find? (topupKey orderId) = some row →
    ∃ order, db.orders.find? orderId = some order ∧ order.userId = some row.userId

variable {unicode : UnicodeData} {start before after : Database} {ops : List Op} {op : Op}

theorem allTraced_opening (opening : Opening start) : AllTraced unicode start [] start where
  run := .nil
  orders := by simp [opening.noOrders]
  rows := by
    intro orderId row found
    rw [opening.noTopups] at found
    contradiction

theorem CreatedByTopup.later {orderId userId : String}
    (created : CreatedByTopup unicode start ops orderId userId) (op : Op) :
    CreatedByTopup unicode start (ops ++ [op]) orderId userId := by
  obtain ⟨earlier, rest, amountVnd, ttlSeconds, draws, before, order, after, split, call⟩ := created
  refine ⟨earlier, rest ++ [op], amountVnd, ttlSeconds, draws, before, order, after, ?_, call⟩
  rw [split, List.append_assoc]
  rfl

/-- The metadata of a top-up fund its user or nobody. -/
theorem funded_of_traced {db : Database} {order : Order} {userId payee : String}
    (traced : Traced unicode start ops db order userId)
    (funded : fundedUserId db order = some payee) : payee = userId := by
  have referenced := ((fundedUserId_eq_some_iff ..).mp funded).2.1
  simp only [referencedUserId, traced.metadata, topupMetadata, List.lookup_cons] at referenced
  by_cases empty : userId = ""
  · simp [empty] at referenced
  · simpa [empty, eq_comm] using referenced

theorem traced_of_terms {order row : Order} {userId : String}
    (traced : Traced unicode start ops before order userId)
    (banks : after.bankAccounts = before.bankAccounts) (terms : SameTerms row order) (op : Op) :
    Traced unicode start (ops ++ [op]) after row userId where
  metadata := terms.metadataJson.trans traced.metadata
  created := terms.id ▸ traced.created.later op
  account := by
    rw [OnSystemAccount, banks, terms.bankAccountId]
    exact traced.account

theorem orders_traced (invariant : AllTraced unicode start ops before)
    (banks : after.bankAccounts = before.bankAccounts)
    (orders : RewritesOrders before after ∨ ∃ order,
      before.orders.insert? order = some after.orders ∧ SameLedger before after ∧
        Creates before order op after) :
    ∀ order ∈ after.orders.rows, ∀ userId, order.userId = some userId →
      Traced unicode start (ops ++ [op]) after order userId := by
  rcases orders with ⟨rewrite, keeps, changed, terms⟩ | ⟨new, inserted, -, created⟩
  · intro row member userId payer
    rw [changed] at member
    obtain ⟨order, old, rfl⟩ := List.mem_map.mp member
    rw [(terms order).userId] at payer
    exact traced_of_terms (invariant.orders order old userId payer) banks (terms order) op
  · intro row member userId payer
    rw [Table.rows_of_insert? inserted] at member
    rcases List.mem_append.mp member with old | added
    · exact traced_of_terms (invariant.orders row old userId payer) banks (.refl row) op
    · obtain rfl := List.mem_singleton.mp added
      cases created with
      | topup topupUser amountVnd ttlSeconds draws after bank configured returned topupPayer
          metadata account =>
          obtain rfl := Option.some.inj (topupPayer.symm.trans payer)
          obtain ⟨stored, system⟩ := systemBank_of_found configured
          refine ⟨metadata, ⟨ops, [], amountVnd, ttlSeconds, draws, before, row, after, rfl,
            invariant.run, returned, rfl⟩, bank, ?_, account.symm, system⟩
          rw [banks]
          exact stored
      | client client payload draws after nobody =>
          rw [nobody] at payer
          contradiction

theorem user_kept (orders : RewritesOrders before after ∨ ∃ order,
      before.orders.insert? order = some after.orders ∧ SameLedger before after ∧
        Creates before order op after) {orderId : String} {order : Order}
    (found : before.orders.find? orderId = some order) :
    ∃ row, after.orders.find? orderId = some row ∧ row.userId = order.userId := by
  rcases orders with ⟨rewrite, keeps, changed, terms⟩ | ⟨new, inserted, -, -⟩
  · refine ⟨rewrite order, ?_, (terms order).userId⟩
    rw [changed, Table.find?_update, found]
    rfl
  · refine ⟨order, ?_, rfl⟩
    have apart : new.id ≠ orderId := by
      rintro rfl
      rw [Table.fresh_of_insert? inserted] at found
      contradiction
    rw [Table.find?_insert? inserted, if_neg apart, found]

theorem step_traced (invariant : AllTraced unicode start ops before)
    (credits : CreditsOwnTopups unicode before op) :
    AllTraced unicode start (ops ++ [op]) (serve unicode before op) := by
  have change := change_of_serve unicode before op
  have orders := orders_of_change change
  have run : Run (Computed (serve unicode)) start (ops ++ [op]) (serve unicode before op) :=
    invariant.run.snoc rfl
  have noRefund : ∀ txId note actorEmail draws, op ≠ .refund txId note actorEmail draws := by
    rintro txId note actorEmail draws rfl
    exact credits
  rcases ledger_of_change change noRefund with
    ledger | ⟨bankAccountId, bankTransaction, draws, order, userId, row, rfl, pays, quiet, funded,
      posted, banks⟩
  · refine ⟨run, orders_traced invariant ledger.bankAccounts orders, ?_⟩
    intro orderId row stored
    rw [ledger.walletTransactions] at stored
    obtain ⟨order, found, payer⟩ := invariant.rows orderId row stored
    obtain ⟨kept, foundKept, samePayer⟩ := user_kept orders found
    exact ⟨kept, foundKept, samePayer.trans payer⟩
  · refine ⟨run, orders_traced invariant banks orders, ?_⟩
    have member := (candidate_of_unique pays.unique).1
    intro orderId entry stored
    rw [Table.find?_insert? posted.inserted, posted.keyed] at stored
    have credit : ∃ order, before.orders.find? orderId = some order ∧
        order.userId = some entry.userId := by
      split at stored
      · rename_i sameKey
        obtain rfl := Option.some.inj stored
        have sameId : order.id = orderId := topupKey_injective sameKey
        refine ⟨order, sameId ▸ Table.find?_of_mem member, ?_⟩
        have payee : row.userId = userId := posted.payload.1
        cases payer : order.userId with
        | none =>
            rw [credits quiet order pays payer] at funded
            contradiction
        | some owner =>
            have traced := invariant.orders order member owner payer
            rw [payee, funded_of_traced traced funded]
      · exact invariant.rows orderId entry stored
    obtain ⟨paid, found, payer⟩ := credit
    obtain ⟨kept, foundKept, samePayer⟩ := user_kept orders found
    exact ⟨kept, foundKept, samePayer.trans payer⟩

/-- Money that comes in on an account which is no system account changes no balance. -/
theorem users_of_foreign_transfer {bankAccountId : String} {bankTransaction : BankTransaction}
    {draws : IngestDraws} (invariant : AllTraced unicode start ops before)
    (credits : CreditsOwnTopups unicode before (.ingest bankAccountId bankTransaction draws))
    (foreign : ∀ bank ∈ before.bankAccounts.rows, bank.id = bankAccountId →
      bank.isSystemAccount = false) :
    (serve unicode before (.ingest bankAccountId bankTransaction draws)).users = before.users := by
  have change := change_of_serve unicode before (.ingest bankAccountId bankTransaction draws)
  rcases ledger_of_change change (by simp) with
    ledger | ⟨_, _, _, order, userId, row, same, pays, quiet, funded, -, -⟩
  · exact ledger.users
  · cases same
    obtain ⟨member, -, sameAccount⟩ := candidate_of_unique pays.unique
    cases payer : order.userId with
    | none =>
        rw [credits quiet order pays payer] at funded
        contradiction
    | some owner =>
        obtain ⟨bank, stored, account, system⟩ :=
          (invariant.orders order member owner payer).account
        rw [foreign bank stored (account.trans sameAccount)] at system
        contradiction

/-- In every run in which no paid client order funds a user, every top-up row goes
back to a top-up of its user on the system account, and no transfer into another
account changes a balance. -/
theorem topup_rows_from_topups {db : Database} (opening : Opening start)
    (run : Run (Guarded (CreditsOwnTopups unicode) (Computed (serve unicode))) start ops db) :
    (∀ orderId, ∀ row ∈ db.walletTransactions.rows, row.idempotencyKey = topupKey orderId →
      FromTopup unicode start ops db orderId row) ∧
    ∀ bankAccountId bankTransaction draws,
      CreditsOwnTopups unicode db (.ingest bankAccountId bankTransaction draws) →
      (∀ bank ∈ db.bankAccounts.rows, bank.id = bankAccountId → bank.isSystemAccount = false) →
      (serve unicode db (.ingest bankAccountId bankTransaction draws)).users = db.users := by
  have traced : AllTraced unicode start ops db := by
    apply run.history (AllTraced unicode start) (allTraced_opening opening)
    rintro earlier before op after invariant ⟨credits, rfl⟩
    exact step_traced invariant credits
  refine ⟨?_, ?_⟩
  · intro orderId row member keyed
    have stored := (db.walletTransactions.find?_eq_some_iff (topupKey orderId) row).mpr
      ⟨member, keyed⟩
    obtain ⟨order, found, payer⟩ := traced.rows orderId row stored
    have origin := traced.orders order (Table.mem_of_find? found) row.userId payer
    exact ⟨Table.key_of_find? found ▸ origin.created, order, found, origin.account⟩
  · intro bankAccountId bankTransaction draws credits foreign
    exact users_of_foreign_transfer traced credits foreign

theorem opening_shop : Opening shop := ⟨rfl, fun _ => rfl⟩

theorem topup_rows_from_topups_transfer : ∃ db,
    Run (Guarded (CreditsOwnTopups .ascii) (Computed (serve .ascii))) shop topupOps db ∧
      ∃ row ∈ db.walletTransactions.rows, row.userId = "u1" ∧
        FromTopup .ascii shop topupOps db "o1" row := by
  have guarded : Run.Along (CreditsOwnTopups .ascii) (serve .ascii) shop topupOps := by
    refine ⟨trivial, ?_, trivial⟩
    intro quiet order pays nobody
    obtain ⟨only, listed, payer⟩ : ∃ only,
        (serve .ascii shop (.createTopup "u1" 50000 Topup.topupTtlSeconds
          (orderDraws "o1" "AA" 0))).orders.rows =
          [only] ∧ only.userId = some "u1" := ⟨_, rfl, rfl⟩
    have member := (candidate_of_unique pays.unique).1
    rw [listed, List.mem_singleton] at member
    rw [member, payer] at nobody
    contradiction
  have run := Run.of_guarded guarded
  have origins := (topup_rows_from_topups opening_shop run).1
  obtain ⟨row, listed, keyed, payee⟩ : ∃ row,
      (topupOps.foldl (serve .ascii) shop).walletTransactions.rows = [row] ∧
      row.idempotencyKey = topupKey "o1" ∧ row.userId = "u1" := ⟨_, rfl, rfl, rfl⟩
  have member : row ∈ (topupOps.foldl (serve .ascii) shop).walletTransactions.rows := by
    rw [listed]
    exact List.mem_singleton_self row
  exact ⟨_, run, row, member, payee, origins "o1" row member keyed⟩

/-- The shop with a client `u2` that receives money on an account of its own. -/
def market : Database := { shop with
  users := ⟨[⟨"u1", "a@example.com", 0⟩, ⟨"u2", "client@example.com", 0⟩], by decide⟩
  bankAccounts := ⟨[⟨"b1", none, "active", true⟩, ⟨"b2", some "u2", "active", false⟩],
    by decide⟩ }

/-- The body of `POST /v1/orders` with the metadata of a top-up. -/
def forgedTopup : OrderCreate where
  amountVnd := 50000
  bankAccountId := "b2"
  customerRef := none
  metadata := topupMetadata "u2"
  ttlSeconds := 900
  positive := by decide
  ttlPositive := by decide
  ttlBound := by decide

def forgedOps : List Op := [
  .createOrder ⟨some "u2", ["orders:write"]⟩ forgedTopup (orderDraws "o1" "AA" 0),
  .ingest "b2" topupTransfer (ingestDraws "t1" 1)]

/-- A client fills its wallet by a transfer into its own account. -/
theorem forged_topup_is_credited :
    ¬∀ (unicode : UnicodeData) (start db : Database) (ops : List Op), Opening start →
      (∀ op ∈ ops, ∀ txId note actorEmail draws, op ≠ .refund txId note actorEmail draws) →
      Run (Computed (serve unicode)) start ops db → ∀ orderId,
        ∀ row ∈ db.walletTransactions.rows, row.idempotencyKey = topupKey orderId →
          FromTopup unicode start ops db orderId row := by
  intro claimed
  have run := Run.of_computed (serve .ascii) market forgedOps
  obtain ⟨row, listed, keyed⟩ : ∃ row,
      (forgedOps.foldl (serve .ascii) market).walletTransactions.rows = [row] ∧
      row.idempotencyKey = topupKey "o1" := ⟨_, rfl, rfl⟩
  have member : row ∈ (forgedOps.foldl (serve .ascii) market).walletTransactions.rows := by
    rw [listed]
    exact List.mem_singleton_self row
  have origin := claimed .ascii market _ forgedOps ⟨rfl, fun _ => rfl⟩ (by simp [forgedOps]) run
    "o1" row member keyed
  obtain ⟨earlier, later, amountVnd, ttlSeconds, draws, before, order, after, split, -⟩ :=
    origin.created
  have call : .createTopup row.userId amountVnd ttlSeconds draws ∈ forgedOps := by simp [split]
  simp [forgedOps] at call

end ApiBank.Orders.TopupOrigin
