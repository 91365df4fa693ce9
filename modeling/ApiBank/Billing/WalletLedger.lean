import ApiBank.Accounting.Journal
import ApiBank.Billing.Wallet
import ApiBank.Transition.Run

/-!
# The ledger invariant

The wallet table is a journal: `balance_after` is its running total and
`User.balance_vnd` caches the balance of the account. Both relations, and the
sign of every balance, survive any sequence of wallet calls by any users.
-/

namespace ApiBank.Billing.WalletLedger

open ApiBank.Accounting ApiBank.Db ApiBank.Relational ApiBank.Transition Wallet

set_option autoImplicit false

def walletJournal : Journal WalletTransaction String Int where
  account := WalletTransaction.userId
  amount := WalletTransaction.amountVnd
  running := WalletTransaction.balanceAfter

def ledgerSum (db : Database) (userId : String) : Int :=
  walletJournal.balance db.walletTransactions.rows userId

/-- The cached balances are the ledger sums and none is negative. -/
structure Balanced (db : Database) : Prop where
  cached : ∀ user ∈ db.users.rows, user.balanceVnd = ledgerSum db user.id
  solvent : ∀ user ∈ db.users.rows, 0 ≤ user.balanceVnd

structure LedgerInvariant (db : Database) : Prop extends Balanced db where
  running : walletJournal.RunningTotals db.walletTransactions.rows
  keys : (db.walletTransactions.rows.map WalletTransaction.idempotencyKey).Nodup

/-- Users may exist, with nothing posted and nothing on their balances. -/
structure Genesis (db : Database) : Prop where
  noRows : db.walletTransactions.rows = []
  noBalances : ∀ user ∈ db.users.rows, user.balanceVnd = 0

theorem genesis_invariant {db : Database} (genesis : Genesis db) : LedgerInvariant db where
  cached := by
    intro user member
    simp [ledgerSum, genesis.noRows, genesis.noBalances user member]
  solvent := by
    intro user member
    exact Int.le_of_eq (genesis.noBalances user member).symm
  running := by
    rw [genesis.noRows]
    exact walletJournal.running_totals_nil
  keys := db.walletTransactions.distinct

/-- A posting adds its amount to the sum of its own account and leaves the sums
of all other accounts. -/
theorem ledger_sum_posted {request : WalletRequest} {fresh : RowDefaults} {before after : Database}
    {row : WalletTransaction} (posted : Posted request fresh before row after) (userId : String) :
    ledgerSum after userId =
      ledgerSum before userId + if request.userId = userId then request.amountVnd else 0 := by
  have rows := Table.rows_of_insert? posted.inserted
  unfold ledgerSum
  rw [rows, Journal.balance_append, Journal.balance_singleton]
  simp only [walletJournal, posted.payload.1, posted.payload.2.1]

theorem posted_users {request : WalletRequest} {fresh : RowDefaults} {before after : Database}
    {row : WalletTransaction} (posted : Posted request fresh before row after) (user : User) :
    user ∈ after.users.rows ↔ ∃ old ∈ before.users.rows,
      user = if old.id = request.userId then setBalance row.balanceAfter old else old := by
  rw [posted.users]
  exact before.users.mem_modify_iff request.userId (setBalance row.balanceAfter)
    (id_setBalance row.balanceAfter) user

/-- The write path keeps the cache and the ledger together: the locked row is the
only user row with the request's id, so it is the one the new total is about. -/
theorem balanced_posted {request : WalletRequest} {fresh : RowDefaults} {before after : Database}
    {row : WalletTransaction} (balanced : Balanced before)
    (posted : Posted request fresh before row after) : Balanced after := by
  obtain ⟨locked, found, total⟩ := posted.known
  have lockedMember := Table.mem_of_find? found
  have lockedId := Table.key_of_find? found
  constructor
  · intro user member
    obtain ⟨old, oldMember, rfl⟩ := (posted_users posted user).mp member
    by_cases own : old.id = request.userId
    · have same : old = locked :=
        before.users.eq_of_key_eq oldMember lockedMember (own.trans lockedId.symm)
      have cached := balanced.cached old oldMember
      rw [if_pos own]
      change row.balanceAfter = ledgerSum after old.id
      rw [ledger_sum_posted posted, if_pos own.symm, ← cached, same]
      exact total
    · have cached := balanced.cached old oldMember
      rw [if_neg own, ledger_sum_posted posted, if_neg (Ne.symm own), Int.add_zero]
      exact cached
  · intro user member
    obtain ⟨old, oldMember, rfl⟩ := (posted_users posted user).mp member
    split
    · exact posted.solvent
    · exact balanced.solvent old oldMember

theorem invariant_posted {request : WalletRequest} {fresh : RowDefaults} {before after : Database}
    {row : WalletTransaction} (invariant : LedgerInvariant before)
    (posted : Posted request fresh before row after) : LedgerInvariant after where
  toBalanced := balanced_posted invariant.toBalanced posted
  running := by
    obtain ⟨locked, found, total⟩ := posted.known
    have cached := invariant.cached locked (Table.mem_of_find? found)
    have lockedId : locked.id = request.userId := Table.key_of_find? found
    have rows := Table.rows_of_insert? posted.inserted
    rw [rows]
    apply walletJournal.running_totals_snoc invariant.running
    change row.balanceAfter = ledgerSum before row.userId + row.amountVnd
    rw [total, cached, lockedId, posted.payload.1, posted.payload.2.1]
  keys := after.walletTransactions.distinct

theorem invariant_perform {operation : WalletOperation} {fresh : RowDefaults}
    {before after : Database} {row : WalletTransaction} (invariant : LedgerInvariant before)
    (returned : perform operation fresh before = .ok row after) : LedgerInvariant after := by
  obtain ⟨request, -, applied⟩ := perform_ok returned
  rcases apply_ok applied with ⟨-, -, unchanged⟩ | posted
  · rw [unchanged]
    exact invariant
  · exact invariant_posted invariant posted

def serve (before : Database) (call : WalletOperation × RowDefaults) : Database :=
  Effect.commit (perform call.1 call.2) before

/-- After every sequence of wallet calls the ledger invariant holds, and a call
that raises there raises one of the wallet's exceptions with nothing written. -/
theorem ledger_invariant_every_run {genesis db : Database}
    {calls : List (WalletOperation × RowDefaults)} (start : Genesis genesis)
    (run : Run (Computed serve) genesis calls db) :
    LedgerInvariant db ∧
      ∀ operation fresh failure working,
        perform operation fresh db = .error failure working →
        working = db ∧ WalletFailure failure := by
  refine ⟨?_, fun _ _ _ _ => perform_error⟩
  apply run.invariant LedgerInvariant (genesis_invariant start)
  rintro before call after invariant rfl
  apply Effect.commit_keeps invariant
  intro row after returned
  exact invariant_perform invariant returned

/-- Two users with nothing on their balances. -/
def twoUsers : Database := { Database.empty with
  users := ⟨[⟨"u1", "a@example.com", 0⟩, ⟨"u2", "b@example.com", 0⟩], by decide⟩ }

/-- A credit, a debit that leaves a rest, and an overdraft that is refused. -/
def threeCalls : List (WalletOperation × RowDefaults) := [
  (.credit ⟨"u1", 500000, "k1", none, none, none, none⟩, ⟨"w1", 1⟩),
  (.debit ⟨"u1", 120000, "k2", none, none, none, none⟩, ⟨"w2", 2⟩),
  (.debit ⟨"u2", 1, "k3", none, none, none, none⟩, ⟨"w3", 3⟩)]

theorem ledger_invariant_three_calls :
    ∃ db, (db.users.rows.map User.balanceVnd = [380000, 0] ∧
        db.walletTransactions.rows.map WalletTransaction.balanceAfter = [500000, 380000]) ∧
      LedgerInvariant db := by
  have genesis : Genesis twoUsers := ⟨rfl, by decide⟩
  have run := Run.of_computed serve twoUsers threeCalls
  exact ⟨_, by decide, (ledger_invariant_every_run genesis run).1⟩

end ApiBank.Billing.WalletLedger
