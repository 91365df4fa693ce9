import ApiBank.Billing.Wallet
import ApiBank.Db.PaymentNames

/-!
# Wallet top-ups

An order whose metadata says `kind = "topup"` is a top-up, whoever wrote the
metadata. `create_topup_order` writes it for a user and on the system account;
the credit of a paid top-up reads the user from the metadata again.
-/

namespace ApiBank.Billing.Topup

open ApiBank.Db ApiBank.Relational ApiBank.Transition PaymentNames Wallet

set_option autoImplicit false

def topupKind : String := "topup"

def topupTtlSeconds : Int := 24 * 60 * 60

def minTopupVnd : Int := 2000

def maxTopupVnd : Int := 50000000

def systemBank? (db : Database) : Option BankAccount :=
  db.bankAccounts.rows.find? fun bank => bank.isSystemAccount && bank.status = "active"

def getSystemBank : Session BankAccount :=
  fetch systemBank? (.systemBankNotConfigured
    "no system bank account configured; run `apimb system-bank set --account-id ...`")

def topupMetadata (userId : String) : Metadata :=
  [("kind", .text topupKind), ("user_id", .text userId)]

def createTopupOrder (user : User) (amountVnd ttlSeconds : Int) (draws : OrderDraws) :
    Session Order := do
  if amountVnd < minTopupVnd ∨ maxTopupVnd < amountVnd then
    throw (.valueError "topup amount must be in [2,000, 50,000,000]")
  else
    let bank ← getSystemBank
    allocateOrder (newOrder {
      amountVnd
      bankAccountId := bank.id
      ttlSeconds
      customerRef := some user.email
      metadataJson := topupMetadata user.id
      userId := some user.id } draws) draws

def isTopupOrder (order : Order) : Bool :=
  match order.metadataJson.lookup "kind" with
  | some (.text kind) => kind = topupKind
  | _ => false

def topupKey (orderId : String) : String := s!"topup:{orderId}"

theorem topupKey_injective {first second : String} (same : topupKey first = topupKey second) :
    first = second := by
  have suffixes : toString first = toString second := by simpa [topupKey] using same
  exact suffixes

def topupCredit (order : Order) (userId : String) : WalletArgs where
  userId := userId
  amountVnd := order.amountVnd
  idempotencyKey := topupKey order.id
  refKind := some "order"
  refId := some order.id
  note := some s!"Topup từ đơn {order.code}"
  createdBy := some "system:ingest"

/-- The `user_id` of the metadata. A value that is not a string is no key of the
users table: the driver raises. -/
def referencedUserId (order : Order) : Except Error (Option String) :=
  match order.metadataJson.lookup "user_id" with
  | none => .ok none
  | some (.text userId) => .ok (if userId = "" then none else some userId)
  | some other => if other.truthy then .error (.typeError "user_id is no string") else .ok none

def hasNul (text : String) : Bool := text.toList.any fun char => char.toNat = 0

/-- `session.get(User, user_id)`. No stored id has a NUL; for one that has, the statement is
refused. -/
def getUser (userId : String) : Session (Option User) := fun db =>
  match db.users.find? userId with
  | some user => .ok (some user) db
  | none => if hasNul userId then .error .dbapiError db else .ok none db

def creditWalletForTopup (order : Order) (fresh : RowDefaults) : Session Bool :=
  if isTopupOrder order then do
    match ← liftResult (referencedUserId order) with
    | none => pure false
    | some userId =>
        match ← getUser userId with
        | none => pure false
        | some user =>
            let row ← credit (topupCredit order userId) fresh
            pure (user.balanceVnd < row.balanceAfter)
  else pure false

/-- The existing user whom a top-up order names in its metadata. -/
def fundedUser (db : Database) (order : Order) : Option User :=
  match isTopupOrder order, referencedUserId order with
  | true, .ok (some userId) => db.users.find? userId
  | _, _ => none

def fundedUserId (db : Database) (order : Order) : Option String :=
  (fundedUser db order).map User.id

theorem fundedUserId_eq_some_iff (db : Database) (order : Order) (userId : String) :
    fundedUserId db order = some userId ↔
      isTopupOrder order ∧ referencedUserId order = .ok (some userId) ∧
        ∃ user, db.users.find? userId = some user := by
  unfold fundedUserId fundedUser
  constructor
  · intro funded
    split at funded
    · rename_i named topup referenced
      obtain ⟨user, known, payer⟩ := Option.map_eq_some_iff.mp funded
      obtain rfl : named = userId := (Table.key_of_find? known).symm.trans payer
      exact ⟨topup, referenced, user, known⟩
    · contradiction
  · rintro ⟨topup, referenced, user, known⟩
    simp [topup, referenced, known, Table.key_of_find? known]

theorem isTopup_of_funded {db : Database} {order : Order} {userId : String}
    (funded : fundedUserId db order = some userId) : isTopupOrder order :=
  ((fundedUserId_eq_some_iff ..).mp funded).1

/-- Who is funded depends on which users exist, not on their balances. -/
theorem fundedUserId_congr {before after : Database} {order other : Order}
    (sameMetadata : other.metadataJson = order.metadataJson)
    (sameUsers : ∀ userId, (after.users.find? userId).map User.id =
      (before.users.find? userId).map User.id) :
    fundedUserId after other = fundedUserId before order := by
  have sameKind : isTopupOrder other = isTopupOrder order := by
    simp only [isTopupOrder, sameMetadata]
  have sameReference : referencedUserId other = referencedUserId order := by
    simp only [referencedUserId, sameMetadata]
  unfold fundedUserId fundedUser
  rw [sameKind, sameReference]
  split
  · exact sameUsers _
  · rfl

/-- The credit of an order: nothing for an order that funds nobody, one wallet
call for the funded user. -/
theorem creditWalletForTopup_ok {order : Order} {fresh : RowDefaults} {before after : Database}
    {credited : Bool} (returned : creditWalletForTopup order fresh before = .ok credited after) :
    (fundedUserId before order = none ∧ after = before) ∨
      ∃ userId row, fundedUserId before order = some userId ∧
        credit (topupCredit order userId) fresh before = .ok row after := by
  unfold creditWalletForTopup at returned
  split at returned
  · rename_i topup
    cases referenced : referencedUserId order with
    | error failure => simp [referenced, liftResult, bind, EStateM.bind] at returned
    | ok reference =>
        cases reference with
        | none =>
            simp only [referenced, liftResult, bind, EStateM.bind, Effect.pure_apply,
              EStateM.Result.ok.injEq] at returned
            exact .inl ⟨by simp [fundedUserId, fundedUser, topup, referenced], returned.2.symm⟩
        | some userId =>
            simp only [referenced, liftResult, bind, EStateM.bind, Effect.pure_apply,
              getUser] at returned
            cases known : before.users.find? userId with
            | none =>
                have unfunded : fundedUserId before order = none := by
                  simp [fundedUserId, fundedUser, topup, referenced, known]
                cases refused : hasNul userId with
                | true => simp [known, refused] at returned
                | false =>
                    simp only [known, refused, Bool.false_eq_true, if_false, Effect.pure_apply,
                      EStateM.Result.ok.injEq] at returned
                    exact .inl ⟨unfunded, returned.2.symm⟩
            | some user =>
                simp only [known] at returned
                obtain ⟨row, last, called, done⟩ := (Effect.bind_ok_iff ..).mp returned
                simp only [Effect.pure_apply, EStateM.Result.ok.injEq] at done
                obtain ⟨-, rfl⟩ := done
                have funded := (fundedUserId_eq_some_iff before order userId).mpr
                  ⟨topup, referenced, user, known⟩
                exact .inr ⟨userId, row, funded, called⟩
  · rename_i other
    simp only [Effect.pure_apply, EStateM.Result.ok.injEq] at returned
    exact .inl ⟨by simp [fundedUserId, fundedUser, other], returned.2.symm⟩

theorem creditWalletForTopup_error {order : Order} {fresh : RowDefaults}
    {before after : Database} {failure : Error}
    (raised : creditWalletForTopup order fresh before = .error failure after) : after = before := by
  unfold creditWalletForTopup at raised
  split at raised
  · cases referenced : referencedUserId order with
    | error failed =>
        simp only [referenced, liftResult, bind, EStateM.bind, Effect.throw_apply,
          EStateM.Result.error.injEq] at raised
        exact raised.2.symm
    | ok reference =>
        cases reference with
        | none => simp [referenced, liftResult, bind, EStateM.bind] at raised
        | some userId =>
            simp only [referenced, liftResult, bind, EStateM.bind, Effect.pure_apply,
              getUser] at raised
            cases known : before.users.find? userId with
            | none =>
                cases refused : hasNul userId with
                | true =>
                    simp only [known, refused, if_true, EStateM.Result.error.injEq] at raised
                    exact raised.2.symm
                | false => simp [known, refused] at raised
            | some user =>
                simp only [known] at raised
                rcases (Effect.bind_error_iff ..).mp raised with called | ⟨_, _, _, done⟩
                · exact (perform_error called).1
                · simp at done
  · simp at raised

theorem creditWalletForTopup_of_funded {order : Order} {fresh : RowDefaults}
    {before after : Database} {userId : String} {row : WalletTransaction}
    (funded : fundedUserId before order = some userId)
    (credited : credit (topupCredit order userId) fresh before = .ok row after) :
    ∃ first, creditWalletForTopup order fresh before = .ok first after := by
  obtain ⟨topup, referenced, user, known⟩ := (fundedUserId_eq_some_iff ..).mp funded
  simp [creditWalletForTopup, topup, referenced, liftResult, bind, EStateM.bind, getUser, known,
    credited]

/-- What `user_id` may be makes no statement fail. -/
theorem survives_of_referenced {order : Order} {failure : Error}
    (referenced : referencedUserId order = .error failure) :
    failure.abortsTransaction = false := by
  unfold referencedUserId at referenced
  split at referenced
  · cases referenced
  · cases referenced
  · split at referenced <;> cases referenced
    rfl

/-- The credit of the order meets a statement that the database refuses: its metadata names
somebody by a text with a NUL, or the balance of a new posting does not fit. -/
def BreaksCredit (db : Database) (order : Order) : Prop :=
  isTopupOrder order ∧ ∃ userId, referencedUserId order = .ok (some userId) ∧
    match db.users.find? userId with
    | none => hasNul userId
    | some user => 0 < order.amountVnd ∧
        db.walletTransactions.find? (topupKey order.id) = none ∧
          vndLimit ≤ user.balanceVnd + order.amountVnd

theorem creditWalletForTopup_breaks_iff (order : Order) (fresh : RowDefaults) (db : Database) :
    Effect.raises Error.abortsTransaction (creditWalletForTopup order fresh) db = true ↔
      BreaksCredit db order := by
  unfold BreaksCredit creditWalletForTopup
  by_cases topup : isTopupOrder order = true
  · cases referenced : referencedUserId order with
    | error failure =>
        simp [Effect.raises, topup, liftResult, bind, EStateM.bind,
          survives_of_referenced referenced]
    | ok reference =>
        cases reference with
        | none => simp [Effect.raises, topup, liftResult, bind, EStateM.bind]
        | some userId =>
            cases known : db.users.find? userId with
            | none =>
                cases refused : hasNul userId <;>
                  simp [Effect.raises, topup, liftResult, bind, EStateM.bind, getUser, known,
                    refused, Error.abortsTransaction]
            | some user =>
                have posting := credit_breaks_iff (topupCredit order userId) fresh db
                rw [← Effect.raises_bind_pure _ _ fun row => decide (user.balanceVnd < row.balanceAfter)]
                  at posting
                simp only [topupCredit, known, Option.some.injEq, exists_eq_left'] at posting
                simp only [topup, if_true, liftResult, Except.ok.injEq, Option.some.injEq,
                  exists_eq_left', true_and, known]
                rw [← posting]
                simp only [Effect.raises, bind, EStateM.bind, Effect.pure_apply, getUser, known,
                  topupCredit]
  · simp [Effect.raises, topup]

theorem createTopupOrder_ok {user : User} {amountVnd ttlSeconds : Int} {draws : OrderDraws}
    {before after : Database} {order : Order}
    (returned : createTopupOrder user amountVnd ttlSeconds draws before = .ok order after) :
    minTopupVnd ≤ amountVnd ∧ amountVnd ≤ maxTopupVnd ∧ ∃ bank,
      systemBank? before = some bank ∧
      Allocated (newOrder ⟨amountVnd, bank.id, ttlSeconds, some user.email, topupMetadata user.id,
        some user.id⟩ draws) paymentNames before order after := by
  unfold createTopupOrder at returned
  split at returned
  · simp at returned
  · rename_i accepted
    obtain ⟨bank, middle, found, rest⟩ := (Effect.bind_ok_iff ..).mp returned
    obtain ⟨configured, rfl⟩ := (fetch_ok_iff ..).mp found
    exact ⟨by omega, by omega, bank, configured, allocateOrder_ok rest⟩

theorem systemBank_of_found {db : Database} {bank : BankAccount}
    (found : systemBank? db = some bank) : bank ∈ db.bankAccounts.rows ∧ bank.isSystemAccount := by
  have chosen := List.find?_some found
  simp only [Bool.and_eq_true] at chosen
  exact ⟨List.mem_of_find?_eq_some found, chosen.1⟩

end ApiBank.Billing.Topup
