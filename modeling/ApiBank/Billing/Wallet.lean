import ApiBank.Db.Session

/-!
# Wallet ledger

The kernel `apply` and its four entry points, on the state of one session. The
kernel is cut where its database round trips are (lookup, lock, flush), so that
the interleaved model of several sessions runs the same pieces. In one session
nothing can come between the lookup and the flush, hence the unique index never
refuses the row here; the path taken when it does belongs to that model.
-/

namespace ApiBank.Billing.Wallet

open ApiBank.Db ApiBank.Relational ApiBank.Transition

set_option autoImplicit false

/-- The keyword arguments of `_apply`, with the signed amount. -/
structure WalletRequest where
  userId : String
  type : WalletType
  amountVnd : Int
  idempotencyKey : String
  refKind : Option String
  refId : Option String
  note : Option String
  createdBy : Option String
deriving DecidableEq, Repr

def SamePayload (row : WalletTransaction) (request : WalletRequest) : Prop :=
  row.userId = request.userId ∧ row.amountVnd = request.amountVnd ∧ row.type = request.type

instance (row : WalletTransaction) (request : WalletRequest) :
    Decidable (SamePayload row request) :=
  inferInstanceAs (Decidable (_ ∧ _ ∧ _))

def conflict (key : String) : Error :=
  .idempotencyConflict s!"idempotency key {strRepr key} reused with different payload"

/-- What the lookup of the key answers with: the stored row when the payload
agrees, the conflict when it does not. -/
def replay (existing : WalletTransaction) (request : WalletRequest) :
    Except Error WalletTransaction :=
  if SamePayload existing request then .ok existing else .error (conflict request.idempotencyKey)

def newRecord (balanceAfter : Int) (request : WalletRequest) (fresh : RowDefaults) :
    WalletTransaction where
  id := fresh.id
  userId := request.userId
  type := request.type
  amountVnd := request.amountVnd
  balanceAfter := balanceAfter
  refKind := request.refKind
  refId := request.refId
  idempotencyKey := request.idempotencyKey
  note := request.note
  createdBy := request.createdBy
  createdAt := .utc fresh.now

/-- The overdraft check and the new row, from the balance the session holds. -/
def draft (balanceVnd : Int) (request : WalletRequest) (fresh : RowDefaults) :
    Except Error WalletTransaction :=
  let newBalance := balanceVnd + request.amountVnd
  if newBalance < 0 then
    .error (.insufficientFunds
      s!"balance {balanceVnd} insufficient for amount {request.amountVnd}")
  else .ok (newRecord newBalance request fresh)

def existingByIdempotency (key : String) : Session (Option WalletTransaction) := fun db =>
  .ok (db.walletTransactions.find? key) db

def lockUser (userId : String) : Session (Option User) := fun db =>
  .ok (db.users.find? userId) db

def setBalance (balanceVnd : Int) (user : User) : User := { user with balanceVnd }

@[simp] theorem id_setBalance (balanceVnd : Int) (user : User) :
    (setBalance balanceVnd user).id = user.id := rfl

@[simp] theorem setBalance_self (user : User) : setBalance user.balanceVnd user = user := rfl

/-- `user.balance_vnd = new_balance`. -/
def assignBalance (userId : String) (balanceVnd : Int) : Session Unit := fun db =>
  .ok () { db with
    users := db.users.modify userId (setBalance balanceVnd) (id_setBalance balanceVnd) }

/-- The first amount that `Numeric(18, 0)` does not hold. -/
def vndLimit : Int := 1000000000000000000

/-- The balance of a posting does not fit into its column. A stored balance does, so the posting
is one that adds. -/
def Overflows (request : WalletRequest) (balanceAfter : Int) : Prop :=
  0 < request.amountVnd ∧ vndLimit ≤ balanceAfter

instance (request : WalletRequest) (balanceAfter : Int) :
    Decidable (Overflows request balanceAfter) :=
  inferInstanceAs (Decidable (_ ∧ _))

/-- `session.add(record)` and the flush that sends it. -/
def flushRecord (record : WalletTransaction) : Session WalletTransaction := fun db =>
  match db.walletTransactions.insert? record with
  | some rows => .ok record { db with walletTransactions := rows }
  | none => .error .integrityError db

def apply (request : WalletRequest) (fresh : RowDefaults) : Session WalletTransaction := do
  if request.amountVnd = 0 then throw (.valueError "amount must be non-zero")
  else
    match ← existingByIdempotency request.idempotencyKey with
    | some existing => liftResult (replay existing request)
    | none =>
        match ← lockUser request.userId with
        | none => throw (.valueError s!"user {request.userId} not found")
        | some user =>
            let record ← liftResult (draft user.balanceVnd request fresh)
            -- the flush sends the balance first and writes nothing when that is refused
            if Overflows request record.balanceAfter then throw .dbapiError
            else
              assignBalance user.id record.balanceAfter
              flushRecord record

/-- The keyword arguments of `credit`, `debit` and `refund`. -/
structure WalletArgs where
  userId : String
  amountVnd : Int
  idempotencyKey : String
  refKind : Option String
  refId : Option String
  note : Option String
  createdBy : Option String
deriving DecidableEq, Repr

/-- The common body of `credit`, `debit` and `refund`: a positive amount, posted
with the sign of the entry point. -/
def positiveRequest (message : String) (type : WalletType) (sign : Int) (args : WalletArgs) :
    Except Error WalletRequest :=
  if args.amountVnd ≤ 0 then .error (.valueError message)
  else .ok {
    userId := args.userId
    type
    amountVnd := sign * args.amountVnd
    idempotencyKey := args.idempotencyKey
    refKind := args.refKind
    refId := args.refId
    note := args.note
    createdBy := args.createdBy }

def creditRequest : WalletArgs → Except Error WalletRequest :=
  positiveRequest "credit amount must be positive" .topup 1

def debitRequest : WalletArgs → Except Error WalletRequest :=
  positiveRequest "debit amount must be positive" .debit (-1)

def refundRequest : WalletArgs → Except Error WalletRequest :=
  positiveRequest "refund amount must be positive" .refund 1

/-- The keyword arguments of `adjust`. -/
structure AdjustArgs where
  userId : String
  amountVnd : Int
  idempotencyKey : String
  note : Option String
  createdBy : Option String
deriving DecidableEq, Repr

def adjustRequest (args : AdjustArgs) : Except Error WalletRequest :=
  if args.amountVnd = 0 then .error (.valueError "adjust amount must be non-zero")
  else .ok {
    userId := args.userId
    type := .adjust
    amountVnd := args.amountVnd
    idempotencyKey := args.idempotencyKey
    refKind := some "manual"
    refId := none
    note := args.note
    createdBy := args.createdBy }

/-- A call of one of the four entry points. -/
inductive WalletOperation where
  | credit (args : WalletArgs)
  | debit (args : WalletArgs)
  | refund (args : WalletArgs)
  | adjust (args : AdjustArgs)
deriving DecidableEq, Repr

def WalletOperation.request : WalletOperation → Except Error WalletRequest
  | .credit args => creditRequest args
  | .debit args => debitRequest args
  | .refund args => refundRequest args
  | .adjust args => adjustRequest args

def perform (operation : WalletOperation) (fresh : RowDefaults) : Session WalletTransaction := do
  let request ← liftResult operation.request
  apply request fresh

def credit (args : WalletArgs) : RowDefaults → Session WalletTransaction :=
  perform (.credit args)

def debit (args : WalletArgs) : RowDefaults → Session WalletTransaction :=
  perform (.debit args)

def refund (args : WalletArgs) : RowDefaults → Session WalletTransaction :=
  perform (.refund args)

def adjust (args : AdjustArgs) : RowDefaults → Session WalletTransaction :=
  perform (.adjust args)

theorem draft_ok_iff (balanceVnd : Int) (request : WalletRequest) (fresh : RowDefaults)
    (row : WalletTransaction) :
    draft balanceVnd request fresh = .ok row ↔
      0 ≤ balanceVnd + request.amountVnd ∧
        row = newRecord (balanceVnd + request.amountVnd) request fresh := by
  unfold draft
  by_cases overdraft : balanceVnd + request.amountVnd < 0
  · have short : ¬0 ≤ balanceVnd + request.amountVnd := Int.not_le.mpr overdraft
    simp [overdraft, short]
  · simp [overdraft, eq_comm, Int.not_lt.mp overdraft]

theorem fits_of_taking {request : WalletRequest} {balanceAfter : Int}
    (takes : request.amountVnd ≤ 0) : ¬Overflows request balanceAfter := by
  intro overflow
  exact absurd overflow.1 (Int.not_lt.mpr takes)

theorem replay_ok_iff (existing row : WalletTransaction) (request : WalletRequest) :
    replay existing request = .ok row ↔ existing = row ∧ SamePayload existing request := by
  unfold replay
  by_cases same : SamePayload existing request <;> simp [same]

/-- The write path of the kernel: the key was unused, the user's balance after
the posting is not negative and fits, and the row and the balance are all that changed. -/
structure Posted (request : WalletRequest) (fresh : RowDefaults) (before : Database)
    (row : WalletTransaction) (after : Database) : Prop where
  unused : before.walletTransactions.find? request.idempotencyKey = none
  known : ∃ user, before.users.find? request.userId = some user ∧
    row.balanceAfter = user.balanceVnd + request.amountVnd
  solvent : 0 ≤ row.balanceAfter
  fits : ¬Overflows request row.balanceAfter
  shape : row = newRecord row.balanceAfter request fresh
  inserted : before.walletTransactions.insert? row = some after.walletTransactions
  users : after.users =
    before.users.modify request.userId (setBalance row.balanceAfter)
      (id_setBalance row.balanceAfter)
  frame : after = { before with
    users := after.users
    walletTransactions := after.walletTransactions }

theorem Posted.payload {request : WalletRequest} {fresh : RowDefaults} {before after : Database}
    {row : WalletTransaction} (posted : Posted request fresh before row after) :
    SamePayload row request := by
  rw [posted.shape]
  exact ⟨rfl, rfl, rfl⟩

theorem Posted.keyed {request : WalletRequest} {fresh : RowDefaults} {before after : Database}
    {row : WalletTransaction} (posted : Posted request fresh before row after) :
    row.idempotencyKey = request.idempotencyKey := by
  rw [posted.shape]
  rfl

/-- The two ways the kernel returns: the stored row of the key, with nothing
changed, or a new posting. -/
theorem apply_ok {request : WalletRequest} {fresh : RowDefaults} {before after : Database}
    {row : WalletTransaction} (returned : apply request fresh before = .ok row after) :
    (before.walletTransactions.find? request.idempotencyKey = some row ∧
      SamePayload row request ∧ after = before) ∨ Posted request fresh before row after := by
  unfold apply at returned
  split at returned
  · simp at returned
  · obtain ⟨existing, middle, looked, rest⟩ := (Effect.bind_ok_iff ..).mp returned
    obtain ⟨rfl, rfl⟩ : before.walletTransactions.find? request.idempotencyKey = existing ∧
        before = middle := by simpa [existingByIdempotency] using looked
    cases found : before.walletTransactions.find? request.idempotencyKey with
    | some existing =>
        simp only [found] at rest
        cases replayed : replay existing request with
        | error failure => simp [replayed, liftResult] at rest
        | ok stored =>
            obtain ⟨rfl, same⟩ := (replay_ok_iff ..).mp replayed
            simp only [replayed, liftResult, Effect.pure_apply, EStateM.Result.ok.injEq] at rest
            obtain ⟨rfl, rfl⟩ := rest
            exact Or.inl ⟨rfl, same, rfl⟩
    | none =>
        simp only [found] at rest
        obtain ⟨locked, middle, lockedBy, rest⟩ := (Effect.bind_ok_iff ..).mp rest
        obtain ⟨rfl, rfl⟩ : before.users.find? request.userId = locked ∧ before = middle := by
          simpa [lockUser] using lockedBy
        cases known : before.users.find? request.userId with
        | none => simp [known] at rest
        | some user =>
            simp only [known] at rest
            cases drafted : draft user.balanceVnd request fresh with
            | error failure => simp [drafted, liftResult, bind, EStateM.bind] at rest
            | ok record =>
                obtain ⟨solvent, shape⟩ := (draft_ok_iff ..).mp drafted
                have userId := Table.key_of_find? known
                simp only [drafted, liftResult, bind, EStateM.bind, Effect.pure_apply] at rest
                split at rest
                · simp at rest
                rename_i fits
                simp only [EStateM.bind, assignBalance, flushRecord] at rest
                cases inserted : before.walletTransactions.insert? record with
                | none => simp [inserted] at rest
                | some rows =>
                    simp only [inserted, EStateM.Result.ok.injEq] at rest
                    obtain ⟨rfl, rfl⟩ := rest
                    subst shape
                    exact Or.inr {
                      unused := found
                      known := ⟨user, known, rfl⟩
                      solvent := solvent
                      fits := fits
                      shape := rfl
                      inserted := inserted
                      users := by simp only [userId]
                      frame := rfl }

theorem apply_returns {request : WalletRequest} {before : Database} {user : User}
    (fresh : RowDefaults) (nonzero : request.amountVnd ≠ 0)
    (unused : before.walletTransactions.find? request.idempotencyKey = none)
    (known : before.users.find? request.userId = some user)
    (solvent : 0 ≤ user.balanceVnd + request.amountVnd)
    (fits : ¬Overflows request (user.balanceVnd + request.amountVnd)) :
    ∃ row after, apply request fresh before = .ok row after := by
  have drafted := (draft_ok_iff user.balanceVnd request fresh _).mpr ⟨solvent, rfl⟩
  obtain ⟨rows, inserted⟩ : ∃ rows, before.walletTransactions.insert?
      (newRecord (user.balanceVnd + request.amountVnd) request fresh) = some rows :=
    Table.insert?_of_fresh unused
  have stored : ¬Overflows request
      (newRecord (user.balanceVnd + request.amountVnd) request fresh).balanceAfter := fits
  simp [apply, nonzero, bind, EStateM.bind, existingByIdempotency, unused, lockUser, known,
    drafted, liftResult, stored, assignBalance, flushRecord, inserted]

/-- A used key with the same payload: the kernel returns the stored row. -/
theorem apply_replays {request : WalletRequest} {before : Database} {row : WalletTransaction}
    (fresh : RowDefaults) (nonzero : request.amountVnd ≠ 0)
    (found : before.walletTransactions.find? request.idempotencyKey = some row)
    (same : SamePayload row request) : apply request fresh before = .ok row before := by
  have replayed : replay row request = .ok row := (replay_ok_iff ..).mpr ⟨rfl, same⟩
  simp [apply, nonzero, bind, EStateM.bind, existingByIdempotency, found, replayed, liftResult]

theorem Posted.transport {request : WalletRequest} {fresh : RowDefaults}
    {before after other : Database} {row : WalletTransaction}
    (posted : Posted request fresh before row after) (users : before.users = other.users)
    (rows : before.walletTransactions = other.walletTransactions) :
    Posted request fresh other row { other with
      users := after.users
      walletTransactions := after.walletTransactions } where
  unused := rows ▸ posted.unused
  known := users ▸ posted.known
  solvent := posted.solvent
  fits := posted.fits
  shape := posted.shape
  inserted := rows ▸ posted.inserted
  users := users ▸ posted.users
  frame := rfl

/-- The exception classes of the wallet, and that of the driver for a balance that does not fit. -/
def WalletFailure : Error → Prop
  | .valueError _ => True
  | .insufficientFunds _ => True
  | .idempotencyConflict _ => True
  | .dbapiError => True
  | _ => False

theorem draft_failure {balanceVnd : Int} {request : WalletRequest} {fresh : RowDefaults}
    {failure : Error} (raised : draft balanceVnd request fresh = .error failure) :
    WalletFailure failure ∧ failure.abortsTransaction = false := by
  simp only [draft] at raised
  split at raised
  · cases raised
    exact ⟨trivial, rfl⟩
  · cases raised

theorem replay_failure {existing : WalletTransaction} {request : WalletRequest}
    {failure : Error} (raised : replay existing request = .error failure) :
    ¬SamePayload existing request ∧ failure = conflict request.idempotencyKey := by
  unfold replay at raised
  split at raised
  · cases raised
  · rename_i differs
    cases raised
    exact ⟨differs, rfl⟩

/-- A new posting of the request would not fit. -/
def Overflowing (request : WalletRequest) (db : Database) : Prop :=
  db.walletTransactions.find? request.idempotencyKey = none ∧
    ∃ user, db.users.find? request.userId = some user ∧
      Overflows request (user.balanceVnd + request.amountVnd)

/-- The kernel raises before it writes. The one write that precedes a possible
exception is the balance assignment before the flush, and in a single session the
flush fails only on a balance that does not fit: the key was looked up and is absent. -/
theorem apply_error_cases {request : WalletRequest} {fresh : RowDefaults}
    {before after : Database} {failure : Error}
    (raised : apply request fresh before = .error failure after) :
    after = before ∧ WalletFailure failure ∧
      (failure.abortsTransaction = false ∨ Overflowing request before) := by
  unfold apply at raised
  split at raised
  · simp only [Effect.throw_apply, EStateM.Result.error.injEq] at raised
    obtain ⟨rfl, rfl⟩ := raised
    exact ⟨rfl, trivial, .inl rfl⟩
  · cases found : before.walletTransactions.find? request.idempotencyKey with
    | some existing =>
        simp only [bind, EStateM.bind, existingByIdempotency, found] at raised
        cases replayed : replay existing request with
        | ok stored => simp [replayed, liftResult] at raised
        | error conflicting =>
            simp only [replayed, liftResult, Effect.throw_apply,
              EStateM.Result.error.injEq] at raised
            obtain ⟨rfl, rfl⟩ := raised
            rw [(replay_failure replayed).2]
            exact ⟨rfl, trivial, .inl rfl⟩
    | none =>
        simp only [bind, EStateM.bind, existingByIdempotency, found, lockUser] at raised
        cases known : before.users.find? request.userId with
        | none =>
            simp only [known, Effect.throw_apply, EStateM.Result.error.injEq] at raised
            obtain ⟨rfl, rfl⟩ := raised
            exact ⟨rfl, trivial, .inl rfl⟩
        | some user =>
            simp only [known] at raised
            cases drafted : draft user.balanceVnd request fresh with
            | error short =>
                simp only [drafted, liftResult, EStateM.bind, Effect.throw_apply,
                  EStateM.Result.error.injEq] at raised
                obtain ⟨rfl, rfl⟩ := raised
                obtain ⟨refused, survives⟩ := draft_failure drafted
                exact ⟨rfl, refused, .inl survives⟩
            | ok record =>
                obtain ⟨-, shape⟩ := (draft_ok_iff ..).mp drafted
                have unused : before.walletTransactions.find? record.idempotencyKey = none := by
                  rw [shape]
                  exact found
                obtain ⟨rows, inserted⟩ := Table.insert?_of_fresh unused
                simp only [drafted, liftResult, EStateM.bind, Effect.pure_apply] at raised
                split at raised
                · rename_i overflow
                  simp only [Effect.throw_apply, EStateM.Result.error.injEq] at raised
                  obtain ⟨rfl, rfl⟩ := raised
                  rw [shape] at overflow
                  exact ⟨rfl, trivial, .inr ⟨found, user, known, overflow⟩⟩
                · simp [EStateM.bind, assignBalance, flushRecord, inserted] at raised

theorem apply_error {request : WalletRequest} {fresh : RowDefaults} {before after : Database}
    {failure : Error} (raised : apply request fresh before = .error failure after) :
    after = before ∧ WalletFailure failure :=
  (apply_error_cases raised).imp_right And.left

theorem apply_of_overflowing {request : WalletRequest} {before : Database} (fresh : RowDefaults)
    (overflowing : Overflowing request before) :
    apply request fresh before = .error .dbapiError before := by
  obtain ⟨unused, user, known, overflow⟩ := overflowing
  have nonzero : request.amountVnd ≠ 0 := Int.ne_of_gt overflow.1
  have solvent : 0 ≤ user.balanceVnd + request.amountVnd :=
    Int.le_trans (by decide) overflow.2
  have drafted := (draft_ok_iff user.balanceVnd request fresh _).mpr ⟨solvent, rfl⟩
  have refused : Overflows request
      (newRecord (user.balanceVnd + request.amountVnd) request fresh).balanceAfter := overflow
  simp [apply, nonzero, bind, EStateM.bind, existingByIdempotency, unused, lockUser, known,
    drafted, liftResult, refused]

/-- The kernel breaks the transaction when the balance of a new posting does not fit. -/
theorem apply_breaks_iff (request : WalletRequest) (fresh : RowDefaults) (before : Database) :
    Effect.raises Error.abortsTransaction (apply request fresh) before = true ↔
      Overflowing request before := by
  unfold Effect.raises
  constructor
  · intro broken
    cases ran : apply request fresh before with
    | ok row after =>
        rw [ran] at broken
        cases broken
    | error failure after =>
        rw [ran] at broken
        obtain ⟨-, -, survives | overflowing⟩ := apply_error_cases ran
        · exact absurd (broken.symm.trans survives) (by decide)
        · exact overflowing
  · intro overflowing
    rw [apply_of_overflowing fresh overflowing]
    rfl

theorem positiveRequest_ok {message : String} {type : WalletType} {sign : Int} {args : WalletArgs}
    {request : WalletRequest}
    (requested : positiveRequest message type sign args = .ok request) :
    0 < args.amountVnd ∧ request = {
      userId := args.userId
      type
      amountVnd := sign * args.amountVnd
      idempotencyKey := args.idempotencyKey
      refKind := args.refKind
      refId := args.refId
      note := args.note
      createdBy := args.createdBy } := by
  unfold positiveRequest at requested
  split at requested
  · contradiction
  · rename_i positive
    cases requested
    exact ⟨Int.not_le.mp positive, rfl⟩

theorem request_failure {operation : WalletOperation} {failure : Error}
    (raised : operation.request = .error failure) : WalletFailure failure := by
  have positive (message : String) (type : WalletType) (sign : Int) (args : WalletArgs)
      (refused : positiveRequest message type sign args = .error failure) :
      WalletFailure failure := by
    unfold positiveRequest at refused
    split at refused <;> cases refused
    trivial
  cases operation with
  | credit args => exact positive _ _ _ args raised
  | debit args => exact positive _ _ _ args raised
  | refund args => exact positive _ _ _ args raised
  | adjust args =>
      simp only [WalletOperation.request, adjustRequest] at raised
      split at raised <;> cases raised
      trivial

theorem request_nonzero {operation : WalletOperation} {request : WalletRequest}
    (requested : operation.request = .ok request) : request.amountVnd ≠ 0 := by
  have positive (message : String) (type : WalletType) (sign : Int) (unit : sign ≠ 0)
      (args : WalletArgs) (accepted : positiveRequest message type sign args = .ok request) :
      request.amountVnd ≠ 0 := by
    obtain ⟨amount, rfl⟩ := positiveRequest_ok accepted
    exact Int.mul_ne_zero unit (Int.ne_of_gt amount)
  cases operation with
  | credit args => exact positive _ _ _ (by decide) args requested
  | debit args => exact positive _ _ _ (by decide) args requested
  | refund args => exact positive _ _ _ (by decide) args requested
  | adjust args =>
      simp only [WalletOperation.request, adjustRequest] at requested
      split at requested <;> cases requested
      assumption

theorem perform_ok {operation : WalletOperation} {fresh : RowDefaults} {before after : Database}
    {row : WalletTransaction} (returned : perform operation fresh before = .ok row after) :
    ∃ request, operation.request = .ok request ∧ apply request fresh before = .ok row after := by
  unfold perform at returned
  cases requested : operation.request with
  | error failure => simp [requested, liftResult, bind, EStateM.bind] at returned
  | ok request => exact ⟨request, rfl, by simpa [requested, liftResult] using returned⟩

theorem perform_frame {operation : WalletOperation} {fresh : RowDefaults}
    {before after : Database} {row : WalletTransaction}
    (returned : perform operation fresh before = .ok row after) :
    after = { before with
      users := after.users
      walletTransactions := after.walletTransactions } := by
  obtain ⟨request, -, applied⟩ := perform_ok returned
  rcases apply_ok applied with ⟨-, -, rfl⟩ | posted
  · rfl
  · exact posted.frame

theorem perform_error {operation : WalletOperation} {fresh : RowDefaults}
    {before after : Database} {failure : Error}
    (raised : perform operation fresh before = .error failure after) :
    after = before ∧ WalletFailure failure := by
  unfold perform at raised
  cases requested : operation.request with
  | error refused =>
      simp only [requested, liftResult, bind, EStateM.bind, Effect.throw_apply,
        EStateM.Result.error.injEq] at raised
      obtain ⟨rfl, rfl⟩ := raised
      exact ⟨rfl, request_failure requested⟩
  | ok request => exact apply_error (by simpa [requested, liftResult] using raised)

theorem credit_breaks_iff (args : WalletArgs) (fresh : RowDefaults) (before : Database) :
    Effect.raises Error.abortsTransaction (credit args fresh) before = true ↔
      0 < args.amountVnd ∧ before.walletTransactions.find? args.idempotencyKey = none ∧
        ∃ user, before.users.find? args.userId = some user ∧
          vndLimit ≤ user.balanceVnd + args.amountVnd := by
  by_cases positive : 0 < args.amountVnd
  · have accepted : ¬args.amountVnd ≤ 0 := Int.not_le.mpr positive
    have posting : Effect.raises Error.abortsTransaction (credit args fresh) before =
        Effect.raises Error.abortsTransaction (apply ⟨args.userId, .topup, 1 * args.amountVnd,
          args.idempotencyKey, args.refKind, args.refId, args.note, args.createdBy⟩ fresh)
            before := by
      simp only [Effect.raises, credit, perform, WalletOperation.request, creditRequest,
        positiveRequest, if_neg accepted, liftResult, bind, EStateM.bind, Effect.pure_apply]
    rw [posting, apply_breaks_iff]
    simp only [Overflowing, Overflows, Int.one_mul, positive, true_and]
  · have refused : args.amountVnd ≤ 0 := Int.not_lt.mp positive
    simp [Effect.raises, credit, perform, WalletOperation.request, creditRequest,
      positiveRequest, refused, liftResult, bind, EStateM.bind, Error.abortsTransaction, positive]

/-- A debit that returns has a row under its key, and writes nothing when the row
was there before. -/
theorem debit_once {args : WalletArgs} {fresh : RowDefaults} {before after : Database}
    {row : WalletTransaction} (returned : debit args fresh before = .ok row after) :
    after.walletTransactions.find? args.idempotencyKey = some row ∧
      (before.walletTransactions.find? args.idempotencyKey ≠ none → after = before) := by
  obtain ⟨request, requested, applied⟩ := perform_ok returned
  obtain ⟨-, rfl⟩ := positiveRequest_ok requested
  rcases apply_ok applied with ⟨found, -, rfl⟩ | posted
  · exact ⟨found, fun _ => rfl⟩
  · refine ⟨?_, fun taken => absurd posted.unused taken⟩
    rw [Table.find?_insert? posted.inserted, if_pos posted.keyed]

theorem credit_posts {args : WalletArgs} {fresh : RowDefaults} {before after : Database}
    {row : WalletTransaction} (returned : credit args fresh before = .ok row after) :
    (before.walletTransactions.find? args.idempotencyKey = some row ∧ after = before) ∨
      before.walletTransactions.insert? row = some after.walletTransactions ∧
        row.idempotencyKey = args.idempotencyKey ∧ row.userId = args.userId ∧
          row.amountVnd = args.amountVnd := by
  obtain ⟨request, requested, applied⟩ := perform_ok returned
  obtain ⟨-, rfl⟩ := positiveRequest_ok requested
  rcases apply_ok applied with ⟨found, -, same⟩ | posted
  · exact .inl ⟨found, same⟩
  · obtain ⟨payee, amount, -⟩ := posted.payload
    exact .inr ⟨posted.inserted, posted.keyed, payee, amount.trans (Int.one_mul _)⟩

theorem credit_ok {args : WalletArgs} {fresh : RowDefaults} {before after : Database}
    {row : WalletTransaction} (returned : credit args fresh before = .ok row after) :
    after = before ∨ before.walletTransactions.insert? row = some after.walletTransactions ∧
      row.idempotencyKey = args.idempotencyKey ∧ row.amountVnd = args.amountVnd := by
  rcases credit_posts returned with ⟨-, same⟩ | ⟨inserted, keyed, -, amount⟩
  · exact .inl same
  · exact .inr ⟨inserted, keyed, amount⟩

/-- A debit finds its own earlier row, or an unused key and enough money. -/
def Chargeable (userId key : String) (priceVnd : Int) (db : Database) : Prop :=
  match db.walletTransactions.find? key with
  | some row => row.userId = userId ∧ row.amountVnd = -priceVnd ∧ row.type = .debit
  | none => ∃ user, db.users.find? userId = some user ∧ priceVnd ≤ user.balanceVnd

theorem debit_returns_iff (args : WalletArgs) (fresh : RowDefaults) (before : Database) :
    (∃ row after, debit args fresh before = .ok row after) ↔
      0 < args.amountVnd ∧ Chargeable args.userId args.idempotencyKey args.amountVnd before := by
  constructor
  · rintro ⟨row, after, returned⟩
    obtain ⟨request, requested, applied⟩ := perform_ok returned
    obtain ⟨positive, rfl⟩ := positiveRequest_ok requested
    refine ⟨positive, ?_⟩
    unfold Chargeable
    rcases apply_ok applied with ⟨found, ⟨payer, amount, type⟩, -⟩ | posted
    · simp only at found payer amount type
      simp only [found]
      exact ⟨payer, by omega, type⟩
    · have unused := posted.unused
      obtain ⟨user, known, total⟩ := posted.known
      have solvent := posted.solvent
      simp only at unused known total
      simp only [unused]
      exact ⟨user, known, by omega⟩
  · rintro ⟨positive, chargeable⟩
    have accepted : ¬args.amountVnd ≤ 0 := Int.not_le.mpr positive
    simp only [debit, perform, WalletOperation.request, debitRequest, positiveRequest,
      if_neg accepted, liftResult]
    unfold Chargeable at chargeable
    cases found : before.walletTransactions.find? args.idempotencyKey with
    | some row =>
        simp only [found] at chargeable
        obtain ⟨payer, amount, type⟩ := chargeable
        refine ⟨row, before, apply_replays fresh ?_ found ⟨payer, ?_, type⟩⟩
        · dsimp only
          omega
        · dsimp only
          omega
    | none =>
        simp only [found] at chargeable
        obtain ⟨user, known, enough⟩ := chargeable
        exact apply_returns fresh (by dsimp only; omega) found known (by dsimp only; omega)
          (fits_of_taking (by dsimp only; omega))

end ApiBank.Billing.Wallet
