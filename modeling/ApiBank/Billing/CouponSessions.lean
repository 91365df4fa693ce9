import ApiBank.Billing.Coupons
import ApiBank.Transition.Interleaving

/-!
# Redemptions in concurrent sessions

The steps of `redeem` between which other sessions can run: the checks with the
count query, the conditional `UPDATE` of the counter, and the flush of the row. A
session looks the coupon up before the call (`get_active_coupon`), may redeem
several times in one transaction, and commits or rolls back. What else a purchase
does writes no counter and adds or removes no redemption.

Of the stack, for Postgres under READ COMMITTED: an `UPDATE` waits for the row
lock, tests its `WHERE` clause on the latest committed row and keeps the lock to
the end of the transaction; a query sees the committed rows and the session's
own; a loaded object keeps its counter until a rollback expires it, except that
the `UPDATE` also counts on the object; an insertion waits for an uncommitted row
of the same key and fails on a committed one.
-/

namespace ApiBank.Billing.CouponSessions

open ApiBank.Db ApiBank.Relational ApiBank.Transition Coupons

set_option autoImplicit false

/-- What all sessions share: the committed rows, the coupon row locks, and the
index entries of redemptions that are not committed yet. -/
structure Shared where
  committed : Database
  lockOwner : String → Option SessionId
  keyOwner : String → Option SessionId

/-- The arguments of one call, with the coupon object it was given. -/
structure RedeemCall where
  coupon : Coupon
  userId : String
  planCode : String
  invoiceId : Option String
  subscriptionId : Option String
  fresh : RowDefaults

def RedeemCall.redemption (call : RedeemCall) (breakdown : CouponBreakdown) : CouponRedemption :=
  newRedemption call.coupon call.userId call.planCode breakdown call.invoiceId
    call.subscriptionId call.fresh

/-- Where a session stands inside `redeem`. -/
inductive Phase where
  | ready
  | validated (call : RedeemCall) (breakdown : CouponBreakdown)
  | counted (call : RedeemCall) (breakdown : CouponBreakdown)

/-- One session: the counters of the coupon objects it has loaded, what its open
transaction has added to each counter and inserted, and its place in the code. -/
structure Local where
  identityMap : String → Option Int
  counted : String → Nat
  pending : List CouponRedemption
  phase : Phase

inductive Action where
  | select (code : String) (now : Int)
  | redeem (couponId userId planCode : String) (amountVnd : Int)
      (invoiceId subscriptionId : Option String) (fresh : RowDefaults)
  | count
  | insert
  | commit
  | rollback

inductive Outcome where
  | quiet
  | returned (breakdown : CouponBreakdown) (redemption : CouponRedemption)
  | raised (failure : Error)
  | aborted (failure : Error)
  | committed
  | rolledBack

def Local.opened : Local where
  identityMap := fun _ => none
  counted := fun _ => 0
  pending := []
  phase := .ready

def addUses (counted : String → Nat) (coupon : Coupon) : Coupon :=
  { coupon with redeemedCount := coupon.redeemedCount + counted coupon.id }

theorem id_addUses (counted : String → Nat) (coupon : Coupon) :
    (addUses counted coupon).id = coupon.id := rfl

def asLoaded (identityMap : String → Option Int) (row : Coupon) : Coupon :=
  { row with redeemedCount := (identityMap row.id).getD row.redeemedCount }

theorem id_asLoaded (identityMap : String → Option Int) (row : Coupon) :
    (asLoaded identityMap row).id = row.id := rfl

/-- The rows a query of the session returns, which are the rows its commit leaves. -/
def Local.view (state : Local) (db : Database) : Option Database :=
  (db.couponRedemptions.insertAll? state.pending).map fun couponRedemptions => { db with
    coupons := db.coupons.update (addUses state.counted) (id_addUses state.counted)
    couponRedemptions }

/-- The coupons as the session has them: a row that arrives for an object that is
already loaded does not change its counter. -/
def Local.objects (state : Local) (db : Database) : Database := { db with
  coupons := db.coupons.update (asLoaded state.identityMap) (id_asLoaded state.identityMap) }

def Local.object? (state : Local) (db : Database) (couponId : String) : Option Coupon :=
  if (state.identityMap couponId).isSome then (state.objects db).coupons.find? couponId else none

/-- The object that a lookup by code leaves in the session. -/
def Local.loaded (text : CodeText) (state : Local) (db : Database) (code : String) : Local :=
  match (state.objects db).coupons.rows.find? fun coupon =>
      coupon.code = normalizeCode text code with
  | none => state
  | some coupon => { state with
      identityMap := Function.update state.identityMap coupon.id (some coupon.redeemedCount) }

/-- `get_active_coupon`, which tests the object and not the row. -/
def select (text : CodeText) (shared : Shared) (state : Local) (code : String) (now : Int) :
    Option (Outcome × Shared × Local) :=
  match state.phase, state.view shared.committed with
  | .ready, some db =>
      let outcome := match getActiveCoupon text code now (state.objects db) with
        | .ok _ => .quiet
        | .error failure => .raised failure
      some (outcome, shared, state.loaded text db code)
  | _, _ => none

/-- Entry of `redeem` up to its count query. -/
def redeem (shared : Shared) (state : Local) (couponId userId planCode : String)
    (amountVnd : Int) (invoiceId subscriptionId : Option String) (fresh : RowDefaults) :
    Option (Outcome × Shared × Local) :=
  match state.phase, state.view shared.committed with
  | .ready, some db =>
      match state.object? db couponId with
      | none => none
      | some coupon =>
          match computeDiscount coupon amountVnd with
          | .error failure => some (.raised failure, shared, state)
          | .ok breakdown =>
              match validateForUser coupon userId planCode db with
              | .error failure => some (.raised failure, shared, state)
              | .ok () =>
                  let call : RedeemCall :=
                    { coupon, userId, planCode, invoiceId, subscriptionId, fresh }
                  some (.quiet, shared, { state with phase := .validated call breakdown })
  | _, _ => none

/-- The conditional `UPDATE`. The session waits while another one holds the row. -/
def count (session : SessionId) (shared : Shared) (state : Local) :
    Option (Outcome × Shared × Local) :=
  match state.phase, state.view shared.committed with
  | .validated call breakdown, some db =>
      let couponId := call.coupon.id
      if shared.lockOwner couponId = none ∨ shared.lockOwner couponId = some session then
        match countRedemption call.coupon db with
        | .ok () _ =>
            some (.quiet,
              { shared with lockOwner := Function.update shared.lockOwner couponId (some session) },
              { state with
                identityMap := Function.update state.identityMap couponId
                  ((state.identityMap couponId).map (· + 1))
                counted := Function.update state.counted couponId (state.counted couponId + 1)
                phase := .counted call breakdown })
        | .error failure _ => some (.raised failure, shared, { state with phase := .ready })
      else none
  | _, _ => none

/-- What the session has counted: its uncommitted rows, and the one it is about to
insert. -/
def Local.redemptions (state : Local) : List CouponRedemption :=
  match state.phase with
  | .counted call breakdown => state.pending ++ [call.redemption breakdown]
  | _ => state.pending

/-- A rollback: the locks and the uncommitted rows go, every object expires. -/
def rolledBack (session : SessionId) (shared : Shared) : Shared × Local :=
  ({ shared with
      lockOwner := release shared.lockOwner session
      keyOwner := release shared.keyOwner session },
    Local.opened)

/-- The flush of the new row; one that fails rolls the transaction back. -/
def insert (session : SessionId) (shared : Shared) (state : Local) :
    Option (Outcome × Shared × Local) :=
  match state.phase with
  | .counted call breakdown =>
      let redemption := call.redemption breakdown
      if (shared.committed.couponRedemptions.find? redemption.id).isSome ∨
          shared.keyOwner redemption.id = some session then
        some (.aborted .integrityError, rolledBack session shared)
      else if shared.keyOwner redemption.id = none then
        some (.returned breakdown redemption,
          { shared with
            keyOwner := Function.update shared.keyOwner redemption.id (some session) },
          { state with pending := state.pending ++ [redemption], phase := .ready })
      else none
  | _ => none

def commit (session : SessionId) (shared : Shared) (state : Local) :
    Option (Outcome × Shared × Local) :=
  match state.phase, state.view shared.committed with
  | .ready, some committed =>
      some (.committed,
        { committed
          lockOwner := release shared.lockOwner session
          keyOwner := release shared.keyOwner session },
        { state with counted := fun _ => 0, pending := [] })
  | _, _ => none

variable (text : CodeText)

/-- A transaction can also be rolled back inside the call: a lost connection or a
canceled request closes the session. -/
def advance (session : SessionId) (shared : Shared) (state : Local) :
    Action → Option (Outcome × Shared × Local)
  | .select code now => select text shared state code now
  | .redeem couponId userId planCode amountVnd invoiceId subscriptionId fresh =>
      redeem shared state couponId userId planCode amountVnd invoiceId subscriptionId fresh
  | .count => count session shared state
  | .insert => insert session shared state
  | .commit => commit session shared state
  | .rollback => some (.rolledBack, rolledBack session shared)

abbrev System := Interleaved Shared Local

abbrev Event := SessionEvent Action Outcome

def opened (db : Database) : System where
  shared := { committed := db, lockOwner := fun _ => none, keyOwner := fun _ => none }
  sessions := fun _ => Local.opened

/-! ## One session alone -/

section Alone

variable {text} {before after : Database}

theorem addUses_zero (coupon : Coupon) : addUses (fun _ => 0) coupon = coupon := by
  simp [addUses]

/-- The session before its first write. -/
def Local.unwritten (identityMap : String → Option Int) (phase : Phase) : Local where
  identityMap
  counted := fun _ => 0
  pending := []
  phase

@[simp] theorem phase_unwritten (identityMap : String → Option Int) (phase : Phase) :
    (Local.unwritten identityMap phase).phase = phase := rfl

@[simp] theorem view_unwritten (identityMap : String → Option Int) (phase : Phase)
    (db : Database) : (Local.unwritten identityMap phase).view db = some db := by
  have same : db.coupons.update (addUses fun _ => 0) (id_addUses _) = db.coupons := by
    apply Table.ext_rows
    rw [Table.rows_update, funext addUses_zero, List.map_id']
  simp [Local.view, Local.unwritten, Table.insertAll?, same]

theorem objects_current {state : Local} {db : Database}
    (current : ∀ row ∈ db.coupons.rows,
      (state.identityMap row.id).getD row.redeemedCount = row.redeemedCount) :
    state.objects db = db := by
  have same : db.coupons.update (asLoaded state.identityMap) (id_asLoaded _) = db.coupons := by
    apply Table.ext_rows
    rw [Table.rows_update]
    conv_rhs => rw [← List.map_id db.coupons.rows]
    apply List.map_congr_left
    intro row member
    rw [asLoaded, current row member]
    rfl
  simp [Local.objects, same]

theorem view_counted {identityMap : String → Option Int} {phase : Phase} {coupon : Coupon}
    {pending : List CouponRedemption} {rows : Table CouponRedemption.id}
    (inserted : before.couponRedemptions.insertAll? pending = some rows) :
    ({ identityMap, pending, phase
       counted := Function.update (fun _ => 0) coupon.id 1 } : Local).view before =
      some { before with
        coupons := before.coupons.modify coupon.id countUse id_countUse
        couponRedemptions := rows } := by
  have same : before.coupons.update (addUses (Function.update (fun _ => 0) coupon.id 1))
      (id_addUses _) = before.coupons.modify coupon.id countUse id_countUse := by
    apply Table.ext_rows
    apply List.map_congr_left
    intro row _
    by_cases own : row.id = coupon.id <;> simp [addUses, countUse, own]
  simp [Local.view, inserted, same]

/-- A session that runs alone redeems as the sequential `redeem` does. -/
theorem solo_session_redeems (session : SessionId) {coupon : Coupon}
    {code userId planCode : String} {amountVnd now : Int}
    {invoiceId subscriptionId : Option String} {fresh : RowDefaults}
    {breakdown : CouponBreakdown} {redemption : CouponRedemption}
    (active : getActiveCoupon text code now before = .ok coupon)
    (redeemed : Coupons.redeem coupon userId planCode amountVnd invoiceId subscriptionId fresh
      before = .ok (breakdown, redemption) after) :
    ∃ shared state,
      Interleaved.alone (advance text) session (opened before).shared Local.opened
        [.select code now,
          .redeem coupon.id userId planCode amountVnd invoiceId subscriptionId fresh,
          .count, .insert, .commit] = some (shared, state) ∧
      shared.committed = after := by
  obtain ⟨discount, valid, rfl, counted, counting, inserting⟩ := redeem_ok_iff.mp redeemed
  have found := (getActiveCoupon_ok active).1
  have stored : before.coupons.find? coupon.id = some coupon :=
    Table.find?_of_mem (List.mem_of_find?_eq_some found)
  obtain rfl := counted_of_count counting
  let call : RedeemCall := { coupon, userId, planCode, invoiceId, subscriptionId, fresh }
  let record := call.redemption breakdown
  obtain ⟨rows, inserted, rfl⟩ : ∃ rows, before.couponRedemptions.insert? record = some rows ∧
      after = { before with
        coupons := before.coupons.modify coupon.id countUse id_countUse
        couponRedemptions := rows } := by
    unfold insertRedemption at inserting
    split at inserting
    · rename_i rows inserted
      cases inserting
      exact ⟨rows, inserted, rfl⟩
    · contradiction
  let identityMap := Function.update (fun _ => none) coupon.id (some coupon.redeemedCount)
  let held := Function.update (fun _ => none) coupon.id (some session)
  let keys := Function.update (fun _ => none) record.id (some session)
  let written : List CouponRedemption → Phase → Local := fun pending phase =>
    { identityMap := Function.update identityMap coupon.id ((identityMap coupon.id).map (· + 1))
      counted := Function.update (fun _ => 0) coupon.id 1
      pending
      phase }
  have selecting : select text (opened before).shared Local.opened code now =
      some (.quiet, (opened before).shared, Local.unwritten identityMap .ready) := by
    have unloaded : (Local.unwritten (fun _ => none) .ready).objects before = before :=
      objects_current fun _ _ => rfl
    change select text _ (Local.unwritten (fun _ => none) .ready) code now = _
    simp only [select, opened, phase_unwritten, view_unwritten, unloaded, active, Local.loaded,
      found]
    rfl
  have checking : redeem (opened before).shared (Local.unwritten identityMap .ready) coupon.id
      userId planCode amountVnd invoiceId subscriptionId fresh =
        some (.quiet, (opened before).shared,
          Local.unwritten identityMap (.validated call breakdown)) := by
    have loaded : (Local.unwritten identityMap .ready).objects before = before := by
      apply objects_current
      intro row member
      by_cases own : row.id = coupon.id
      · obtain rfl : row = coupon :=
          before.coupons.eq_of_key_eq member (Table.mem_of_find? stored) own
        simp [identityMap, Local.unwritten]
      · simp [identityMap, own, Local.unwritten]
    have object : (Local.unwritten identityMap .ready).object? before coupon.id =
        some coupon := by
      rw [Local.object?, loaded, stored]
      simp [identityMap, Local.unwritten]
    simp only [redeem, opened, phase_unwritten, view_unwritten, object, discount, valid]
    rfl
  have updating : count session (opened before).shared
      (Local.unwritten identityMap (.validated call breakdown)) =
        some (.quiet, { (opened before).shared with lockOwner := held },
          written [] (.counted call breakdown)) := by
    simp only [count, opened, phase_unwritten, view_unwritten, call, counting]
    rfl
  have flushing : insert session { (opened before).shared with lockOwner := held }
      (written [] (.counted call breakdown)) =
        some (.returned breakdown record,
          { (opened before).shared with lockOwner := held, keyOwner := keys },
          written [record] .ready) := by
    have unused := Table.fresh_of_insert? inserted
    simp [insert, opened, record, unused, written, keys]
  have seen : (written [record] .ready).view before = some { before with
      coupons := before.coupons.modify coupon.id countUse id_countUse
      couponRedemptions := rows } := by
    apply view_counted
    simp [Table.insertAll?, inserted]
  obtain ⟨shared, state, committing, published⟩ : ∃ shared state,
      commit session { (opened before).shared with lockOwner := held, keyOwner := keys }
        (written [record] .ready) = some (.committed, shared, state) ∧
      shared.committed = { before with
        coupons := before.coupons.modify coupon.id countUse id_countUse
        couponRedemptions := rows } := by
    simp only [commit, opened, seen]
    exact ⟨_, _, rfl, rfl⟩
  refine ⟨shared, state, ?_, published⟩
  simp only [Interleaved.alone, advance, selecting, checking, updating, flushing, committing]

end Alone

end ApiBank.Billing.CouponSessions
