import ApiBank.Billing.CouponSessions
import Mathlib.Data.List.Count

/-!
# The two caps of a coupon

The counter of a coupon is only written under its row lock, and the lock is kept
to the end of the transaction. So while a session has counted a use, nobody else
changes the counter or commits a redemption of the coupon, and what the session
has counted is exactly what it is about to insert.

The cap over all users follows from the test inside the `UPDATE`. The cap for one
user is tested before the lock is taken, and holds in the runs in which the test
would still pass under the lock.
-/

namespace ApiBank.Billing.CouponCaps

open ApiBank.Db ApiBank.Relational ApiBank.Transition Coupons CouponSessions

set_option autoImplicit false

variable {text : CodeText} {session other : SessionId} {couponId userId : String}
variable {shared shared' : Shared} {state state' : Local} {action : Action} {outcome : Outcome}

def usesOf (couponId : String) (rows : List CouponRedemption) : Nat :=
  rows.countP fun redemption => redemption.couponId = couponId

def usesBy (couponId userId : String) (rows : List CouponRedemption) : Nat :=
  rows.countP fun redemption => redemption.couponId = couponId && redemption.userId = userId

def SameTerms (row coupon : Coupon) : Prop :=
  coupon = { row with redeemedCount := coupon.redeemedCount }

theorem SameTerms.maxRedemptions {row coupon : Coupon} (terms : SameTerms row coupon) :
    coupon.maxRedemptions = row.maxRedemptions := by
  unfold SameTerms at terms
  rw [terms]

theorem SameTerms.maxPerUser {row coupon : Coupon} (terms : SameTerms row coupon) :
    coupon.maxPerUser = row.maxPerUser := by
  unfold SameTerms at terms
  rw [terms]

/-! ## What a step does -/

/-- The steps of a session, with what their tests establish. -/
inductive Moves (session : SessionId) (shared : Shared) (state : Local) :
    Action → Outcome → Shared → Local → Prop where
  | idle (action : Action) (outcome : Outcome) (identityMap : String → Option Int)
      (silent : outcome = .quiet ∨ ∃ failure, outcome = .raised failure)
      (uncounted : state.redemptions = state.pending) :
      Moves session shared state action outcome shared { state with identityMap, phase := .ready }
  | validated (action : Action) (call : RedeemCall) (breakdown : CouponBreakdown) (row : Coupon)
      (ready : state.phase = .ready)
      (stored : shared.committed.coupons.find? call.coupon.id = some row)
      (terms : SameTerms row call.coupon) :
      Moves session shared state action .quiet shared
        { state with phase := .validated call breakdown }
  | counted (call : RedeemCall) (breakdown : CouponBreakdown) (db : Database)
      (identityMap : String → Option Int)
      (checked : state.phase = .validated call breakdown)
      (seen : state.view shared.committed = some db)
      (free : shared.lockOwner call.coupon.id = none ∨
        shared.lockOwner call.coupon.id = some session)
      (left : ∀ limit, call.coupon.maxRedemptions = some limit →
        ∃ row, db.coupons.find? call.coupon.id = some row ∧ row.redeemedCount < limit) :
      Moves session shared state .count .quiet
        { shared with
          lockOwner := Function.update shared.lockOwner call.coupon.id (some session) }
        { state with
          identityMap
          counted := Function.update state.counted call.coupon.id
            (state.counted call.coupon.id + 1)
          phase := .counted call breakdown }
  | inserted (call : RedeemCall) (breakdown : CouponBreakdown)
      (keyOwner : String → Option SessionId)
      (counted : state.phase = .counted call breakdown) :
      Moves session shared state .insert (.returned breakdown (call.redemption breakdown))
        { shared with keyOwner }
        { state with
          pending := state.pending ++ [call.redemption breakdown]
          phase := .ready }
  | ended (action : Action) (outcome : Outcome)
      (lost : outcome = .rolledBack ∨ ∃ failure, outcome = .aborted failure) :
      Moves session shared state action outcome (rolledBack session shared).1 Local.opened
  | committed (db : Database) (ready : state.phase = .ready)
      (seen : state.view shared.committed = some db) :
      Moves session shared state .commit .committed
        { committed := db
          lockOwner := release shared.lockOwner session
          keyOwner := release shared.keyOwner session }
        { state with counted := fun _ => 0, pending := [] }

theorem find_view {db view : Database} (seen : state.view db = some view) (couponId : String) :
    view.coupons.find? couponId =
      (db.coupons.find? couponId).map (addUses state.counted) := by
  obtain ⟨rows, inserted, rfl⟩ := Option.map_eq_some_iff.mp seen
  exact Table.find?_update db.coupons (addUses state.counted) (id_addUses _) couponId

theorem rows_view {db view : Database} (seen : state.view db = some view) :
    view.couponRedemptions.rows = db.couponRedemptions.rows ++ state.pending := by
  obtain ⟨rows, inserted, rfl⟩ := Option.map_eq_some_iff.mp seen
  exact Table.rows_of_insertAll? inserted

theorem object_terms {db view : Database} {coupon : Coupon} (seen : state.view db = some view)
    (object : state.object? view couponId = some coupon) :
    ∃ row, db.coupons.find? coupon.id = some row ∧ SameTerms row coupon := by
  unfold Local.object? at object
  split at object
  · have found : (view.coupons.find? couponId).map (asLoaded state.identityMap) = some coupon :=
      (Table.find?_update view.coupons _ (id_asLoaded _) couponId).symm.trans object
    rw [find_view seen, Option.map_map, Option.map_eq_some_iff] at found
    obtain ⟨row, stored, rfl⟩ := found
    have keyed : row.id = couponId := Table.key_of_find? stored
    refine ⟨row, ?_, rfl⟩
    rw [← stored, ← keyed]
    rfl
  · contradiction

theorem left_of_count {coupon : Coupon} {db counted : Database}
    (counting : countRedemption coupon db = .ok () counted) :
    ∀ limit, coupon.maxRedemptions = some limit →
      ∃ row, db.coupons.find? coupon.id = some row ∧ row.redeemedCount < limit := by
  intro limit limited
  unfold countRedemption at counting
  simp only [limited] at counting
  split at counting
  · rename_i below
    obtain ⟨row, stored, less⟩ := (Option.any_eq_true ..).mp below
    exact ⟨row, stored, by simpa using less⟩
  · contradiction

theorem redemptions_ready (ready : state.phase = .ready) : state.redemptions = state.pending := by
  simp [Local.redemptions, ready]

theorem Moves.between {identityMap : String → Option Int}
    (silent : outcome = .quiet ∨ ∃ failure, outcome = .raised failure)
    (ready : state.phase = .ready) :
    Moves session shared state action outcome shared { state with identityMap } := by
  have idle : Moves session shared state action outcome shared
      { state with identityMap, phase := .ready } :=
    .idle action outcome identityMap silent (redemptions_ready ready)
  rwa [← ready] at idle

theorem loaded_map (text : CodeText) (state : Local) (db : Database) (code : String) :
    ∃ identityMap, state.loaded text db code = { state with identityMap } := by
  unfold Local.loaded
  split
  · exact ⟨state.identityMap, rfl⟩
  · exact ⟨_, rfl⟩

theorem moves_of_advance
    (advanced : advance text session shared state action = some (outcome, shared', state')) :
    Moves session shared state action outcome shared' state' := by
  cases action with
  | select code now =>
      simp only [advance, select] at advanced
      split at advanced
      · rename_i db ready seen
        obtain ⟨identityMap, loaded⟩ := loaded_map text state db code
        rw [loaded] at advanced
        cases advanced
        apply Moves.between _ ready
        cases getActiveCoupon text code now (state.objects db) with
        | ok coupon => exact .inl rfl
        | error failure => exact .inr ⟨failure, rfl⟩
      · contradiction
  | redeem couponId userId planCode amountVnd invoiceId subscriptionId fresh =>
      simp only [advance, CouponSessions.redeem] at advanced
      split at advanced
      · rename_i db ready seen
        split at advanced
        · contradiction
        · rename_i coupon object
          obtain ⟨row, stored, terms⟩ := object_terms seen object
          split at advanced
          · cases advanced
            exact .between (.inr ⟨_, rfl⟩) ready
          · split at advanced
            · cases advanced
              exact .between (.inr ⟨_, rfl⟩) ready
            · cases advanced
              exact .validated _ _ _ row ready stored terms
      · contradiction
  | count =>
      simp only [advance, count] at advanced
      split at advanced
      · rename_i call breakdown db checked seen
        split at advanced
        · rename_i free
          split at advanced
          · rename_i counting
            cases advanced
            exact .counted call breakdown db _ checked seen free (left_of_count counting)
          · cases advanced
            exact .idle _ _ state.identityMap (.inr ⟨_, rfl⟩) (by simp [Local.redemptions, checked])
        · contradiction
      · contradiction
  | insert =>
      simp only [advance, CouponSessions.insert] at advanced
      split at advanced
      · rename_i call breakdown counted
        split at advanced
        · cases advanced
          exact .ended _ _ (.inr ⟨_, rfl⟩)
        · split at advanced
          · cases advanced
            exact .inserted call breakdown _ counted
          · contradiction
      · contradiction
  | commit =>
      simp only [advance, commit] at advanced
      split at advanced
      · rename_i db ready seen
        cases advanced
        exact .committed db ready seen
      · contradiction
  | rollback =>
      cases advanced
      exact .ended _ _ (.inl rfl)

/-! ## What the row lock protects -/

theorem usesOf_append (couponId : String) (rows more : List CouponRedemption) :
    usesOf couponId (rows ++ more) = usesOf couponId rows + usesOf couponId more :=
  List.countP_append

theorem usesOf_redemption (couponId : String) (call : RedeemCall) (breakdown : CouponBreakdown) :
    usesOf couponId [call.redemption breakdown] = if call.coupon.id = couponId then 1 else 0 := by
  by_cases own : call.coupon.id = couponId <;>
    simp [usesOf, RedeemCall.redemption, newRedemption, own]

theorem usesBy_append (couponId userId : String) (rows more : List CouponRedemption) :
    usesBy couponId userId (rows ++ more) =
      usesBy couponId userId rows + usesBy couponId userId more :=
  List.countP_append

theorem usesBy_redemption (couponId userId : String) (call : RedeemCall)
    (breakdown : CouponBreakdown) :
    usesBy couponId userId [call.redemption breakdown] =
      if call.coupon.id = couponId ∧ call.userId = userId then 1 else 0 := by
  by_cases own : call.coupon.id = couponId ∧ call.userId = userId
  · simp [usesBy, RedeemCall.redemption, newRedemption, own]
  · simp [usesBy, RedeemCall.redemption, newRedemption, own]

theorem usesBy_le_usesOf (couponId userId : String) (rows : List CouponRedemption) :
    usesBy couponId userId rows ≤ usesOf couponId rows := by
  apply List.countP_mono_left
  intro redemption _ both
  exact (Bool.and_eq_true_iff.mp both).1

/-- A session has the coupon's row as long as it has counted a use, and is about to
insert exactly what it has counted. -/
structure Held (couponId : String) (session : SessionId) (shared : Shared) (state : Local) :
    Prop where
  exact : state.counted couponId = usesOf couponId state.redemptions
  locked : 0 < state.counted couponId → shared.lockOwner couponId = some session
  terms : ∀ call breakdown, state.phase = .validated call breakdown →
    call.coupon.id = couponId →
      ∃ row, shared.committed.coupons.find? couponId = some row ∧ SameTerms row call.coupon

/-- Nothing about the coupon changes. -/
structure Unaffected (couponId : String) (shared shared' : Shared) : Prop where
  row : shared'.committed.coupons.find? couponId = shared.committed.coupons.find? couponId
  added : ∃ more, shared'.committed.couponRedemptions.rows =
    shared.committed.couponRedemptions.rows ++ more ∧ usesOf couponId more = 0

theorem Unaffected.same (same : shared'.committed = shared.committed) :
    Unaffected couponId shared shared' where
  row := by rw [same]
  added := ⟨[], by rw [same, List.append_nil], rfl⟩

theorem uncounted_of_unlocked (held : Held couponId session shared state)
    (unlocked : shared.lockOwner couponId ≠ some session) : state.counted couponId = 0 := by
  by_contra counted
  exact unlocked (held.locked (Nat.pos_of_ne_zero counted))

theorem unaffected_of_unlocked (held : Held couponId session shared state)
    (unlocked : shared.lockOwner couponId ≠ some session)
    (moves : Moves session shared state action outcome shared' state') :
    Unaffected couponId shared shared' := by
  cases moves with
  | idle | validated | counted | inserted | ended => exact .same rfl
  | committed db ready seen =>
      have uncounted := uncounted_of_unlocked held unlocked
      refine ⟨?_, state.pending, rows_view seen, ?_⟩
      · rw [find_view seen]
        cases stored : shared.committed.coupons.find? couponId with
        | none => rfl
        | some row =>
            have keyed : row.id = couponId := Table.key_of_find? stored
            have same : addUses state.counted row = row := by simp [addUses, keyed ▸ uncounted]
            rw [Option.map_some, same]
      · rw [← redemptions_ready ready, ← held.exact, uncounted]

theorem terms_kept {row coupon : Coupon}
    (moves : Moves session shared state action outcome shared' state')
    (stored : shared.committed.coupons.find? couponId = some row)
    (terms : SameTerms row coupon) :
    ∃ row', shared'.committed.coupons.find? couponId = some row' ∧ SameTerms row' coupon := by
  cases moves with
  | idle | validated | counted | inserted | ended => exact ⟨row, stored, terms⟩
  | committed db ready seen =>
      refine ⟨addUses state.counted row, ?_, terms⟩
      rw [find_view seen, stored]
      rfl

theorem lock_kept (different : other ≠ session)
    (moves : Moves session shared state action outcome shared' state')
    (owned : shared.lockOwner couponId = some other) :
    shared'.lockOwner couponId = some other := by
  cases moves with
  | idle | validated | inserted => exact owned
  | counted call breakdown db identityMap checked seen free left =>
      exact update_other different free owned
  | ended | committed => exact release_other different owned

theorem held_acted (held : Held couponId session shared state)
    (moves : Moves session shared state action outcome shared' state') :
    Held couponId session shared' state' := by
  obtain ⟨exact', locked, -⟩ := held
  cases moves with
  | idle _ _ identityMap silent uncounted =>
      refine ⟨?_, locked, fun _ _ impossible => by cases impossible⟩
      rw [exact', uncounted]
      rfl
  | validated _ call breakdown row ready stored terms =>
      refine ⟨?_, locked, ?_⟩
      · rw [exact', redemptions_ready ready]
        rfl
      · rintro _ _ ⟨rfl, rfl⟩ rfl
        exact ⟨row, stored, terms⟩
  | counted call breakdown db identityMap checked seen free left =>
      have pending : state.redemptions = state.pending := by simp [Local.redemptions, checked]
      refine ⟨?_, ?_, fun _ _ impossible => by cases impossible⟩
      · change Function.update state.counted call.coupon.id _ couponId =
          usesOf couponId (state.pending ++ [call.redemption breakdown])
        rw [usesOf_append, usesOf_redemption, ← pending, ← exact']
        by_cases own : call.coupon.id = couponId
        · subst own
          simp
        · simp [own, Ne.symm own]
      · intro counted
        by_cases own : couponId = call.coupon.id
        · subst own
          simp
        · simp only [Function.update_of_ne own] at counted ⊢
          exact locked counted
  | inserted call breakdown keyOwner counted =>
      refine ⟨?_, locked, fun _ _ impossible => by cases impossible⟩
      rw [exact']
      simp [Local.redemptions, counted]
  | ended =>
      exact ⟨rfl, fun impossible => absurd impossible (Nat.lt_irrefl 0),
        fun _ _ impossible => by cases impossible⟩
  | committed db ready seen =>
      refine ⟨?_, fun impossible => absurd impossible (Nat.lt_irrefl 0), ?_⟩
      · simp [Local.redemptions, ready, usesOf]
      · intro _ _ impossible
        rw [ready] at impossible
        cases impossible

theorem held_other (different : other ≠ session) {otherState : Local}
    (held : Held couponId other shared otherState)
    (moves : Moves session shared state action outcome shared' state') :
    Held couponId other shared' otherState where
  exact := held.exact
  locked := fun counted => lock_kept different moves (held.locked counted)
  terms := by
    intro call breakdown checked own
    obtain ⟨row, stored, terms⟩ := held.terms call breakdown checked own
    exact terms_kept moves stored terms

theorem held_opened (db : Database) : Held couponId session (opened db).shared Local.opened where
  exact := rfl
  locked := fun impossible => absurd impossible (Nat.lt_irrefl 0)
  terms := fun _ _ impossible => by cases impossible

/-! ## The cap over all users -/

/-- The counter is the number of redemptions, and within the cap. -/
structure Counted (couponId : String) (db : Database) : Prop where
  exact : ∀ coupon, db.coupons.find? couponId = some coupon →
    coupon.redeemedCount = usesOf couponId db.couponRedemptions.rows
  within : ∀ coupon limit, db.coupons.find? couponId = some coupon →
    coupon.maxRedemptions = some limit → coupon.redeemedCount ≤ limit

/-- What a session has counted still fits under the cap. -/
structure Capped (couponId : String) (session : SessionId) (shared : Shared) (state : Local) :
    Prop where
  held : Held couponId session shared state
  within : 0 < state.counted couponId → ∀ row limit,
    shared.committed.coupons.find? couponId = some row → row.maxRedemptions = some limit →
      row.redeemedCount + state.counted couponId ≤ limit

theorem capped_of_uncounted (held : Held couponId session shared state)
    (uncounted : state.counted couponId = 0) : Capped couponId session shared state where
  held := held
  within := fun counted => absurd uncounted (Nat.ne_of_gt counted)

theorem fits (counted : Counted couponId shared.committed)
    (capped : Capped couponId session shared state) {row : Coupon} {limit : Int}
    (stored : shared.committed.coupons.find? couponId = some row)
    (limited : row.maxRedemptions = some limit) :
    row.redeemedCount + state.counted couponId ≤ limit := by
  rcases Nat.eq_zero_or_pos (state.counted couponId) with none | some
  · have bound := counted.within row limit stored limited
    omega
  · exact capped.within some row limit stored limited

theorem counted_committed {db : Database} (counted : Counted couponId shared.committed)
    (capped : Capped couponId session shared state) (ready : state.phase = .ready)
    (seen : state.view shared.committed = some db) : Counted couponId db := by
  constructor
  · intro coupon stored
    rw [find_view seen, Option.map_eq_some_iff] at stored
    obtain ⟨row, stored, rfl⟩ := stored
    have keyed : row.id = couponId := Table.key_of_find? stored
    have exact' := counted.exact row stored
    have own := capped.held.exact
    rw [redemptions_ready ready] at own
    rw [rows_view seen, usesOf_append, ← own]
    simp [addUses, keyed, exact']
  · intro coupon limit stored limited
    rw [find_view seen, Option.map_eq_some_iff] at stored
    obtain ⟨row, stored, rfl⟩ := stored
    have keyed : row.id = couponId := Table.key_of_find? stored
    have bound := fits counted capped stored limited
    simpa [addUses, keyed] using bound

theorem capped_acted (counted : Counted couponId shared.committed)
    (capped : Capped couponId session shared state)
    (moves : Moves session shared state action outcome shared' state') :
    Counted couponId shared'.committed ∧ Capped couponId session shared' state' := by
  have held := held_acted capped.held moves
  cases moves with
  | idle | validated | inserted => exact ⟨counted, held, capped.within⟩
  | ended => exact ⟨counted, capped_of_uncounted held rfl⟩
  | committed db ready seen =>
      exact ⟨counted_committed counted capped ready seen, capped_of_uncounted held rfl⟩
  | counted call breakdown db identityMap checked seen free left =>
      refine ⟨counted, held, ?_⟩
      intro _ row limit stored limited
      by_cases own : couponId = call.coupon.id
      · subst own
        -- the object has the cap of the row, which the `UPDATE` tested under the lock
        obtain ⟨current, found, terms⟩ := capped.held.terms call breakdown checked rfl
        obtain rfl : row = current := Option.some.inj (stored.symm.trans found)
        obtain ⟨tested, testedFound, below⟩ := left limit (terms.maxRedemptions.trans limited)
        rw [find_view seen, stored, Option.map_some, Option.some.injEq] at testedFound
        subst testedFound
        have keyed : row.id = call.coupon.id := Table.key_of_find? stored
        simp only [addUses, keyed] at below
        simp only [Function.update_self]
        omega
      · simp only [Function.update_of_ne own]
        exact fits counted capped stored limited

theorem capped_other (different : other ≠ session) {otherState : Local}
    (held : Held couponId session shared state)
    (moves : Moves session shared state action outcome shared' state')
    (capped : Capped couponId other shared otherState) :
    Capped couponId other shared' otherState where
  held := held_other different capped.held moves
  within := by
    intro counted row limit stored limited
    have unlocked : shared.lockOwner couponId ≠ some session := by
      rw [capped.held.locked counted]
      simpa using different
    rw [(unaffected_of_unlocked held unlocked moves).row] at stored
    exact capped.within counted row limit stored limited

/-- The redemptions that calls have returned: those of each session's open
transaction, and those whose transaction has committed. -/
structure Tally where
  outstanding : SessionId → List CouponRedemption
  kept : List CouponRedemption

def Tally.record (tally : Tally) (event : Event) : Tally :=
  match event.outcome with
  | .quiet | .raised _ => tally
  | .returned _ redemption => { tally with
      outstanding := Function.update tally.outstanding event.session
        (tally.outstanding event.session ++ [redemption]) }
  | .aborted _ | .rolledBack => { tally with
      outstanding := Function.update tally.outstanding event.session [] }
  | .committed => {
      outstanding := Function.update tally.outstanding event.session []
      kept := tally.kept ++ tally.outstanding event.session }

def tally (events : List Event) : Tally :=
  events.foldl Tally.record { outstanding := fun _ => [], kept := [] }

/-- What the calls returned is what the sessions and the table have. -/
structure Tallied (start : Database) (events : List Event) (system : System) : Prop where
  outstanding : ∀ session, (system.sessions session).pending = (tally events).outstanding session
  kept : system.shared.committed.couponRedemptions.rows =
    start.couponRedemptions.rows ++ (tally events).kept

theorem tally_snoc (events : List Event) (event : Event) :
    tally (events ++ [event]) = (tally events).record event :=
  List.foldl_append

theorem recorded_acted {start : Database} {before : Tally} (action : Action)
    (outstanding : state.pending = before.outstanding session)
    (kept : shared.committed.couponRedemptions.rows =
      start.couponRedemptions.rows ++ before.kept)
    (moves : Moves session shared state action outcome shared' state') :
    (before.record ⟨session, action, outcome⟩).outstanding =
        Function.update before.outstanding session state'.pending ∧
      shared'.committed.couponRedemptions.rows =
        start.couponRedemptions.rows ++ (before.record ⟨session, action, outcome⟩).kept := by
  have unchanged : before.outstanding =
      Function.update before.outstanding session state.pending := by
    rw [outstanding, Function.update_eq_self]
  cases moves with
  | idle _ _ identityMap silent uncounted =>
      rcases silent with rfl | ⟨failure, rfl⟩
      · exact ⟨unchanged, kept⟩
      · exact ⟨unchanged, kept⟩
  | validated | counted => exact ⟨unchanged, kept⟩
  | inserted call breakdown keyOwner counted =>
      refine ⟨?_, kept⟩
      dsimp only [Tally.record]
      rw [outstanding]
  | ended _ _ lost =>
      rcases lost with rfl | ⟨failure, rfl⟩
      · exact ⟨rfl, kept⟩
      · exact ⟨rfl, kept⟩
  | committed db ready seen =>
      refine ⟨rfl, ?_⟩
      dsimp only [Tally.record]
      rw [rows_view seen, kept, outstanding, List.append_assoc]

theorem tallied_step {start : Database} {events : List Event} {system next : System}
    {event : Event} (tallied : Tallied start events system)
    (taken : Interleaved.Step (advance text) system event next) :
    Tallied start (events ++ [event]) next := by
  obtain ⟨shared', state', advanced, rfl⟩ := taken
  obtain ⟨outstanding, kept⟩ := recorded_acted event.action
    (tallied.outstanding event.session) tallied.kept (moves_of_advance advanced)
  constructor
  · rw [tally_snoc, outstanding]
    apply Interleaved.forall_moved fun session (own : Local) => own.pending =
      Function.update (tally events).outstanding event.session state'.pending session
    · rw [Function.update_self]
    · intro other different
      rw [Function.update_of_ne different]
      exact tallied.outstanding other
  · rw [tally_snoc]
    exact kept

/-- In every interleaving the counter of a coupon is the number of its committed
redemptions and stays within its cap, and these redemptions are the ones that
committed transactions were returned. -/
theorem coupon_cap_holds {start : Database} {events : List Event} {system : System}
    (counted : Counted couponId start)
    (run : Run (Interleaved.Step (advance text)) (opened start) events system) :
    Counted couponId system.shared.committed ∧
      system.shared.committed.couponRedemptions.rows =
        start.couponRedemptions.rows ++ (tally events).kept := by
  have unguarded : Run (Guarded (Interleaved.AtActor fun _ _ _ _ => True)
      (Interleaved.Step (advance text))) (opened start) events system :=
    run.weaken fun _ _ _ taken => ⟨trivial, taken⟩
  have holds : Interleaved.Holds (fun shared => Counted couponId shared.committed)
      (Capped couponId) system := by
    apply Interleaved.holds_run (advance text) _ _ _ _ _ unguarded
    · intro actor shared state action outcome shared' state' _ counted capped advanced
      exact capped_acted counted capped (moves_of_advance advanced)
    · intro actor other shared state otherState action outcome shared' state' different _ capped
        advanced
      exact capped_other different capped.held (moves_of_advance advanced)
    · exact ⟨counted, fun session => capped_of_uncounted (held_opened start) rfl⟩
  have tallied : Tallied start events system := by
    apply run.history (Tallied start)
    · exact ⟨fun _ => rfl, (List.append_nil _).symm⟩
    · intro events system event next tallied taken
      exact tallied_step tallied taken
  exact ⟨holds.1, tallied.kept⟩

def fixedCoupon (maxRedemptions : Option Int) : Coupon :=
  ⟨"c1", "SALE", "fixed", none, some 20000, none, none, maxRedemptions, 1, 0, none, none, [], true⟩

/-- One coupon, not used yet. -/
def issued (maxRedemptions : Option Int) : Database := { Database.empty with
  coupons := ⟨[fixedCoupon maxRedemptions], List.nodup_singleton _⟩ }

theorem counted_issued : Counted "c1" (issued (some 1)) := by
  constructor
  · intro coupon stored
    obtain rfl : fixedCoupon (some 1) = coupon := Option.some.inj stored
    rfl
  · intro coupon limit stored limited
    obtain rfl : fixedCoupon (some 1) = coupon := Option.some.inj stored
    obtain rfl : 1 = limit := Option.some.inj limited
    decide

/-- Both sessions see the last use left; the second `UPDATE` finds it gone. -/
def lastUseRace : List (SessionId × Action) := [
  (1, .select "sale" 5), (1, .redeem "c1" "u1" "basic" 100000 none none ⟨"r1", 5⟩),
  (2, .select "sale" 6), (2, .redeem "c1" "u2" "basic" 100000 none none ⟨"r2", 6⟩),
  (1, .count), (1, .insert), (1, .commit), (2, .count), (2, .commit)]

theorem last_use_taken_once : ∃ system : System,
    system.shared.committed.couponRedemptions.rows.map CouponRedemption.id = ["r1"] ∧
      Counted "c1" system.shared.committed := by
  have run := Interleaved.run_of_replay (advance .ascii)
    (rfl : Interleaved.replay _ (opened (issued (some 1))) lastUseRace = some (_, _))
  exact ⟨_, rfl, (coupon_cap_holds counted_issued run).1⟩

/-! ## The cap for one user -/

def WithinUserCap (couponId userId : String) (db : Database) : Prop :=
  ∀ coupon, db.coupons.find? couponId = some coupon →
    (usesBy couponId userId db.couponRedemptions.rows : Int) ≤ coupon.maxPerUser

theorem timesUsed_eq (coupon : Coupon) (userId : String) (db : Database) :
    timesUsed coupon userId db = usesBy coupon.id userId db.couponRedemptions.rows :=
  List.countP_eq_length_filter.symm

/-- What a session is about to insert still fits under the user's cap. -/
structure UserCapped (couponId userId : String) (session : SessionId) (shared : Shared)
    (state : Local) : Prop where
  held : Held couponId session shared state
  within : 0 < state.counted couponId → ∀ row,
    shared.committed.coupons.find? couponId = some row →
      (usesBy couponId userId shared.committed.couponRedemptions.rows : Int) +
        usesBy couponId userId state.redemptions ≤ row.maxPerUser

/-- The last use of the coupon is gone. -/
def exhausted (coupon : Coupon) (db : Database) : Bool :=
  coupon.maxRedemptions.any fun limit =>
    !(db.coupons.find? coupon.id).any fun row => row.redeemedCount < limit

/-- When the `UPDATE` runs, the user still has a use left, or the coupon has none. -/
def userHasUseLeft (_ : SessionId) (shared : Shared) (state : Local) (action : Action) : Bool :=
  match action, state.phase, state.view shared.committed with
  | .count, .validated call _, some db =>
      exhausted call.coupon db || timesUsed call.coupon call.userId db < call.coupon.maxPerUser
  | _, _, _ => true

theorem userCapped_of_uncounted (held : Held couponId session shared state)
    (uncounted : state.counted couponId = 0) :
    UserCapped couponId userId session shared state where
  held := held
  within := fun counted => absurd uncounted (Nat.ne_of_gt counted)

theorem fits_user (within : WithinUserCap couponId userId shared.committed)
    (capped : UserCapped couponId userId session shared state) {row : Coupon}
    (stored : shared.committed.coupons.find? couponId = some row) :
    (usesBy couponId userId shared.committed.couponRedemptions.rows : Int) +
      usesBy couponId userId state.redemptions ≤ row.maxPerUser := by
  rcases Nat.eq_zero_or_pos (state.counted couponId) with none | some
  · have bound := within row stored
    have all := usesBy_le_usesOf couponId userId state.redemptions
    rw [← capped.held.exact, none] at all
    omega
  · exact capped.within some row stored

theorem not_exhausted {coupon : Coupon} {db : Database}
    (left : ∀ limit, coupon.maxRedemptions = some limit →
      ∃ row, db.coupons.find? coupon.id = some row ∧ row.redeemedCount < limit) :
    exhausted coupon db = false := by
  unfold exhausted
  cases limited : coupon.maxRedemptions with
  | none => rfl
  | some limit =>
      obtain ⟨row, stored, below⟩ := left limit limited
      simp [stored, below]

theorem userCapped_acted (left : userHasUseLeft session shared state action = true)
    (within : WithinUserCap couponId userId shared.committed)
    (capped : UserCapped couponId userId session shared state)
    (moves : Moves session shared state action outcome shared' state') :
    WithinUserCap couponId userId shared'.committed ∧
      UserCapped couponId userId session shared' state' := by
  have held := held_acted capped.held moves
  cases moves with
  | idle _ _ identityMap silent uncounted =>
      refine ⟨within, held, fun counted row stored => ?_⟩
      have bound := capped.within counted row stored
      rwa [uncounted] at bound
  | validated _ call breakdown row ready =>
      refine ⟨within, held, fun counted row stored => ?_⟩
      have bound := capped.within counted row stored
      rwa [redemptions_ready ready] at bound
  | inserted call breakdown keyOwner counting =>
      refine ⟨within, held, fun counted row stored => ?_⟩
      have bound := capped.within counted row stored
      simpa [Local.redemptions, counting] using bound
  | ended => exact ⟨within, userCapped_of_uncounted held rfl⟩
  | committed db ready seen =>
      refine ⟨?_, userCapped_of_uncounted held rfl⟩
      intro coupon stored
      rw [find_view seen, Option.map_eq_some_iff] at stored
      obtain ⟨row, stored, rfl⟩ := stored
      have bound := fits_user within capped stored
      rw [redemptions_ready ready] at bound
      rw [rows_view seen, usesBy_append]
      simpa [addUses] using bound
  | counted call breakdown db identityMap checked seen free remaining =>
      refine ⟨within, held, ?_⟩
      intro _ row stored
      have before := fits_user within capped stored
      have pending : state.redemptions = state.pending := by simp [Local.redemptions, checked]
      rw [pending] at before
      change (usesBy couponId userId shared.committed.couponRedemptions.rows : Int) +
        usesBy couponId userId (state.pending ++ [call.redemption breakdown]) ≤ row.maxPerUser
      rw [usesBy_append, usesBy_redemption]
      split
      · rename_i own
        obtain ⟨rfl, rfl⟩ := own
        -- the query of the guard sees the committed rows and those of the session
        obtain ⟨current, found, terms⟩ := capped.held.terms call breakdown checked rfl
        obtain rfl : row = current := Option.some.inj (stored.symm.trans found)
        simp only [userHasUseLeft, checked, seen, not_exhausted remaining, Bool.false_or,
          decide_eq_true_eq, timesUsed_eq, rows_view seen, usesBy_append, terms.maxPerUser] at left
        omega
      · simpa using before

theorem userCapped_other (different : other ≠ session) {otherState : Local}
    (held : Held couponId session shared state)
    (moves : Moves session shared state action outcome shared' state')
    (capped : UserCapped couponId userId other shared otherState) :
    UserCapped couponId userId other shared' otherState where
  held := held_other different capped.held moves
  within := by
    intro counted row stored
    have unlocked : shared.lockOwner couponId ≠ some session := by
      rw [capped.held.locked counted]
      simpa using different
    obtain ⟨same, more, rows, none⟩ := unaffected_of_unlocked held unlocked moves
    have all := usesBy_le_usesOf couponId userId more
    have bound := capped.within counted row (same ▸ stored)
    rw [rows, usesBy_append]
    omega

/-- In every interleaving whose `UPDATE`s run while the user has a use left, no
committed state has more redemptions of the user than the coupon allows. -/
theorem user_cap_holds_under_lock {start : Database} {events : List Event} {system : System}
    (within : WithinUserCap couponId userId start)
    (run : Run (Guarded (Interleaved.AtActor fun session shared state action =>
      userHasUseLeft session shared state action) (Interleaved.Step (advance text)))
      (opened start) events system) :
    WithinUserCap couponId userId system.shared.committed := by
  have holds : Interleaved.Holds (fun shared => WithinUserCap couponId userId shared.committed)
      (UserCapped couponId userId) system := by
    apply Interleaved.holds_run (advance text) _ _ _ _ _ run
    · intro actor shared state action outcome shared' state' left within capped advanced
      exact userCapped_acted left within capped (moves_of_advance advanced)
    · intro actor other shared state otherState action outcome shared' state' different _ capped
        advanced
      exact userCapped_other different capped.held (moves_of_advance advanced)
    · exact ⟨within, fun session => userCapped_of_uncounted (held_opened start) rfl⟩
  exact holds.1

def secondCountsLate : List (SessionId × Action) := [
  (1, .select "sale" 5), (1, .redeem "c1" "u1" "basic" 100000 none none ⟨"r1", 5⟩),
  (2, .select "sale" 6), (1, .count), (1, .insert), (1, .commit),
  (2, .redeem "c1" "u1" "basic" 100000 none none ⟨"r2", 6⟩), (2, .commit)]

theorem second_refused_when_it_counts_late : ∃ system : System,
    system.shared.committed.couponRedemptions.rows.map CouponRedemption.id = ["r1"] ∧
      WithinUserCap "c1" "u1" system.shared.committed := by
  have within : WithinUserCap "c1" "u1" (issued none) := by
    intro coupon stored
    obtain rfl : fixedCoupon none = coupon := Option.some.inj stored
    decide
  have run := Interleaved.guarded_run_of_replay (advance .ascii) userHasUseLeft
    (rfl : Interleaved.replay _ (opened (issued none)) secondCountsLate = some (_, _))
  exact ⟨_, rfl, user_cap_holds_under_lock within run⟩

/-- Both purchases of one user have counted before either has the row. -/
def doubleRedemption : List (SessionId × Action) := [
  (1, .select "sale" 5), (1, .redeem "c1" "u1" "basic" 100000 none none ⟨"r1", 5⟩),
  (2, .select "sale" 6), (2, .redeem "c1" "u1" "basic" 100000 none none ⟨"r2", 6⟩),
  (1, .count), (1, .insert), (1, .commit), (2, .count), (2, .insert), (2, .commit)]

theorem not_within_of_two {system : System}
    (stored : (system.shared.committed.coupons.find? "c1").map Coupon.maxPerUser = some 1)
    (twice : usesBy "c1" "u1" system.shared.committed.couponRedemptions.rows = 2) :
    ¬WithinUserCap "c1" "u1" system.shared.committed := by
  intro within
  obtain ⟨coupon, found, one⟩ := Option.map_eq_some_iff.mp stored
  have bound := within coupon found
  rw [twice, one] at bound
  contradiction

/-- With and without a cap over all users. -/
theorem one_user_redeems_twice :
    (¬∀ events system, Run (Interleaved.Step (advance .ascii)) (opened (issued none)) events
      system → WithinUserCap "c1" "u1" system.shared.committed) ∧
    ¬∀ events system, Run (Interleaved.Step (advance .ascii)) (opened (issued (some 10))) events
      system → WithinUserCap "c1" "u1" system.shared.committed := by
  constructor
  · intro claim
    exact not_within_of_two rfl rfl (claim _ _ (Interleaved.run_of_replay (advance .ascii)
      (rfl : Interleaved.replay _ (opened (issued none)) doubleRedemption = some (_, _))))
  · intro claim
    exact not_within_of_two rfl rfl (claim _ _ (Interleaved.run_of_replay (advance .ascii)
      (rfl : Interleaved.replay _ (opened (issued (some 10))) doubleRedemption = some (_, _))))

end ApiBank.Billing.CouponCaps
