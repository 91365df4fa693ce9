import ApiBank.Orders.NameSessions

/-!
# Exclusive payment names

A name is free for the next order seven days after the end of the last one. The
reservation row stands for all orders that carried the name, so every write that
ends an order must leave it at least seven days beyond the ends of all of them.
-/

namespace ApiBank.Orders.NameExclusivity

open ApiBank.Core ApiBank.Db ApiBank.Relational ApiBank.Transition
open NameSessions OrderSessions PaymentNames

set_option autoImplicit false

def orderEnd (order : Order) : Int :=
  match order.status with
  | .paid => (order.paidAt.getD order.expiredAt).instant
  | .canceled => order.updatedAt.instant
  | _ => order.expiredAt.instant

def Running (now : Int) (order : Order) : Prop :=
  order.status = .pending ∧ now < order.expiredAt.instant

def Apart (account : String) (shared : NameSessions.Shared) : Prop :=
  ∀ first ∈ shared.committed.orders.rows, ∀ second ∈ shared.committed.orders.rows,
    first.id ≠ second.id → ∀ content, carries account content first = true →
      carries account content second = true → Running shared.now first →
        ¬Running shared.now second

/-- A name is handed out seven days after the ends of all orders that had it. -/
def Cooled : NameSessions.Notice → Prop
  | .named _ now previous => ∀ order ∈ previous, orderEnd order + cooldown ≤ now
  | _ => True

def ShowsReserved (account content : String) (now : Int) : NameSessions.Notice → Prop
  | .began read reservations => read = now ∧ ∃ row ∈ reservations,
      row.key = (account, content) ∧ now < row.reservedUntil.instant
  | .passed read row => read = now ∧ row.key = (account, content) ∧ now < row.reservedUntil.instant
  | _ => False

def SeenReserved (account : String) (session : SessionId) (now : Int)
    (events : List NameSessions.Event) (content : String) : Prop :=
  ∃ event ∈ events, event.session = session ∧ ShowsReserved account content now event.outcome

/-- The exception of a full pool comes only when the session has seen every name
reserved. -/
def FullOnlyIfReserved (account : String) (prior : List NameSessions.Event)
    (event : NameSessions.Event) : Prop :=
  ∀ now, event.outcome = .poolFull now → ∀ content ∈ paymentNames,
    SeenReserved account event.session now prior content

structure Exclusive (account : String) (events : List NameSessions.Event)
    (system : NameSessions.System) : Prop where
  apart : Apart account system.shared
  cooled : ∀ event ∈ events, Cooled event.outcome
  full : Throughout (FullOnlyIfReserved account) events

def Unused (account : String) (db : Database) : Prop :=
  ∀ order ∈ db.orders.rows, order.bankAccountId ≠ account

/-- What an `UPDATE` leaves reserved is enough: a payment or `cancel_order` sets the
reservation when all other orders with the name have ended, any other ending finds it
seven days beyond the end that it sets. A reservation that is found in the way of an
`INSERT` has not run out, and a new order has a new id. -/
def enough (account : String) (_ : SessionId) (shared : NameSessions.Shared) :
    NameSessions.Local → NameSessions.Action → Bool
  | .writing [] sent (some (content, now)) _, .commit => decide <|
      ∀ order ∈ shared.committed.orders.rows, carries account content order = true →
        (∀ update ∈ sent, update.orderId ≠ order.id) → orderEnd order ≤ now
  | .writing [] sent none _, .commit => decide <|
      ∀ order ∈ shared.committed.orders.rows, (∃ update ∈ sent, update.orderId = order.id) →
        ∀ row ∈ shared.committed.paymentNameReservations.rows, row.bankAccountId = account →
          carries account row.content order = true →
            orderEnd (OrderSessions.written sent order) + cooldown ≤ row.reservedUntil.instant
  | .looking order now content known _, .claim => decide <|
      (∀ other ∈ shared.committed.orders.rows, other.id ≠ order.id) ∧
        ∀ row ∈ shared.committed.paymentNameReservations.rows, row.key = (account, content) →
          known = false → now < row.reservedUntil.instant
  | _, _ => true

variable {unicode : Matcher.UnicodeData} {account content : String} {session other : SessionId}
variable {shared shared' : NameSessions.Shared} {state state' : NameSessions.Local}
variable {outcome : NameSessions.Notice}

/-- The reservations outlast the orders, and running orders are apart. -/
structure NameStore (account : String) (shared : NameSessions.Shared) : Prop where
  kept : ∀ order ∈ shared.committed.orders.rows, order.bankAccountId = account →
    ∃ content row, order.transferContent = some content ∧ order.publicCode = content ∧
      shared.reservation account content = some row ∧
        orderEnd order + cooldown ≤ row.reservedUntil.instant
  apart : Apart account shared

/-- A new order of the account, from a clock reading of the past. -/
structure Drafted (account : String) (shared : NameSessions.Shared) (order : Order) (now : Int) :
    Prop where
  owner : order.bankAccountId = account
  pending : order.status = .pending
  past : now ≤ shared.now

def Ends (write : OrderWrite) (now : Int) : Prop := ∀ order, orderEnd (write.apply order) = now

def NameOwn (account : String) (session : SessionId) (shared : NameSessions.Shared) :
    NameSessions.Local → Prop
  | .ready => True
  | .choosing order now contents =>
      Drafted account shared order now ∧ ∀ content ∈ contents, content ≠ ""
  | .looking order now content known rest =>
      Drafted account shared order now ∧ (∀ name ∈ content :: rest, name ≠ "") ∧
        (known = true → shared.reservation account content ≠ none)
  | .allocated named content now =>
      Drafted account shared named now ∧ content ≠ "" ∧ named.transferContent = some content ∧
        shared.nameOwner content = some session ∧
          ∀ row, shared.reservation account content = some row → row.reservedUntil.instant ≤ now
  | .writing waiting sent keep held => ∀ content now, keep = some (content, now) →
      (held = true → shared.nameOwner content = some session) ∧
        ∃ update order, waiting ++ sent = [update] ∧ order ∈ shared.committed.orders.rows ∧
          order.id = update.orderId ∧ carries account content order = true ∧
            Ends update.write now

/-- What a step of one session leaves intact for the others. -/
structure Leaves (account : String) (actor : SessionId) (shared shared' : NameSessions.Shared) :
    Prop where
  clock : shared.now ≤ shared'.now
  reserved : ∀ content, shared.reservation account content ≠ none →
    shared'.reservation account content ≠ none
  names : ∀ other content, other ≠ actor → shared.nameOwner content = some other →
    shared'.nameOwner content = some other ∧
      shared'.reservation account content = shared.reservation account content
  orders : ∀ order ∈ shared.committed.orders.rows, ∃ later ∈ shared'.committed.orders.rows,
    later.id = order.id ∧ ∀ content, carries account content later = carries account content order

theorem own_of_leaves (different : other ≠ session) (leaves : Leaves account session shared shared')
    (own : NameOwn account other shared state) : NameOwn account other shared' state := by
  cases state with
  | ready => trivial
  | choosing order now contents =>
      obtain ⟨drafted, named⟩ := own
      exact ⟨⟨drafted.owner, drafted.pending, Int.le_trans drafted.past leaves.clock⟩, named⟩
  | looking order now content known rest =>
      obtain ⟨drafted, named, found⟩ := own
      exact ⟨⟨drafted.owner, drafted.pending, Int.le_trans drafted.past leaves.clock⟩, named,
        fun seen => leaves.reserved content (found seen)⟩
  | allocated named content now =>
      obtain ⟨drafted, nonempty, transfer, owned, past⟩ := own
      obtain ⟨held, same⟩ := leaves.names other content different owned
      exact ⟨⟨drafted.owner, drafted.pending, Int.le_trans drafted.past leaves.clock⟩, nonempty, transfer,
        held, fun row found => past row (same ▸ found)⟩
  | writing waiting sent keep held =>
      intro content now keeps
      obtain ⟨owned, update, order, alone, member, named, carried, ends⟩ := own content now keeps
      obtain ⟨later, stored, sameId, same⟩ := leaves.orders order member
      exact ⟨fun isHeld => (leaves.names other content different (owned isHeld)).1, update, later,
        alone, stored, sameId.trans named, (same content).trans carried, ends⟩

/-- The committed rows stay, the clock does not go back, and others keep their names. -/
theorem leaves_of_same (clock : shared.now ≤ shared'.now)
    (committed : shared'.committed = shared.committed)
    (names : ∀ other content, other ≠ session → shared.nameOwner content = some other →
      shared'.nameOwner content = some other) : Leaves account session shared shared' := by
  have same : ∀ content, shared'.reservation account content =
      shared.reservation account content := by
    intro content
    simp only [NameSessions.Shared.reservation, committed]
  constructor
  · exact clock
  · intro content present
    rwa [same]
  · intro other content different owned
    exact ⟨names other content different owned, same content⟩
  · intro order member
    exact ⟨order, committed ▸ member, rfl, fun _ => rfl⟩

theorem store_of_same (clock : shared.now ≤ shared'.now)
    (committed : shared'.committed = shared.committed) (store : NameStore account shared) :
    NameStore account shared' := by
  constructor
  · intro order member mine
    rw [committed] at member
    simpa only [NameSessions.Shared.reservation, committed] using store.kept order member mine
  · intro first firstMember second secondMember different content firstHas secondHas running again
    rw [committed] at firstMember secondMember
    exact store.apart first firstMember second secondMember different content firstHas secondHas
      ⟨running.1, Int.lt_of_le_of_lt clock running.2⟩ ⟨again.1, Int.lt_of_le_of_lt clock again.2⟩

/-- What a step establishes. -/
structure Kept (account : String) (session : SessionId) (shared shared' : NameSessions.Shared)
    (state' : NameSessions.Local) : Prop where
  store : NameStore account shared'
  own : NameOwn account session shared' state'
  leaves : Leaves account session shared shared'

theorem kept_of_same (store : NameStore account shared)
    (own : NameOwn account session shared state') :
    Kept account session shared shared state' where
  store := store
  own := own
  leaves := leaves_of_same (Int.le_refl _) rfl fun _ _ _ owned => owned

theorem kept_of_take (store : NameStore account shared) (free : shared.nameFree content session)
    (own : NameOwn account session (shared.takeName content session) state') :
    Kept account session shared (shared.takeName content session) state' where
  store := @store_of_same account shared _ (Int.le_refl _) rfl store
  own := own
  leaves := leaves_of_same (Int.le_refl _) rfl
    fun _ _ different owned => update_other different free owned

theorem kept_of_publish_same (store : NameStore account shared) :
    Kept account session shared (shared.publish session shared.committed) .ready where
  store := @store_of_same account shared _ (Int.le_refl _) rfl store
  own := trivial
  leaves := leaves_of_same (Int.le_refl _) rfl
    fun _ _ different owned => release_other different owned

theorem nonempty_of_paymentNames : ∀ name ∈ paymentNames, name ≠ "" := by
  intro name member empty
  obtain ⟨surname, -, member⟩ := List.mem_flatMap.mp member
  obtain ⟨middle, -, member⟩ := List.mem_flatMap.mp member
  obtain ⟨first, -, rfl⟩ := List.mem_map.mp member
  simp only [String.append_eq_empty_iff] at empty
  exact absurd empty.2 (by decide)

theorem kept_of_allocate {args : OrderArgs} {draws : OrderDraws}
    (store : NameStore account shared)
    (stepped : NameSessions.allocate account shared state args draws =
      some (outcome, shared', state')) : Kept account session shared shared' state' := by
  unfold NameSessions.allocate at stepped
  split at stepped
  · split at stepped
    · rename_i fits
      cases stepped
      apply kept_of_same store
      refine ⟨⟨fits.1, rfl, Int.le_refl _⟩, ?_⟩
      intro name listed
      have available := (draws.shuffle.perm _).mem_iff.mp listed
      exact nonempty_of_paymentNames name (List.mem_filter.mp available).1
    · contradiction
  · contradiction

theorem kept_of_look (store : NameStore account shared)
    (own : NameOwn account session shared state)
    (stepped : NameSessions.look account shared state = some (outcome, shared', state')) :
    Kept account session shared shared' state' := by
  unfold NameSessions.look at stepped
  split at stepped
  · cases stepped
    exact kept_of_same store trivial
  · cases stepped
    obtain ⟨drafted, named⟩ := own
    exact kept_of_same store ⟨drafted, named, Option.isSome_iff_ne_none.mp⟩
  · contradiction

theorem kept_of_afterRefusal {order : Order} {now : Int} {rest : List String}
    (store : NameStore account shared) (drafted : Drafted account shared order now)
    (later : ∀ name ∈ rest, name ≠ "")
    (stepped : afterRefusal account shared order now content rest = (outcome, shared', state')) :
    Kept account session shared shared' state' := by
  unfold afterRefusal at stepped
  split at stepped
  · cases stepped
    exact kept_of_same store trivial
  · split at stepped
    · cases stepped
      exact kept_of_same store trivial
    · cases stepped
      exact kept_of_same store ⟨drafted, later⟩

theorem kept_of_addNamed {order : Order} {now : Int} {rest : List String}
    (store : NameStore account shared) (free : shared.nameFree content session)
    (drafted : Drafted account shared order now) (nonempty : content ≠ "")
    (later : ∀ name ∈ rest, name ≠ "")
    (past : ∀ row, shared.reservation account content = some row →
      row.reservedUntil.instant ≤ now)
    (stepped : addNamed account session shared order now content rest =
      (outcome, shared', state')) :
    Kept account session shared shared' state' := by
  unfold addNamed at stepped
  dsimp only at stepped
  split at stepped
  · cases stepped
    apply kept_of_take store free
    exact ⟨⟨drafted.owner, drafted.pending, drafted.past⟩, nonempty, rfl,
      Function.update_self .., past⟩
  · exact kept_of_afterRefusal store drafted later stepped

theorem kept_of_claim (store : NameStore account shared)
    (own : NameOwn account session shared state)
    (stepped : NameSessions.claim account session shared state =
      some (outcome, shared', state')) : Kept account session shared shared' state' := by
  unfold NameSessions.claim at stepped
  split at stepped
  · rename_i order now content known rest
    obtain ⟨drafted, named, found⟩ := own
    have nonempty := named content List.mem_cons_self
    have later : ∀ name ∈ rest, name ≠ "" :=
      fun name listed => named name (List.mem_cons_of_mem content listed)
    split at stepped
    · rename_i free
      split at stepped
      · rename_i absent
        refine kept_of_addNamed store free drafted nonempty later ?_ (Option.some.inj stepped)
        intro row present
        rw [absent] at present
        cases present
      · exact kept_of_afterRefusal store drafted later (Option.some.inj stepped)
      · cases stepped
        exact kept_of_same store ⟨drafted, later⟩
      · rename_i row present
        split at stepped
        · rename_i past
          refine kept_of_addNamed store free drafted nonempty later ?_ (Option.some.inj stepped)
          intro other again
          obtain rfl := Option.some.inj (present.symm.trans again)
          exact past
        · cases stepped
          exact kept_of_same store ⟨drafted, later⟩
    · contradiction
  · contradiction

theorem ends_pay (txId : String) (now : Int) : Ends (.pay txId now) now := by
  intro order
  simp [OrderWrite.apply, Order.pay, orderEnd]

theorem ends_cancel (now : Int) : Ends (.cancel now) now := by
  intro order
  simp [OrderWrite.apply, Order.setStatus, orderEnd]

theorem own_of_keepOf {order : Order} {write : OrderWrite} (store : NameStore account shared)
    (member : order ∈ shared.committed.orders.rows) (owner : order.bankAccountId = account)
    (ends : Ends write shared.now) :
    NameOwn account session shared
      (.writing [⟨order.id, write⟩] [] (keepOf account shared order) false) := by
  intro content now keeps
  obtain ⟨row, found, same⟩ := Option.map_eq_some_iff.mp keeps
  obtain ⟨rfl, rfl⟩ := Prod.mk.inj same
  obtain ⟨content, kept, transfer, named, -, -⟩ := store.kept order member owner
  refine ⟨fun held => (Bool.false_ne_true held).elim, _, order, rfl, member, rfl, ?_, ends⟩
  simp [carries, owner, transfer, named]

theorem own_of_no_keep (waiting sent : List OrderUpdate) (held : Bool) :
    NameOwn account session shared (.writing waiting sent none held) := by
  intro content now keeps
  cases keeps

theorem kept_of_pay {transaction : Transaction} (store : NameStore account shared)
    (stepped : NameSessions.pay unicode account shared state transaction =
      some (outcome, shared', state')) : Kept account session shared shared' state' := by
  unfold NameSessions.pay at stepped
  split at stepped
  · split at stepped
    · rename_i owner
      split at stepped
      · split at stepped
        · cases stepped
          exact kept_of_same store trivial
        · rename_i order found
          split at stepped
          · cases stepped
            exact kept_of_same store trivial
          · cases stepped
            have candidate := List.mem_of_find?_eq_some found
            simp only [Ingest.candidateOrders, Ingest.pendingOrders, List.mem_filter,
              Bool.and_eq_true, decide_eq_true_eq] at candidate
            obtain ⟨⟨member, ⟨-, same⟩, -⟩, -⟩ := candidate
            exact kept_of_same store
              (own_of_keepOf store member (same.trans owner) (ends_pay _ _))
      · cases stepped
        exact kept_of_same store trivial
    · contradiction
  · contradiction

theorem kept_of_cancel {orderId : String} (store : NameStore account shared)
    (stepped : NameSessions.cancel account shared state orderId =
      some (outcome, shared', state')) : Kept account session shared shared' state' := by
  unfold NameSessions.cancel at stepped
  split at stepped
  · split at stepped
    · cases stepped
      exact kept_of_same store trivial
    · rename_i order found
      split at stepped
      · rename_i owner
        split at stepped
        · cases stepped
          obtain ⟨member, rfl⟩ := (Table.find?_eq_some_iff ..).mp found
          exact kept_of_same store (own_of_keepOf store member owner (ends_cancel _))
        · cases stepped
          exact kept_of_same store trivial
      · contradiction
  · contradiction

theorem kept_of_cancelOnly {orderId : String} {endpoint : Session Unit}
    (store : NameStore account shared)
    (stepped : cancelOnly shared state orderId endpoint = some (outcome, shared', state')) :
    Kept account session shared shared' state' := by
  unfold cancelOnly at stepped
  split at stepped
  · split at stepped
    · cases stepped
      exact kept_of_same store trivial
    · cases stepped
      exact kept_of_same store (own_of_no_keep _ _ _)
  · contradiction

theorem kept_of_expire (store : NameStore account shared)
    (stepped : NameSessions.expire shared state = some (outcome, shared', state')) :
    Kept account session shared shared' state' := by
  unfold NameSessions.expire at stepped
  split at stepped
  · cases stepped
    exact kept_of_same store (own_of_no_keep _ _ _)
  · contradiction

theorem kept_of_flush (store : NameStore account shared)
    (own : NameOwn account session shared state)
    (stepped : NameSessions.flush session shared state = some (outcome, shared', state')) :
    Kept account session shared shared' state' := by
  unfold NameSessions.flush at stepped
  split at stepped
  · split at stepped
    · cases stepped
      refine ⟨@store_of_same account shared _ (Int.le_refl _) rfl store, ?_,
        leaves_of_same (Int.le_refl _) rfl fun _ _ _ owned => owned⟩
      intro content now keeps
      obtain ⟨owned, update, order, alone, rest⟩ := own content now keeps
      obtain ⟨rfl, empty⟩ := List.cons_eq_cons.mp alone
      obtain ⟨rfl, rfl⟩ := List.append_eq_nil_iff.mp empty
      exact ⟨owned, _, order, rfl, rest⟩
    · contradiction
  · contradiction

theorem kept_of_keepName (store : NameStore account shared)
    (own : NameOwn account session shared state)
    (stepped : NameSessions.keepName session shared state = some (outcome, shared', state')) :
    Kept account session shared shared' state' := by
  unfold NameSessions.keepName at stepped
  split at stepped
  · split at stepped
    · rename_i sent keep free
      cases stepped
      apply kept_of_take store free
      intro content now keeps
      obtain ⟨-, rest⟩ := own content now keeps
      cases keeps
      exact ⟨fun _ => Function.update_self .., rest⟩
    · contradiction
  · contradiction

/-- What an `UPDATE` of an order never touches. -/
theorem written_keeps (sent : List OrderUpdate) (order : Order) :
    (OrderSessions.written sent order).bankAccountId = order.bankAccountId ∧
      (OrderSessions.written sent order).transferContent = order.transferContent ∧
        (OrderSessions.written sent order).code = order.code ∧
          (OrderSessions.written sent order).expiredAt = order.expiredAt := by
  induction sent generalizing order with
  | nil => exact ⟨rfl, rfl, rfl, rfl⟩
  | cons update rest ih =>
      rw [OrderSessions.written]
      split
      · obtain ⟨account, transfer, code, expired⟩ := ih (update.write.apply order)
        rw [account, transfer, code, expired]
        cases update.write <;> exact ⟨rfl, rfl, rfl, rfl⟩
      · exact ih order

theorem written_not_pending {sent : List OrderUpdate} {order : Order}
    (done : order.status ≠ .pending) : (OrderSessions.written sent order).status ≠ .pending := by
  induction sent generalizing order with
  | nil => exact done
  | cons update rest ih =>
      rw [OrderSessions.written]
      split
      · apply ih
        cases update.write <;> simp [OrderWrite.apply, Order.pay, Order.setStatus]
      · exact ih done

/-- An order that the transaction does not name stays, one that it names is over. -/
theorem written_cases (sent : List OrderUpdate) (order : Order) :
    ((∀ update ∈ sent, update.orderId ≠ order.id) ∧
      OrderSessions.written sent order = order) ∨
    ((∃ update ∈ sent, update.orderId = order.id) ∧
      (OrderSessions.written sent order).status ≠ .pending) := by
  induction sent generalizing order with
  | nil => exact .inl ⟨by simp, rfl⟩
  | cons update rest ih =>
      by_cases same : update.orderId = order.id
      · refine .inr ⟨⟨update, List.mem_cons_self, same⟩, ?_⟩
        rw [OrderSessions.written, if_pos same]
        apply written_not_pending
        cases update.write <;> simp [OrderWrite.apply, Order.pay, Order.setStatus]
      · rw [OrderSessions.written, if_neg same]
        rcases ih order with ⟨untouched, stays⟩ | ⟨⟨other, listed, named⟩, done⟩
        · refine .inl ⟨?_, stays⟩
          intro other listed
          rcases List.mem_cons.mp listed with rfl | later
          · exact same
          · exact untouched other later
        · exact .inr ⟨⟨other, List.mem_cons_of_mem update listed, named⟩, done⟩

theorem carries_iff {order : Order} : carries account content order = true ↔
    order.bankAccountId = account ∧ order.transferContent = some content := by
  simp [carries]

theorem orderEnd_of_pending {order : Order} (pending : order.status = .pending) :
    orderEnd order = order.expiredAt.instant := by
  unfold orderEnd
  rw [pending]

theorem carries_written (sent : List OrderUpdate) (order : Order) (content : String) :
    carries account content (OrderSessions.written sent order) = carries account content order := by
  obtain ⟨owner, transfer, -, -⟩ := written_keeps sent order
  simp only [carries, owner, transfer]

theorem publicCode_written (sent : List OrderUpdate) (order : Order) :
    (OrderSessions.written sent order).publicCode = order.publicCode := by
  obtain ⟨-, transfer, code, -⟩ := written_keeps sent order
  simp only [Order.publicCode, transfer, code]

theorem apart_written (sent : List OrderUpdate) (keep : Option (String × Int))
    (apart : Apart account shared) :
    Apart account (shared.publish session (written account sent keep shared.committed)) := by
  have running_before : ∀ order, Running shared.now (OrderSessions.written sent order) →
      Running shared.now order := by
    intro order running
    rcases written_cases sent order with ⟨-, stays⟩ | ⟨-, done⟩
    · rwa [stays] at running
    · exact absurd running.1 done
  intro first firstMember second secondMember different content firstHas secondHas running again
  obtain ⟨one, oneMember, rfl⟩ := List.mem_map.mp firstMember
  obtain ⟨two, twoMember, rfl⟩ := List.mem_map.mp secondMember
  rw [carries_written] at firstHas secondHas
  rw [id_written, id_written] at different
  exact apart one oneMember two twoMember different content firstHas secondHas
    (running_before one running) (running_before two again)

theorem store_written {sent : List OrderUpdate} {keep : Option (String × Int)}
    (store : NameStore account shared)
    (enough : ∀ order ∈ shared.committed.orders.rows, ∀ content row,
      carries account content order = true → shared.reservation account content = some row →
        orderEnd order + cooldown ≤ row.reservedUntil.instant →
          ∃ later, (written account sent keep shared.committed).paymentNameReservations.find?
              (account, content) = some later ∧
            orderEnd (OrderSessions.written sent order) + cooldown ≤ later.reservedUntil.instant) :
    NameStore account (shared.publish session (written account sent keep shared.committed)) where
  kept := by
    intro order member owner
    obtain ⟨old, oldMember, rfl⟩ := List.mem_map.mp member
    obtain ⟨sameOwner, sameTransfer, -, -⟩ := written_keeps sent old
    obtain ⟨content, row, transfer, named, found, bound⟩ :=
      store.kept old oldMember (sameOwner.symm.trans owner)
    obtain ⟨later, present, outlasts⟩ := enough old oldMember content row
      (carries_iff.mpr ⟨sameOwner.symm.trans owner, transfer⟩) found bound
    exact ⟨content, later, sameTransfer.trans transfer, (publicCode_written sent old).trans named,
      present, outlasts⟩
  apart := apart_written sent keep store.apart

theorem leaves_written {sent : List OrderUpdate} {keep : Option (String × Int)}
    (reserved : ∀ content, shared.reservation account content ≠ none →
      (written account sent keep shared.committed).paymentNameReservations.find?
        (account, content) ≠ none)
    (names : ∀ other content, other ≠ session → shared.nameOwner content = some other →
      (written account sent keep shared.committed).paymentNameReservations.find?
        (account, content) = shared.reservation account content) :
    Leaves account session shared
      (shared.publish session (written account sent keep shared.committed)) where
  clock := Int.le_refl _
  reserved := reserved
  names := fun other content different owned =>
    ⟨release_other different owned, names other content different owned⟩
  orders := by
    intro order member
    exact ⟨_, List.mem_map_of_mem member, id_written sent order, carries_written sent order⟩

/-- A transaction that sets no reservation. -/
theorem kept_of_endings {sent : List OrderUpdate} {held : Bool} (store : NameStore account shared)
    (fair : enough account session shared (.writing [] sent none held) .commit = true) :
    Kept account session shared
      (shared.publish session (written account sent none shared.committed)) .ready where
  store := by
    apply store_written store
    intro order member content row carried found bound
    refine ⟨row, found, ?_⟩
    rcases written_cases sent order with ⟨-, stays⟩ | ⟨named, -⟩
    · rwa [stays]
    · obtain ⟨stored, keyed⟩ := (Table.find?_eq_some_iff ..).mp found
      obtain ⟨rowOwner, rfl⟩ := Prod.mk.inj keyed
      exact of_decide_eq_true fair order member named row stored rowOwner carried
  own := trivial
  leaves := leaves_written (fun _ present => present) fun _ _ _ _ => rfl

/-- A transaction that ends one order and sets the reservation of its name. -/
theorem kept_of_settled {sent : List OrderUpdate} {now : Int}
    (store : NameStore account shared)
    (own : NameOwn account session shared (.writing [] sent (some (content, now)) true))
    (fair : enough account session shared (.writing [] sent (some (content, now)) true) .commit =
      true) :
    Kept account session shared
      (shared.publish session (written account sent (some (content, now)) shared.committed))
      .ready := by
  obtain ⟨owned, update, ended, alone, member, named, carried, ends⟩ := own content now rfl
  rw [List.nil_append] at alone
  subst alone
  have owned := owned rfl
  have found : ∀ other, (written account [update] (some (content, now))
      shared.committed).paymentNameReservations.find? (account, other) =
        if other = content then (shared.reservation account other).map
          (.keepUntil ((DateTime.utc now).add cooldown))
        else shared.reservation account other := by
    intro other
    simp only [NameSessions.written, Table.find?_modify, Prod.mk.injEq, true_and]
    rfl
  refine ⟨?_, trivial, ?_⟩
  · apply store_written store
    intro order orderMember other row carriesOther present bound
    rw [found, present]
    have last : ((DateTime.utc now).add cooldown).instant = now + cooldown := by simp
    rcases written_cases [update] order with ⟨untouched, stays⟩ | ⟨touched, -⟩
    · rw [stays]
      by_cases same : other = content
      · subst same
        rw [if_pos rfl]
        refine ⟨_, rfl, ?_⟩
        have past := of_decide_eq_true fair order orderMember carriesOther untouched
        simp only [PaymentNameReservation.keepUntil, last]
        omega
      · rw [if_neg same]
        exact ⟨row, rfl, bound⟩
    · obtain ⟨same, listed, sameId⟩ := touched
      obtain rfl := List.mem_singleton.mp listed
      obtain rfl : order = ended := shared.committed.orders.eq_of_key_eq orderMember member
        (sameId.symm.trans named.symm)
      have sameContent : other = content := by
        have first := (carries_iff.mp carriesOther).2
        have second := (carries_iff.mp carried).2
        exact Option.some.inj (first.symm.trans second)
      rw [if_pos sameContent]
      refine ⟨_, rfl, ?_⟩
      have stop := ends order
      simp only [OrderSessions.written, if_pos sameId, PaymentNameReservation.keepUntil, last, stop]
      omega
  · apply leaves_written
    · intro other present
      rw [found]
      split
      · simpa using present
      · exact present
    · intro other name different has
      rw [found, if_neg]
      rintro rfl
      rw [owned] at has
      exact different (Option.some.inj has).symm

theorem insertOrder_ok {order : Order} {db : Database} {orders : Table Order.id}
    (inserted : insertOrder order db = some orders) : db.orders.insert? order = some orders := by
  unfold insertOrder at inserted
  split at inserted
  · contradiction
  · exact inserted

/-- The orders that had the name ended seven days before the call's clock reading. -/
theorem previous_ended {named : Order} {now : Int} (store : NameStore account shared)
    (own : NameOwn account session shared (.allocated named content now)) :
    ∀ order ∈ shared.committed.orders.rows, carries account content order = true →
      orderEnd order + cooldown ≤ now := by
  obtain ⟨-, -, -, -, past⟩ := own
  intro order member carried
  obtain ⟨owner, transfer⟩ := carries_iff.mp carried
  obtain ⟨name, row, sameTransfer, -, found, bound⟩ := store.kept order member owner
  obtain rfl : name = content := Option.some.inj (sameTransfer.symm.trans transfer)
  exact Int.le_trans bound (past row found)

theorem kept_of_allocated {named : Order} {now : Int} {orders : Table Order.id}
    {paymentNameReservations : Table PaymentNameReservation.key}
    (store : NameStore account shared)
    (own : NameOwn account session shared (.allocated named content now))
    (claimed : claimName named content now shared.committed = some paymentNameReservations)
    (inserted : insertOrder named shared.committed = some orders) :
    Kept account session shared (shared.publish session
      { shared.committed with orders, paymentNameReservations }) .ready := by
  have ended := previous_ended store own
  obtain ⟨drafted, nonempty, transfer, owned, past⟩ := own
  obtain ⟨row, found, running, clock, others⟩ := claimName_ok claimed
  rw [drafted.owner] at found others
  have rows := Table.rows_of_insert? (insertOrder_ok inserted)
  have keeps : ∀ name, name ≠ content → paymentNameReservations.find? (account, name) =
      shared.reservation account name := by
    intro name different
    exact others _ fun same => different (Prod.mk.inj same).2
  have code : named.publicCode = content := by
    simp only [Order.publicCode, transfer, if_neg nonempty]
  have namedEnd := orderEnd_of_pending drafted.pending
  have cooldownPos : 0 ≤ cooldown := by decide
  -- a name is only taken again when no order that had it is running
  have noneRunning : ∀ order ∈ shared.committed.orders.rows, carries account content order = true →
      ¬Running shared.now order := by
    rintro order member carried ⟨pending, unexpired⟩
    have bound := ended order member carried
    rw [orderEnd_of_pending pending] at bound
    have before := drafted.past
    omega
  refine ⟨⟨?_, ?_⟩, trivial, ⟨Int.le_refl _, ?_, ?_, ?_⟩⟩
  · intro order member owner
    dsimp only [Shared.publish] at member
    rw [rows] at member
    rcases List.mem_append.mp member with old | new
    · obtain ⟨name, earlier, oldTransfer, oldCode, present, bound⟩ := store.kept order old owner
      by_cases same : name = content
      · subst same
        refine ⟨name, row, oldTransfer, oldCode, found, ?_⟩
        have bound := past earlier present |> Int.le_trans bound
        omega
      · exact ⟨name, earlier, oldTransfer, oldCode, (keeps name same).trans present, bound⟩
    · obtain rfl := List.mem_singleton.mp new
      exact ⟨content, row, transfer, code, found, by omega⟩
  · intro first firstMember second secondMember different name firstHas secondHas isRunning again
    dsimp only [Shared.publish] at firstMember secondMember isRunning again
    rw [rows] at firstMember secondMember
    have newName : carries account name named = true → name = content := by
      intro has
      exact Option.some.inj ((carries_iff.mp has).2.symm.trans transfer)
    rcases List.mem_append.mp firstMember with firstOld | firstNew
    · rcases List.mem_append.mp secondMember with secondOld | secondNew
      · exact store.apart first firstOld second secondOld different name firstHas secondHas
          isRunning again
      · obtain rfl := List.mem_singleton.mp secondNew
        obtain rfl := newName secondHas
        exact noneRunning first firstOld firstHas isRunning
    · obtain rfl := List.mem_singleton.mp firstNew
      obtain rfl := newName firstHas
      rcases List.mem_append.mp secondMember with secondOld | secondNew
      · exact noneRunning second secondOld secondHas again
      · obtain rfl := List.mem_singleton.mp secondNew
        exact different rfl
  · intro name present
    by_cases same : name = content
    · subst same
      exact ne_of_eq_of_ne found (Option.some_ne_none row)
    · exact ne_of_eq_of_ne (keeps name same) present
  · intro other name different has
    have apart : name ≠ content := by
      rintro rfl
      rw [owned] at has
      exact different (Option.some.inj has).symm
    exact ⟨release_other different has, keeps name apart⟩
  · intro order member
    refine ⟨order, ?_, rfl, fun _ => rfl⟩
    dsimp only [Shared.publish]
    rw [rows]
    exact List.mem_append_left _ member

theorem kept_of_commit (store : NameStore account shared)
    (own : NameOwn account session shared state)
    (fair : enough account session shared state .commit = true)
    (stepped : NameSessions.commit account session shared state =
      some (outcome, shared', state')) : Kept account session shared shared' state' := by
  unfold NameSessions.commit at stepped
  split at stepped
  · split at stepped
    · rename_i claimed inserted
      cases stepped
      exact kept_of_allocated store own claimed inserted
    · cases stepped
      exact kept_of_publish_same store
  · rename_i sent keep held
    split at stepped
    · rename_i complete
      cases stepped
      cases keep with
      | none => exact kept_of_endings store fair
      | some keep =>
          obtain ⟨content, now⟩ := keep
          obtain rfl : held = true := by simpa using complete
          exact kept_of_settled store own fair
    · contradiction
  · contradiction

theorem kept_of_tick {elapsed : Nat} (store : NameStore account shared)
    (own : NameOwn account session shared state) :
    Kept account session shared { shared with now := shared.now + elapsed } state := by
  have clock : shared.now ≤ shared.now + elapsed := by omega
  refine ⟨@store_of_same account shared _ clock rfl store, ?_,
    leaves_of_same clock rfl fun _ _ _ owned => owned⟩
  cases state with
  | ready => trivial
  | choosing order now contents =>
      obtain ⟨drafted, named⟩ := own
      exact ⟨⟨drafted.owner, drafted.pending, Int.le_trans drafted.past clock⟩, named⟩
  | looking order now content known rest =>
      obtain ⟨drafted, named⟩ := own
      exact ⟨⟨drafted.owner, drafted.pending, Int.le_trans drafted.past clock⟩, named⟩
  | allocated named content now =>
      obtain ⟨drafted, rest⟩ := own
      exact ⟨⟨drafted.owner, drafted.pending, Int.le_trans drafted.past clock⟩, rest⟩
  | writing waiting sent keep held => exact own

theorem kept_of_advance {action : NameSessions.Action} (store : NameStore account shared)
    (own : NameOwn account session shared state)
    (fair : enough account session shared state action = true)
    (stepped : NameSessions.advance unicode account session shared state action =
      some (outcome, shared', state')) : Kept account session shared shared' state' := by
  cases action with
  | tick elapsed =>
      cases stepped
      exact kept_of_tick store own
  | allocate args draws => exact kept_of_allocate store stepped
  | look => exact kept_of_look store own stepped
  | claim => exact kept_of_claim store own stepped
  | pay transaction => exact kept_of_pay store stepped
  | cancel orderId => exact kept_of_cancel store stepped
  | cancelTopup userId orderId => exact kept_of_cancelOnly store stepped
  | adminCancel orderId => exact kept_of_cancelOnly store stepped
  | expire => exact kept_of_expire store stepped
  | flush => exact kept_of_flush store own stepped
  | keepName => exact kept_of_keepName store own stepped
  | commit => exact kept_of_commit store own fair stepped
  | rollback =>
      cases stepped
      exact kept_of_publish_same store

theorem named_of_advance {action : NameSessions.Action} {order : Order} {now : Int}
    {previous : List Order}
    (stepped : NameSessions.advance unicode account session shared state action =
      some (.named order now previous, shared', state')) :
    ∃ named content, state = .allocated named content now ∧
      previous = shared.committed.orders.rows.filter (carries account content) := by
  cases action with
  | commit =>
      unfold NameSessions.advance NameSessions.commit at stepped
      dsimp only at stepped
      split at stepped
      · split at stepped
        · cases stepped
          exact ⟨_, _, rfl, rfl⟩
        · cases stepped
      · split at stepped <;> cases stepped
      · contradiction
  | claim =>
      simp only [NameSessions.advance, NameSessions.claim, addNamed, afterRefusal] at stepped
      repeat' split at stepped
      all_goals cases stepped
  | _ =>
      simp only [NameSessions.advance, NameSessions.allocate, NameSessions.look,
        NameSessions.pay, NameSessions.cancel, cancelOnly, NameSessions.expire,
        NameSessions.flush, NameSessions.keepName] at stepped
      repeat' split at stepped
      all_goals cases stepped

theorem cooled_of_advance {action : NameSessions.Action} (store : NameStore account shared)
    (own : NameOwn account session shared state)
    (stepped : NameSessions.advance unicode account session shared state action =
      some (outcome, shared', state')) : Cooled outcome := by
  cases outcome with
  | named order now previous =>
      obtain ⟨named, content, rfl, rfl⟩ := named_of_advance stepped
      intro other listed
      obtain ⟨member, carried⟩ := List.mem_filter.mp listed
      exact previous_ended store own other member carried
  | _ => trivial

variable {events : List NameSessions.Event}

def Tried (account : String) (session : SessionId) (events : List NameSessions.Event) :
    NameSessions.Local → Prop
  | .choosing _ now contents => ∀ content ∈ paymentNames, content ∉ contents →
      SeenReserved account session now events content
  | .looking _ now content _ rest => ∀ name ∈ paymentNames, name ∉ content :: rest →
      SeenReserved account session now events name
  | _ => True

theorem SeenReserved.later {now : Int} (seen : SeenReserved account session now events content)
    (event : NameSessions.Event) :
    SeenReserved account session now (events ++ [event]) content := by
  obtain ⟨earlier, listed, same, shows⟩ := seen
  exact ⟨earlier, List.mem_append_left _ listed, same, shows⟩

theorem Tried.later (tried : Tried account session events state) (event : NameSessions.Event) :
    Tried account session (events ++ [event]) state := by
  cases state with
  | choosing order now contents =>
      exact fun name member missing => (tried name member missing).later event
  | looking order now content known rest =>
      exact fun name member missing => (tried name member missing).later event
  | _ => trivial

/-- A name that the reads do not offer has a reservation beyond the clock. -/
theorem reserved_of_unavailable (store : NameStore account shared)
    (pooled : content ∈ paymentNames)
    (missing : content ∉ availableNames shared.committed account shared.now) :
    ∃ row ∈ shared.committed.paymentNameReservations.rows, row.key = (account, content) ∧
      shared.now < row.reservedUntil.instant := by
  have noLegacy : legacyOrders shared.committed account = [] := by
    apply List.filter_eq_nil_iff.mpr
    intro order member legacy
    simp only [Bool.and_eq_true, decide_eq_true_eq] at legacy
    obtain ⟨name, -, transfer, -⟩ := store.kept order member legacy.1
    rw [transfer] at legacy
    exact Bool.false_ne_true legacy.2
  unfold availableNames at missing
  rw [noLegacy] at missing
  cases found : shared.committed.paymentNameReservations.find? (account, content) with
  | none =>
      refine absurd (List.mem_filter.mpr ⟨pooled, ?_⟩) missing
      simp [storedReservations, found]
  | some row =>
      obtain ⟨member, keyed⟩ := (Table.find?_eq_some_iff ..).mp found
      refine ⟨row, member, keyed, ?_⟩
      by_contra past
      have runOut : row.reservedUntil.instant ≤ shared.now := Int.not_lt.mp past
      refine missing (List.mem_filter.mpr ⟨pooled, ?_⟩)
      simp [storedReservations, found, runOut]

theorem tried_of_allocate {args : OrderArgs} {draws : OrderDraws} {action : NameSessions.Action}
    (store : NameStore account shared)
    (stepped : NameSessions.allocate account shared state args draws =
      some (outcome, shared', state')) :
    Tried account session (events ++ [⟨session, action, outcome⟩]) state' := by
  unfold NameSessions.allocate at stepped
  split at stepped
  · split at stepped
    · cases stepped
      intro name pooled missing
      have unavailable : name ∉ availableNames shared.committed account shared.now :=
        fun offered => missing ((draws.shuffle.perm _).mem_iff.mpr offered)
      obtain ⟨row, member, keyed, reserved⟩ := reserved_of_unavailable store pooled unavailable
      have own : row.bankAccountId = account := (Prod.mk.inj keyed).1
      exact ⟨_, List.mem_append_right _ (List.mem_singleton_self _), rfl, rfl, row,
        List.mem_filter.mpr ⟨member, decide_eq_true own⟩, keyed, reserved⟩
    · contradiction
  · contradiction

theorem tried_of_passed {order : Order} {now : Int} {known : Bool} {rest : List String}
    {row : PaymentNameReservation} {action : NameSessions.Action}
    (tried : Tried account session events (.looking order now content known rest))
    (found : shared.reservation account content = some row)
    (reserved : now < row.reservedUntil.instant) :
    Tried account session (events ++ [⟨session, action, .passed now row⟩])
      (.choosing order now rest) := by
  intro name pooled missing
  by_cases same : name = content
  · subst same
    exact ⟨_, List.mem_append_right _ (List.mem_singleton_self _), rfl, rfl,
      Table.key_of_find? found, reserved⟩
  · apply SeenReserved.later
    apply tried name pooled
    intro listed
    rcases List.mem_cons.mp listed with head | tail
    · exact same head
    · exact missing tail

/-- A new order is only refused for its code, which ends its job. -/
theorem tried_of_addNamed {order : Order} {now : Int} {rest : List String}
    (newId : ∀ other ∈ shared.committed.orders.rows, other.id ≠ order.id)
    (stepped : addNamed account session shared order now content rest =
      (outcome, shared', state')) :
    Tried account session events state' := by
  unfold addNamed at stepped
  dsimp only at stepped
  split at stepped
  · cases stepped
    trivial
  · rename_i refused
    unfold insertOrder at refused
    unfold afterRefusal at stepped
    split at refused
    · rename_i used
      rw [if_pos used] at stepped
      cases stepped
      trivial
    · obtain ⟨other, member, same⟩ := (Table.insert?_eq_none_iff ..).mp refused
      exact absurd same (newId other member)

theorem tried_of_claim {action : NameSessions.Action}
    (own : NameOwn account session shared state)
    (fair : enough account session shared state .claim = true)
    (tried : Tried account session events state)
    (stepped : NameSessions.claim account session shared state =
      some (outcome, shared', state')) :
    Tried account session (events ++ [⟨session, action, outcome⟩]) state' := by
  unfold NameSessions.claim at stepped
  split at stepped
  · rename_i order now content known rest
    obtain ⟨newId, lasting⟩ := of_decide_eq_true fair
    split at stepped
    · split at stepped
      · exact tried_of_addNamed newId (Option.some.inj stepped)
      · rename_i row found
        obtain ⟨stored, keyed⟩ := (Table.find?_eq_some_iff ..).mp found
        simp only [afterRefusal, found] at stepped
        split at stepped
        · cases stepped
          trivial
        · cases stepped
          exact tried_of_passed tried found (lasting row stored keyed rfl)
      · rename_i absent
        exact absurd absent (own.2.2 rfl)
      · rename_i row found
        split at stepped
        · exact tried_of_addNamed newId (Option.some.inj stepped)
        · rename_i reserved
          cases stepped
          exact tried_of_passed tried found (Int.not_le.mp reserved)
    · contradiction
  · contradiction

theorem tried_of_advance {action : NameSessions.Action} (store : NameStore account shared)
    (own : NameOwn account session shared state)
    (fair : enough account session shared state action = true)
    (tried : Tried account session events state)
    (stepped : NameSessions.advance unicode account session shared state action =
      some (outcome, shared', state')) :
    Tried account session (events ++ [⟨session, action, outcome⟩]) state' := by
  cases action with
  | tick elapsed =>
      cases stepped
      exact tried.later _
  | allocate args draws => exact tried_of_allocate store stepped
  | look =>
      simp only [NameSessions.advance, NameSessions.look] at stepped
      split at stepped
      · cases stepped
        trivial
      · cases stepped
        exact fun name pooled missing => (tried name pooled missing).later _
      · contradiction
  | claim => exact tried_of_claim own fair tried stepped
  | _ =>
      simp only [NameSessions.advance, NameSessions.pay, NameSessions.cancel, cancelOnly,
        NameSessions.expire, NameSessions.flush, NameSessions.keepName,
        NameSessions.commit] at stepped
      repeat' split at stepped
      all_goals cases stepped
      all_goals trivial

/-- The exception of a full pool comes from an allocation without a name left. -/
theorem full_of_advance {action : NameSessions.Action}
    (tried : Tried account session events state)
    (stepped : NameSessions.advance unicode account session shared state action =
      some (outcome, shared', state')) :
    FullOnlyIfReserved account events ⟨session, action, outcome⟩ := by
  rintro now raised content pooled
  obtain rfl : outcome = .poolFull now := raised
  cases action with
  | look =>
      simp only [NameSessions.advance, NameSessions.look] at stepped
      split at stepped
      · cases stepped
        exact tried content pooled List.not_mem_nil
      · cases stepped
      · contradiction
  | claim =>
      simp only [NameSessions.advance, NameSessions.claim, addNamed, afterRefusal] at stepped
      repeat' split at stepped
      all_goals cases stepped
  | _ =>
      simp only [NameSessions.advance, NameSessions.allocate, NameSessions.pay,
        NameSessions.cancel, cancelOnly, NameSessions.expire, NameSessions.flush,
        NameSessions.keepName, NameSessions.commit] at stepped
      repeat' split at stepped
      all_goals cases stepped

structure NameInvariant (account : String) (events : List NameSessions.Event)
    (system : NameSessions.System) : Prop where
  store : NameStore account system.shared
  own : ∀ session, NameOwn account session system.shared (system.sessions session)
  tried : ∀ session, Tried account session events (system.sessions session)

theorem invariant_opened {db : Database} (now : Int) (unused : Unused account db) :
    NameInvariant account [] (NameSessions.opened db now) where
  store := by
    constructor
    · intro order member owner
      exact absurd owner (unused order member)
    · intro first member second _ _ content carried
      exact absurd (carries_iff.mp carried).1 (unused first member)
  own := fun _ => trivial
  tried := fun _ => trivial

/-- The steps that leave reservations long enough. -/
abbrev FairStep (unicode : Matcher.UnicodeData) (account : String) :
    NameSessions.System → NameSessions.Event → NameSessions.System → Prop :=
  Guarded (Interleaved.AtActor fun actor shared state action =>
      enough account actor shared state action)
    (Interleaved.Step (NameSessions.advance unicode account))

theorem invariant_step {system next : NameSessions.System} {event : NameSessions.Event}
    (invariant : NameInvariant account events system)
    (taken : FairStep unicode account system event next) :
    NameInvariant account (events ++ [event]) next := by
  obtain ⟨fair, shared', state', stepped, rfl⟩ := taken
  obtain ⟨session, action, outcome⟩ := event
  have own := invariant.own session
  have kept := kept_of_advance invariant.store own fair stepped
  have tried := tried_of_advance invariant.store own fair (invariant.tried session) stepped
  constructor
  · exact kept.store
  · apply Interleaved.forall_moved (fun session => NameOwn account session shared')
    · exact kept.own
    · exact fun other different => own_of_leaves different kept.leaves (invariant.own other)
  · apply Interleaved.forall_moved (fun session => Tried account session _)
    · exact tried
    · exact fun other _ => (invariant.tried other).later _

/-- In every run that leaves reservations long enough, names are exclusive. -/
theorem names_exclusive (unicode : Matcher.UnicodeData) (account : String) (start : Database)
    (now : Int) (unused : Unused account start) {events : List NameSessions.Event}
    {system : NameSessions.System}
    (run : Run (FairStep unicode account) (NameSessions.opened start now) events system) :
    Exclusive account events system := by
  have base := invariant_opened now unused
  have keeps : ∀ events system event next, NameInvariant account events system →
      FairStep unicode account system event next →
        NameInvariant account (events ++ [event]) next :=
    fun _ _ _ _ => invariant_step
  have final := run.history (NameInvariant account) base keeps
  refine ⟨final.store.apart, ?_, ?_⟩
  · intro event listed
    obtain ⟨prior, later, split⟩ := List.append_of_mem listed
    have cooled : Throughout (fun _ event => Cooled event.outcome) events := by
      refine run.throughout (NameInvariant account) base keeps ?_
      rintro earlier system event next invariant ⟨-, shared', state', stepped, rfl⟩
      exact cooled_of_advance invariant.store (invariant.own event.session) stepped
    exact cooled prior event later split
  · refine run.throughout (NameInvariant account) base keeps ?_
    rintro earlier system event next invariant ⟨-, shared', state', stepped, rfl⟩
    exact full_of_advance (invariant.tried event.session) stepped

/-- A new order of 15 minutes, with the names in the order of the pool. -/
def allocation (id codeHex : String) : List (SessionId × NameSessions.Action) := [
  (0, .allocate ⟨100, "b1", 900, none, [], none⟩ (Operations.orderDraws id codeHex 0)),
  (0, .look), (0, .claim), (0, .commit)]

/-- Canceled after a minute; seven days later the name is used again. -/
def canceledThenReused : List (SessionId × NameSessions.Action) :=
  allocation "o1" "AA" ++ [(1, .tick 60000000), (1, .cancel "o1"), (1, .flush), (1, .keepName),
    (1, .commit), (1, .tick 604800000000)] ++ allocation "o2" "BB"

/-- Canceled by an admin half a minute after it expired. -/
def canceledLate : List (SessionId × NameSessions.Action) :=
  allocation "o1" "AA" ++ [(1, .tick 930000000), (1, .adminCancel "o1"), (1, .flush),
    (1, .commit), (1, .tick 604770000001)] ++ allocation "o2" "BB"

def handsOutAgain (event : NameSessions.Event) : Bool :=
  match event.outcome with
  | .named _ _ previous => !previous.isEmpty
  | _ => false

def handsOutEarly (event : NameSessions.Event) : Bool :=
  match event.outcome with
  | .named _ now previous => previous.any fun order => now < orderEnd order + cooldown
  | _ => false

theorem unused_empty (account : String) : Unused account Database.empty := by
  intro order member
  cases member

theorem name_reused_after_seven_days : ∃ events system,
    events.any handsOutAgain = true ∧ Exclusive "b1" events system := by
  have reused : (Interleaved.replay (Interleaved.checked (NameSessions.advance .ascii "b1")
      (enough "b1")) (NameSessions.opened Database.empty 0) canceledThenReused).any
        (fun reached => reached.1.any handsOutAgain) = true := by decide +kernel
  obtain ⟨⟨events, system⟩, replayed, again⟩ := (Option.any_eq_true ..).mp reused
  have run := Interleaved.guarded_run_of_replay (NameSessions.advance .ascii "b1") (enough "b1")
    replayed
  exact ⟨events, system, again,
    names_exclusive .ascii "b1" Database.empty 0 (unused_empty "b1") run⟩

/-- A cancellation that leaves the reservation of an expired order alone: the name
comes back half a minute too early. -/
theorem late_cancellation_frees_name_early :
    ¬∀ (unicode : Matcher.UnicodeData) (account : String) (start : Database) (now : Int),
      Unused account start → ∀ (events : List NameSessions.Event) (system : NameSessions.System),
        Run (Interleaved.Step (NameSessions.advance unicode account))
          (NameSessions.opened start now) events system → Exclusive account events system := by
  intro claimed
  have early : (Interleaved.replay (NameSessions.advance .ascii "b1")
      (NameSessions.opened Database.empty 0) canceledLate).any
        (fun reached => reached.1.any handsOutEarly) = true := by decide +kernel
  obtain ⟨⟨events, system⟩, replayed, found⟩ := (Option.any_eq_true ..).mp early
  have run := Interleaved.run_of_replay (NameSessions.advance .ascii "b1") replayed
  have exclusive := claimed .ascii "b1" Database.empty 0 (unused_empty "b1") events system run
  obtain ⟨event, listed, handed⟩ := List.any_eq_true.mp found
  have cooled := exclusive.cooled event listed
  unfold handsOutEarly at handed
  split at handed
  · rename_i named
    rw [named] at cooled
    obtain ⟨order, previous, tooEarly⟩ := List.any_eq_true.mp handed
    have bound := cooled order previous
    have early := of_decide_eq_true tooEarly
    omega
  · cases handed

end ApiBank.Orders.NameExclusivity
