import ApiBank.Orders.OrderSessions

/-!
# Payment names in concurrent sessions

The sessions that take or keep a payment name of one bank account: allocations,
payments, cancellations and the expiry job. A session reads the clock once, when its
job begins; time passes between its steps.

Of the stack: a `SELECT` and `session.get` see committed rows; an `INSERT` of a
reservation and an `UPDATE` wait while another transaction has the row, and look at
the row again afterwards; a refused `INSERT` undoes its savepoint. Every caller of
`allocate_order` has checked the time to live. A new order row that clashes with one
that is not committed yet is refused at the commit.
-/

namespace ApiBank.Orders.NameSessions

open ApiBank.Api ApiBank.Core ApiBank.Db ApiBank.Relational ApiBank.Transition
open AdminOps Ingest Matcher OrderSessions PaymentNames StateMachine ApiBank.Api.Orders

set_option autoImplicit false

/-- The committed rows, the clock, and who has which order row and which name. -/
structure Shared where
  committed : Database
  now : Int
  rowOwner : String → Option SessionId
  nameOwner : String → Option SessionId

/-- Where a session stands. An allocation has names left to try, has looked for the
reservation of a name, or has claimed it; any other job has decided its `UPDATE`s of
orders and, for some, of a reservation. -/
inductive Local where
  | ready
  | choosing (order : Order) (now : Int) (contents : List String)
  | looking (order : Order) (now : Int) (content : String) (known : Bool) (rest : List String)
  | allocated (named : Order) (content : String) (now : Int)
  | writing (waiting sent : List OrderUpdate) (keep : Option (String × Int)) (held : Bool)

inductive Action where
  | tick (elapsed : Nat)
  | allocate (args : OrderArgs) (draws : OrderDraws)
  | look
  | claim
  | pay (transaction : Transaction)
  | cancel (orderId : String)
  | cancelTopup (userId orderId : String)
  | adminCancel (orderId : String)
  | expire
  | flush
  | keepName
  | commit
  | rollback

/-- What a step lets the outside see: the reservations that an allocation reads and
those for which it passes a name by, a new order with the orders that had its name
before, and the exception of a full pool. -/
inductive Notice where
  | quiet
  | began (now : Int) (reservations : List PaymentNameReservation)
  | passed (now : Int) (reservation : PaymentNameReservation)
  | named (order : Order) (now : Int) (previous : List Order)
  | poolFull (now : Int)

/-- The row has the account and the name. -/
def carries (account content : String) (order : Order) : Bool :=
  order.bankAccountId = account && order.transferContent = some content

def Shared.reservation (shared : Shared) (account content : String) :
    Option PaymentNameReservation :=
  shared.committed.paymentNameReservations.find? (account, content)

/-- The reads of `allocate_order` and the shuffle. -/
def allocate (account : String) (shared : Shared) (state : Local) (args : OrderArgs)
    (draws : OrderDraws) : Option (Notice × Shared × Local) :=
  match state with
  | .ready =>
      if args.bankAccountId = account ∧ 0 < args.ttlSeconds ∧ args.ttlSeconds ≤ 86400 then
        let order := newOrder args { draws with now := shared.now }
        let contents := draws.shuffle.order (availableNames shared.committed account shared.now)
        let reservations := shared.committed.paymentNameReservations.rows.filter fun row =>
          row.bankAccountId = account
        some (.began shared.now reservations, shared, .choosing order shared.now contents)
      else none
  | _ => none

/-- `session.get` of the next name's reservation; without a next name the pool is full. -/
def look (account : String) (shared : Shared) (state : Local) :
    Option (Notice × Shared × Local) :=
  match state with
  | .choosing _ now [] => some (.poolFull now, shared, .ready)
  | .choosing order now (content :: rest) =>
      some (.quiet, shared,
        .looking order now content (shared.reservation account content).isSome rest)
  | _ => none

def Shared.takeName (shared : Shared) (content : String) (session : SessionId) : Shared :=
  { shared with nameOwner := Function.update shared.nameOwner content (some session) }

def Shared.nameFree (shared : Shared) (content : String) (session : SessionId) : Prop :=
  shared.nameOwner content = none ∨ shared.nameOwner content = some session

instance (shared : Shared) (content : String) (session : SessionId) :
    Decidable (shared.nameFree content session) :=
  inferInstanceAs (Decidable (_ ∨ _))

/-- The `except IntegrityError`: a new name is tried when the code is new and the
reservation is there. -/
def afterRefusal (account : String) (shared : Shared) (order : Order) (now : Int)
    (content : String) (rest : List String) : Notice × Shared × Local :=
  if shared.committed.orders.rows.any fun other => other.code = order.code then
    (.quiet, shared, .ready)
  else
    match shared.reservation account content with
    | none => (.quiet, shared, .ready)
    | some row => (.passed now row, shared, .choosing order now rest)

def addNamed (account : String) (session : SessionId) (shared : Shared) (order : Order)
    (now : Int) (content : String) (rest : List String) : Notice × Shared × Local :=
  let named := { order with transferContent := some content }
  match insertOrder named shared.committed with
  | some _ => (.quiet, shared.takeName content session, .allocated named content now)
  | none => afterRefusal account shared order now content rest

/-- The `INSERT` of the reservation or its conditional `UPDATE`, and the `INSERT` of
the order. -/
def claim (account : String) (session : SessionId) (shared : Shared) (state : Local) :
    Option (Notice × Shared × Local) :=
  match state with
  | .looking order now content known rest =>
      if shared.nameFree content session then
        match known, shared.reservation account content with
        | false, none => some (addNamed account session shared order now content rest)
        | false, some _ => some (afterRefusal account shared order now content rest)
        | true, none => some (.quiet, shared, .choosing order now rest)
        | true, some row =>
            if row.reservedUntil.instant ≤ now then
              some (addNamed account session shared order now content rest)
            else some (.passed now row, shared, .choosing order now rest)
      else none
  | _ => none

/-- The reservation that a payment or `cancel_order` keeps, if there is one. -/
def keepOf (account : String) (shared : Shared) (order : Order) : Option (String × Int) :=
  (shared.reservation account order.publicCode).map fun _ => (order.publicCode, shared.now)

/-- The match of a new transaction and the assignments that follow. -/
def pay (unicode : UnicodeData) (account : String) (shared : Shared) (state : Local)
    (transaction : Transaction) : Option (Notice × Shared × Local) :=
  match state with
  | .ready =>
      if transaction.bankAccountId = account then
        match matchTransaction unicode shared.committed transaction shared.now with
        | .matched orderId =>
            match (candidateOrders shared.committed transaction).find? fun order =>
              order.id = orderId with
            | none => some (.quiet, shared, .ready)
            | some order =>
                match transitionOrder order.status .paid with
                | .error _ => some (.quiet, shared, .ready)
                | .ok _ => some (.quiet, shared, .writing
                    [⟨order.id, .pay transaction.id shared.now⟩] [] (keepOf account shared order)
                    false)
        | _ => some (.quiet, shared, .ready)
      else none
  | _ => none

/-- `OrderRepository.cancel_order`. -/
def cancel (account : String) (shared : Shared) (state : Local) (orderId : String) :
    Option (Notice × Shared × Local) :=
  match state with
  | .ready =>
      match shared.committed.orders.find? orderId with
      | none => some (.quiet, shared, .ready)
      | some order =>
          if order.bankAccountId = account then
            if order.status = .pending then
              some (.quiet, shared, .writing [⟨orderId, .cancel shared.now⟩] []
                (keepOf account shared order) false)
            else some (.quiet, shared, .ready)
          else none
  | _ => none

/-- A cancellation that keeps no name, when the endpoint returns. -/
def cancelOnly (shared : Shared) (state : Local) (orderId : String) (endpoint : Session Unit) :
    Option (Notice × Shared × Local) :=
  match state with
  | .ready =>
      match endpoint shared.committed with
      | .error _ _ => some (.quiet, shared, .ready)
      | .ok _ _ => some (.quiet, shared, .writing [⟨orderId, .cancel shared.now⟩] [] none false)
  | _ => none

/-- The `SELECT` of `expire_overdue_orders`. -/
def expire (shared : Shared) (state : Local) : Option (Notice × Shared × Local) :=
  match state with
  | .ready =>
      let overdue := shared.committed.orders.rows.filter (Reconcile.overdue shared.now)
      some (.quiet, shared, .writing (overdue.map fun order => ⟨order.id, .expire shared.now⟩) []
        none false)
  | _ => none

/-- The next `UPDATE` of an order. -/
def flush (session : SessionId) (shared : Shared) (state : Local) :
    Option (Notice × Shared × Local) :=
  match state with
  | .writing (next :: waiting) sent keep held =>
      if shared.rowOwner next.orderId = none ∨ shared.rowOwner next.orderId = some session then
        some (.quiet, { shared with
            rowOwner := Function.update shared.rowOwner next.orderId (some session) },
          .writing waiting (sent ++ [next]) keep held)
      else none
  | _ => none

/-- The `UPDATE` of the reservation, after those of the orders. -/
def keepName (session : SessionId) (shared : Shared) (state : Local) :
    Option (Notice × Shared × Local) :=
  match state with
  | .writing [] sent (some keep) false =>
      if shared.nameFree keep.1 session then
        some (.quiet, shared.takeName keep.1 session, .writing [] sent (some keep) true)
      else none
  | _ => none

/-- The committed rows after the `UPDATE`s. -/
def written (account : String) (sent : List OrderUpdate) (keep : Option (String × Int))
    (db : Database) : Database :=
  { db with
    orders := db.orders.update (OrderSessions.written sent) (id_written sent)
    paymentNameReservations := match keep with
      | none => db.paymentNameReservations
      | some (content, now) => db.paymentNameReservations.modify (account, content)
          (.keepUntil ((DateTime.utc now).add cooldown))
          (PaymentNameReservation.key_keepUntil _) }

/-- The end of the transaction. -/
def Shared.publish (shared : Shared) (session : SessionId) (db : Database) : Shared :=
  { shared with
    committed := db
    rowOwner := release shared.rowOwner session
    nameOwner := release shared.nameOwner session }

def commit (account : String) (session : SessionId) (shared : Shared) (state : Local) :
    Option (Notice × Shared × Local) :=
  match state with
  | .allocated named content now =>
      match claimName named content now shared.committed, insertOrder named shared.committed with
      | some paymentNameReservations, some orders =>
          some (.named named now (shared.committed.orders.rows.filter (carries account content)),
            shared.publish session { shared.committed with orders, paymentNameReservations },
            .ready)
      | _, _ => some (.quiet, shared.publish session shared.committed, .ready)
  | .writing [] sent keep held =>
      if keep.isNone ∨ held then
        some (.quiet, shared.publish session (written account sent keep shared.committed), .ready)
      else none
  | _ => none

def advance (unicode : UnicodeData) (account : String) (session : SessionId) (shared : Shared)
    (state : Local) : Action → Option (Notice × Shared × Local)
  | .tick elapsed => some (.quiet, { shared with now := shared.now + elapsed }, state)
  | .allocate args draws => allocate account shared state args draws
  | .look => look account shared state
  | .claim => claim account session shared state
  | .pay transaction => pay unicode account shared state transaction
  | .cancel orderId => cancel account shared state orderId
  | .cancelTopup userId orderId =>
      cancelOnly shared state orderId (cancelPendingTopup userId orderId shared.now)
  | .adminCancel orderId =>
      cancelOnly shared state orderId (adminCancelOrder orderId shared.now)
  | .expire => expire shared state
  | .flush => flush session shared state
  | .keepName => keepName session shared state
  | .commit => commit account session shared state
  | .rollback => some (.quiet, shared.publish session shared.committed, .ready)

abbrev System := Interleaved Shared Local

abbrev Event := SessionEvent Action Notice

def opened (db : Database) (now : Int) : System where
  shared := { committed := db, now, rowOwner := fun _ => none, nameOwner := fun _ => none }
  sessions := fun _ => .ready

section Alone

variable (unicode : UnicodeData) {account : String} (session : SessionId) {db after : Database}

/-- A claim that nobody disturbs goes by `claim_name`. -/
theorem claim_alone {shared : Shared} {order : Order} {now : Int} {content : String}
    {rest : List String} (owned : order.bankAccountId = account)
    (free : shared.nameOwner content = none) :
    (claimName order content now shared.committed = none ∧ ∃ row,
      claim account session shared
        (.looking order now content (shared.reservation account content).isSome rest) =
          some (.passed now row, shared, .choosing order now rest)) ∨
    ((claimName order content now shared.committed).isSome ∧
      claim account session shared
        (.looking order now content (shared.reservation account content).isSome rest) =
          some (addNamed account session shared order now content rest)) := by
  subst owned
  have unheld : shared.nameFree content session := .inl free
  cases found : shared.committed.paymentNameReservations.find? (order.bankAccountId, content) with
  | none =>
      have claimed : (claimName order content now shared.committed).isSome := by
        unfold claimName
        rw [found]
        have insertable (row : PaymentNameReservation)
            (keyed : row.key = (order.bankAccountId, content)) :
            (shared.committed.paymentNameReservations.insert? row).isSome := by
          obtain ⟨table, inserted⟩ := Table.insert?_of_fresh (keyed ▸ found)
          exact Option.isSome_of_eq_some inserted
        exact insertable _ rfl
      refine .inr ⟨claimed, ?_⟩
      simp [claim, unheld, Shared.reservation, found]
  | some row =>
      by_cases lapsed : row.reservedUntil.instant ≤ now
      · refine .inr ⟨by simp [claimName, found, lapsed], ?_⟩
        simp [claim, unheld, Shared.reservation, found, lapsed]
      · refine .inl ⟨by simp [claimName, found, lapsed], row, ?_⟩
        simp [claim, unheld, Shared.reservation, found, lapsed]

/-- With the names free, the loop of a session on its own is `allocateFrom`. -/
theorem alone_allocatesFrom (shared : Shared) {order named : Order} {now : Int}
    (owned : order.bankAccountId = account) (free : ∀ content, shared.nameOwner content = none)
    {contents : List String}
    (returned : allocateFrom order now contents shared.committed = .ok named after) :
    ∃ actions last, Interleaved.alone (advance unicode account) session shared
      (.choosing order now contents) actions = some (last, .ready) ∧ last.committed = after := by
  induction contents with
  | nil => cases returned
  | cons content rest ih =>
      have next : advance unicode account session shared (.choosing order now (content :: rest))
          .look = some (.quiet, shared, .looking order now content
            (shared.reservation account content).isSome rest) := rfl
      -- a name that is passed by leaves the rows as they were
      have passes {notice : Notice} (passed : advance unicode account session shared
          (.looking order now content (shared.reservation account content).isSome rest) .claim =
            some (notice, shared, .choosing order now rest))
          (later : allocateFrom order now rest shared.committed = .ok named after) :
          ∃ actions last, Interleaved.alone (advance unicode account) session shared
            (.choosing order now (content :: rest)) actions = some (last, .ready) ∧
              last.committed = after := by
        obtain ⟨actions, last, reached, same⟩ := ih later
        refine ⟨.look :: .claim :: actions, last, ?_, same⟩
        simp only [Interleaved.alone, next, passed, reached]
      simp only [allocateFrom] at returned
      rcases claim_alone session owned (free content) with ⟨refused, row, passed⟩ | ⟨taken, added⟩
      · rw [refused] at returned
        exact passes passed returned
      · obtain ⟨table, claimed⟩ := Option.isSome_iff_exists.mp taken
        rw [claimed] at returned
        simp only at returned
        split at returned
        · rename_i orders inserted
          cases returned
          have claims : advance unicode account session shared
              (.looking order now content (shared.reservation account content).isSome rest) .claim =
                some (.quiet, shared.takeName content session,
                  .allocated { order with transferContent := some content } content now) := by
            refine added.trans (congrArg some ?_)
            simp only [addNamed, inserted]
          have named : claimName { order with transferContent := some content } content now
            (shared.takeName content session).committed = some table := claimed
          have stored : insertOrder { order with transferContent := some content }
            (shared.takeName content session).committed = some orders := inserted
          refine ⟨[.look, .claim, .commit], (shared.takeName content session).publish session
            { shared.committed with orders, paymentNameReservations := table }, ?_, rfl⟩
          simp only [Interleaved.alone, next, claims]
          simp only [advance, commit, named, stored]
          rfl
        · rename_i clash
          split at returned
          · contradiction
          · rename_i newCode
            split at returned
            · contradiction
            · rename_i stored
              obtain ⟨row, found⟩ := Option.ne_none_iff_exists'.mp stored
              rw [owned] at found
              have refused : addNamed account session shared order now content rest =
                  (.passed now row, shared, .choosing order now rest) := by
                simp only [addNamed, clash, afterRefusal, newCode, Shared.reservation, found]
                rfl
              exact passes (added.trans (congrArg some refused)) returned

/-- An allocation that no other session disturbs does what `allocate_order` does. -/
theorem alone_allocates {args : OrderArgs} {draws : OrderDraws} {named : Order}
    (timed : 0 < args.ttlSeconds ∧ args.ttlSeconds ≤ 86400)
    (returned : allocateOrder (newOrder args draws) draws db = .ok named after) :
    ∃ actions last, Interleaved.alone (advance unicode args.bankAccountId) session
      (opened db draws.now).shared .ready (.allocate args draws :: actions) =
        some (last, .ready) ∧ last.committed = after := by
  obtain ⟨actions, last, reached, same⟩ := 
    alone_allocatesFrom unicode session (opened db draws.now).shared rfl (fun _ => rfl) returned
  refine ⟨actions, last, ?_, same⟩
  have begins : ∃ notice, advance unicode args.bankAccountId session (opened db draws.now).shared
      .ready (.allocate args draws) = some (notice, (opened db draws.now).shared,
        .choosing (newOrder args draws) draws.now
          (draws.shuffle.order (availableNames db args.bankAccountId draws.now))) := by
    simp only [advance, NameSessions.allocate, timed, opened]
    exact ⟨_, rfl⟩
  obtain ⟨notice, begins⟩ := begins
  simp only [Interleaved.alone, begins]
  exact reached

theorem kept_of_absent {order : Order} {now : Int} (db : Database)
    (absent : db.paymentNameReservations.find? (order.bankAccountId, order.publicCode) = none) :
    db.keptNames order now = db.paymentNameReservations := by
  apply (Table.modify_eq_self_iff ..).mpr
  intro row found
  rw [absent] at found
  contradiction

/-- With the row and the name free, one decided `UPDATE` is sent and committed. -/
theorem alone_writes (account : String) (shared : Shared) (update : OrderUpdate) (keep : Option (String × Int))
    (rows : ∀ id, shared.rowOwner id = none) (names : ∀ content, shared.nameOwner content = none) :
    ∃ actions last, Interleaved.alone (advance unicode account) session shared
      (.writing [update] [] keep false) actions = some (last, .ready) ∧
        last.committed = written account [update] keep shared.committed := by
  let flushing : Shared := { shared with
    rowOwner := Function.update shared.rowOwner update.orderId (some session) }
  have flushed : advance unicode account session shared (.writing [update] [] keep false) .flush =
      some (.quiet, flushing, .writing [] [update] keep false) := by
    simp [advance, flush, rows, flushing]
  cases keep with
  | none =>
      refine ⟨[.flush, .commit],
        flushing.publish session (written account [update] none shared.committed), ?_, rfl⟩
      simp only [Interleaved.alone, flushed]
      rfl
  | some keep =>
      have kept : advance unicode account session flushing
          (.writing [] [update] (some keep) false) .keepName = some (.quiet,
            flushing.takeName keep.1 session, .writing [] [update] (some keep) true) := by
        simp [advance, keepName, Shared.nameFree, names, flushing]
      refine ⟨[.flush, .keepName, .commit], (flushing.takeName keep.1 session).publish session
        (written account [update] (some keep) shared.committed), ?_, rfl⟩
      simp only [Interleaved.alone, flushed, kept]
      rfl

/-- A cancellation that no other session disturbs does what `cancel_order` does. -/
theorem alone_cancels {order : Order} {now : Int} (found : db.orders.find? order.id = some order)
    (pending : order.status = .pending) :
    ∃ actions last, Interleaved.alone (advance unicode order.bankAccountId) session
      (opened db now).shared .ready (.cancel order.id :: actions) = some (last, .ready) ∧
        cancelOrder order.id now db =
          .ok (some (order.setStatus .canceled now)) last.committed := by
  have decided : advance unicode order.bankAccountId session (opened db now).shared .ready
      (.cancel order.id) = some (.quiet, (opened db now).shared,
        .writing [⟨order.id, .cancel now⟩] []
          (keepOf order.bankAccountId (opened db now).shared order) false) := by
    simp [advance, cancel, opened, found, pending]
  obtain ⟨actions, last, reached, committed⟩ := alone_writes unicode session
    order.bankAccountId (opened db now).shared ⟨order.id, .cancel now⟩
    (keepOf order.bankAccountId (opened db now).shared order) (fun _ => rfl) (fun _ => rfl)
  refine ⟨actions, last, ?_, ?_⟩
  · simp only [Interleaved.alone, decided]
    exact reached
  · have names : db.keptNames order now = (written order.bankAccountId [⟨order.id, .cancel now⟩]
        (keepOf order.bankAccountId (opened db now).shared order) db).paymentNameReservations := by
      cases reserved : db.paymentNameReservations.find?
          (order.bankAccountId, order.publicCode) with
      | none =>
          simp only [keepOf, Shared.reservation, opened, reserved]
          exact kept_of_absent db reserved
      | some row =>
          simp only [keepOf, Shared.reservation, opened, reserved]
          rfl
    have orders : db.orders.modify order.id (Order.setStatus .canceled now)
        (Order.id_setStatus .canceled now) =
          db.orders.update (OrderSessions.written [⟨order.id, .cancel now⟩])
            (id_written [⟨order.id, .cancel now⟩]) :=
      (written_one ⟨order.id, .cancel now⟩ db.orders).symm
    simp only [cancelOrder, found, if_pos pending, committed, orders, names]
    rfl

end Alone

end ApiBank.Orders.NameSessions
