import ApiBank.Orders.OrderSessions
import ApiBank.Orders.Pairing

/-!
# Order outcomes under interleaving

A payment is final as long as no session sends the `UPDATE` of an order that has
been paid by a transaction in the meantime. The status check of every writer is on
the object it read, so nothing in the code keeps to that condition.
-/

namespace ApiBank.Orders.Outcomes

open ApiBank.Core ApiBank.Db ApiBank.Relational ApiBank.Transition
open Ingest Matcher MatchDecision OrderSessions Pairing

set_option autoImplicit false

/-- What one action can do to the shared state. -/
inductive Touched (session : SessionId) (shared : Shared) (state : Local) : Shared → Prop where
  | nothing : Touched session shared state shared
  | rowTaken (orderId : String)
      (free : shared.rowOwner orderId = none ∨ shared.rowOwner orderId = some session) :
      Touched session shared state { shared with
        rowOwner := Function.update shared.rowOwner orderId (some session) }
  | released : Touched session shared state { shared with
      rowOwner := release shared.rowOwner session }
  | published (stored : Option Transaction) (sent : List OrderUpdate) (committed : Database)
      (phase : state = .writing stored [] sent)
      (accepted : published stored sent shared.committed = some committed) :
      Touched session shared state { committed, rowOwner := release shared.rowOwner session }

theorem touched_of_advance {unicode : UnicodeData} {session : SessionId} {shared shared' : Shared}
    {state state' : Local} {action : Action} {outcome : Unit}
    (advanced : advance unicode session shared state action = some (outcome, shared', state')) :
    Touched session shared state shared' := by
  cases action with
  | ingest bankAccountId bankTransaction draws =>
      simp only [advance, ingest] at advanced
      repeat' split at advanced
      all_goals cases advanced
      all_goals exact .nothing
  | tryMatch =>
      simp only [advance, tryMatch] at advanced
      repeat' split at advanced
      all_goals cases advanced
      all_goals exact .nothing
  | cancel orderId now =>
      simp only [advance, OrderSessions.cancel] at advanced
      repeat' split at advanced
      all_goals cases advanced
      all_goals exact .nothing
  | cancelTopup userId orderId now =>
      simp only [advance, cancelTopup] at advanced
      repeat' split at advanced
      all_goals cases advanced
      all_goals exact .nothing
  | expire now =>
      simp only [advance, expire] at advanced
      split at advanced <;> cases advanced
      exact .nothing
  | flush =>
      simp only [advance, flush] at advanced
      repeat' split at advanced
      all_goals cases advanced
      rename_i free
      exact .rowTaken _ free
  | commit =>
      simp only [advance, commit] at advanced
      split at advanced <;> cases advanced
      rename_i stored sent
      cases accepted : published stored sent shared.committed with
      | none => exact .released
      | some committed => exact .published stored sent committed rfl accepted
  | rollback =>
      simp only [advance] at advanced
      cases advanced
      exact .released

/-- The transaction row and the decided `UPDATE`s belong together. -/
inductive Shape (db : Database) : Option Transaction → List OrderUpdate → Prop where
  | closing (updates : List OrderUpdate)
      (closes : ∀ update ∈ updates, ∀ txId now, update.write ≠ .pay txId now) :
      Shape db none updates
  | undecided (transaction : Transaction) (unlinked : transaction.matchedOrderId = none) :
      Shape db (some transaction) []
  | paying (transaction : Transaction) (unlinked : transaction.matchedOrderId = none)
      (orderId : String) (known : ∃ order, db.orders.find? orderId = some order) (now : Int) :
      Shape db (some (transaction.assign orderId)) [⟨orderId, .pay transaction.id now⟩]

/-- The rows of the `UPDATE`s that a session has sent are its own and carry no
transaction yet. -/
def Owns (session : SessionId) (shared : Shared) : Local → Prop
  | .ready => True
  | .inserted transaction _ => transaction.matchedOrderId = none
  | .writing stored waiting sent =>
      Shape shared.committed stored (sent ++ waiting) ∧ ∀ update ∈ sent,
        shared.rowOwner update.orderId = some session ∧
          ∀ order, shared.committed.orders.find? update.orderId = some order →
            order.paidTxId = none

/-- The `UPDATE` that is sent meets a committed row without a transaction. -/
def meetsUnlinked (_ : SessionId) (shared : Shared) (state : Local) (action : Action) : Bool :=
  match action, state with
  | .flush, .writing _ (next :: _) _ =>
      match shared.committed.orders.find? next.orderId with
      | some order => order.paidTxId = none
      | none => true
  | _, _ => true

variable {unicode : UnicodeData} {actor : SessionId} {shared shared' : Shared}
variable {state state' : Local} {action : Action} {outcome : Unit}

theorem written_untouched {sent : List OrderUpdate} {order : Order}
    (apart : ∀ update ∈ sent, update.orderId ≠ order.id) : written sent order = order := by
  induction sent with
  | nil => rfl
  | cons update rest ih =>
      rw [written, if_neg (apart update (by simp))]
      exact ih fun other member => apart other (by simp [member])

/-- A linked order is not among the rows that a session is about to publish. -/
theorem untouched_of_linked {stored : Option Transaction} {sent : List OrderUpdate} {order : Order}
    (owns : Owns actor shared (.writing stored [] sent))
    (member : order ∈ shared.committed.orders.rows) (linked : order.paidTxId ≠ none) :
    written sent order = order := by
  apply written_untouched
  intro update sentUpdate same
  exact linked ((owns.2 update sentUpdate).2 order (same ▸ Table.find?_of_mem member))

theorem find_published {stored : Option Transaction} {sent : List OrderUpdate}
    {db committed : Database} (accepted : published stored sent db = some committed)
    (orderId : String) :
    committed.orders.find? orderId = (db.orders.find? orderId).map (written sent) := by
  obtain ⟨transactions, -, rfl⟩ := Option.map_eq_some_iff.mp accepted
  exact Table.find?_update _ _ (id_written sent) orderId

theorem paidTxId_written {sent : List OrderUpdate} {order : Order}
    (closes : ∀ update ∈ sent, ∀ txId now, update.write ≠ .pay txId now) :
    (written sent order).paidTxId = order.paidTxId := by
  induction sent generalizing order with
  | nil => rfl
  | cons update rest ih =>
      rw [written, ih fun other member => closes other (by simp [member])]
      split
      · have close := closes update (by simp)
        cases write : update.write with
        | pay txId now => exact absurd write (close txId now)
        | cancel now => rfl
        | expire now => rfl
      · rfl

theorem inserted_of_store {transaction : Transaction} {db : Database}
    {transactions : Table Transaction.id}
    (accepted : storeTransaction (some transaction) db = some transactions) :
    db.transactions.insert? transaction = some transactions := by
  simp only [storeTransaction] at accepted
  split at accepted
  · contradiction
  · exact accepted

theorem paired_published {stored : Option Transaction} {sent : List OrderUpdate}
    {committed : Database} (paired : Paired shared.committed)
    (owns : Owns actor shared (.writing stored [] sent))
    (accepted : published stored sent shared.committed = some committed) : Paired committed := by
  obtain ⟨transactions, inserted, rfl⟩ := Option.map_eq_some_iff.mp accepted
  have shape := owns.1
  rw [List.append_nil] at shape
  cases shape with
  | closing _ closes =>
      obtain rfl : shared.committed.transactions = transactions := Option.some.inj inserted
      refine paired_of_orders_update paired (id_written sent) rfl rfl ?_ ?_
      · intro order _
        exact paidTxId_written closes
      · intro order member linked
        rw [untouched_of_linked owns member linked]
        obtain ⟨txId, paid⟩ := Option.ne_none_iff_exists'.mp linked
        exact (paired.paidBy order member txId paid).1
  | undecided transaction unlinked =>
      exact paired_of_new_transaction paired (written_nil _) (inserted_of_store inserted) unlinked
  | paying transaction unlinked orderId known now =>
      obtain ⟨order, found⟩ := known
      have unpaid := (owns.2 _ (List.mem_singleton_self _)).2 order found
      obtain rfl := Table.key_of_find? found
      have assigned := inserted_of_store inserted
      have fresh := Table.fresh_of_insert? assigned
      rw [Transaction.id_assign] at fresh
      obtain ⟨next, first⟩ : ∃ next, shared.committed.transactions.insert? transaction =
        some next := Table.insert?_of_fresh fresh
      rw [Table.insert?_change first (Transaction.id_assign order.id),
        Option.some.injEq] at assigned
      subst assigned
      -- first the row as it was inserted, then the link
      have middle : Paired { shared.committed with transactions := next } :=
        paired_of_new_transaction paired rfl first unlinked
      have foundTx : next.find? transaction.id = some transaction := by
        rw [Table.find?_insert? first]
        exact if_pos rfl
      exact paired_of_link middle found foundTx (.inl ⟨unpaid, unlinked⟩) (written_one _ _) rfl

/-- Another session's rows are as they were, and no order is gone. -/
structure Undisturbed (session : SessionId) (before after : Shared) : Prop where
  rows : ∀ orderId, before.rowOwner orderId = some session →
    after.rowOwner orderId = some session ∧
      after.committed.orders.find? orderId = before.committed.orders.find? orderId
  kept : ∀ orderId order, before.committed.orders.find? orderId = some order →
    ∃ row, after.committed.orders.find? orderId = some row

theorem undisturbed_of_advance {other : SessionId} (different : other ≠ actor)
    (owns : Owns actor shared state)
    (advanced : advance unicode actor shared state action = some (outcome, shared', state')) :
    Undisturbed other shared shared' := by
  cases touched_of_advance advanced with
  | nothing => exact ⟨fun _ owned => ⟨owned, rfl⟩, fun _ order found => ⟨order, found⟩⟩
  | rowTaken orderId free =>
      exact ⟨fun _ owned => ⟨update_other different free owned, rfl⟩,
        fun _ order found => ⟨order, found⟩⟩
  | released =>
      exact ⟨fun _ owned => ⟨release_other different owned, rfl⟩,
        fun _ order found => ⟨order, found⟩⟩
  | published stored sent committed phase accepted =>
      subst phase
      constructor
      · intro orderId owned
        refine ⟨release_other different owned, ?_⟩
        rw [find_published accepted]
        cases found : shared.committed.orders.find? orderId with
        | none => rfl
        | some order =>
            rw [Option.map_some, Option.some.injEq]
            apply written_untouched
            intro update member same
            have mine := (owns.2 update member).1
            rw [same, Table.key_of_find? found, owned, Option.some.injEq] at mine
            exact different mine
      · intro orderId order found
        exact ⟨written sent order, by rw [find_published accepted, found]; rfl⟩

theorem shape_kept {before after : Database} {stored : Option Transaction}
    {updates : List OrderUpdate} (shape : Shape before stored updates)
    (kept : ∀ orderId order, before.orders.find? orderId = some order →
      ∃ row, after.orders.find? orderId = some row) : Shape after stored updates := by
  cases shape with
  | closing _ closes => exact .closing _ closes
  | undecided transaction unlinked => exact .undecided transaction unlinked
  | paying transaction unlinked orderId known now =>
      obtain ⟨order, found⟩ := known
      exact .paying transaction unlinked orderId (kept orderId order found) now

theorem owns_undisturbed {session : SessionId} {before after : Shared} {own : Local}
    (undisturbed : Undisturbed session before after) (owns : Owns session before own) :
    Owns session after own := by
  cases own with
  | ready => trivial
  | inserted transaction draws => exact owns
  | writing stored waiting sent =>
      refine ⟨shape_kept owns.1 undisturbed.kept, ?_⟩
      intro update member
      obtain ⟨mine, unlinked⟩ := owns.2 update member
      obtain ⟨still, same⟩ := undisturbed.rows update.orderId mine
      rw [same]
      exact ⟨still, unlinked⟩

/-- What the acting session establishes. -/
theorem own_step (guarded : meetsUnlinked actor shared state action)
    (paired : Paired shared.committed) (owns : Owns actor shared state)
    (advanced : advance unicode actor shared state action = some (outcome, shared', state')) :
    Paired shared'.committed ∧ Owns actor shared' state' := by
  cases action with
  | ingest bankAccountId bankTransaction draws =>
      simp only [advance, ingest] at advanced
      repeat' split at advanced
      all_goals cases advanced
      · exact ⟨paired, trivial⟩
      · exact ⟨paired, rfl⟩
      · exact ⟨paired, .undecided _ rfl, by simp⟩
  | tryMatch =>
      cases state with
      | ready => simp [advance, tryMatch] at advanced
      | writing stored waiting sent => simp [advance, tryMatch] at advanced
      | inserted transaction draws =>
          simp only [advance, tryMatch] at advanced
          repeat' split at advanced
          all_goals cases advanced
          · exact ⟨paired, trivial⟩
          · exact ⟨paired, trivial⟩
          · rename_i order found _ _ _
            have candidate := List.mem_of_find?_eq_some found
            have member := List.mem_of_mem_filter (List.mem_of_mem_filter candidate)
            exact ⟨paired, .paying transaction owns order.id
              ⟨order, Table.find?_of_mem member⟩ draws.now, by simp⟩
          · exact ⟨paired, .undecided _ owns, by simp⟩
          · exact ⟨paired, .undecided _ owns, by simp⟩
  | cancel orderId now =>
      simp only [advance, OrderSessions.cancel] at advanced
      repeat' split at advanced
      all_goals cases advanced
      · exact ⟨paired, trivial⟩
      · exact ⟨paired, .closing _ (by simp), by simp⟩
      · exact ⟨paired, trivial⟩
  | cancelTopup userId orderId now =>
      simp only [advance, cancelTopup] at advanced
      repeat' split at advanced
      all_goals cases advanced
      · exact ⟨paired, trivial⟩
      · exact ⟨paired, .closing _ (by simp), by simp⟩
  | expire now =>
      simp only [advance, expire] at advanced
      split at advanced <;> cases advanced
      refine ⟨paired, .closing _ ?_, by simp⟩
      intro update member
      obtain ⟨order, -, rfl⟩ := List.mem_map.mp member
      simp
  | flush =>
      simp only [advance, flush] at advanced
      repeat' split at advanced
      all_goals cases advanced
      rename_i stored next waiting sent free
      refine ⟨paired, by simpa using owns.1, ?_⟩
      intro update member
      rcases List.mem_append.mp member with old | new
      · obtain ⟨mine, unlinked⟩ := owns.2 update old
        refine ⟨?_, unlinked⟩
        by_cases same : update.orderId = next.orderId
        · simp [same]
        · simpa [Function.update_of_ne same] using mine
      · obtain rfl := List.mem_singleton.mp new
        refine ⟨by simp, ?_⟩
        intro order found
        simpa [meetsUnlinked, found] using guarded
  | commit =>
      simp only [advance, commit] at advanced
      split at advanced <;> cases advanced
      rename_i stored sent
      refine ⟨?_, trivial⟩
      cases accepted : published stored sent shared.committed with
      | none => exact paired
      | some committed => exact paired_published paired owns accepted
  | rollback =>
      simp only [advance] at advanced
      cases advanced
      exact ⟨paired, trivial⟩

/-- A payment by a transaction is still there. -/
def KeepsPayments (before after : Database) : Prop :=
  ∀ order ∈ before.orders.rows, ∀ txId, order.status = .paid → order.paidTxId = some txId →
    ∃ row, after.orders.find? order.id = some row ∧ row.status = .paid ∧
      row.paidTxId = some txId

/-- A step leaves linked orders alone. -/
theorem linked_kept (owns : Owns actor shared state)
    (advanced : advance unicode actor shared state action = some (outcome, shared', state'))
    {order : Order} (member : order ∈ shared.committed.orders.rows)
    (linked : order.paidTxId ≠ none) :
    shared'.committed.orders.find? order.id = some order := by
  cases touched_of_advance advanced with
  | nothing => exact Table.find?_of_mem member
  | rowTaken orderId free => exact Table.find?_of_mem member
  | released => exact Table.find?_of_mem member
  | published stored sent committed phase accepted =>
      subst phase
      rw [find_published accepted, Table.find?_of_mem member, Option.map_some,
        untouched_of_linked owns member linked]

/-- No canceled or expired order has a transaction, and no order has two. -/
structure SoundOutcomes (db : Database) : Prop where
  notClosed : ∀ order ∈ db.orders.rows, order.paidTxId ≠ none →
    order.status ≠ .canceled ∧ order.status ≠ .expired
  oneTransaction : ∀ first ∈ db.transactions.rows, ∀ second ∈ db.transactions.rows, ∀ orderId,
    first.matchedOrderId = some orderId → second.matchedOrderId = some orderId → first = second

theorem soundOutcomes_of_paired {db : Database} (paired : Paired db) : SoundOutcomes db where
  notClosed := by
    intro order member linked
    obtain ⟨txId, paid⟩ := Option.ne_none_iff_exists'.mp linked
    simp [(paired.paidBy order member txId paid).1]
  oneTransaction := (oneToOne_of_paired paired).oneTransaction

/-- The steps whose `UPDATE`s meet unlinked rows. -/
abbrev GuardedStep (unicode : UnicodeData) : System → Event → System → Prop :=
  Guarded (Interleaved.AtActor fun session shared state action =>
    meetsUnlinked session shared state action) (Interleaved.Step (advance unicode))

def Invariant (system : System) : Prop :=
  Interleaved.Holds (fun shared => Paired shared.committed) Owns system

theorem invariant_opened {db : Database} (paired : Paired db) : Invariant (opened db) :=
  ⟨paired, fun _ => trivial⟩

theorem invariant_step {system next : System} {event : Event} (invariant : Invariant system)
    (taken : GuardedStep unicode system event next) : Invariant next := by
  apply Interleaved.holds_step (advance unicode) _ Owns ?own ?frame invariant taken
  case own =>
    intro actor shared state action outcome shared' state' guarded store owns advanced
    exact own_step guarded store owns advanced
  case frame =>
    intro actor other shared state otherState action outcome shared' state' different _ owns
      advanced otherOwns
    exact owns_undisturbed (undisturbed_of_advance different owns advanced) otherOwns

theorem invariant_run {start system : System} {events : List Event} (invariant : Invariant start)
    (run : Run (GuardedStep unicode) start events system) : Invariant system :=
  run.invariant Invariant invariant fun _ _ _ holds taken => invariant_step holds taken

/-- In every run whose `UPDATE`s meet unlinked rows, a committed payment stays, no
canceled or expired order has a transaction, and no order has two. -/
theorem payments_final_while_updates_meet_unlinked {db : Database} {events : List Event}
    {system : System} (paired : Paired db)
    (run : Run (GuardedStep unicode) (opened db) events system) :
    SoundOutcomes system.shared.committed ∧ ∀ later final,
      Run (GuardedStep unicode) system later final →
        KeepsPayments system.shared.committed final.shared.committed := by
  have reached : Invariant system := invariant_run (invariant_opened paired) run
  refine ⟨soundOutcomes_of_paired reached.1, ?_⟩
  intro later final rest order member txId status paid
  have kept : Invariant final ∧
      ∃ row, final.shared.committed.orders.find? order.id = some row ∧ row.status = .paid ∧
        row.paidTxId = some txId := by
    apply rest.invariant (fun system => Invariant system ∧
      ∃ row, system.shared.committed.orders.find? order.id = some row ∧ row.status = .paid ∧
        row.paidTxId = some txId) ⟨reached, order, Table.find?_of_mem member, status, paid⟩
    rintro system event next ⟨invariant, row, found, rowStatus, rowPaid⟩ taken
    obtain ⟨-, shared, state, advanced, rfl⟩ := id taken
    refine ⟨invariant_step invariant taken, row, ?_, rowStatus, rowPaid⟩
    have sameId := Table.key_of_find? found
    rw [← sameId]
    exact linked_kept (invariant.2 event.session) advanced (Table.mem_of_find? found)
      (by simp [rowPaid])
  exact kept.2

/-- A cancellation that was decided before the payment is committed first. -/
def cancelBeforePayment : List (SessionId × Action) := [
  (1, .ingest "b1" transfer transferDraws), (1, .tryMatch), (2, .cancel "o1" 11),
  (2, .flush), (2, .commit), (1, .flush), (1, .commit), (3, .expire 1000), (3, .commit)]

theorem paired_oneOrder : Paired oneOrder := by
  constructor <;> simp [oneOrder, namedOrder, Database.empty]

theorem payments_final_after_cancellation : ∃ system : System,
    system.shared.committed.orders.rows.map Order.paidTxId = [some "t1"] ∧
      SoundOutcomes system.shared.committed := by
  have run := Interleaved.guarded_run_of_replay (advance .ascii) meetsUnlinked
    (rfl : Interleaved.replay _ (opened oneOrder) cancelBeforePayment = some (_, _))
  exact ⟨_, rfl, (payments_final_while_updates_meet_unlinked paired_oneOrder run).1⟩

def cancelAfterPayment : List (SessionId × Action) := [
  (1, .ingest "b1" transfer transferDraws), (1, .tryMatch), (2, .cancel "o1" 11),
  (1, .flush), (1, .commit), (2, .flush), (2, .commit)]

/-- A canceled order that a transaction has paid. -/
theorem stale_cancellation_overwrites_payment :
    ¬∀ (unicode : UnicodeData) (db : Database) (events : List Event) (system : System),
      Paired db → Run (Interleaved.Step (advance unicode)) (opened db) events system →
        SoundOutcomes system.shared.committed ∧ ∀ later final,
          Run (Interleaved.Step (advance unicode)) system later final →
            KeepsPayments system.shared.committed final.shared.committed := by
  intro claimed
  obtain ⟨events, system, replayed, order, found, canceled, paid⟩ : ∃ events system,
      Interleaved.replay (advance .ascii) (opened oneOrder) cancelAfterPayment =
        some (events, system) ∧ ∃ order,
      system.shared.committed.orders.find? "o1" = some order ∧ order.status = .canceled ∧
        order.paidTxId = some "t1" := ⟨_, _, rfl, _, rfl, rfl, rfl⟩
  have run := Interleaved.run_of_replay (advance .ascii) replayed
  have sound := (claimed .ascii oneOrder events system paired_oneOrder run).1
  exact (sound.notClosed order (Table.mem_of_find? found) (by simp [paid])).1 canceled

end ApiBank.Orders.Outcomes
