import ApiBank.Api.OrderRequests
import ApiBank.Orders.Operations

/-!
# One order for each key

Between the lookup of a key and the commit of its record nothing holds the key: a
second request can miss it as well, and a crash after the order leaves no record
behind, so that the retry creates another order.

When a lookup that finds nothing has no rival past its own lookup, and no session
stops between the two commits, a key has one order, every success names it, and
whoever comes later with another body is refused.
-/

namespace ApiBank.Api.OrderOnce

open ApiBank.Orders ApiBank.Db ApiBank.Relational ApiBank.Transition Api.Orders OrderRequests PaymentNames

set_option autoImplicit false

/-- Past a lookup that found nothing under this key. -/
def PastLookup (index : String × String) : Local → Prop
  | .missed request => request.index = index
  | .created request _ => request.index = index
  | _ => False

/-- A stored record was written for another body. -/
def StoredForOther (hashRequest : Body → String) (shared : Shared) (request : Request) : Prop :=
  ∃ stored, shared.idempotencyKeys.find? request.index = some stored ∧
    stored.requestHash ≠ hashRequest request.body

/-- The condition on a step. A request that reuses a key for another body passes the
checks that come before the key. -/
def Undivided (hashRequest : Body → String) (system : System) (event : Event) : Prop :=
  match event.action with
  | .request request => StoredForOther hashRequest system.shared request →
      ∃ db, authorize request system.shared.committed = .ok () db
  | .lookup => ∀ request, system.sessions event.session = .checked request →
      system.shared.idempotencyKeys.find? request.index = none →
      ∀ other, ¬PastLookup request.index (system.sessions other)
  | .crash => ∀ request order, system.sessions event.session ≠ .created request order
  | _ => True

def CommitsOrder (index : String × String) (order : Order) (event : Event) : Prop :=
  ∃ request, event.outcome = .ordered request order ∧ request.index = index

/-- A record was committed under the request's key, for another body as far as the
hash tells bodies apart. -/
def StoresOther (hashRequest : Body → String) (request : Request) (event : Event) : Prop :=
  ∃ first read, event.outcome = .responded first 201 (some read) ∧
    first.index = request.index ∧ hashRequest first.body ≠ hashRequest request.body

def Late (hashRequest : Body → String) (session : SessionId) (request : Request)
    (events : List Event) : Prop :=
  ∃ before arrival later, events = before ++ arrival :: later ∧ arrival.session = session ∧
    arrival.action = .request request ∧
    (∀ between ∈ later, between.session = session → ∀ next, between.action ≠ .request next) ∧
    ∃ stored ∈ before, StoresOther hashRequest request stored

/-- What a request is told or has committed. -/
def Concerns (request : Request) (event : Event) : Prop :=
  (∃ order, event.outcome = .ordered request order) ∨
    ∃ code read, event.outcome = .responded request code read

/-- The event is in order after those before it. -/
structure Unique (hashRequest : Body → String) (prior : List Event) (event : Event) : Prop where
  once : ∀ request order, event.outcome = .ordered request order →
    ∀ earlier ∈ prior, ∀ other, ¬CommitsOrder request.index other earlier
  named : ∀ request code read, event.outcome = .responded request code (some read) →
    ∃ earlier ∈ prior, ∃ order, CommitsOrder request.index order earlier ∧ read.id = order.id
  refused : ∀ request, Concerns request event →
    Late hashRequest event.session request (prior ++ [event]) →
    event.outcome = .responded request 409 none

/-- At most one order for a key, every success names it, other bodies get 409. -/
def CreatedOnce (hashRequest : Body → String) : List Event → Prop :=
  Throughout (Unique hashRequest)

def Follows (hashRequest : Body → String) (events : List Event) (session : SessionId)
    (shared : Shared) : Local → Prop
  | .ready => True
  | .checked request => Late hashRequest session request events →
      StoredForOther hashRequest shared request
  | .missed request => shared.idempotencyKeys.find? request.index = none ∧
      ¬Late hashRequest session request events ∧
      ∀ event ∈ events, ∀ order, ¬CommitsOrder request.index order event
  | .created request order => shared.idempotencyKeys.find? request.index = none ∧
      ¬Late hashRequest session request events ∧
      ∃ event ∈ events, CommitsOrder request.index order event

structure Tracked (hashRequest : Body → String) (events : List Event) (system : System) :
    Prop where
  follows : ∀ session, Follows hashRequest events session system.shared (system.sessions session)
  alone : ∀ first second index, first ≠ second → PastLookup index (system.sessions first) →
    ¬PastLookup index (system.sessions second)
  recorded : ∀ index stored, system.shared.idempotencyKeys.find? index = some stored →
    ∃ event ∈ events, ∃ order, CommitsOrder index order event ∧ stored.responseJson.id = order.id
  covered : ∀ event ∈ events, ∀ index order, CommitsOrder index order event →
    (∃ session, PastLookup index (system.sessions session)) ∨
      ∃ stored, system.shared.idempotencyKeys.find? index = some stored
  kept : ∀ event ∈ events, ∀ request read, event.outcome = .responded request 201 (some read) →
    ∃ stored, system.shared.idempotencyKeys.find? request.index = some stored ∧
      stored.requestHash = hashRequest request.body

section Steps

variable {hashRequest : Body → String} {events : List Event} {session : SessionId}
variable {system : System} {shared' : Shared} {state state' : Local} {action : Action}
variable {notice : Notice} {request : Request}

theorem late_snoc {event : Event} (late : Late hashRequest session request (events ++ [event])) :
    (event.session = session ∧ event.action = .request request ∧
      ∃ stored ∈ events, StoresOther hashRequest request stored) ∨
    (Late hashRequest session request events ∧
      (event.session = session → ∀ next, event.action ≠ .request next)) := by
  obtain ⟨before, arrival, later, split, own, arrives, present, stored⟩ := late
  rcases List.eq_nil_or_concat later with rfl | ⟨rest, last, rfl⟩
  · left
    obtain ⟨rfl, same⟩ := List.append_inj' split rfl
    obtain rfl : event = arrival := by simpa using same
    exact ⟨own, arrives, stored⟩
  · right
    rw [List.concat_eq_append, ← List.cons_append, ← List.append_assoc] at split
    obtain ⟨same, lastSame⟩ := List.append_inj' split rfl
    obtain rfl : event = last := by simpa using lastSame
    refine ⟨⟨before, arrival, rest, same, own, arrives, ?_, stored⟩, present event (by simp)⟩
    intro between inside
    exact present between (by simp [inside])

theorem late_of_snoc {event : Event} (later : ∀ next, event.action ≠ .request next)
    (late : Late hashRequest session request (events ++ [event])) :
    Late hashRequest session request events := by
  rcases late_snoc late with ⟨-, arrives, -⟩ | ⟨before, -⟩
  · exact absurd arrives (later request)
  · exact before

theorem storedForOther_of_stored {event : Event} (tracked : Tracked hashRequest events system)
    (member : event ∈ events) (stores : StoresOther hashRequest request event) :
    StoredForOther hashRequest system.shared request := by
  obtain ⟨first, read, told, sameKey, different⟩ := stores
  obtain ⟨stored, found, same⟩ := tracked.kept event member first read told
  exact ⟨stored, sameKey ▸ found, same ▸ different⟩

/-- Records stay. -/
theorem stored_acted {index : String × String} {stored : IdempotencyKey}
    (moved : Moves hashRequest system.shared state action notice shared' state')
    (found : system.shared.idempotencyKeys.find? index = some stored) :
    shared'.idempotencyKeys.find? index = some stored := by
  cases moved with
  | record request order now row table built inserted =>
      have fresh := Table.fresh_of_insert? inserted
      have apart : row.index ≠ index := by
        intro same
        rw [same, found] at fresh
        contradiction
      exact (Table.find?_insert? inserted index).trans (by rw [if_neg apart, found])
  | _ => exact found

/-- An unused key stays unused, unless the acting session records its own. -/
theorem absent_acted {index : String × String}
    (moved : Moves hashRequest system.shared state action notice shared' state')
    (absent : system.shared.idempotencyKeys.find? index = none)
    (apart : ¬PastLookup index state) : shared'.idempotencyKeys.find? index = none := by
  cases moved with
  | record request order now row table built inserted =>
      have different : row.index ≠ index := by
        intro same
        rw [built] at same
        exact apart same
      exact (Table.find?_insert? inserted index).trans (by rw [if_neg different, absent])
  | _ => exact absent

theorem follows_acted (tracked : Tracked hashRequest events system)
    (moved : Moves hashRequest system.shared state action notice shared' state')
    (follows : Follows hashRequest events session system.shared state)
    (lone : ∀ request, state = .checked request → action = .lookup →
      system.shared.idempotencyKeys.find? request.index = none →
      ∀ other, ¬PastLookup request.index (system.sessions other)) :
    Follows hashRequest (events ++ [⟨session, action, notice⟩]) session shared' state' := by
  cases moved with
  | enter request =>
      intro late
      rcases late_snoc late with ⟨-, -, stored, member, stores⟩ | ⟨-, present⟩
      · exact storedForOther_of_stored tracked member stores
      · exact absurd rfl (present rfl request)
  | miss request absent =>
      refine ⟨absent, ?_, ?_⟩
      · intro late
        obtain ⟨stored, found, -⟩ := follows (late_of_snoc (by simp) late)
        rw [absent] at found
        contradiction
      · intro event member order orders
        rcases List.mem_append.mp member with earlier | last
        · rcases tracked.covered event earlier request.index order orders with
            ⟨other, past⟩ | ⟨stored, found⟩
          · exact lone request rfl rfl absent other past
          · rw [absent] at found
            contradiction
        · obtain rfl := List.mem_singleton.mp last
          obtain ⟨other, quiet, -⟩ := orders
          contradiction
  | create request draws order committed =>
      obtain ⟨absent, punctual, -⟩ := follows
      refine ⟨absent, fun late => punctual (late_of_snoc (by simp) late), ?_⟩
      exact ⟨_, List.mem_append_right _ (List.mem_singleton_self _), request, rfl, rfl⟩
  | _ => trivial

/-- The steps of another session. -/
theorem follows_other {other : SessionId} {otherState : Local} (different : other ≠ session)
    (moved : Moves hashRequest system.shared state action notice shared' state')
    (apart : ∀ index, PastLookup index otherState → ¬PastLookup index state)
    (follows : Follows hashRequest events other system.shared otherState) :
    Follows hashRequest (events ++ [⟨session, action, notice⟩]) other shared' otherState := by
  have punctual {request : Request} (before : ¬Late hashRequest other request events) :
      ¬Late hashRequest other request (events ++ [⟨session, action, notice⟩]) := by
    intro late
    rcases late_snoc late with ⟨same, -⟩ | ⟨earlier, -⟩
    · exact different same.symm
    · exact before earlier
  cases otherState with
  | ready => trivial
  | checked request =>
      intro late
      rcases late_snoc late with ⟨same, -⟩ | ⟨earlier, -⟩
      · exact absurd same.symm different
      · obtain ⟨stored, found, foreign⟩ := follows earlier
        exact ⟨stored, stored_acted moved found, foreign⟩
  | missed request =>
      obtain ⟨absent, early, none⟩ := follows
      refine ⟨absent_acted moved absent (apart _ rfl), punctual early, ?_⟩
      intro event member order orders
      rcases List.mem_append.mp member with earlier | last
      · exact none event earlier order orders
      · obtain rfl := List.mem_singleton.mp last
        obtain ⟨own, ordered, sameKey⟩ := orders
        obtain rfl : notice = .ordered own order := ordered
        cases moved with
        | create made draws order committed => exact apart request.index rfl sameKey
  | created request order =>
      obtain ⟨absent, early, event, member, orders⟩ := follows
      exact ⟨absent_acted moved absent (apart _ rfl), punctual early, event,
        List.mem_append_left _ member, orders⟩

theorem past_acted {index : String × String}
    (moved : Moves hashRequest system.shared state action notice shared' state')
    (past : PastLookup index state') : PastLookup index state ∨
      ∃ request, state = .checked request ∧ action = .lookup ∧
        system.shared.idempotencyKeys.find? request.index = none ∧ request.index = index := by
  cases moved with
  | miss request absent => exact .inr ⟨request, rfl, rfl, absent, past⟩
  | create request draws order committed => exact .inl past
  | _ => exact past.elim

theorem past_of_ordered {order : Order}
    (moved : Moves hashRequest system.shared state action (.ordered request order) shared' state') :
    PastLookup request.index state' := by
  cases moved with
  | create request draws order committed => rfl

theorem recorded_acted {index : String × String} {stored : IdempotencyKey}
    (tracked : Tracked hashRequest events system)
    (moved : Moves hashRequest system.shared state action notice shared' state')
    (follows : Follows hashRequest events session system.shared state)
    (found : shared'.idempotencyKeys.find? index = some stored) :
    ∃ event ∈ events, ∃ order, CommitsOrder index order event ∧ stored.responseJson.id = order.id := by
  cases moved with
  | record request order now row table built inserted =>
      have inTable : table.find? index = some stored := found
      rw [Table.find?_insert? inserted] at inTable
      split at inTable
      · rename_i same
        obtain rfl : row = stored := by simpa using inTable
        obtain ⟨-, -, event, member, orders⟩ := follows
        have own : request.index = index := by rw [← same, built]; rfl
        exact ⟨event, member, order, own ▸ orders, by rw [built]; rfl⟩
      · exact tracked.recorded index stored inTable
  | _ => exact tracked.recorded index stored found

/-- Nobody leaves an order behind that no record and no session answers for. -/
theorem covered_acted {index : String × String} {order : Order} {event : Event}
    (moved : Moves hashRequest system.shared state action notice shared' state')
    (follows : Follows hashRequest events session system.shared state)
    (finished : ∀ request order, action = .crash → state ≠ .created request order)
    (member : event ∈ events) (orders : CommitsOrder index order event)
    (past : PastLookup index state) : PastLookup index state' ∨
      ∃ stored, shared'.idempotencyKeys.find? index = some stored := by
  have unordered {request : Request} (missed : state = .missed request) : False := by
    subst missed
    obtain ⟨-, -, none⟩ := follows
    obtain ⟨own, ordered, same⟩ := orders
    exact none event member order ⟨own, ordered, same.trans past.symm⟩
  cases moved with
  | create request draws order committed => exact .inl past
  | fail request draws code => exact (unordered rfl).elim
  | record request order now row table built inserted =>
      right
      have stored := Table.find?_insert? inserted row.index
      rw [if_pos rfl] at stored
      have own : row.index = index := by rw [built]; exact past
      exact ⟨row, own ▸ stored⟩
  | duplicate request order now stored taken =>
      right
      have own : request.index = index := past
      exact ⟨stored, own ▸ taken⟩
  | crash state =>
      cases state with
      | missed request => exact (unordered rfl).elim
      | created request order => exact absurd rfl (finished request order rfl)
      | _ => exact past.elim
  | _ => exact past.elim

theorem kept_acted {request : Request} {code : Nat} {read : OrderRead}
    (moved : Moves hashRequest system.shared state action (.responded request code (some read))
      shared' state') (created : code = 201) :
    ∃ stored, shared'.idempotencyKeys.find? request.index = some stored ∧
      stored.requestHash = hashRequest request.body := by
  cases moved with
  | record request order now row table built inserted =>
      have stored := Table.find?_insert? inserted row.index
      rw [if_pos rfl] at stored
      exact ⟨row, by rw [built] at stored ⊢; exact stored, by rw [built]; rfl⟩
  | reuse request existing found same => contradiction

theorem tracked_step {next : System} {event : Event} (tracked : Tracked hashRequest events system)
    (taken : Guarded (Undivided hashRequest) (Interleaved.Step (advance hashRequest)) system event
      next) : Tracked hashRequest (events ++ [event]) next := by
  obtain ⟨undivided, shared, own, advanced, rfl⟩ := taken
  have moved := moves_of_advance advanced
  have mine := tracked.follows event.session
  have lone : ∀ request, system.sessions event.session = .checked request →
      event.action = .lookup → system.shared.idempotencyKeys.find? request.index = none →
      ∀ other, ¬PastLookup request.index (system.sessions other) := by
    intro request here looks absent
    simp only [Undivided, looks] at undivided
    exact undivided request here absent
  have finished : ∀ request order, event.action = .crash →
      system.sessions event.session ≠ .created request order := by
    intro request order crashes
    simp only [Undivided, crashes] at undivided
    exact undivided request order
  have apartFromActor (other : SessionId) (different : other ≠ event.session)
      (index : String × String) (past : PastLookup index own) :
      ¬PastLookup index (system.sessions other) := by
    rcases past_acted moved past with before | ⟨request, here, looks, absent, rfl⟩
    · exact tracked.alone _ _ index different.symm before
    · exact lone request here looks absent other
  refine ⟨?_, ?_, ?_, ?_, ?_⟩
  · apply Interleaved.forall_moved fun session state =>
      Follows hashRequest (events ++ [event]) session shared state
    · exact follows_acted tracked moved mine lone
    · intro other different
      exact follows_other different moved (fun index => tracked.alone _ _ index different)
        (tracked.follows other)
  · exact Interleaved.apart_moved PastLookup tracked.alone apartFromActor
  · intro index stored found
    obtain ⟨earlier, member, rest⟩ := recorded_acted tracked moved mine found
    exact ⟨earlier, List.mem_append_left _ member, rest⟩
  · intro earlier member index order orders
    rcases List.mem_append.mp member with before | last
    · rcases tracked.covered earlier before index order orders with ⟨session, past⟩ | stored
      · by_cases acts : session = event.session
        · subst acts
          rcases covered_acted moved mine finished before orders past with still | stored
          · exact .inl ⟨event.session, by rwa [Interleaved.sessions_moved_self]⟩
          · exact .inr stored
        · exact .inl ⟨session, by rwa [Interleaved.sessions_moved_other _ _ _ acts]⟩
      · obtain ⟨stored, found⟩ := stored
        exact .inr ⟨stored, stored_acted moved found⟩
    · obtain rfl := List.mem_singleton.mp last
      obtain ⟨request, ordered, rfl⟩ := orders
      rw [ordered] at moved
      left
      refine ⟨earlier.session, ?_⟩
      rw [Interleaved.sessions_moved_self]
      exact past_of_ordered moved
  · intro earlier member request read told
    rcases List.mem_append.mp member with before | last
    · obtain ⟨stored, found, same⟩ := tracked.kept earlier before request read told
      exact ⟨stored, stored_acted moved found, same⟩
    · obtain rfl := List.mem_singleton.mp last
      rw [told] at moved
      exact kept_acted moved rfl

/-- Whoever comes late is told so. -/
theorem refused_acted (tracked : Tracked hashRequest events system)
    (moved : Moves hashRequest system.shared state action notice shared' state')
    (follows : Follows hashRequest events session system.shared state)
    (admitted : StoredForOther hashRequest system.shared request →
      ∀ own, action = .request own → own = request →
        ∃ db, authorize request system.shared.committed = .ok () db)
    (concerns : Concerns request ⟨session, action, notice⟩)
    (late : Late hashRequest session request (events ++ [⟨session, action, notice⟩])) :
    notice = .responded request 409 none := by
  have told : ∀ own code read, notice = .responded own code read → own = request := by
    rintro own code read rfl
    rcases concerns with ⟨order, ordered⟩ | ⟨otherCode, otherRead, responded⟩
    · contradiction
    · cases responded
      rfl
  cases moved with
  | refuse own code refused =>
      obtain rfl := told own code none rfl
      rcases late_snoc late with ⟨-, -, stored, member, stores⟩ | ⟨-, present⟩
      · obtain ⟨db, accepted⟩ :=
          admitted (storedForOther_of_stored tracked member stores) own rfl rfl
        exact absurd accepted (refused db)
      · exact absurd rfl (present rfl own)
  | conflict own =>
      obtain rfl := told own 409 none rfl
      rfl
  | reuse own existing found same =>
      obtain rfl := told own 200 _ rfl
      obtain ⟨stored, sameStored, different⟩ := follows (late_of_snoc (by simp) late)
      rw [found] at sameStored
      obtain rfl : existing = stored := by simpa using sameStored
      exact absurd same different
  | create own draws order committed =>
      obtain rfl : own = request := by
        rcases concerns with ⟨order, ordered⟩ | ⟨code, read, responded⟩
        · cases ordered
          rfl
        · contradiction
      exact absurd (late_of_snoc (by simp) late) follows.2.1
  | fail own draws code =>
      obtain rfl := told own code none rfl
      exact absurd (late_of_snoc (by simp) late) follows.2.1
  | record own order now row table built inserted =>
      obtain rfl := told own 201 _ rfl
      exact absurd (late_of_snoc (by simp) late) follows.2.1
  | duplicate own order now stored taken =>
      obtain rfl := told own 500 none rfl
      exact absurd (late_of_snoc (by simp) late) follows.2.1
  | enter own =>
      rcases concerns with ⟨order, ordered⟩ | ⟨code, read, responded⟩ <;> contradiction
  | miss own absent =>
      rcases concerns with ⟨order, ordered⟩ | ⟨code, read, responded⟩ <;> contradiction
  | crash state =>
      rcases concerns with ⟨order, ordered⟩ | ⟨code, read, responded⟩ <;> contradiction

theorem unique_acted {event : Event} {next : System} (tracked : Tracked hashRequest events system)
    (taken : Guarded (Undivided hashRequest) (Interleaved.Step (advance hashRequest)) system event
      next) : Unique hashRequest events event := by
  obtain ⟨undivided, shared, own, advanced, rfl⟩ := taken
  have moved := moves_of_advance advanced
  have mine := tracked.follows event.session
  obtain ⟨session, action, notice⟩ := event
  generalize system.sessions session = state at moved mine
  constructor
  · rintro request order rfl earlier member other orders
    cases moved with
    | create request draws order committed => exact mine.2.2 earlier member other orders
  · rintro request code read rfl
    cases moved with
    | reuse request existing found same =>
        obtain ⟨earlier, member, order, orders, sameId⟩ := tracked.recorded _ existing found
        exact ⟨earlier, member, order, orders, sameId⟩
    | record request order now row table built inserted =>
        obtain ⟨-, -, earlier, member, orders⟩ := mine
        exact ⟨earlier, member, order, orders, rfl⟩
  · intro request concerns late
    have admitted : StoredForOther hashRequest system.shared request →
        ∀ own, action = .request own → own = request →
          ∃ db, authorize request system.shared.committed = .ok () db := by
      rintro stored own rfl rfl
      exact undivided stored
    exact refused_acted tracked moved mine admitted concerns late

/-- In every run whose steps meet the condition a key creates one order. -/
theorem orders_created_once (hashRequest : Body → String) (db : Database) {events : List Event}
    {system : System}
    (run : Run (Guarded (Undivided hashRequest) (Interleaved.Step (advance hashRequest)))
      (opened db) events system) : CreatedOnce hashRequest events := by
  refine run.throughout (Tracked hashRequest) ?_ ?_ ?_
  · refine ⟨fun _ => trivial, fun _ _ _ _ past => past.elim, ?_, by simp, by simp⟩
    intro index stored found
    simp [opened] at found
  · intro events state event next
    exact tracked_step
  · intro events state event next
    exact unique_acted

end Steps

section Retries

def retriedOrder : Body where
  payload := {
    amountVnd := 120000
    bankAccountId := "b1"
    customerRef := none
    metadata := []
    ttlSeconds := 600
    positive := by decide
    ttlPositive := by decide
    ttlBound := by decide }
  description := none

def retried : Request where
  apiKeyId := "key_1"
  client := ⟨none, ["orders:write"]⟩
  key := "k1"
  body := retriedOrder

def steady (_ : SessionId) (shared : Shared) (_ : Local) : Action → Bool
  | .request request =>
      match authorize request shared.committed with
      | .ok _ _ => true
      | .error _ _ => false
  | .crash => false
  | _ => true

theorem undivided_of_steady {hashRequest : Body → String} {db : Database} {shared : Shared}
    {state : Local} {action : Action} {notice : Notice}
    (passed : steady 0 shared state action = true) :
    Undivided hashRequest ((opened db).moved 0 shared state) ⟨0, action, notice⟩ := by
  cases action with
  | request request =>
      intro _
      cases admitted : authorize request shared.committed with
      | ok value after => exact ⟨after, admitted⟩
      | error failure after => simp [steady, admitted] at passed
  | lookup =>
      intro request here _ other
      rw [Interleaved.sessions_moved_self] at here
      subst here
      apply Interleaved.forall_moved fun _ state => ¬PastLookup request.index state
      · exact id
      · exact fun _ _ => id
  | crash => simp [steady] at passed
  | create draws => trivial
  | record now => trivial

/-- The one hash value that the requests below send. -/
def oneHash (_ : Body) : String := "sha256"

def retry : List Action := [
  .request retried, .lookup, .create (Operations.orderDraws "o1" "AA" 0), .record 0,
  .request retried, .lookup]

theorem retry_creates_once : ∃ events system,
    Run (Guarded (Undivided oneHash) (Interleaved.Step (advance oneHash)))
      (opened Operations.shop) events system ∧
    system.shared.committed.orders.rows.map Order.id = ["o1"] ∧ CreatedOnce oneHash events := by
  obtain ⟨last, reached, orders⟩ : ∃ last,
      Interleaved.alone (Interleaved.checked (advance oneHash) steady) 0
        (opened Operations.shop).shared .ready retry = some (last, .ready) ∧
      last.committed.orders.rows.map Order.id = ["o1"] := ⟨_, rfl, rfl⟩
  obtain ⟨events, run⟩ := Interleaved.guarded_run_of_alone (advance oneHash) steady
    (fun shared state action notice => undivided_of_steady) reached
  have start : (opened Operations.shop).moved 0 (opened Operations.shop).shared .ready =
      opened Operations.shop := Interleaved.moved_self (opened Operations.shop) 0
  rw [start] at run
  exact ⟨events, _, run, orders, orders_created_once oneHash Operations.shop run⟩

/-- Two requests with one key and one body miss the key together. -/
def rivals : List (SessionId × Action) := [
  (0, .request retried), (1, .request retried), (0, .lookup), (1, .lookup),
  (0, .create (Operations.orderDraws "o1" "AA" 0)),
  (1, .create (Operations.orderDraws "o2" "BB" 0))]

theorem rivals_create_two : ¬∀ (hashRequest : Body → String) (db : Database)
    (events : List Event) (system : System),
    Run (Interleaved.Step (advance hashRequest)) (opened db) events system →
      CreatedOnce hashRequest events := by
  intro once
  have run := Interleaved.run_of_replay (advance oneHash)
    (rfl : Interleaved.replay _ (opened Operations.shop) rivals = some (_, _))
  have last := once oneHash Operations.shop _ _ run [_, _, _, _, _] _ [] rfl
  have first := last.once _ _ rfl _ (.tail _ (.tail _ (.tail _ (.tail _ (.head _)))))
  exact first _ ⟨_, rfl, rfl⟩

end Retries

end ApiBank.Api.OrderOnce
