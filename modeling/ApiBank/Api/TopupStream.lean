import ApiBank.Db.Models

/-!
# The stream of a top-up

A client follows an order by server-sent events. Each check of the database compares the
status with the last one that the stream knows, and announces a change; a final status
ends the stream. The status that the order has at the connection counts as known, so one
that is final already is never announced, and the stream runs into its time limit.
-/

namespace ApiBank.Api.TopupStream

open ApiBank.Db ApiBank.Relational

set_option autoImplicit false

def pollFallback : Int := seconds 2

/-- Half a second. -/
def pollSafety : Int := 500000

def heartbeatInterval : Int := seconds 15

def maxDuration : Int := seconds (30 * 60)

/-- The events on the wire. The status in the data of `paid` is always `paid`. -/
inductive StreamEvent where
  | hello (status : OrderStatus)
  | error (detail : String)
  | paid (balanceVnd : Option Int) (paidAt : Option DateTime)
  | expired (status : OrderStatus)
  | status (status : OrderStatus)
  | ping
  | timeout (status : OrderStatus)
deriving DecidableEq, Repr

/-- What one check finds: the committed rows and the clock. -/
structure Check where
  db : Database
  now : Int

/-- The client that connects: the order as the request loaded it, its owner, whether
the subscription to the channel works, and the first check. -/
structure Connection where
  order : Order
  ownerId : Option String
  usePubsub : Bool
  start : Int
  initial : Check

/-- One turn of the loop: whether the client is gone, whether a message came, and the
checks that the turn may make. -/
structure Turn where
  disconnected : Bool
  message : Bool
  afterMessage : Check
  now : Int
  safety : Check

/-- The trace keeps the checks, with the status that they read, and the events sent. -/
inductive Item where
  | check (status : Option OrderStatus)
  | sent (event : StreamEvent)
deriving DecidableEq, Repr

structure Progress where
  lastStatus : OrderStatus
  lastHeartbeat : Int
  lastDbCheck : Int
  trace : List Item
  closed : Bool

/-- `int(owner.balance_vnd) if owner is not None else None`. -/
def ownerBalance (ownerId : Option String) (db : Database) : Option Int :=
  (ownerId.filter (· ≠ "")).bind fun userId => (db.users.find? userId).map User.balanceVnd

/-- The event for a status that is new, and whether it is terminal. -/
def announce (ownerId : Option String) (db : Database) (fresh : Order) : StreamEvent × Bool :=
  match fresh.status with
  | .paid => (.paid (ownerBalance ownerId db) fresh.paidAt, true)
  | .expired => (.expired .expired, true)
  | .canceled => (.expired .canceled, true)
  | other => (.status other, false)

section Stream

variable (connection : Connection)

def Connection.read (check : Check) : Option OrderStatus :=
  (check.db.orders.find? connection.order.id).map Order.status

/-- The result of a check, and whether the stream ends; the last status and the time of
the check are the variables that `fetch_status_and_emit` writes. -/
def fetchStatusAndEmit (check : Check) (progress : Progress) :
    Option StreamEvent × Bool × Progress :=
  match check.db.orders.find? connection.order.id with
  | none => (some (.error "order missing"), true, progress)
  | some fresh =>
      let checked := { progress with lastDbCheck := check.now }
      if fresh.status = checked.lastStatus then (none, false, checked)
      else
        let (event, terminal) := announce connection.ownerId check.db fresh
        (some event, terminal, { checked with lastStatus := fresh.status })

/-- A check, the event that it yields, and the `return` after a terminal one. -/
def look (check : Check) (progress : Progress) : Progress :=
  let (event, terminal, next) := fetchStatusAndEmit connection check progress
  { next with
    trace := progress.trace ++ .check (connection.read check) :: event.toList.map Item.sent
    closed := terminal }

def send (event : StreamEvent) (progress : Progress) : Progress :=
  { progress with trace := progress.trace ++ [.sent event] }

def safetyInterval : Int :=
  if connection.usePubsub then pollSafety else pollFallback

/-- The check that does not wait for a message. -/
def poll (turn : Turn) (progress : Progress) : Progress :=
  if safetyInterval connection ≤ turn.now - progress.lastDbCheck then
    look connection turn.safety progress
  else progress

def beat (turn : Turn) (progress : Progress) : Progress :=
  if heartbeatInterval ≤ turn.now - progress.lastHeartbeat then
    send .ping { progress with lastHeartbeat := turn.now }
  else progress

def expire (turn : Turn) (progress : Progress) : Progress :=
  if maxDuration ≤ turn.now - connection.start then
    { send (.timeout progress.lastStatus) progress with closed := true }
  else progress

/-- What runs unless the stream has ended. -/
def unlessClosed (work : Progress → Progress) (progress : Progress) : Progress :=
  if progress.closed then progress else work progress

def wait (turn : Turn) (progress : Progress) : Progress :=
  if connection.usePubsub && turn.message then look connection turn.afterMessage progress
  else progress

def turnOnce (turn : Turn) (progress : Progress) : Progress :=
  if turn.disconnected then { progress with closed := true }
  else
    let waited := wait connection turn progress
    let polled := unlessClosed (poll connection turn) waited
    unlessClosed (fun running => expire connection turn (beat turn running)) polled

/-- The stream up to the first check. -/
def opened : Progress :=
  look connection connection.initial
    (send (.hello connection.order.status)
      ⟨connection.order.status, connection.start, connection.start, [], false⟩)

def stream (turns : List Turn) : Progress :=
  turns.foldl (fun progress turn => unlessClosed (turnOnce connection turn) progress)
    (opened connection)

end Stream

/-- `paid`, `expired` and `canceled`. -/
def Final (status : OrderStatus) : Prop :=
  status = .paid ∨ status = .expired ∨ status = .canceled

def announces : StreamEvent → Option OrderStatus
  | .paid _ _ => some .paid
  | .expired status => some status
  | _ => none

def announcement : Item → Bool
  | .sent event => (announces event).isSome
  | .check _ => false

/-- How the stream may end: with a final status that was read and announced, with the time
limit while the status is not final, or because the order is gone. -/
inductive Ending : List Item → Prop where
  | announced {status : OrderStatus} {event : StreamEvent} (final : Final status)
      (announced : announces event = some status) : Ending [.check (some status), .sent event]
  | timedOut {status : OrderStatus} (waiting : ¬Final status) : Ending [.sent (.timeout status)]
  | missing : Ending [.check none, .sent (.error "order missing")]

/-- A check that reads a final status is followed by its terminal event and the end of
the stream, a stream that has ended ended in one of these ways, and at most one terminal
event is sent. -/
structure Reports (progress : Progress) : Prop where
  final : ∀ earlier status rest, progress.trace = earlier ++ .check (some status) :: rest →
    Final status → progress.closed = true ∧
      ∃ event, rest = [.sent event] ∧ announces event = some status
  ending : progress.closed = true →
    ∃ earlier last, progress.trace = earlier ++ last ∧ Ending last
  once : progress.trace.countP announcement ≤ 1

/-- Neither a final status read nor a terminal event. -/
def Quiet : Item → Prop
  | .check status => ∀ known, status = some known → ¬Final known
  | .sent event => announces event = none

structure Watching (progress : Progress) : Prop where
  running : progress.closed = false
  waiting : ¬Final progress.lastStatus
  quiet : ∀ item ∈ progress.trace, Quiet item

structure Ended (progress : Progress) : Prop where
  closed : progress.closed = true
  trace : ∃ earlier last, progress.trace = earlier ++ last ∧
    (∀ item ∈ earlier, Quiet item) ∧ Ending last

def Settled (progress : Progress) : Prop := Watching progress ∨ Ended progress

section Invariant

variable {connection : Connection} {check : Check} {progress : Progress} {turn : Turn}

theorem announce_spec (ownerId : Option String) (db : Database) (fresh : Order) :
    (Final fresh.status ∧ (announce ownerId db fresh).2 = true ∧
        announces (announce ownerId db fresh).1 = some fresh.status) ∨
      (¬Final fresh.status ∧ (announce ownerId db fresh).2 = false ∧
        announces (announce ownerId db fresh).1 = none) := by
  unfold announce
  cases fresh.status <;> simp [Final, announces]

theorem quiet_append {items more : List Item} (quiet : ∀ item ∈ items, Quiet item)
    (also : ∀ item ∈ more, Quiet item) : ∀ item ∈ items ++ more, Quiet item := by
  intro item member
  rcases List.mem_append.mp member with old | new
  · exact quiet item old
  · exact also item new

/-- A check is silent, ends the stream with what it reads, or leaves the status open. It
must not read a final status that counts as known. -/
theorem settled_of_look (quiet : ∀ item ∈ progress.trace, Quiet item)
    (fresh : Final progress.lastStatus → connection.read check ≠ some progress.lastStatus) :
    Settled (look connection check progress) := by
  unfold look fetchStatusAndEmit
  unfold Connection.read at fresh ⊢
  cases found : check.db.orders.find? connection.order.id with
  | none => exact .inr ⟨rfl, progress.trace, _, rfl, quiet, .missing⟩
  | some row =>
      simp only [found, Option.map_some, ne_eq, Option.some.injEq] at fresh
      by_cases same : row.status = progress.lastStatus
      · have waiting : ¬Final progress.lastStatus := fun final => fresh final same
        simp only [same, if_true]
        refine .inl ⟨rfl, waiting, quiet_append quiet ?_⟩
        simpa [Quiet, same] using waiting
      · simp only [same, if_false]
        rcases announce_spec connection.ownerId check.db row with
          ⟨final, terminal, named⟩ | ⟨waiting, goesOn, silent⟩
        · exact .inr ⟨terminal, progress.trace, _, rfl, quiet, .announced final named⟩
        · refine .inl ⟨goesOn, waiting, quiet_append quiet ?_⟩
          simpa [Quiet, silent] using waiting

theorem settled_of_watching (watching : Watching progress) :
    Settled (look connection check progress) :=
  settled_of_look watching.quiet fun final => absurd final watching.waiting

theorem settled_unlessClosed {work : Progress → Progress} (settled : Settled progress)
    (works : Watching progress → Settled (work progress)) :
    Settled (unlessClosed work progress) := by
  rcases settled with watching | ended
  · rw [unlessClosed, if_neg (by simp [watching.running])]
    exact works watching
  · rw [unlessClosed, if_pos ended.closed]
    exact .inr ended

theorem watching_send {event : StreamEvent} (watching : Watching progress)
    (silent : announces event = none) : Watching (send event progress) :=
  ⟨watching.running, watching.waiting, quiet_append watching.quiet (by simpa [Quiet] using silent)⟩

/-- One turn, statement by statement. -/
theorem settled_turnOnce (connected : turn.disconnected = false) (watching : Watching progress) :
    Settled (turnOnce connection turn progress) := by
  have waited : Settled (wait connection turn progress) := by
    unfold wait
    split
    · exact settled_of_watching watching
    · exact .inl watching
  have polled : Settled (unlessClosed (poll connection turn) (wait connection turn progress)) := by
    refine settled_unlessClosed waited fun watching => ?_
    unfold poll
    split
    · exact settled_of_watching watching
    · exact .inl watching
  simp only [turnOnce, connected, Bool.false_eq_true, if_false]
  refine settled_unlessClosed polled fun watching => ?_
  have beaten : Watching (beat turn (unlessClosed (poll connection turn)
      (wait connection turn progress))) := by
    unfold beat
    split
    · exact watching_send ⟨watching.running, watching.waiting, watching.quiet⟩ rfl
    · exact watching
  unfold expire
  split
  · exact .inr ⟨rfl, _, _, rfl, beaten.quiet, .timedOut beaten.waiting⟩
  · exact .inl beaten

/-- Any number of turns, by induction on them. -/
theorem settled_of_turns {turns : List Turn}
    (connected : ∀ turn ∈ turns, turn.disconnected = false) (settled : Settled progress) :
    Settled (turns.foldl (fun progress turn => unlessClosed (turnOnce connection turn) progress)
      progress) := by
  induction turns generalizing progress with
  | nil => exact settled
  | cons turn rest ih =>
      refine ih (fun other member => connected other (List.mem_cons_of_mem turn member)) ?_
      exact settled_unlessClosed settled (settled_turnOnce (connected turn List.mem_cons_self))

/-- What is not quiet stands in the ending. -/
theorem split_of_loud {trace earlier last before rest : List Item} {item : Item}
    (split : trace = earlier ++ last) (quiet : ∀ item ∈ earlier, Quiet item)
    (found : trace = before ++ item :: rest) (loud : ¬Quiet item) :
    ∃ inner, before = earlier ++ inner ∧ last = inner ++ item :: rest := by
  rcases List.append_eq_append_iff.mp (split.symm.trans found) with
    ⟨inner, same, tail⟩ | ⟨inner, same, tail⟩
  · exact ⟨inner, same, tail⟩
  · cases inner with
    | nil => exact ⟨[], by simpa using same.symm, by simpa using tail.symm⟩
    | cons first more =>
        have member : item ∈ earlier := by
          rw [same, (List.cons.inj tail).1]
          simp
        exact absurd (quiet item member) loud

theorem no_announcement {items : List Item} (quiet : ∀ item ∈ items, Quiet item) :
    items.countP announcement = 0 := by
  refine List.countP_eq_zero.mpr fun item member => ?_
  have silent := quiet item member
  cases item with
  | check status => simp [announcement]
  | sent event =>
      have none : announces event = none := silent
      simp [announcement, none]

theorem Ending.once {last : List Item} (ending : Ending last) : last.countP announcement ≤ 1 := by
  cases ending with
  | announced final announced => simp [announcement, announced]
  | timedOut waiting => simp [announcement, announces]
  | missing => simp [announcement, announces]

theorem Ending.of_final {last inner rest : List Item} {status : OrderStatus}
    (ending : Ending last) (found : last = inner ++ .check (some status) :: rest) :
    ∃ event, rest = [.sent event] ∧ announces event = some status := by
  cases ending with
  | announced _ named =>
      cases inner with
      | nil =>
          simp only [List.nil_append, List.cons.injEq, Item.check.injEq, Option.some.injEq] at found
          obtain ⟨rfl, rfl⟩ := found
          exact ⟨_, rfl, named⟩
      | cons first more =>
          cases more with
          | nil => simp at found
          | cons second others => simp at found
  | timedOut _ =>
      cases inner with
      | nil => simp at found
      | cons first more => simp at found
  | missing =>
      cases inner with
      | nil => simp at found
      | cons first more =>
          cases more with
          | nil => simp at found
          | cons second others => simp at found

theorem reports_of_settled (settled : Settled progress) : Reports progress := by
  rcases settled with watching | ended
  · refine ⟨?_, ?_, ?_⟩
    · intro earlier status rest found final
      have quiet := watching.quiet (.check (some status)) (by simp [found])
      exact absurd final (quiet status rfl)
    · intro closed
      rw [watching.running] at closed
      cases closed
    · rw [no_announcement watching.quiet]
      exact Nat.zero_le 1
  · obtain ⟨earlier, last, split, quiet, ending⟩ := ended.trace
    refine ⟨?_, fun _ => ⟨earlier, last, split, ending⟩, ?_⟩
    · intro before status rest found final
      have loud : ¬Quiet (.check (some status)) := fun quiet => quiet status rfl final
      obtain ⟨inner, -, tail⟩ := split_of_loud split quiet found loud
      exact ⟨ended.closed, ending.of_final tail⟩
    · rw [split, List.countP_append, no_announcement quiet, Nat.zero_add]
      exact ending.once

end Invariant

section Missed

variable {connection : Connection} {check : Check} {progress : Progress} {turn : Turn}
  {base : List Item}

/-- The trace goes on from `base`, and not with a terminal event. -/
def GoesOn (base : List Item) (progress : Progress) : Prop :=
  ∃ rest, progress.trace = base ++ rest ∧
    ∀ event, rest.head? = some (.sent event) → announces event = none

theorem goesOn_append {next : Progress} {more : List Item} (goesOn : GoesOn base progress)
    (longer : next.trace = progress.trace ++ more)
    (silent : ∀ event, more.head? = some (.sent event) → announces event = none) :
    GoesOn base next := by
  obtain ⟨rest, trace, first⟩ := goesOn
  refine ⟨rest ++ more, by rw [longer, trace, List.append_assoc], ?_⟩
  cases rest with
  | nil => exact silent
  | cons item items => exact first

theorem goesOn_look (goesOn : GoesOn base progress) (check : Check) :
    GoesOn base (look connection check progress) :=
  goesOn_append goesOn rfl (by simp)

theorem goesOn_unlessClosed {work : Progress → Progress} (goesOn : GoesOn base progress)
    (works : GoesOn base progress → GoesOn base (work progress)) :
    GoesOn base (unlessClosed work progress) := by
  unfold unlessClosed
  split
  · exact goesOn
  · exact works goesOn

theorem goesOn_turnOnce (goesOn : GoesOn base progress) :
    GoesOn base (turnOnce connection turn progress) := by
  unfold turnOnce
  split
  · exact goesOn
  · have waited : GoesOn base (wait connection turn progress) := by
      unfold wait
      split
      · exact goesOn_look goesOn _
      · exact goesOn
    have polled : GoesOn base (unlessClosed (poll connection turn)
        (wait connection turn progress)) := by
      refine goesOn_unlessClosed waited fun goesOn => ?_
      unfold poll
      split
      · exact goesOn_look goesOn _
      · exact goesOn
    refine goesOn_unlessClosed polled fun goesOn => ?_
    have beaten : GoesOn base (beat turn (unlessClosed (poll connection turn)
        (wait connection turn progress))) := by
      unfold beat
      split
      · exact goesOn_append goesOn rfl (by simp [announces])
      · exact goesOn
    unfold expire
    split
    · exact goesOn_append beaten rfl (by simp [announces])
    · exact beaten

theorem goesOn_turns (turns : List Turn) (goesOn : GoesOn base progress) :
    GoesOn base (turns.foldl
      (fun progress turn => unlessClosed (turnOnce connection turn) progress) progress) := by
  induction turns generalizing progress with
  | nil => exact goesOn
  | cons turn rest ih => exact ih (goesOn_unlessClosed goesOn goesOn_turnOnce)

/-- A status that counts as known leaves the first check without an event. -/
theorem opened_of_known (known : connection.read connection.initial =
    some connection.order.status) : (opened connection).trace =
      [.sent (.hello connection.order.status), .check (some connection.order.status)] := by
  unfold opened look fetchStatusAndEmit
  have read := known
  unfold Connection.read at read
  cases found : connection.initial.db.orders.find? connection.order.id with
  | none => simp [found] at read
  | some row =>
      simp only [found, Option.map_some, Option.some.injEq] at read
      simp [send, read, known]

end Missed

/-- The stream of a client that stays connected reports every final status if and only if
the order was not final at the connection with the first check reading the same. -/
theorem stream_reports_iff (connection : Connection) (turns : List Turn)
    (connected : ∀ turn ∈ turns, turn.disconnected = false) :
    Reports (stream connection turns) ↔ (Final connection.order.status →
      connection.read connection.initial ≠ some connection.order.status) := by
  constructor
  · intro reports final known
    have base : GoesOn (opened connection).trace (opened connection) := ⟨[], by simp, by simp⟩
    obtain ⟨rest, trace, silent⟩ := @goesOn_turns connection _ _ turns base
    rw [opened_of_known known] at trace
    obtain ⟨-, event, only, announced⟩ := reports.final [.sent (.hello connection.order.status)]
      connection.order.status rest trace final
    rw [only] at silent
    have none := silent event rfl
    rw [announced] at none
    cases none
  · intro fresh
    refine reports_of_settled (settled_of_turns connected (settled_of_look ?_ fresh))
    simp [send, Quiet, announces]

def topupOrder (status : OrderStatus) : Order where
  id := "o1"
  code := "NAPJWM6YB"
  transferContent := none
  amountVnd := 100000
  status := status
  bankAccountId := "b1"
  userId := some "u1"
  expiredAt := .utc (seconds 900)
  paidTxId := none
  paidAt := none
  customerRef := none
  metadataJson := []
  createdAt := .utc 0
  updatedAt := .utc 0

def readAt (status : OrderStatus) (now : Int) : Check where
  db := { Database.empty with
    users := ⟨[⟨"u1", "payer@example.com", 250000⟩], by simp⟩
    orders := ⟨[topupOrder status], by simp⟩ }
  now := now

def connectedAt (status : OrderStatus) : Connection where
  order := topupOrder status
  ownerId := some "u1"
  usePubsub := true
  start := 0
  initial := readAt status 0

/-- A turn without a message that checks because its interval is over. -/
def quietTurn (status : OrderStatus) (now : Int) : Turn where
  disconnected := false
  message := false
  afterMessage := readAt status now
  now := now
  safety := readAt status now

/-- An order that is paid a second after the connection. -/
theorem payment_is_reported :
    Reports (stream (connectedAt .pending) [quietTurn .paid (seconds 1)]) := by
  refine (stream_reports_iff _ _ (by simp [quietTurn])).mpr fun final => ?_
  simp [connectedAt, topupOrder, Final] at final

/-- An order that is paid at the connection: the stream reads that on every check, sends
no terminal event, and ends with the time limit. -/
theorem paid_before_connection_is_missed :
    ¬Reports (stream (connectedAt .paid) [quietTurn .paid maxDuration]) ∧
      (stream (connectedAt .paid) [quietTurn .paid maxDuration]).trace =
        [.sent (.hello .paid), .check (some .paid), .check (some .paid), .sent .ping,
          .sent (.timeout .paid)] := by
  have trace : (stream (connectedAt .paid) [quietTurn .paid maxDuration]).trace =
      [.sent (.hello .paid), .check (some .paid), .check (some .paid), .sent .ping,
        .sent (.timeout .paid)] := by decide +kernel
  refine ⟨fun reports => ?_, trace⟩
  obtain ⟨-, event, only, -⟩ := reports.final [.sent (.hello .paid)] .paid _ trace (.inl rfl)
  simp at only

end ApiBank.Api.TopupStream
