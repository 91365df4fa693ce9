import ApiBank.Crypto.Callbacks
import ApiBank.Crypto.Operations

/-!
# Attempts at a callback

Every attempt is counted once, a callback that keeps failing is closed when its attempts
are used up, and no attempt comes before its time, as long as the text of every refusal
can be read. An exception of `resp.text` is caught after the attempt was counted, and
the handler counts it again.
-/

namespace ApiBank.Crypto.CallbackRetries

open ApiBank.Db ApiBank.Relational ApiBank.Text ApiBank.Transition Callbacks Invoices

set_option autoImplicit false

def isClosed (state : CallbackState) : Bool := state = .sent || state = .deadLetter

def attemptsAt (id : String) (sends : List Send) : Nat :=
  sends.countP fun send => send.before.id = id

/-- One attempt: not before its time, the delay is in the list, and what is put off is
put off to after the attempt. -/
structure Punctual (send : Send) : Prop where
  due : send.before.nextRetryAt ≤ send.delivery.sendAt
  indexed : 0 ≤ delayIndex send.after.attemptCount ∧
    delayIndex send.after.attemptCount < RETRY_DELAYS.length
  putOff : send.delivery.answer.delivered = false →
    send.after.attemptCount < send.after.maxAttempts →
      send.delivery.sendAt < send.after.nextRetryAt

/-- A row against the attempts that were made at it. -/
structure RowSound (sends : List Send) (row : CallbackRow) : Prop where
  counted : row.attemptCount = attemptsAt row.id sends
  limited : row.attemptCount ≤ row.maxAttempts
  opened : isClosed row.state = false → row.attemptCount < row.maxAttempts
  spent : row.state = .deadLetter → row.attemptCount = row.maxAttempts ∨
    row.lastError = some "invoice or callback_url missing"
  arrived : row.state = .sent →
    ∃ send ∈ sends, send.before.id = row.id ∧ send.delivery.answer.delivered = true

structure Sound (desk : Desk) : Prop where
  rows : ∀ id row, desk.callbacks.find? id = some row → RowSound desk.sends row
  known : ∀ send ∈ desk.sends, (desk.callbacks.find? send.before.id).isSome = true
  sends : ∀ send ∈ desk.sends, Punctual send

/-- The text of every refusal that the call meets can be read. -/
def readsAnswers (desk : Desk) : Event → Prop
  | .dispatch call => ∀ row ∈ selectDue call desk.callbacks.rows,
      (callbackUrl desk.invoices row).isSome = true →
        (call.deliveries row.id).answer.readable = true
  | _ => True

variable {hmac : Hmac} {call : Call} {desk next : Desk} {row after : CallbackRow}
  {delivery : Delivery}

/-- A row after an attempt with a readable answer. -/
structure Settled (delivery : Delivery) (row after : CallbackRow) : Prop where
  id : after.id = row.id
  counted : after.attemptCount = row.attemptCount + 1
  limit : after.maxAttempts = row.maxAttempts
  ended : delivery.answer.delivered = true → after.state = .sent
  failed : delivery.answer.delivered = false →
    (row.maxAttempts ≤ row.attemptCount + 1 ∧ after.state = .deadLetter) ∨
      (row.attemptCount + 1 < row.maxAttempts ∧ after.state = .failed ∧
        delivery.readAt < after.nextRetryAt)

theorem recorded_of_readable (readable : delivery.answer.readable = true) (row : CallbackRow) :
    (recorded delivery row).attemptCount = row.attemptCount + 1 ∧
      (recorded delivery row).maxAttempts = row.maxAttempts ∧
        (recorded delivery row).state =
          if delivery.answer.delivered then .sent else .failed := by
  unfold recorded
  cases answered : delivery.answer with
  | raised message => simp [Answer.delivered]
  | response statusCode text =>
      by_cases success : 200 ≤ statusCode ∧ statusCode < 300
      · simp [Answer.delivered, success]
      · cases text with
        | ok body => simp [Answer.delivered, success]
        | error message =>
            simp only [answered, Answer.readable, Bool.and_eq_true, decide_eq_true_eq] at readable
            exact absurd readable success

theorem settled_of_rescheduled (readable : delivery.answer.readable = true)
    (rescheduled : rescheduled delivery.readAt (recorded delivery row) = some after) :
    Settled delivery row after := by
  obtain ⟨counted, limit, state⟩ := recorded_of_readable readable row
  have id := (id_rescheduled rescheduled).trans (id_recorded delivery row)
  unfold Callbacks.rescheduled at rescheduled
  cases arrived : delivery.answer.delivered with
  | true =>
      rw [arrived, if_pos rfl] at state
      rw [if_neg (by simp [state]), Option.some.injEq] at rescheduled
      subst rescheduled
      refine ⟨id, counted, limit, fun _ => state, ?_⟩
      intro failing
      rw [arrived] at failing
      cases failing
  | false =>
      rw [arrived, if_neg Bool.false_ne_true] at state
      rw [if_pos state] at rescheduled
      split at rescheduled
      · rename_i exhausted
        rw [counted, limit] at exhausted
        cases rescheduled
        refine ⟨id, counted, limit, ?_, fun _ => .inl ⟨exhausted, rfl⟩⟩
        intro arriving
        rw [arrived] at arriving
        cases arriving
      · rename_i remaining
        rw [counted, limit] at remaining
        obtain ⟨delay, found, rfl⟩ := Option.map_eq_some_iff.mp rescheduled
        obtain ⟨-, -, other, same, positive⟩ :=
          retryDelay_of_counted (counted_of_recorded delivery row)
        obtain rfl : other = delay := Option.some.inj (same.symm.trans found)
        have later : delivery.readAt < delivery.readAt + seconds other := by
          unfold seconds
          omega
        refine ⟨id, counted, limit, ?_, fun _ => .inr ⟨by omega, state, later⟩⟩
        intro arriving
        rw [arrived] at arriving
        cases arriving

theorem open_of_due {now : Int} (isDue : due now row = true) :
    isClosed row.state = false ∧ row.nextRetryAt ≤ now := by
  simp only [due, Bool.and_eq_true, Bool.or_eq_true, decide_eq_true_eq] at isDue
  refine ⟨?_, isDue.2⟩
  rcases isDue.1 with pending | failed
  · rw [pending]
    rfl
  · rw [failed]
    rfl

theorem attemptsAt_snoc (id : String) (sends : List Send) (send : Send) :
    attemptsAt id (sends ++ [send]) =
      attemptsAt id sends + if send.before.id = id then 1 else 0 := by
  simp [attemptsAt, List.countP_append, List.countP_singleton]

/-- Attempts at other callbacks change nothing for a row. -/
theorem rowSound_snoc {sends : List Send} {send : Send} (sound : RowSound sends row)
    (different : send.before.id ≠ row.id) : RowSound (sends ++ [send]) row where
  counted := by
    rw [attemptsAt_snoc, if_neg different, Nat.add_zero]
    exact sound.counted
  limited := sound.limited
  opened := sound.opened
  spent := sound.spent
  arrived := by
    intro sent
    obtain ⟨earlier, member, same, delivered⟩ := sound.arrived sent
    exact ⟨earlier, List.mem_append_left _ member, same, delivered⟩

theorem rowSound_abandoned {sends : List Send} (sound : RowSound sends row) :
    RowSound sends (abandoned row) where
  counted := sound.counted
  limited := sound.limited
  opened := by
    intro stillOpen
    cases stillOpen
  spent := fun _ => .inr rfl
  arrived := by
    intro sent
    cases sent

theorem rowSound_settled {sends : List Send} {request : Request}
    (sound : RowSound sends row) (openRow : isClosed row.state = false)
    (settled : Settled delivery row after) :
    RowSound (sends ++ [⟨row, after, request, delivery⟩]) after := by
  have below := sound.opened openRow
  constructor
  case counted =>
    rw [attemptsAt_snoc, if_pos settled.id.symm, settled.counted, settled.id, sound.counted]
  case limited =>
    rw [settled.counted, settled.limit]
    exact below
  case opened =>
    intro stillOpen
    rw [settled.counted, settled.limit]
    cases arrived : delivery.answer.delivered with
    | true =>
        rw [settled.ended arrived] at stillOpen
        cases stillOpen
    | false =>
        rcases settled.failed arrived with ⟨-, dead⟩ | ⟨remaining, -, -⟩
        · rw [dead] at stillOpen
          cases stillOpen
        · exact remaining
  case spent =>
    intro dead
    left
    rw [settled.counted, settled.limit]
    cases arrived : delivery.answer.delivered with
    | true =>
        rw [settled.ended arrived] at dead
        cases dead
    | false =>
        rcases settled.failed arrived with ⟨exhausted, -⟩ | ⟨-, failed, -⟩
        · omega
        · rw [failed] at dead
          cases dead
  case arrived =>
    intro sent
    refine ⟨_, List.mem_append_right sends (List.mem_singleton_self _), settled.id.symm, ?_⟩
    cases arrived : delivery.answer.delivered with
    | true => rfl
    | false =>
        rcases settled.failed arrived with ⟨-, dead⟩ | ⟨-, failed, -⟩
        · rw [dead] at sent
          cases sent
        · rw [failed] at sent
          cases sent

theorem punctual_settled {request : Request} (inTime : row.nextRetryAt ≤ delivery.sendAt)
    (settled : Settled delivery row after) : Punctual ⟨row, after, request, delivery⟩ where
  due := inTime
  indexed := by
    have counted : 0 < after.attemptCount := settled.counted ▸ Nat.succ_pos _
    obtain ⟨lower, upper, -⟩ := retryDelay_of_counted counted
    exact ⟨lower, upper⟩
  putOff := by
    intro failing remaining
    rcases settled.failed failing with ⟨exhausted, -⟩ | ⟨-, -, later⟩
    · have below : after.attemptCount < after.maxAttempts := remaining
      rw [settled.counted, settled.limit] at below
      exact absurd exhausted (Nat.not_le.mpr below)
    · exact lt_of_le_of_lt delivery.ordered later

theorem isSome_store {row : CallbackRow} {id : String}
    (found : (desk.callbacks.find? id).isSome = true) :
    ((store row desk).callbacks.find? id).isSome = true := by
  rw [find_store]
  split
  · rw [Option.isSome_map]
    exact found
  · exact found

/-- One round. -/
theorem sound_handled (sound : Sound desk) (stored : desk.callbacks.find? row.id = some row)
    (isDue : due call.now row = true)
    (readable : (callbackUrl desk.invoices row).isSome = true →
      (call.deliveries row.id).answer.readable = true)
    (handled : Handled call desk row next) : Sound next := by
  have own := sound.rows row.id row stored
  obtain ⟨openRow, inTime⟩ := open_of_due isDue
  cases handled with
  | abandoned missing =>
      refine ⟨?_, ?_, sound.sends⟩
      · intro id other found
        rw [find_store] at found
        split at found
        · obtain ⟨-, -, rfl⟩ := Option.map_eq_some_iff.mp found
          exact rowSound_abandoned own
        · exact sound.rows id other found
      · intro send member
        exact isSome_store (sound.known send member)
  | posted url after named rescheduled =>
      have settled := settled_of_rescheduled (readable (named ▸ rfl)) rescheduled
      refine ⟨?_, ?_, ?_⟩
      · intro id other found
        rw [find_store] at found
        split at found
        · obtain ⟨-, -, rfl⟩ := Option.map_eq_some_iff.mp found
          exact rowSound_settled own openRow settled
        · rename_i different
          have apart : row.id ≠ other.id := by
            rw [Table.key_of_find? found, ← settled.id]
            exact fun same => different same.symm
          exact rowSound_snoc (sound.rows id other found) apart
      · intro send member
        have found : (desk.callbacks.find? send.before.id).isSome = true := by
          rcases List.mem_append.mp member with old | new
          · exact sound.known send old
          · rw [List.mem_singleton.mp new, stored]
            rfl
        exact isSome_store found
      · intro send member
        rcases List.mem_append.mp member with old | new
        · exact sound.sends send old
        · rw [List.mem_singleton.mp new]
          exact punctual_settled (inTime.trans (call.later row.id)) settled

theorem invoices_of_handled (handled : Handled call desk row next) :
    next.invoices = desk.invoices := by
  cases handled <;> rfl

theorem sound_dispatch {count : Nat} (sound : Sound desk)
    (readable : readsAnswers desk (.dispatch call))
    (dispatched : dispatchDueCallbacks call desk = some (next, count)) : Sound next := by
  have both : Sound next ∧ next.invoices = desk.invoices := by
    apply dispatch_keeps ?_ ⟨sound, rfl⟩ dispatched
    rintro row selected now after ⟨soundNow, sameInvoices⟩ stored handled
    refine ⟨?_, (invoices_of_handled handled).trans sameInvoices⟩
    apply sound_handled soundNow stored (mem_of_selected selected).2 ?_ handled
    rw [sameInvoices]
    exact readable row selected
  exact both.1

theorem enqueue_cases {invoiceId eventType secret : String} {printed : Printed}
    {draws : EventDraws}
    (enqueued : enqueueInvoiceCallback hmac invoiceId eventType secret printed draws desk =
      some next) :
    next = desk ∨ ∃ invoice callbacks, desk.invoices.find? invoiceId = some invoice ∧
      desk.callbacks.insert? (newCallbackRow hmac invoice eventType secret printed draws) =
        some callbacks ∧ next = { desk with callbacks } := by
  obtain ⟨invoice, found, queued⟩ := Option.bind_eq_some_iff.mp enqueued
  split at queued
  · exact .inl (Option.some.inj queued).symm
  · obtain ⟨callbacks, inserted, rfl⟩ := Option.map_eq_some_iff.mp queued
    exact .inr ⟨invoice, callbacks, found, inserted, rfl⟩

theorem sound_enqueue {invoiceId eventType secret : String} {printed : Printed}
    {draws : EventDraws} (sound : Sound desk)
    (enqueued : enqueueInvoiceCallback hmac invoiceId eventType secret printed draws desk =
      some next) : Sound next := by
  rcases enqueue_cases enqueued with rfl | ⟨invoice, callbacks, -, inserted, rfl⟩
  · exact sound
  · have fresh := Table.fresh_of_insert? inserted
    refine ⟨?_, ?_, sound.sends⟩
    · intro id row found
      rw [Table.find?_insert? inserted] at found
      split at found
      · cases found
        -- nothing was ever sent under a new id
        have none : attemptsAt draws.callbackId desk.sends = 0 := by
          apply List.countP_eq_zero.mpr
          intro send member same
          have known := sound.known send member
          rw [of_decide_eq_true same] at known
          have absent : desk.callbacks.find? draws.callbackId = none := fresh
          rw [absent] at known
          cases known
        refine ⟨none.symm, Nat.zero_le 6, fun _ => Nat.succ_pos 5, ?_, ?_⟩
        · intro dead
          cases dead
        · intro sent
          cases sent
      · exact sound.rows id row found
    · intro send member
      exact Table.isSome_insert? inserted (sound.known send member)

theorem sound_step {event : Event} (sound : Sound desk) (readable : readsAnswers desk event)
    (taken : Step hmac desk event next) : Sound next := by
  cases event with
  | dispatch call =>
      obtain ⟨⟨reached, count⟩, dispatched, rfl⟩ := Option.map_eq_some_iff.mp taken
      exact sound_dispatch sound readable dispatched
  | deleteInvoice invoiceId =>
      obtain rfl := Option.some.inj taken
      exact ⟨sound.rows, sound.known, sound.sends⟩
  | enqueue invoiceId eventType secret printed draws => exact sound_enqueue sound taken

/-- As it was enqueued, whatever the number of attempts that it may take. -/
structure Fresh (row : CallbackRow) : Prop where
  pending : row.state = .pending
  uncounted : row.attemptCount = 0
  attempts : 1 ≤ row.maxAttempts

theorem sound_fresh (fresh : ∀ row ∈ desk.callbacks.rows, Fresh row) (unsent : desk.sends = []) :
    Sound desk where
  rows := by
    intro id row found
    obtain ⟨pending, uncounted, attempts⟩ := fresh row (Table.mem_of_find? found)
    rw [unsent]
    refine ⟨uncounted, ?_, ?_, ?_, ?_⟩
    · omega
    · intro _
      omega
    · intro dead
      rw [pending] at dead
      cases dead
    · intro sent
      rw [pending] at sent
      cases sent
  known := by
    intro send member
    rw [unsent] at member
    cases member
  sends := by
    intro send member
    rw [unsent] at member
    cases member

/-- The counters, the closings and the times are as they should be. -/
structure RetriesWell (desk : Desk) : Prop where
  limited : ∀ row ∈ desk.callbacks.rows, row.attemptCount ≤ row.maxAttempts
  exhausted : ∀ row ∈ desk.callbacks.rows,
    (∀ send ∈ desk.sends, send.before.id = row.id → send.delivery.answer.delivered = false) →
      (attemptsAt row.id desk.sends = row.maxAttempts → row.state = .deadLetter) ∧
      (row.state = .deadLetter → attemptsAt row.id desk.sends = row.maxAttempts ∨
        row.lastError = some "invoice or callback_url missing")
  sends : ∀ send ∈ desk.sends, Punctual send

theorem retriesWell_of_sound (sound : Sound desk) : RetriesWell desk where
  limited := by
    intro row member
    exact (sound.rows row.id row (Table.find?_of_mem member)).limited
  exhausted := by
    intro row member failing
    have own := sound.rows row.id row (Table.find?_of_mem member)
    rw [← own.counted]
    refine ⟨?_, own.spent⟩
    intro spent
    cases state : row.state with
    | deadLetter => rfl
    | sent =>
        obtain ⟨send, listed, same, delivered⟩ := own.arrived state
        rw [failing send listed same] at delivered
        cases delivered
    | pending =>
        have below := own.opened (by rw [state]; rfl)
        omega
    | failed =>
        have below := own.opened (by rw [state]; rfl)
        omega
  sends := sound.sends

def KeepsClosed (before after : Desk) : Prop :=
  ∀ row ∈ before.callbacks.rows, isClosed row.state = true →
    after.callbacks.find? row.id = some row

theorem closed_kept {event : Event} {closed : CallbackRow}
    (stored : desk.callbacks.find? closed.id = some closed)
    (final : isClosed closed.state = true) (taken : Step hmac desk event next) :
    next.callbacks.find? closed.id = some closed := by
  cases event with
  | dispatch call =>
      obtain ⟨⟨reached, count⟩, dispatched, rfl⟩ := Option.map_eq_some_iff.mp taken
      let Holds (now : Desk) : Prop := now.callbacks.find? closed.id = some closed
      have start : Holds desk := stored
      have kept : Holds reached := by
        apply dispatch_keeps ?_ start dispatched
        intro row selected now after holds loaded handled
        have different : closed.id ≠ row.id := by
          intro same
          have found : now.callbacks.find? row.id = some closed := same ▸ holds
          rw [loaded, Option.some.injEq] at found
          rw [← found, (open_of_due (mem_of_selected selected).2).1] at final
          cases final
        exact (other_of_handled handled different).2.trans holds
      exact kept
  | deleteInvoice invoiceId =>
      obtain rfl := Option.some.inj taken
      exact stored
  | enqueue invoiceId eventType secret printed draws =>
      rcases enqueue_cases taken with rfl | ⟨invoice, callbacks, -, inserted, rfl⟩
      · exact stored
      · rw [Table.find?_insert? inserted]
        split
        · rename_i same
          have fresh := Table.fresh_of_insert? inserted
          rw [same, stored] at fresh
          cases fresh
        · exact stored

/-- In every run whose refusals can be read, the attempts stay within their number, a
callback that keeps failing is closed by the last of them, none comes before its time,
the delays are found, and what is closed stays as it is. -/
theorem retries_well_while_answers_read {start : Desk} {events : List Event}
    (fresh : ∀ row ∈ start.callbacks.rows, Fresh row) (unsent : start.sends = [])
    (run : Run (Guarded readsAnswers (Step hmac)) start events desk) :
    RetriesWell desk ∧ (∀ call, (dispatchDueCallbacks call desk).isSome = true) ∧
      ∀ later final, Run (Guarded readsAnswers (Step hmac)) desk later final →
        KeepsClosed desk final := by
  have sound : Sound desk := run.invariant Sound (sound_fresh fresh unsent)
    fun _ _ _ holds taken => sound_step holds taken.1 taken.2
  refine ⟨retriesWell_of_sound sound, fun call => dispatch_isSome call desk, ?_⟩
  intro later final rest row member closed
  exact rest.invariant (fun now => now.callbacks.find? row.id = some row)
    (Table.find?_of_mem member) fun _ _ _ stored taken => closed_kept stored closed taken.2

def hooked : CryptoInvoice :=
  newInvoice { Operations.order "r1" none with callbackUrl := some "https://shop.example/hook" }
    "m1" none Operations.bsc Operations.usdt
    (merchantWallet "n1" Operations.merchantAddress "m1" (Operations.drawsAt 0 "i1" "w1")) 10
    (Operations.drawsAt 0 "i1" "w1")

/-- Its cancelation waits to be announced. -/
def queued (maxAttempts : Nat) : Desk where
  invoices := ⟨[hooked], by decide⟩
  callbacks := ⟨[{ newCallbackRow (fun _ message => message) hooked "crypto.invoice.canceled" ""
    ⟨"10", "10", "0"⟩ ⟨"k1", 0⟩ with maxAttempts }], List.nodup_singleton _⟩
  sends := []

theorem fresh_queued {maxAttempts : Nat} (attempts : 1 ≤ maxAttempts) :
    ∀ row ∈ (queued maxAttempts).callbacks.rows, Fresh row := by
  intro row member
  obtain rfl := List.mem_singleton.mp member
  exact ⟨rfl, rfl, attempts⟩

/-- Everything that is due is refused at once. -/
def refusal (text : Except String String) (now : Int) : Event :=
  .dispatch ⟨now, 100, ⟨id, fun _ => .refl _⟩, fun _ => ⟨now, .response 500 text, now, le_rfl⟩,
    fun _ => le_rfl⟩

def onRecord (desk : Desk) : List (CallbackState × Nat × Nat) :=
  desk.callbacks.rows.map fun row => (row.state, row.attemptCount, row.maxAttempts)

/-- Two refusals, a minute apart. -/
def refusedTwice : List Event := [refusal (.ok "busy") 0, refusal (.ok "busy") 60000000]

theorem retries_well_refused_twice : ∃ desk,
    onRecord desk = [(.deadLetter, 2, 2)] ∧ RetriesWell desk := by
  have played : (refusedTwice.foldlM (step fun _ message => message) (queued 2)).map onRecord =
      some [(.deadLetter, 2, 2)] := by decide +kernel
  obtain ⟨desk, ran, record⟩ := Option.map_eq_some_iff.mp played
  have reads : ∀ state, ∀ event ∈ refusedTwice, readsAnswers state event := by
    intro state event member
    simp only [refusedTwice, List.mem_cons, List.not_mem_nil, or_false] at member
    rcases member with rfl | rfl
    · exact fun _ _ _ => rfl
    · exact fun _ _ _ => rfl
  have run := Run.of_foldlM _ reads ran
  exact ⟨desk, record, (retries_well_while_answers_read (fresh_queued (by decide)) rfl run).1⟩

/-- A body that does not decode counts twice. -/
theorem undecodable_refusal_counts_twice :
    ¬∀ (hmac : Hmac) (start : Desk) (events : List Event) (desk : Desk),
      (∀ row ∈ start.callbacks.rows, Fresh row) → start.sends = [] →
        Run (Step hmac) start events desk →
          RetriesWell desk ∧ (∀ call, (dispatchDueCallbacks call desk).isSome = true) ∧
            ∀ later final, Run (Step hmac) desk later final → KeepsClosed desk final := by
  intro claimed
  have played : (step (fun _ message => message) (queued 1)
      (refusal (.error "undefined encoding") 0)).map onRecord = some [(.deadLetter, 2, 1)] := by
    decide +kernel
  obtain ⟨desk, taken, record⟩ := Option.map_eq_some_iff.mp played
  have run : Run (Step fun _ message => message) (queued 1) _ desk := .single taken
  have limited := (claimed _ _ _ _ (fresh_queued (by decide)) rfl run).1.limited
  have entry : (CallbackState.deadLetter, 2, 1) ∈ onRecord desk := record ▸ List.mem_singleton_self _
  obtain ⟨row, member, same⟩ := List.mem_map.mp entry
  have own := limited row member
  simp only [Prod.mk.injEq] at same
  omega

end ApiBank.Crypto.CallbackRetries
