import ApiBank.Crypto.Invoices
import ApiBank.Text.Digests
import ApiBank.Text.Rendering
import ApiBank.Transition.Run

/-!
# Invoice callbacks

The row that is enqueued for an event of an invoice, its signature, and the dispatcher:
due rows are loaded, posted one after another, and counted, closed or put off. The
answers of the merchants, the clock and the printed decimals are drawn by the caller. A
response body may fail to decode, and then reading `resp.text` raises.
-/

namespace ApiBank.Crypto.Callbacks

open ApiBank.Db ApiBank.Relational ApiBank.Text ApiBank.Transition Invoices

set_option autoImplicit false

def RETRY_DELAYS : List Int := [60, 300, 900, 3600, 21600, 86400]

section Signature

variable (hmac : Hmac) (secret timestamp rawBody : String)

def signPayload : String :=
  hexdigest (hmac (encode secret) (encode (timestamp ++ "." ++ rawBody)))

def verifySignature (signature : String) : Except Error Bool :=
  compareDigest (signPayload hmac secret timestamp rawBody) signature

end Signature

/-- The strings of `invoice.status`. -/
def statusText : InvoiceStatus → String
  | .waiting => "waiting"
  | .partlyPaid => "partial"
  | .completed => "completed"
  | .overpaid => "overpaid"
  | .expired => "expired"
  | .canceled => "canceled"
  | .failedReview => "failed_review"

/-- `str` of the three amounts, which keeps the exponents of the decimals. -/
structure Printed where
  amount : String
  payAmount : String
  received : String

/-- An event with its amounts as printed. -/
structure Payload where
  event : InvoiceEvent
  printed : Printed

def optionalText (text : Option String) : Json :=
  match text with
  | some value => .text value
  | none => .null

def Payload.timestamp (payload : Payload) : String := isoformat payload.event.timestamp

/-- The dictionary that `build_invoice_event` returns. -/
def Payload.fields (payload : Payload) : List (String × Json) :=
  let event := payload.event
  [("event", .text event.event),
    ("trans_id", .text event.transId),
    ("request_id", .text event.requestId),
    ("merchant_id", .text event.merchantId),
    ("amount", .text payload.printed.amount),
    ("pay_amount", .text payload.printed.payAmount),
    ("received", .text payload.printed.received),
    ("token", event.token.getD .null),
    ("network", event.network.getD .null),
    ("address", .text event.address),
    ("status", .text (statusText event.status)),
    ("from_address", optionalText event.fromAddress),
    ("transaction_id", optionalText event.transactionId),
    ("confirmations", .number event.confirmations),
    ("paid_at", optionalText (event.paidAt.map isoformat)),
    ("timestamp", .text payload.timestamp)]

def Payload.rawBody (payload : Payload) : String := canonicalJson (.object payload.fields)

/-- The strings written to `crypto_callbacks.state`. -/
inductive CallbackState where
  | pending
  | failed
  | sent
  | deadLetter
deriving DecidableEq, Repr

/-- A row of `crypto_callbacks`, with the columns of the dispatcher. -/
structure CallbackRow where
  id : String
  invoiceId : String
  eventType : String
  payloadJson : Payload
  signature : Option String
  attemptCount : Nat
  maxAttempts : Nat
  nextRetryAt : Int
  lastStatusCode : Option Int
  lastError : Option String
  state : CallbackState
  sentAt : Option Int

def newCallbackRow (hmac : Hmac) (invoice : CryptoInvoice) (eventType secret : String)
    (printed : Printed) (draws : EventDraws) : CallbackRow :=
  let payload : Payload := ⟨buildInvoiceEvent invoice eventType draws.now, printed⟩
  { id := draws.callbackId
    invoiceId := invoice.id
    eventType := eventType
    payloadJson := payload
    signature := if secret = "" then none
      else some (signPayload hmac secret payload.timestamp payload.rawBody)
    attemptCount := 0
    maxAttempts := 6
    nextRetryAt := draws.now
    lastStatusCode := none
    lastError := none
    state := .pending
    sentAt := none }

/-- The columns that the models of the invoices keep. -/
def CallbackRow.queued (row : CallbackRow) : CryptoCallback where
  id := row.id
  invoiceId := row.invoiceId
  eventType := row.eventType
  payloadJson := row.payloadJson.event
  state := match row.state with
    | .pending => "pending"
    | .failed => "failed"
    | .sent => "sent"
    | .deadLetter => "dead_letter"
  nextRetryAt := row.nextRetryAt

/-- What `client.post` came to: a response with its text, if that can be read, or an
exception. -/
inductive Answer where
  | response (statusCode : Int) (text : Except String String)
  | raised (message : String)

def Answer.delivered : Answer → Bool
  | .response statusCode _ => 200 ≤ statusCode && statusCode < 300
  | .raised _ => false

/-- The text of every refusal can be read. -/
def Answer.readable : Answer → Bool
  | .response statusCode (.error _) => 200 ≤ statusCode && statusCode < 300
  | _ => true

/-- One `POST`: when it is sent, its answer, and the clock afterwards. -/
structure Delivery where
  sendAt : Int
  answer : Answer
  readAt : Int
  ordered : sendAt ≤ readAt

/-- `text[:1000]`. -/
def clipped (text : String) : String := String.ofList (text.toList.take 1000)

/-- The `try` statement. An exception that `resp.text` raises finds the attempt counted. -/
def recorded (delivery : Delivery) (row : CallbackRow) : CallbackRow :=
  match delivery.answer with
  | .response statusCode text =>
      let tried := { row with
        attemptCount := row.attemptCount + 1
        lastStatusCode := some statusCode }
      if 200 ≤ statusCode ∧ statusCode < 300 then { tried with
        state := .sent
        sentAt := some delivery.readAt }
      else
        match text with
        | .ok body => { tried with state := .failed, lastError := some (clipped body) }
        | .error message => { tried with
            attemptCount := tried.attemptCount + 1
            state := .failed
            lastError := some (clipped message) }
  | .raised message => { row with
      attemptCount := row.attemptCount + 1
      state := .failed
      lastError := some (clipped message) }

def delayIndex (attemptCount : Nat) : Int := min ((attemptCount : Int) - 1) (RETRY_DELAYS.length - 1)

/-- `RETRY_DELAYS[index]`: a negative index counts from the end, and `None` is an
`IndexError`. -/
def retryDelay (index : Int) : Option Int :=
  if 0 ≤ index then RETRY_DELAYS[index.toNat]?
  else if 0 ≤ index + RETRY_DELAYS.length then RETRY_DELAYS[(index + RETRY_DELAYS.length).toNat]?
  else none

/-- The end of one round of the loop, or `None` where it raises. -/
def rescheduled (readAt : Int) (row : CallbackRow) : Option CallbackRow :=
  if row.state = .failed then
    if row.maxAttempts ≤ row.attemptCount then some { row with state := .deadLetter }
    else (retryDelay (delayIndex row.attemptCount)).map fun delay =>
      { row with nextRetryAt := readAt + seconds delay }
  else some row

def abandoned (row : CallbackRow) : CallbackRow :=
  { row with
    state := .deadLetter
    lastError := some "invoice or callback_url missing" }

/-- What is posted. -/
structure Request where
  url : String
  timestamp : String
  signature : Option String
  rawBody : String

/-- An attempt at one row, as it stood before and after. -/
structure Send where
  before : CallbackRow
  after : CallbackRow
  request : Request
  delivery : Delivery

/-- The rows, and the attempts made so far. -/
structure Desk where
  invoices : Table CryptoInvoice.id
  callbacks : Table CallbackRow.id
  sends : List Send

/-- The order in which the database visits rows of equal `next_retry_at`. -/
structure Ties where
  order : List CallbackRow → List CallbackRow
  perm : ∀ rows, (order rows).Perm rows

/-- One call of the dispatcher: the reading of the clock in the `SELECT`, the limit, and
what becomes of the row of each id. -/
structure Call where
  now : Int
  limit : Nat
  ties : Ties
  deliveries : String → Delivery
  later : ∀ id, now ≤ (deliveries id).sendAt

def due (now : Int) (row : CallbackRow) : Bool :=
  (row.state = .pending || row.state = .failed) && row.nextRetryAt ≤ now

def selectDue (call : Call) (rows : List CallbackRow) : List CallbackRow :=
  let visited := call.ties.order (rows.filter (due call.now))
  let sorted := visited.insertionSort fun left right => left.nextRetryAt ≤ right.nextRetryAt
  sorted.take call.limit

def callbackUrl (invoices : Table CryptoInvoice.id) (row : CallbackRow) : Option String :=
  (invoices.find? row.invoiceId).bind fun invoice => given invoice.callbackUrl

def requestOf (url : String) (now : Int) (row : CallbackRow) : Request where
  url := url
  timestamp := if row.payloadJson.timestamp = "" then isoformat now else row.payloadJson.timestamp
  -- an empty signature is not sent
  signature := given row.signature
  rawBody := row.payloadJson.rawBody

/-- Writes the flushed object over the row of its id. -/
def store (row : CallbackRow) (desk : Desk) : Desk :=
  let overwrite (stored : CallbackRow) : CallbackRow := { row with id := stored.id }
  { desk with callbacks := desk.callbacks.modify row.id overwrite fun _ => rfl }

/-- One round of the loop. -/
def handle (call : Call) (desk : Desk) (row : CallbackRow) : Option Desk :=
  match callbackUrl desk.invoices row with
  | none => some (store (abandoned row) desk)
  | some url =>
      let delivery := call.deliveries row.id
      (rescheduled delivery.readAt (recorded delivery row)).map fun after =>
        let request := requestOf url delivery.sendAt row
        store after { desk with sends := desk.sends ++ [⟨row, after, request, delivery⟩] }

/-- The desk after the loop and the number that is returned. -/
def dispatchDueCallbacks (call : Call) (desk : Desk) : Option (Desk × Nat) :=
  let callbacks := selectDue call desk.callbacks.rows
  let delivered := callbacks.countP fun row =>
    (callbackUrl desk.invoices row).isSome && (call.deliveries row.id).answer.delivered
  (callbacks.foldlM (handle call) desk).map fun after => (after, delivered)

/-- A committed call, a deleted invoice, or a new row. -/
inductive Event where
  | dispatch (call : Call)
  | deleteInvoice (invoiceId : String)
  | enqueue (invoiceId eventType secret : String) (printed : Printed) (draws : EventDraws)

def deleteInvoice (invoiceId : String) (desk : Desk) : Desk :=
  { desk with invoices := desk.invoices.delete invoiceId }

/-- `enqueue_invoice_callback` of a stored invoice. Without a URL there is no row. -/
def enqueueInvoiceCallback (hmac : Hmac) (invoiceId eventType secret : String)
    (printed : Printed) (draws : EventDraws) (desk : Desk) : Option Desk :=
  (desk.invoices.find? invoiceId).bind fun invoice =>
    match given invoice.callbackUrl with
    | none => some desk
    | some _ =>
        (desk.callbacks.insert? (newCallbackRow hmac invoice eventType secret printed draws)).map
          fun callbacks => { desk with callbacks }

def step (hmac : Hmac) (desk : Desk) : Event → Option Desk
  | .dispatch call => (dispatchDueCallbacks call desk).map Prod.fst
  | .deleteInvoice invoiceId => some (deleteInvoice invoiceId desk)
  | .enqueue invoiceId eventType secret printed draws =>
      enqueueInvoiceCallback hmac invoiceId eventType secret printed draws desk

def Step (hmac : Hmac) (desk : Desk) (event : Event) (next : Desk) : Prop :=
  step hmac desk event = some next

section Loop

variable {call : Call} {desk next : Desk} {row : CallbackRow}

theorem id_recorded (delivery : Delivery) (row : CallbackRow) :
    (recorded delivery row).id = row.id := by
  unfold recorded
  repeat' split
  all_goals rfl

theorem id_rescheduled {readAt : Int} {after : CallbackRow}
    (settled : rescheduled readAt row = some after) : after.id = row.id := by
  unfold rescheduled at settled
  split at settled
  · split at settled
    · cases settled
      rfl
    · obtain ⟨delay, -, rfl⟩ := Option.map_eq_some_iff.mp settled
      rfl
  · cases settled
    rfl

theorem find_store (row : CallbackRow) (desk : Desk) (id : String) :
    (store row desk).callbacks.find? id =
      if id = row.id then (desk.callbacks.find? id).map fun _ => row
      else desk.callbacks.find? id := by
  have found := Table.find?_modify desk.callbacks row.id id
    (fun stored => { row with id := stored.id }) fun _ => rfl
  refine found.trans ?_
  by_cases same : id = row.id
  · rw [if_pos same, if_pos same]
    cases stored : desk.callbacks.find? id with
    | none => rfl
    | some old =>
        have named := (Table.key_of_find? stored).trans same
        simp only [Option.map_some, named]
  · rw [if_neg same, if_neg same]

/-- What one round does: the row is given up, or posted and settled. -/
inductive Handled (call : Call) (desk : Desk) (row : CallbackRow) : Desk → Prop where
  | abandoned (missing : callbackUrl desk.invoices row = none) :
      Handled call desk row (store (abandoned row) desk)
  | posted (url : String) (after : CallbackRow) (named : callbackUrl desk.invoices row = some url)
      (settled : rescheduled (call.deliveries row.id).readAt
        (recorded (call.deliveries row.id) row) = some after) :
      Handled call desk row (store after { desk with sends := desk.sends ++
        [⟨row, after, requestOf url (call.deliveries row.id).sendAt row,
          call.deliveries row.id⟩] })

theorem handled_of_handle (handled : handle call desk row = some next) :
    Handled call desk row next := by
  unfold handle at handled
  split at handled
  · rename_i missing
    cases handled
    exact .abandoned missing
  · rename_i url named
    obtain ⟨after, settled, rfl⟩ := Option.map_eq_some_iff.mp handled
    exact .posted url after named settled

/-- A round leaves the invoices and every other row alone. -/
theorem other_of_handled (handled : Handled call desk row next) {id : String}
    (different : id ≠ row.id) :
    next.invoices = desk.invoices ∧ next.callbacks.find? id = desk.callbacks.find? id := by
  cases handled with
  | abandoned missing =>
      refine ⟨rfl, ?_⟩
      have apart : id ≠ (abandoned row).id := different
      rw [find_store, if_neg apart]
  | posted url after named settled =>
      have same : after.id = row.id := (id_rescheduled settled).trans (id_recorded _ row)
      refine ⟨rfl, ?_⟩
      have apart : id ≠ after.id := same ▸ different
      rw [find_store, if_neg apart]

theorem mem_of_selected {rows : List CallbackRow} (selected : row ∈ selectDue call rows) :
    row ∈ rows ∧ due call.now row = true := by
  have sorted := List.mem_of_mem_take selected
  have visited := (call.ties.perm _).mem_iff.mp ((List.perm_insertionSort _ _).mem_iff.mp sorted)
  exact List.mem_filter.mp visited

theorem distinct_selected (call : Call) (callbacks : Table CallbackRow.id) :
    ((selectDue call callbacks.rows).map CallbackRow.id).Nodup := by
  have shuffled : (((call.ties.order (callbacks.rows.filter (due call.now))).insertionSort
      fun left right => left.nextRetryAt ≤ right.nextRetryAt).map CallbackRow.id).Nodup := by
    have order := (List.perm_insertionSort (fun left right : CallbackRow =>
      left.nextRetryAt ≤ right.nextRetryAt) _).trans (call.ties.perm
        (callbacks.rows.filter (due call.now)))
    apply (order.map CallbackRow.id).nodup_iff.mpr
    exact callbacks.distinct.sublist (List.filter_sublist.map CallbackRow.id)
  exact shuffled.sublist ((List.take_sublist ..).map CallbackRow.id)

theorem loop_keeps {Holds : Desk → Prop} {rows : List CallbackRow}
    (keeps : ∀ row ∈ rows, ∀ desk next, Holds desk →
      desk.callbacks.find? row.id = some row → Handled call desk row next → Holds next)
    (distinct : (rows.map CallbackRow.id).Nodup)
    (loaded : ∀ row ∈ rows, desk.callbacks.find? row.id = some row) (holds : Holds desk)
    (looped : rows.foldlM (handle call) desk = some next) : Holds next := by
  induction rows generalizing desk with
  | nil =>
      obtain rfl : desk = next := by simpa using looped
      exact holds
  | cons row rest ih =>
      rw [List.map_cons, List.nodup_cons] at distinct
      rw [List.foldlM_cons] at looped
      obtain ⟨middle, first, later⟩ := Option.bind_eq_some_iff.mp looped
      have handled := handled_of_handle first
      have own := loaded row List.mem_cons_self
      have reached := keeps row List.mem_cons_self desk middle holds own handled
      apply ih ?_ distinct.2 ?_ reached later
      · intro other member
        exact keeps other (List.mem_cons_of_mem row member)
      · intro other member
        have different : other.id ≠ row.id := by
          intro same
          exact distinct.1 (same ▸ List.mem_map_of_mem member)
        rw [(other_of_handled handled different).2]
        exact loaded other (List.mem_cons_of_mem row member)

theorem dispatch_keeps {Holds : Desk → Prop} {count : Nat}
    (keeps : ∀ row ∈ selectDue call desk.callbacks.rows, ∀ now next, Holds now →
      now.callbacks.find? row.id = some row → Handled call now row next → Holds next)
    (holds : Holds desk) (dispatched : dispatchDueCallbacks call desk = some (next, count)) :
    Holds next := by
  obtain ⟨after, looped, same⟩ := Option.map_eq_some_iff.mp dispatched
  obtain ⟨rfl, -⟩ := Prod.mk.inj same
  apply loop_keeps keeps (distinct_selected call desk.callbacks) ?_ holds looped
  intro row selected
  exact Table.find?_of_mem (mem_of_selected selected).1

/-- The index is within the list after every failure, so the delay is found. -/
theorem retryDelay_of_counted {attemptCount : Nat} (counted : 0 < attemptCount) :
    0 ≤ delayIndex attemptCount ∧ delayIndex attemptCount < RETRY_DELAYS.length ∧
      ∃ delay, retryDelay (delayIndex attemptCount) = some delay ∧ 0 < delay := by
  have length : RETRY_DELAYS.length = 6 := rfl
  have bounds : 0 ≤ delayIndex attemptCount ∧ delayIndex attemptCount < 6 := by
    unfold delayIndex
    omega
  have every : ∀ index : Fin 6, ∃ delay, RETRY_DELAYS[index.val]? = some delay ∧ 0 < delay := by
    decide
  obtain ⟨delay, found, positive⟩ := every ⟨(delayIndex attemptCount).toNat, by omega⟩
  exact ⟨bounds.1, bounds.2, delay, by rw [retryDelay, if_pos bounds.1, found], positive⟩

theorem counted_of_recorded (delivery : Delivery) (row : CallbackRow) :
    0 < (recorded delivery row).attemptCount := by
  unfold recorded
  repeat' split
  all_goals exact Nat.succ_pos _

/-- No round raises. -/
theorem rescheduled_isSome (delivery : Delivery) (row : CallbackRow) :
    (rescheduled delivery.readAt (recorded delivery row)).isSome = true := by
  obtain ⟨-, -, delay, found, -⟩ := retryDelay_of_counted (counted_of_recorded delivery row)
  unfold rescheduled
  split
  · split
    · rfl
    · rw [found]
      rfl
  · rfl

theorem dispatch_isSome (call : Call) (desk : Desk) :
    (dispatchDueCallbacks call desk).isSome = true := by
  have loop : ∀ (rows : List CallbackRow) now, (rows.foldlM (handle call) now).isSome = true := by
    intro rows
    induction rows with
    | nil =>
        intro now
        rfl
    | cons row rest ih =>
        intro now
        have one : (handle call now row).isSome = true := by
          unfold handle
          split
          · rfl
          · rw [Option.isSome_map]
            exact rescheduled_isSome _ row
        obtain ⟨middle, handled⟩ := Option.isSome_iff_exists.mp one
        rw [List.foldlM_cons, handled]
        exact ih middle
  rw [dispatchDueCallbacks, Option.isSome_map]
  exact loop _ desk

end Loop

end ApiBank.Crypto.Callbacks
