import ApiBank.Crypto.CallbackRetries
import ApiBank.Text.Separated

/-!
# What a callback signature binds

The signature is over the timestamp, a dot and the raw body. It binds this joined text
and not where it was joined: the timestamps of the events have a dot before their
microseconds, and the printed amounts have dots as well.
-/

namespace ApiBank.Crypto.CallbackSignatures

open ApiBank.Relational ApiBank.Text ApiBank.Transition Callbacks Invoices

set_option autoImplicit false

variable {hmac : Hmac} {secret timestamp rawBody : String}

/-- A signature verifies for the pairs that are joined to the same text. -/
theorem verifySignature_iff (free : CollisionFree hmac) (otherTimestamp otherBody : String) :
    verifySignature hmac secret otherTimestamp otherBody
        (signPayload hmac secret timestamp rawBody) = .ok true ↔
      timestamp ++ "." ++ rawBody = otherTimestamp ++ "." ++ otherBody := by
  rw [verifySignature, signPayload, signPayload, compareDigest_hexdigest, Except.ok.injEq,
    decide_eq_true_eq, (free (encode secret)).eq_iff, encode_injective.eq_iff]
  exact eq_comm

theorem toList_joined (timestamp rawBody : String) :
    (timestamp ++ "." ++ rawBody).toList = timestamp.toList ++ '.' :: rawBody.toList := by
  simp

/-- The joined text has one pair of parts exactly when the dot between them is its only
one. -/
theorem joined_unique_iff (timestamp rawBody : String) :
    (∀ otherTimestamp otherBody,
        timestamp ++ "." ++ rawBody = otherTimestamp ++ "." ++ otherBody →
          timestamp = otherTimestamp ∧ rawBody = otherBody) ↔
      '.' ∉ timestamp.toList ∧ '.' ∉ rawBody.toList := by
  rw [← unique_parts_iff]
  constructor
  · intro unique other more same
    have joined : timestamp ++ "." ++ rawBody = String.ofList other ++ "." ++ String.ofList more := by
      apply String.toList_inj.mp
      rw [toList_joined, toList_joined, String.toList_ofList, String.toList_ofList]
      exact same
    obtain ⟨first, rest⟩ := unique _ _ joined
    constructor
    · rw [first, String.toList_ofList]
    · rw [rest, String.toList_ofList]
  · intro unique otherTimestamp otherBody same
    have parts := unique otherTimestamp.toList otherBody.toList (by
      rw [← toList_joined, ← toList_joined, same])
    exact ⟨String.toList_inj.mp parts.1, String.toList_inj.mp parts.2⟩

theorem signed_of_rescheduled {delivery : Delivery} {row after : CallbackRow}
    (settled : rescheduled delivery.readAt (recorded delivery row) = some after) :
    after.payloadJson = row.payloadJson ∧ after.signature = row.signature := by
  have kept : (recorded delivery row).payloadJson = row.payloadJson ∧
      (recorded delivery row).signature = row.signature := by
    unfold recorded
    repeat' split
    all_goals exact ⟨rfl, rfl⟩
  unfold rescheduled at settled
  split at settled
  · split at settled
    · cases settled
      exact kept
    · obtain ⟨delay, -, rfl⟩ := Option.map_eq_some_iff.mp settled
      exact kept
  · cases settled
    exact kept

/-- A callback keeps its payload and signature, and so has every attempt at it. -/
structure Keeps (id : String) (payload : Payload) (signature : Option String) (desk : Desk) :
    Prop where
  row : ∃ row, desk.callbacks.find? id = some row ∧ row.payloadJson = payload ∧
    row.signature = signature
  sends : ∀ send ∈ desk.sends, send.before.id = id →
    send.before.signature = signature ∧ send.request.timestamp = payload.timestamp ∧
      send.request.rawBody = payload.rawBody

section Runs

variable {id : String} {payload : Payload} {signature : Option String} {call : Call}
  {desk next : Desk} {row : CallbackRow}

theorem timestamp_requestOf (url : String) (now : Int) (row : CallbackRow) :
    (requestOf url now row).timestamp = row.payloadJson.timestamp := by
  have filled : row.payloadJson.timestamp ≠ "" :=
    isoformat_ne_empty row.payloadJson.event.timestamp
  simp only [requestOf, if_neg filled]

theorem find_overwritten {after : CallbackRow} (same : after.id = row.id)
    (stored : desk.callbacks.find? row.id = some row)
    (kept : after.payloadJson = row.payloadJson ∧ after.signature = row.signature)
    (own : ∃ row, desk.callbacks.find? id = some row ∧ row.payloadJson = payload ∧
      row.signature = signature) :
    ∃ row, (store after desk).callbacks.find? id = some row ∧ row.payloadJson = payload ∧
      row.signature = signature := by
  obtain ⟨old, found, isPayload, isSignature⟩ := own
  rw [find_store]
  split
  · rename_i named
    have identical : old = row := by
      rw [named, same, stored, Option.some.injEq] at found
      exact found.symm
    subst identical
    rw [found]
    exact ⟨after, rfl, kept.1.trans isPayload, kept.2.trans isSignature⟩
  · exact ⟨old, found, isPayload, isSignature⟩

theorem keeps_handled (keeps : Keeps id payload signature desk)
    (stored : desk.callbacks.find? row.id = some row) (handled : Handled call desk row next) :
    Keeps id payload signature next := by
  cases handled with
  | abandoned missing =>
      have same : (abandoned row).id = row.id := rfl
      exact ⟨find_overwritten same stored ⟨rfl, rfl⟩ keeps.row, keeps.sends⟩
  | posted url after named settled =>
      have same : after.id = row.id := (id_rescheduled settled).trans (id_recorded _ row)
      refine ⟨find_overwritten same stored (signed_of_rescheduled settled) keeps.row, ?_⟩
      intro send member sameId
      rcases List.mem_append.mp member with old | new
      · exact keeps.sends send old sameId
      · obtain rfl := List.mem_singleton.mp new
        obtain ⟨own, found, isPayload, isSignature⟩ := keeps.row
        have identical : own = row := by
          have named : row.id = id := sameId
          rw [← named, stored, Option.some.injEq] at found
          exact found.symm
        subst identical
        refine ⟨isSignature, ?_, ?_⟩
        · exact (timestamp_requestOf ..).trans (congrArg Payload.timestamp isPayload)
        · exact congrArg Payload.rawBody isPayload

theorem keeps_step {event : Event} (keeps : Keeps id payload signature desk)
    (taken : Step hmac desk event next) : Keeps id payload signature next := by
  cases event with
  | dispatch call =>
      obtain ⟨⟨reached, count⟩, dispatched, rfl⟩ := Option.map_eq_some_iff.mp taken
      apply dispatch_keeps ?_ keeps dispatched
      intro row _ now after holds stored handled
      exact keeps_handled holds stored handled
  | deleteInvoice invoiceId =>
      obtain rfl := Option.some.inj taken
      exact ⟨keeps.row, keeps.sends⟩
  | enqueue invoiceId eventType secret printed draws =>
      rcases CallbackRetries.enqueue_cases taken with rfl | ⟨invoice, callbacks, -, inserted, rfl⟩
      · exact keeps
      · refine ⟨?_, keeps.sends⟩
        obtain ⟨own, found, rest⟩ := keeps.row
        refine ⟨own, ?_, rest⟩
        rw [Table.find?_insert? inserted]
        split
        · rename_i same
          have fresh := Table.fresh_of_insert? inserted
          rw [same, found] at fresh
          cases fresh
        · exact found

end Runs

theorem dot_mem_rawBody {payload : Payload} (dotted : '.' ∈ payload.event.event.toList) :
    '.' ∈ payload.rawBody.toList := by
  have listed : ("event", .text payload.event.event) ∈ payload.fields := List.mem_cons_self
  exact mem_canonicalJson listed dotted (by decide +kernel)

/-- A signature verifies for its own timestamp and body only, just when neither has a
dot. The stored signature of a callback verifies for what is posted at every attempt,
and for nothing else just when neither has a dot. An event type with a dot puts one
into the body. -/
theorem signature_binds_iff (free : CollisionFree hmac) :
    (∀ secret timestamp rawBody,
      (∀ otherTimestamp otherBody, verifySignature hmac secret otherTimestamp otherBody
          (signPayload hmac secret timestamp rawBody) = .ok true ↔
            timestamp = otherTimestamp ∧ rawBody = otherBody) ↔
        '.' ∉ timestamp.toList ∧ '.' ∉ rawBody.toList) ∧
    ∀ (invoice : CryptoInvoice) (eventType secret : String) (printed : Printed)
      (draws : EventDraws) (start desk : Desk) (events : List Event),
      secret ≠ "" → start.sends = [] →
        start.callbacks.find? draws.callbackId =
            some (newCallbackRow hmac invoice eventType secret printed draws) →
          Run (Step hmac) start events desk →
            ∀ send ∈ desk.sends, send.before.id = draws.callbackId →
              ∃ signature, send.before.signature = some signature ∧
                verifySignature hmac secret send.request.timestamp send.request.rawBody
                    signature = .ok true ∧
                  ((∀ otherTimestamp otherBody,
                      verifySignature hmac secret otherTimestamp otherBody signature =
                          .ok true →
                        send.request.timestamp = otherTimestamp ∧
                          send.request.rawBody = otherBody) ↔
                    '.' ∉ send.request.timestamp.toList ∧
                      '.' ∉ send.request.rawBody.toList) ∧
                    ('.' ∈ eventType.toList → '.' ∈ send.request.rawBody.toList) := by
  constructor
  · intro secret timestamp rawBody
    rw [← joined_unique_iff]
    constructor
    · intro exact_pair otherTimestamp otherBody same
      exact (exact_pair otherTimestamp otherBody).mp ((verifySignature_iff free ..).mpr same)
    · intro unique otherTimestamp otherBody
      rw [verifySignature_iff free]
      constructor
      · exact unique otherTimestamp otherBody
      · rintro ⟨rfl, rfl⟩
        rfl
  · intro invoice eventType secret printed draws start desk events given unsent stored run send
      member same
    let row := newCallbackRow hmac invoice eventType secret printed draws
    have opening : Keeps draws.callbackId row.payloadJson row.signature start := by
      refine ⟨⟨row, stored, rfl, rfl⟩, ?_⟩
      intro send member
      rw [unsent] at member
      cases member
    have kept : Keeps draws.callbackId row.payloadJson row.signature desk :=
      run.invariant _ opening fun _ _ _ holds taken => keeps_step holds taken
    obtain ⟨signed, posted, body⟩ := kept.sends send member same
    refine ⟨signPayload hmac secret send.request.timestamp send.request.rawBody, ?_, ?_, ?_, ?_⟩
    · rw [signed, posted, body]
      exact if_neg given
    · exact (verifySignature_iff free ..).mpr rfl
    · rw [← joined_unique_iff]
      simp only [verifySignature_iff free]
    · intro dotted
      rw [body]
      exact dot_mem_rawBody dotted

/-- A cancelation on a full second. -/
def canceled : Payload :=
  ⟨buildInvoiceEvent CallbackRetries.hooked "crypto.invoice.canceled" 1782864000000000,
    ⟨"10", "10", "0"⟩⟩

def eventHmac : Hmac := knownDigest (encode "super-secret")
  (encode (canceled.timestamp ++ "." ++ canceled.rawBody))
  [24, 23, 198, 228, 209, 166, 96, 182, 96, 108, 171, 1, 217, 204, 58, 114, 207, 107, 29, 153,
    131, 177, 245, 242, 93, 117, 115, 87, 64, 61, 222, 156]

def announced : Desk where
  invoices := ⟨[CallbackRetries.hooked], List.nodup_singleton _⟩
  callbacks := ⟨[newCallbackRow eventHmac CallbackRetries.hooked "crypto.invoice.canceled"
    "super-secret" canceled.printed ⟨"k1", 1782864000000000⟩], List.nodup_singleton _⟩
  sends := []

theorem signature_binds_posted : ∃ (desk : Desk) (send : Send) (signature : String),
    desk.sends = [send] ∧ send.before.signature = some signature ∧
      verifySignature eventHmac "super-secret" send.request.timestamp send.request.rawBody
          signature = .ok true ∧
        ¬∀ otherTimestamp otherBody,
          verifySignature eventHmac "super-secret" otherTimestamp otherBody signature = .ok true →
            send.request.timestamp = otherTimestamp ∧ send.request.rawBody = otherBody := by
  have played : (step eventHmac announced
      (CallbackRetries.refusal (.ok "busy") 1782864000000000)).map
        (fun desk => desk.sends.map fun send => send.before.id) = some ["k1"] := by
    decide +kernel
  obtain ⟨desk, taken, record⟩ := Option.map_eq_some_iff.mp played
  have run : Run (Step eventHmac) announced _ desk := .single taken
  obtain ⟨send, sends, named⟩ := List.map_eq_singleton_iff.mp record
  obtain ⟨signature, signed, verified, unique, dotted⟩ :=
    (signature_binds_iff (knownDigest_collisionFree _ _ _)).2 CallbackRetries.hooked
      "crypto.invoice.canceled" "super-secret" canceled.printed ⟨"k1", 1782864000000000⟩ announced
      desk _ (by decide) rfl rfl run send (sends ▸ List.mem_singleton_self _) named
  refine ⟨desk, send, signature, sends, signed, verified, ?_⟩
  intro bound
  exact (unique.mp bound).2 (dotted (by decide +kernel))

/-- The microseconds of the timestamp may count as the beginning of the body. -/
theorem microseconds_move_to_body : ¬∀ hmac : Hmac, CollisionFree hmac →
    ∀ secret timestamp rawBody otherTimestamp otherBody,
      verifySignature hmac secret otherTimestamp otherBody
          (signPayload hmac secret timestamp rawBody) = .ok true ↔
        timestamp = otherTimestamp ∧ rawBody = otherBody := by
  intro claimed
  let echo : Hmac := fun _ message => message
  have free : CollisionFree echo := fun _ => Function.injective_id
  have verified : verifySignature echo "whsec" "2026-07-01T00:00:00"
      "123456+00:00.\x7b\x7d" (signPayload echo "whsec" "2026-07-01T00:00:00.123456+00:00"
        "\x7b\x7d") = .ok true :=
    (verifySignature_iff free ..).mpr (by decide +kernel)
  have same := ((claimed echo free ..).mp verified).1
  revert same
  decide

end ApiBank.Crypto.CallbackSignatures
