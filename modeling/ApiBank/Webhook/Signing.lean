import ApiBank.Text.Digests
import ApiBank.Text.Integers
import ApiBank.Text.Separated

/-!
# Signed deliveries

The `X-Signature` header carries the timestamp and the digest of timestamp and body.
The receiver reads the items of the header, the last one under a key counts, and
rebuilds the digest from the integer that the timestamp item denotes.
-/

namespace ApiBank.Webhook.Signing

open ApiBank.Text

set_option autoImplicit false

section Source

variable (interpreter : Interpreter) (hmac : Hmac) (secret : String) (body : Bytes)

def digest (text : String) : String :=
  hexdigest (hmac (encode secret) (encode text ++ encode "." ++ body))

def signPayload (timestamp : Int) : Except Error String :=
  match interpreter.str timestamp with
  | none => .error (.valueError (s!"Exceeds the limit ({interpreter.maxStrDigits} digits) for " ++
      "integer string conversion; use sys.set_int_max_str_digits() to increase the limit"))
  | some text => .ok s!"t={text},v1={digest hmac secret body text}"

/-- The key and value of every item that has an equals sign. -/
def headerParts (header : String) : List (List Char × List Char) :=
  (header.toList.splitOn ',').filterMap (splitOnce '=')

def verifySignature (header : String) (now toleranceSeconds : Int) : Except Error Bool :=
  let parts := headerParts header
  match lookupLast "t".toList parts, lookupLast "v1".toList parts with
  | some timestampText, some signature =>
      match interpreter.int (String.ofList timestampText) with
      | none => .ok false
      | some timestamp =>
          if toleranceSeconds < |now - timestamp| then .ok false
          else do
            let signed ← signPayload interpreter hmac secret body timestamp
            -- a signed header has the item, so the default is never taken
            let expected := (after "v1=".toList signed.toList).getD []
            compareDigest (String.ofList expected) (String.ofList signature)
  | _, _ => .ok false

end Source

variable {interpreter : Interpreter} {hmac : Hmac} {secret : String} {body : Bytes}

def EndsIn (header timestampText signature : String) : Prop :=
  ∃ items, header.toList.splitOn ',' =
    items ++ [("t=" ++ timestampText).toList, ("v1=" ++ signature).toList]

theorem endsIn_pair {timestampText signature : String} (free : ',' ∉ timestampText.toList)
    (signatureFree : ',' ∉ signature.toList) :
    EndsIn s!"t={timestampText},v1={signature}" timestampText signature := by
  refine ⟨[], ?_⟩
  have listed : (s!"t={timestampText},v1={signature}").toList =
      ("t=" ++ timestampText).toList ++ ',' :: ("v1=" ++ signature).toList := by
    simp [toString]
  have first : ',' ∉ ("t=" ++ timestampText).toList := by simpa using free
  have second : ',' ∉ ("v1=" ++ signature).toList := by simpa using signatureFree
  rw [listed, List.splitOn_append_cons_self, List.splitOn_eq_singleton first,
    List.splitOn_eq_singleton second]
  rfl

/-- Further items may come first. -/
theorem endsIn_after (items : String) {header timestampText signature : String}
    (ending : EndsIn header timestampText signature) :
    EndsIn (items ++ "," ++ header) timestampText signature := by
  obtain ⟨others, listed⟩ := ending
  refine ⟨items.toList.splitOn ',' ++ others, ?_⟩
  have joined : (items ++ "," ++ header).toList = items.toList ++ ',' :: header.toList := by simp
  rw [joined, List.splitOn_append_cons_self, listed, List.append_assoc]

theorem plain_of_toString {value : Int} {char : Char}
    (member : char ∈ (toString value).toList) : char ≠ ',' ∧ char ≠ 'v' := by
  rcases Interpreter.printed_of_mem_toString member with digit | rfl
  · constructor
    · rintro rfl
      cases digit
    · rintro rfl
      cases digit
  · decide

theorem comma_free_hexdigest (bytes : Bytes) : ',' ∉ (hexdigest bytes).toList := by
  have digits : ∀ digit : Fin 16, Nat.digitChar digit ≠ ',' := by decide
  intro member
  rw [hexdigest, String.toList_ofList] at member
  obtain ⟨byte, -, inPair⟩ := List.mem_flatMap.mp member
  have bound := byte.toNat_lt
  simp only [hexPair, List.mem_cons, List.not_mem_nil, or_false] at inPair
  rcases inPair with high | low
  · exact digits ⟨byte.toNat / 16, by omega⟩ high.symm
  · exact digits ⟨byte.toNat % 16, by omega⟩ low.symm

theorem signPayload_ok {timestamp : Int} {header : String}
    (signed : signPayload interpreter hmac secret body timestamp = .ok header) :
    interpreter.str timestamp = some (toString timestamp) ∧
      header = s!"t={toString timestamp},v1={digest hmac secret body (toString timestamp)}" := by
  unfold signPayload at signed
  split at signed
  · cases signed
  · rename_i text printed
    obtain rfl := Interpreter.toString_of_str interpreter printed
    cases signed
    exact ⟨printed, rfl⟩

theorem signPayload_of_str {timestamp : Int}
    (printed : interpreter.str timestamp = some (toString timestamp)) :
    signPayload interpreter hmac secret body timestamp =
      .ok s!"t={toString timestamp},v1={digest hmac secret body (toString timestamp)}" := by
  simp only [signPayload, printed]

/-- The digest in a signed header. -/
theorem after_signed (timestamp : Int) (signature : String) :
    after "v1=".toList (s!"t={toString timestamp},v1={signature}").toList =
      some signature.toList := by
  have listed : (s!"t={toString timestamp},v1={signature}").toList =
      ("t=" ++ toString timestamp ++ ",").toList ++ "v1=".toList ++ signature.toList := by
    simp [toString]
  have free : 'v' ∉ ("t=" ++ toString timestamp ++ ",").toList := by
    intro member
    simp only [String.toList_append, List.mem_append] at member
    rcases member with (key | printed) | comma
    · revert key
      decide
    · exact (plain_of_toString printed).2 rfl
    · revert comma
      decide
  rw [listed]
  exact after_append free signature.toList

/-- What the receiver computes from the last two items. -/
theorem verifySignature_endsIn {header timestampText signature : String} {now tolerance : Int}
    (ending : EndsIn header timestampText signature) :
    verifySignature interpreter hmac secret body header now tolerance =
      match interpreter.int timestampText with
      | none => .ok false
      | some timestamp =>
          if tolerance < |now - timestamp| then .ok false
          else compareDigest (digest hmac secret body (toString timestamp)) signature := by
  obtain ⟨items, listed⟩ := ending
  have first : splitOnce '=' ("t=" ++ timestampText).toList =
      some ("t".toList, timestampText.toList) := by
    rw [show ("t=" ++ timestampText).toList = "t".toList ++ '=' :: timestampText.toList by simp]
    exact splitOnce_join (by decide) timestampText.toList
  have second : splitOnce '=' ("v1=" ++ signature).toList =
      some ("v1".toList, signature.toList) := by
    rw [show ("v1=" ++ signature).toList = "v1".toList ++ '=' :: signature.toList by simp]
    exact splitOnce_join (by decide) signature.toList
  have parts : headerParts header = items.filterMap (splitOnce '=') ++
      [("t".toList, timestampText.toList)] ++ [("v1".toList, signature.toList)] := by
    rw [headerParts, listed, List.filterMap_append, List.append_assoc]
    congr 1
    rw [List.filterMap_cons_some first, List.filterMap_cons_some second]
    rfl
  have apart : "t".toList ≠ "v1".toList := by decide
  have timestampItem : lookupLast "t".toList (headerParts header) = some timestampText.toList := by
    rw [parts, lookupLast_append_other apart, lookupLast_append_self]
  have signatureItem : lookupLast "v1".toList (headerParts header) = some signature.toList := by
    rw [parts, lookupLast_append_self]
  simp only [verifySignature, timestampItem, signatureItem, String.ofList_toList]
  cases read : interpreter.int timestampText with
  | none => rfl
  | some timestamp =>
      have signed : signPayload interpreter hmac secret body timestamp = .ok _ :=
        signPayload_of_str (interpreter.str_of_int read)
      simp only [signed, bind, Except.bind]
      rw [after_signed, Option.getD_some, String.ofList_toList]

/-- The dot ends the timestamp: the digits and the sign are none. -/
theorem dot_free_encode (value : Int) : (46 : UInt8) ∉ encode (toString value) := by
  intro member
  rw [encode_eq_flatMap] at member
  obtain ⟨char, printed, encoded⟩ := List.mem_flatMap.mp member
  rcases Interpreter.printed_of_mem_toString printed with digit | rfl
  · obtain ⟨lower, upper⟩ := Interpreter.toNat_of_isDigit digit
    obtain ⟨code, rfl⟩ : ∃ code : Fin 10, char = Char.ofNat (48 + code) := by
      refine ⟨⟨char.toNat - 48, by omega⟩, ?_⟩
      rw [show 48 + (char.toNat - 48) = char.toNat by omega, Char.ofNat_toNat]
    have plain : ∀ code : Fin 10, (46 : UInt8) ∉ String.utf8EncodeChar (Char.ofNat (48 + code)) := by
      decide
    exact plain code encoded
  · revert encoded
    decide

theorem endsIn_signed {timestamp : Int} {header : String}
    (signed : signPayload interpreter hmac secret body timestamp = .ok header) :
    EndsIn header (toString timestamp) (digest hmac secret body (toString timestamp)) := by
  obtain ⟨-, rfl⟩ := signPayload_ok signed
  apply endsIn_pair
  · intro comma
    exact (plain_of_toString comma).1 rfl
  · exact comma_free_hexdigest _

theorem digest_injective (free : CollisionFree hmac) {timestamp other : Int} {otherBody : Bytes}
    (same : digest hmac secret otherBody (toString other) =
      digest hmac secret body (toString timestamp)) : other = timestamp ∧ otherBody = body := by
  have messages := free (encode secret) (hexdigest_injective same)
  have dot : encode "." = [46] := rfl
  rw [dot, List.append_assoc, List.append_assoc] at messages
  obtain ⟨texts, bodies⟩ :=
    join_injective (dot_free_encode other) (dot_free_encode timestamp) messages
  exact ⟨Interpreter.toString_injective (encode_injective texts), bodies⟩

/-- A signed body verifies within the tolerance, and a header that ends in its digest
verifies for no other body and no other timestamp. -/
theorem signature_verifies_iff (interpreter : Interpreter) (hmac : Hmac)
    (free : CollisionFree hmac) (secret : String) (body : Bytes) (timestamp : Int)
    (header : String)
    (signed : signPayload interpreter hmac secret body timestamp = .ok header) :
    (∀ now tolerance, verifySignature interpreter hmac secret body header now tolerance =
      .ok true ↔ |now - timestamp| ≤ tolerance) ∧
    ∀ otherBody otherHeader timestampText now tolerance,
      EndsIn otherHeader timestampText (digest hmac secret body (toString timestamp)) →
      verifySignature interpreter hmac secret otherBody otherHeader now tolerance = .ok true →
        otherBody = body ∧ interpreter.int timestampText = some timestamp ∧
          |now - timestamp| ≤ tolerance := by
  have read := interpreter.int_of_str (signPayload_ok signed).1
  constructor
  · intro now tolerance
    rw [verifySignature_endsIn (endsIn_signed signed), read]
    dsimp only
    split
    · rename_i late
      simp only [Except.ok.injEq, Bool.false_eq_true, false_iff]
      omega
    · rename_i timely
      rw [digest, compareDigest_hexdigest]
      simp only [decide_true, true_iff]
      omega
  · intro otherBody otherHeader timestampText now tolerance ending verified
    rw [verifySignature_endsIn ending] at verified
    split at verified
    · cases verified
    · rename_i other denoted
      split at verified
      · cases verified
      · rename_i timely
        obtain ⟨rfl, same⟩ := digest_injective free (compareDigest_ok verified)
        exact ⟨same, denoted, by omega⟩

def deliveryHmac : Hmac := knownDigest (encode "super-secret")
  (encode "1800000000.\x7b\"type\":\"payment.succeeded\"\x7d")
  [131, 43, 39, 3, 244, 129, 225, 94, 216, 79, 100, 124, 50, 50, 107, 220, 74, 175, 207, 1, 172,
    69, 8, 110, 28, 7, 221, 38, 47, 142, 133, 90]

/-- The header verifies half a minute later, and not for another body. -/
theorem signature_verifies_delivery : ∃ header,
    signPayload .ascii deliveryHmac "super-secret"
        (encode "\x7b\"type\":\"payment.succeeded\"\x7d") 1800000000 = .ok header ∧
      verifySignature .ascii deliveryHmac "super-secret"
        (encode "\x7b\"type\":\"payment.succeeded\"\x7d") header 1800000030 300 = .ok true ∧
      verifySignature .ascii deliveryHmac "super-secret" (encode "tampered") header 1800000030
        300 ≠ .ok true := by
  have printed : Interpreter.ascii.str 1800000000 = some (toString (1800000000 : Int)) := by
    apply Interpreter.str_of_lt
    have ten : (1800000000 : Int).natAbs < 10 ^ 10 := by decide
    exact ten.trans_le (Nat.pow_le_pow_right (by decide) (by decide))
  have signed : signPayload .ascii deliveryHmac "super-secret"
      (encode "\x7b\"type\":\"payment.succeeded\"\x7d") 1800000000 = .ok _ :=
    signPayload_of_str printed
  obtain ⟨timely, intact⟩ := signature_verifies_iff .ascii deliveryHmac
    (knownDigest_collisionFree _ _ _) _ _ _ _ signed
  refine ⟨_, signed, (timely 1800000030 300).mpr (by decide), ?_⟩
  intro verified
  have same := (intact _ _ _ _ _ (endsIn_signed signed) verified).1
  revert same
  decide +kernel

end ApiBank.Webhook.Signing
