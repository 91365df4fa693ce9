import ApiBank.Errors

/-!
# Bytes, digests and their comparison

UTF-8 text, hexadecimal digests and `hmac.compare_digest`. The keyed hash itself is a
parameter.
-/

namespace ApiBank.Text

set_option autoImplicit false

abbrev Bytes := List UInt8

/-- `hmac.new(key, message, sha256).digest()`. -/
abbrev Hmac := Bytes → Bytes → Bytes

/-- No two messages have one digest under one key. -/
def CollisionFree (hmac : Hmac) : Prop := ∀ key, Function.Injective (hmac key)

/-- `str.encode()`. -/
def encode (text : String) : Bytes := text.toByteArray.data.toList

theorem encode_injective : Function.Injective encode := by
  intro first second same
  apply String.toByteArray_inj.mp
  exact ByteArray.ext (Array.ext' same)

theorem encode_eq_flatMap (text : String) :
    encode text = text.toList.flatMap String.utf8EncodeChar := by
  rw [encode, ← String.utf8Encode_toList, List.utf8Encode, List.toList_data_toByteArray]

theorem toList_loop (bytes : ByteArray) (index : Nat) (read : List UInt8) :
    ByteArray.toList.loop bytes index read = read.reverse ++ bytes.data.toList.drop index := by
  have size : bytes.size = bytes.data.toList.length := (Array.length_toList ..).symm
  induction left : bytes.size - index generalizing index read with
  | zero =>
      unfold ByteArray.toList.loop
      rw [if_neg (by omega), List.drop_eq_nil_of_le (by omega), List.append_nil]
  | succ rest ih =>
      have here : index < bytes.data.toList.length := by omega
      unfold ByteArray.toList.loop
      rw [if_pos (by omega), ih (index + 1) _ (by omega), List.drop_eq_getElem_cons here,
        List.reverse_cons, List.append_assoc]
      have byte : bytes.get! index = bytes.data.toList[index] := by
        rw [Array.length_toList] at here
        rw [ByteArray.get!, getElem!_pos bytes.data index here, Array.getElem_toList]
      rw [byte]
      rfl

theorem toUTF8_toList (text : String) : text.toUTF8.toList = encode text := by
  rw [ByteArray.toList, toList_loop, encode, String.toUTF8_eq_toByteArray]
  rfl

def hexPair (byte : UInt8) : List Char :=
  [Nat.digitChar (byte.toNat / 16), Nat.digitChar (byte.toNat % 16)]

/-- `bytes.hex()`. -/
def hexdigest (bytes : Bytes) : String := String.ofList (bytes.flatMap hexPair)

theorem digitChar_injective : ∀ first second : Fin 16,
    Nat.digitChar first = Nat.digitChar second → first = second := by decide

theorem hexPair_injective {first second : UInt8} (same : hexPair first = hexPair second) :
    first = second := by
  have bound := first.toNat_lt
  have otherBound := second.toNat_lt
  simp only [hexPair, List.cons.injEq, and_true] at same
  have high := digitChar_injective ⟨first.toNat / 16, by omega⟩ ⟨second.toNat / 16, by omega⟩
    same.1
  have low := digitChar_injective ⟨first.toNat % 16, by omega⟩ ⟨second.toNat % 16, by omega⟩
    same.2
  simp only [Fin.mk.injEq] at high low
  apply UInt8.toNat_inj.mp
  omega

theorem hexdigest_injective : Function.Injective hexdigest := by
  intro first second same
  have chars : first.flatMap hexPair = second.flatMap hexPair := String.ofList_injective same
  clear same
  induction first generalizing second with
  | nil =>
      cases second with
      | nil => rfl
      | cons byte rest => cases chars
  | cons byte rest ih =>
      cases second with
      | nil => cases chars
      | cons other more =>
          rw [List.flatMap_cons, List.flatMap_cons] at chars
          obtain ⟨pairs, tails⟩ := List.append_inj chars rfl
          rw [hexPair_injective pairs, ih tails]

/-- `hmac.compare_digest` of two strings. -/
def compareDigest (expected given : String) : Except Error Bool :=
  if (expected.toList ++ given.toList).all fun char => char.toNat < 128 then
    .ok (expected = given)
  else .error (.typeError "comparing strings with non-ASCII characters is not supported")

theorem compareDigest_ok {expected given : String}
    (matched : compareDigest expected given = .ok true) : expected = given := by
  unfold compareDigest at matched
  split at matched
  · simpa using matched
  · cases matched

/-- A digest is written in hexadecimal digits. -/
theorem digit_of_hexdigest {bytes : Bytes} {char : Char}
    (member : char ∈ (hexdigest bytes).toList) : ∃ digit : Fin 16, char = Nat.digitChar digit := by
  rw [hexdigest, String.toList_ofList] at member
  obtain ⟨byte, -, inPair⟩ := List.mem_flatMap.mp member
  have bound := byte.toNat_lt
  simp only [hexPair, List.mem_cons, List.not_mem_nil, or_false] at inPair
  rcases inPair with high | low
  · exact ⟨⟨byte.toNat / 16, by omega⟩, high⟩
  · exact ⟨⟨byte.toNat % 16, by omega⟩, low⟩

theorem ascii_hexdigest (bytes : Bytes) :
    ∀ char ∈ (hexdigest bytes).toList, char.toNat < 128 := by
  have digits : ∀ digit : Fin 16, (Nat.digitChar digit).toNat < 128 := by decide
  intro char member
  obtain ⟨digit, rfl⟩ := digit_of_hexdigest member
  exact digits digit

theorem compareDigest_hexdigest (first second : Bytes) :
    compareDigest (hexdigest first) (hexdigest second) = .ok (decide (first = second)) := by
  have ascii : ((hexdigest first).toList ++ (hexdigest second).toList).all
      (fun char => decide (char.toNat < 128)) = true := by
    rw [List.all_eq_true]
    intro char member
    rw [decide_eq_true_eq]
    rcases List.mem_append.mp member with left | right
    · exact ascii_hexdigest first char left
    · exact ascii_hexdigest second char right
  rw [compareDigest, if_pos ascii]
  simp only [hexdigest_injective.eq_iff]

def knownDigest (key message digest : Bytes) : Hmac := fun otherKey other =>
  if otherKey = key ∧ other = message then digest
  else List.replicate (digest.length + 1) 0 ++ other

theorem knownDigest_collisionFree (key message digest : Bytes) :
    CollisionFree (knownDigest key message digest) := by
  have longer : ∀ other : Bytes, digest ≠ List.replicate (digest.length + 1) 0 ++ other := by
    intro other equal
    have lengths := congrArg List.length equal
    rw [List.length_append, List.length_replicate] at lengths
    omega
  intro otherKey first second same
  simp only [knownDigest] at same
  split at same
  · rename_i known
    split at same
    · rename_i alsoKnown
      exact known.2.trans alsoKnown.2.symm
    · exact absurd same (longer second)
  · split at same
    · exact absurd same.symm (longer first)
    · exact List.append_cancel_left same

end ApiBank.Text
