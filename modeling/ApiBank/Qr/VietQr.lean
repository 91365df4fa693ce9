import ApiBank.Qr.Checksum
import ApiBank.Text.Tlv

/-!
# VietQR payloads

`generate_vietqr_payload` nests fields of two-digit lengths four levels deep. A payload is read
back by a reader of such fields, and its last field is the checksum of all the others.
-/

namespace ApiBank.Qr

open ApiBank.Text
open Tlv (encodeAll encodePair descend lookup)

set_option autoImplicit false

def tlv (tag value : String) : String := tag ++ padded 10 2 value.length ++ value

/-- The keyword arguments of `generate_vietqr_payload`. -/
structure Transfer where
  bankBin : String
  accountNo : String
  amountVnd : Int
  content : String
deriving DecidableEq

def payloadWithoutCrc (transfer : Transfer) (amount : String) : String :=
  let beneficiary := tlv "00" "A000000727" ++
    tlv "01" (tlv "00" transfer.bankBin ++ tlv "01" transfer.accountNo)
  let merchantAccount := tlv "38" beneficiary
  let additionalData := tlv "62" (tlv "08" transfer.content)
  String.join [tlv "00" "01", tlv "01" "11", merchantAccount, tlv "53" "704", tlv "54" amount,
    tlv "58" "VN", additionalData, "6304"]

/-- `None` where `str` raises `ValueError` or the checksum `UnicodeEncodeError`. -/
def generateVietqrPayload (interpreter : Interpreter) (transfer : Transfer) : Option String := do
  let amount ← interpreter.str transfer.amountVnd
  let payload := payloadWithoutCrc transfer amount
  let crc ← crc16CcittFalse payload
  some (payload ++ crc)

/-- The inputs that a payload is made of. `BankAccount.account_no` has 64 characters. -/
structure Transfer.Admitted (transfer : Transfer) : Prop where
  binDigits : transfer.bankBin.toList.all Char.isDigit = true
  binLength : transfer.bankBin.length = 6
  accountAscii : IsAscii transfer.accountNo.toList
  accountLength : transfer.accountNo.length ≤ 64
  amountNonneg : 0 ≤ transfer.amountVnd
  amountBound : transfer.amountVnd < 10 ^ 18
  contentAscii : IsAscii transfer.content.toList
  contentLength : transfer.content.length ≤ 95

/-- What `tlv` writes in front of fields is a field of the reader. -/
theorem tlv_append {tag value : String} {number : Fin 100} {text rest : List Char}
    {short : text.length < 100} {others : List Tlv.Field}
    (tagShown : tag.toList = encodePair number)
    (valueShown : value.toList = text) (restShown : rest = encodeAll others) :
    (tlv tag value).toList ++ rest = encodeAll (⟨number, text, short⟩ :: others) := by
  subst valueShown
  rw [tlv, String.toList_append, String.toList_append, tagShown, List.append_assoc,
    List.append_assoc, restShown, ← String.length_toList]
  simp only [encodeAll, List.flatMap_cons, Tlv.Field.encode, List.append_assoc]
  rfl

theorem isAscii_append {first second : List Char} :
    IsAscii (first ++ second) ↔ IsAscii first ∧ IsAscii second := by
  simp only [IsAscii, List.all_append, Bool.and_eq_true]

theorem ascii_of_isDigit {char : Char} (digit : char.isDigit = true) : char.toNat < 128 :=
  (Char.isDigit_iff_toNat.mp digit).2.trans_lt (by decide)

theorem isAscii_of_digits {text : List Char} (digits : ∀ char ∈ text, char.isDigit = true) :
    IsAscii text :=
  List.all_eq_true.mpr fun char member => decide_eq_true (ascii_of_isDigit (digits char member))

theorem isAscii_tlv {tag value : String} :
    IsAscii (tlv tag value).toList ↔ IsAscii tag.toList ∧ IsAscii value.toList := by
  have length : IsAscii (padded 10 2 value.length).toList :=
    isAscii_of_digits fun char member => isDigit_of_mem_padded member
  simp [tlv, isAscii_append, length]

namespace Transfer

variable {transfer : Transfer}

theorem Admitted.toList_amount (admitted : transfer.Admitted) :
    (toString transfer.amountVnd).toList = Nat.toDigits 10 transfer.amountVnd.natAbs := by
  rw [Interpreter.toList_toString, if_neg (not_lt.mpr admitted.amountNonneg)]

theorem Admitted.length_amount (admitted : transfer.Admitted) :
    (toString transfer.amountVnd).toList.length ≤ 18 := by
  have bound := admitted.amountBound
  have nonneg := admitted.amountNonneg
  rw [admitted.toList_amount]
  exact (Nat.length_toDigits_le_iff (by decide) (by decide)).mpr (by omega)

theorem Admitted.str_amount {interpreter : Interpreter}
    (limit : interpreter.maxStrDigits = 0 ∨ 640 ≤ interpreter.maxStrDigits)
    (admitted : transfer.Admitted) :
    interpreter.str transfer.amountVnd = some (toString transfer.amountVnd) := by
  have length := admitted.length_amount
  rw [admitted.toList_amount] at length
  apply if_pos
  exact limit.imp_right fun most => by omega

theorem Admitted.isAscii_payload (admitted : transfer.Admitted) :
    IsAscii (payloadWithoutCrc transfer (toString transfer.amountVnd)).toList := by
  have bin : IsAscii transfer.bankBin.toList :=
    isAscii_of_digits (List.all_eq_true.mp admitted.binDigits)
  have amount : IsAscii (toString transfer.amountVnd).toList := by
    rw [admitted.toList_amount]
    exact isAscii_of_digits fun char member =>
      Nat.isDigit_of_mem_toDigits (by decide) (by decide) member
  have constants : ∀ text ∈ ["00", "01", "11", "38", "A000000727", "53", "704", "54", "58", "VN",
      "62", "08", "6304", ""], IsAscii text.toList := by
    decide
  simp only [List.forall_mem_cons] at constants
  simp only [payloadWithoutCrc, String.toList_join, List.flatMap_cons, List.flatMap_nil,
    String.toList_append, isAscii_append, isAscii_tlv, constants, bin, amount,
    admitted.accountAscii, admitted.contentAscii, and_self, true_and]
  decide

def accountFields (admitted : transfer.Admitted) : List Tlv.Field :=
  [⟨0, transfer.bankBin.toList, by
      have length := admitted.binLength
      rw [String.length_toList]
      omega⟩,
    ⟨1, transfer.accountNo.toList, by
      have length := admitted.accountLength
      rw [String.length_toList]
      omega⟩]

theorem length_accountFields (admitted : transfer.Admitted) :
    (encodeAll (accountFields admitted)).length ≤ 78 := by
  have bin := admitted.binLength
  have account := admitted.accountLength
  simp only [encodeAll, accountFields, List.flatMap_cons, List.flatMap_nil, List.length_append,
    List.length_nil, Tlv.length_encode, String.length_toList]
  omega

def beneficiaryFields (admitted : transfer.Admitted) : List Tlv.Field :=
  [⟨0, "A000000727".toList, by decide⟩,
    ⟨1, encodeAll (accountFields admitted),
      (length_accountFields admitted).trans_lt (by decide)⟩]

theorem length_beneficiaryFields (admitted : transfer.Admitted) :
    (encodeAll (beneficiaryFields admitted)).length ≤ 96 := by
  have account := length_accountFields admitted
  have authority : "A000000727".toList.length = 10 := by decide
  simp only [encodeAll, beneficiaryFields, List.flatMap_cons, List.flatMap_nil, List.length_append,
    List.length_nil, Tlv.length_encode, authority] at account ⊢
  omega

def additionalFields (admitted : transfer.Admitted) : List Tlv.Field :=
  [⟨8, transfer.content.toList, by
    have length := admitted.contentLength
    rw [String.length_toList]
    omega⟩]

theorem length_additionalFields (admitted : transfer.Admitted) :
    (encodeAll (additionalFields admitted)).length ≤ 99 := by
  have content := admitted.contentLength
  simp only [encodeAll, additionalFields, List.flatMap_cons, List.flatMap_nil, List.length_append,
    List.length_nil, Tlv.length_encode, String.length_toList]
  omega

/-- The fields of a whole payload. -/
def fields (admitted : transfer.Admitted) (crc : List Char) (four : crc.length = 4) :
    List Tlv.Field :=
  [⟨0, "01".toList, by decide⟩, ⟨1, "11".toList, by decide⟩,
    ⟨38, encodeAll (beneficiaryFields admitted),
      (length_beneficiaryFields admitted).trans_lt (by decide)⟩,
    ⟨53, "704".toList, by decide⟩,
    ⟨54, (toString transfer.amountVnd).toList, admitted.length_amount.trans_lt (by decide)⟩,
    ⟨58, "VN".toList, by decide⟩,
    ⟨62, encodeAll (additionalFields admitted),
      (length_additionalFields admitted).trans_lt (by decide)⟩,
    ⟨63, crc, by omega⟩]

theorem toList_account (admitted : transfer.Admitted) :
    (tlv "00" transfer.bankBin ++ tlv "01" transfer.accountNo).toList =
      encodeAll (accountFields admitted) := by
  rw [String.toList_append, ← List.append_nil (tlv "01" transfer.accountNo).toList]
  apply tlv_append (by decide) rfl
  exact tlv_append (by decide) rfl rfl

theorem toList_beneficiary (admitted : transfer.Admitted) :
    (tlv "00" "A000000727" ++
      tlv "01" (tlv "00" transfer.bankBin ++ tlv "01" transfer.accountNo)).toList =
        encodeAll (beneficiaryFields admitted) := by
  rw [String.toList_append, ← List.append_nil (tlv "01" (_ ++ _)).toList]
  apply tlv_append (by decide) rfl
  exact tlv_append (by decide) (toList_account admitted) rfl

theorem toList_additional (admitted : transfer.Admitted) :
    (tlv "08" transfer.content).toList = encodeAll (additionalFields admitted) := by
  rw [← List.append_nil (tlv "08" transfer.content).toList]
  exact tlv_append (by decide) rfl rfl

/-- The tag of the checksum and its length stand before it already. -/
theorem checksum_field {crc : String} (four : crc.toList.length = 4) :
    "6304".toList ++ crc.toList = (tlv "63" crc).toList := by
  have length : crc.length = 4 := four
  have front : "6304" = "63" ++ padded 10 2 4 := by decide
  rw [tlv, length, String.toList_append, front]

theorem toList_payload (admitted : transfer.Admitted) {crc : String}
    (four : crc.toList.length = 4) :
    (payloadWithoutCrc transfer (toString transfer.amountVnd) ++ crc).toList =
      encodeAll (fields admitted crc.toList four) := by
  simp only [payloadWithoutCrc, String.toList_join, String.toList_append, List.flatMap_cons,
    List.flatMap_nil, List.append_nil, List.append_assoc, checksum_field four]
  apply tlv_append (by decide) rfl
  apply tlv_append (by decide) rfl
  apply tlv_append (by decide) (toList_beneficiary admitted)
  apply tlv_append (by decide) rfl
  apply tlv_append (by decide) rfl
  apply tlv_append (by decide) rfl
  apply tlv_append (by decide) (toList_additional admitted)
  rw [← List.append_nil (tlv "63" crc).toList]
  exact tlv_append (by decide) rfl rfl

end Transfer

/-- What a reader of fields finds in a payload. -/
structure Tells (interpreter : Interpreter) (payload : String) (transfer : Transfer) : Prop where
  bankBin : descend [38, 1, 0] payload.toList = some transfer.bankBin.toList
  accountNo : descend [38, 1, 1] payload.toList = some transfer.accountNo.toList
  amountVnd : (descend [54] payload.toList).bind (fun text => interpreter.int (.ofList text)) =
    some transfer.amountVnd
  content : descend [62, 8] payload.toList = some transfer.content.toList

theorem Tells.unique {interpreter : Interpreter} {payload : String} {transfer other : Transfer}
    (tells : Tells interpreter payload transfer) (again : Tells interpreter payload other) :
    other = transfer := by
  have bankBin := Option.some.inj (again.bankBin.symm.trans tells.bankBin)
  have accountNo := Option.some.inj (again.accountNo.symm.trans tells.accountNo)
  have amountVnd := Option.some.inj (again.amountVnd.symm.trans tells.amountVnd)
  have content := Option.some.inj (again.content.symm.trans tells.content)
  cases transfer
  cases other
  rw [Transfer.mk.injEq]
  exact ⟨String.toList_injective bankBin, String.toList_injective accountNo, amountVnd,
    String.toList_injective content⟩

variable {interpreter : Interpreter} {transfer : Transfer}

theorem generateVietqrPayload_eq
    (limit : interpreter.maxStrDigits = 0 ∨ 640 ≤ interpreter.maxStrDigits)
    (admitted : transfer.Admitted) :
    ∃ crc : String, crc.toList.length = 4 ∧
      crc16CcittFalse (payloadWithoutCrc transfer (toString transfer.amountVnd)) = some crc ∧
        generateVietqrPayload interpreter transfer =
          some (payloadWithoutCrc transfer (toString transfer.amountVnd) ++ crc) := by
  have checked := crc16_of_ascii admitted.isAscii_payload
  refine ⟨_, length_upperHex (crcRegister_lt _), checked, ?_⟩
  simp only [generateVietqrPayload, admitted.str_amount limit, Option.bind_eq_bind,
    Option.bind_some, checked]

theorem tells_of_fields
    (limit : interpreter.maxStrDigits = 0 ∨ 640 ≤ interpreter.maxStrDigits)
    (admitted : transfer.Admitted) {payload : String} {crc : List Char} {four : crc.length = 4}
    (shown : payload.toList = encodeAll (transfer.fields admitted crc four)) :
    Tells interpreter payload transfer where
  bankBin := by
    rw [shown, Tlv.descend_encodeAll rfl, Tlv.descend_encodeAll rfl, Tlv.descend_encodeAll rfl]
    rfl
  accountNo := by
    rw [shown, Tlv.descend_encodeAll rfl, Tlv.descend_encodeAll rfl, Tlv.descend_encodeAll rfl]
    rfl
  amountVnd := by
    have read := interpreter.int_of_str (admitted.str_amount limit)
    rw [shown, Tlv.descend_encodeAll rfl, descend, Option.bind_some, String.ofList_toList, read]
  content := by
    rw [shown, Tlv.descend_encodeAll rfl, Tlv.descend_encodeAll rfl]
    rfl

/-- A reader of fields uses up a payload, finds the four inputs in it, and finds the checksum of
everything before it at the end. So no other inputs have this payload. -/
theorem vietqr_payload_parses_back (interpreter : Interpreter)
    (limit : interpreter.maxStrDigits = 0 ∨ 640 ≤ interpreter.maxStrDigits) (transfer : Transfer)
    (admitted : transfer.Admitted) :
    ∃ payload front crc, generateVietqrPayload interpreter transfer = some payload ∧
      (Tlv.parse payload.toList).map (List.map Tlv.Field.tag) =
        some [0, 1, 38, 53, 54, 58, 62, 63] ∧
      Tells interpreter payload transfer ∧
      payload = front ++ crc ∧ descend [63] payload.toList = some crc.toList ∧
        crc16CcittFalse front = some crc ∧
      ∀ other : Transfer, other.Admitted →
        generateVietqrPayload interpreter other = some payload → other = transfer := by
  obtain ⟨crc, four, checked, generated⟩ := generateVietqrPayload_eq limit admitted
  have shown := transfer.toList_payload admitted four
  have tells := tells_of_fields limit admitted shown
  refine ⟨_, _, crc, generated, ?_, tells, rfl, ?_, checked, ?_⟩
  · rw [shown, Tlv.parse_encodeAll]
    rfl
  · rw [shown, Tlv.descend_encodeAll rfl]
    rfl
  · intro other otherAdmitted same
    obtain ⟨otherCrc, otherFour, -, otherGenerated⟩ :=
      generateVietqrPayload_eq limit otherAdmitted
    rw [otherGenerated, Option.some.injEq] at same
    have again := tells_of_fields limit otherAdmitted (other.toList_payload otherAdmitted otherFour)
    rw [same] at again
    exact tells.unique again

/-- A content that looks like fields itself. -/
def nestedContent : Transfer where
  bankBin := "970422"
  accountNo := "0011223344"
  amountVnd := 50000
  content := "0806NDCHUYEN6304ABCD"

theorem nested_content_parses_back : ∃ payload,
    generateVietqrPayload .ascii nestedContent = some payload ∧
      Tells .ascii payload nestedContent := by
  have admitted : nestedContent.Admitted := by
    constructor <;> decide
  obtain ⟨payload, front, crc, generated, -, tells, -⟩ :=
    vietqr_payload_parses_back .ascii (by decide) nestedContent admitted
  exact ⟨payload, generated, tells⟩

end ApiBank.Qr
