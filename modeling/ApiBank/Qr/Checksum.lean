import ApiBank.Numeric.Crc
import ApiBank.Text.Hexadecimal

/-!
# The checksum of a VietQR payload

`crc16_ccitt_false` works on a register of sixteen bits. It is the remainder of the text
modulo the generator of CRC-16/CCITT-FALSE, in four hexadecimal digits.
-/

namespace ApiBank.Qr

open ApiBank.Numeric ApiBank.Text
open Polynomial

set_option autoImplicit false

/-- The body of the inner loop. -/
def crcBit (crc : Nat) : Nat :=
  (if crc &&& 0x8000 ≠ 0 then (crc <<< 1) ^^^ 0x1021 else crc <<< 1) &&& 0xFFFF

/-- The body of the outer loop. -/
def crcByte (crc byte : Nat) : Nat := crcBit^[8] (crc ^^^ (byte <<< 8))

def crcRegister (bytes : List Nat) : Nat := bytes.foldl crcByte 0xFFFF

def IsAscii (value : List Char) : Prop := value.all (fun char => char.toNat < 128) = true

instance (value : List Char) : Decidable (IsAscii value) := inferInstanceAs (Decidable (_ = _))

/-- `value.encode("ascii")`, or `None` where it raises `UnicodeEncodeError`. -/
def encodeAscii (value : String) : Option (List Nat) :=
  if IsAscii value.toList then some (value.toList.map Char.toNat) else none

def crc16CcittFalse (value : String) : Option String :=
  (encodeAscii value).map fun bytes => upperHex (crcRegister bytes)

example : crc16CcittFalse "123456789" = some "29B1" := by decide +kernel

theorem crcBit_eq : crcBit = Crc.shiftBit 16 0x1021 := rfl

theorem crcRegister_eq (bytes : List Nat) :
    crcRegister bytes = Crc.checksum 16 0x1021 0xFFFF bytes := rfl

noncomputable def ccittGenerator : Binary := X ^ 16 + X ^ 12 + X ^ 5 + 1

theorem generator_eq : Crc.generator 16 0x1021 = ccittGenerator := by
  have one : binary 1 = 1 := by
    simp [binary]
  have tail : (0x1021 : Nat) = (1 <<< 12) ^^^ ((1 <<< 5) ^^^ 1) := by decide
  rw [Crc.generator, tail, binary_xor, binary_xor, binary_shiftLeft, binary_shiftLeft, one,
    ccittGenerator]
  ring

theorem ascii_of_mem {value : List Char} (ascii : IsAscii value) {char : Char}
    (member : char ∈ value) : char.toNat < 128 :=
  of_decide_eq_true (List.all_eq_true.mp ascii char member)

theorem octets_of_ascii {value : List Char} (ascii : IsAscii value) :
    ∀ byte ∈ value.map Char.toNat, byte < 2 ^ 8 := by
  intro byte member
  obtain ⟨char, listed, rfl⟩ := List.mem_map.mp member
  exact (ascii_of_mem ascii listed).trans (by decide)

theorem crc16_of_ascii {value : String} (ascii : IsAscii value.toList) :
    crc16CcittFalse value = some (upperHex (crcRegister (value.toList.map Char.toNat))) := by
  rw [crc16CcittFalse, encodeAscii, if_pos ascii, Option.map_some]

theorem start_lt : 0xFFFF < 2 ^ 16 := by decide

theorem tail_lt : 0x1021 < 2 ^ 16 := by decide

theorem crcRegister_lt (bytes : List Nat) : crcRegister bytes < 2 ^ 16 := by
  rw [crcRegister_eq]
  exact Crc.checksum_lt start_lt bytes

/-- The register after some bits of the next character. -/
theorem crcBit_iterate_lt (bytes : List Nat) {byte : Nat} (octet : byte < 2 ^ 8) (count : Nat) :
    crcBit^[count] (crcRegister bytes ^^^ (byte <<< 8)) < 2 ^ 16 := by
  have added : crcRegister bytes ^^^ (byte <<< (16 - 8)) < 2 ^ 16 :=
    Crc.added_lt (by decide) (crcRegister_lt bytes) octet
  rw [crcBit_eq]
  exact Crc.iterate_shiftBit_lt added count

theorem crc16_eq_remainder {value : List Char} (ascii : IsAscii value) :
    binary (crcRegister (value.map Char.toNat)) =
      (binary 0xFFFF * X ^ (8 * value.length) +
        Crc.ofBits (Crc.bitString (value.map Char.toNat)) * X ^ 16) %ₘ ccittGenerator := by
  have remainder := @Crc.checksum_eq_remainder 16 0x1021 (by decide) tail_lt 0xFFFF start_lt
    _ (octets_of_ascii ascii)
  rwa [generator_eq, List.length_map, ← crcRegister_eq] at remainder

/-- A changed character changes the checksum. -/
theorem crcRegister_detects {before after : List Char} {char other : Char}
    (ascii : IsAscii (before ++ char :: after)) (otherAscii : other.toNat < 128)
    (differ : other ≠ char) :
    crcRegister ((before ++ char :: after).map Char.toNat) ≠
      crcRegister ((before ++ other :: after).map Char.toNat) := by
  have octet : char.toNat < 2 ^ 8 := (ascii_of_mem ascii (by simp)).trans (by decide)
  have otherOctet : other.toNat < 2 ^ 8 := otherAscii.trans (by decide)
  have octets : ∀ byte ∈ after.map Char.toNat, byte < 2 ^ 8 := by
    intro byte member
    obtain ⟨later, listed, rfl⟩ := List.mem_map.mp member
    exact (ascii_of_mem ascii (by simp [listed])).trans (by decide)
  have codes : char.toNat ≠ other.toNat := fun same => differ (Char.toNat_inj.mp same).symm
  rw [List.map_append, List.map_append, List.map_cons, List.map_cons, crcRegister_eq,
    crcRegister_eq]
  exact Crc.checksum_detects (by decide) tail_lt (by decide) start_lt (before.map Char.toNat)
    octet otherOctet octets codes

theorem isAscii_replaced {before after : List Char} {char other : Char}
    (ascii : IsAscii (before ++ char :: after)) (otherAscii : other.toNat < 128) :
    IsAscii (before ++ other :: after) := by
  simp only [IsAscii, List.all_append, List.all_cons, Bool.and_eq_true] at ascii ⊢
  exact ⟨ascii.1, decide_eq_true otherAscii, ascii.2.2⟩

/-- The checksum of an ASCII text is the remainder of its bit string, behind the register that
the computation starts with, in four upper-case hexadecimal digits. The register keeps to
sixteen bits throughout, and every changed character changes the result. -/
theorem crc16_is_remainder (value : String) (ascii : IsAscii value.toList) :
    (∃ remainder, remainder < 2 ^ 16 ∧ crc16CcittFalse value = some (upperHex remainder) ∧
      (upperHex remainder).toList.length = 4 ∧
        binary remainder = (binary 0xFFFF * X ^ (8 * value.toList.length) +
          Crc.ofBits (Crc.bitString (value.toList.map Char.toNat)) * X ^ 16) %ₘ
            ccittGenerator) ∧
    (∀ before char after, value.toList = before ++ char :: after → ∀ count,
      crcBit^[count] (crcRegister (before.map Char.toNat) ^^^ (char.toNat <<< 8)) < 2 ^ 16) ∧
    ∀ before char after, value.toList = before ++ char :: after → ∀ other : Char,
      other.toNat < 128 → other ≠ char →
        crc16CcittFalse value ≠ crc16CcittFalse (.ofList (before ++ other :: after)) := by
  refine ⟨?_, ?_, ?_⟩
  · have small := crcRegister_lt (value.toList.map Char.toNat)
    exact ⟨_, small, crc16_of_ascii ascii, length_upperHex small, crc16_eq_remainder ascii⟩
  · intro before char after parts count
    rw [parts] at ascii
    exact crcBit_iterate_lt _ ((ascii_of_mem ascii (by simp)).trans (by decide)) count
  · intro before char after parts other otherAscii differ same
    rw [crc16_of_ascii ascii, parts] at same
    rw [parts] at ascii
    have replaced : IsAscii (String.ofList (before ++ other :: after)).toList := by
      rw [String.toList_ofList]
      exact isAscii_replaced ascii otherAscii
    rw [crc16_of_ascii replaced, String.toList_ofList] at same
    exact crcRegister_detects ascii otherAscii differ (upperHex_injective (Option.some.inj same))

/-- The digits from one to nine, with the third of them changed. -/
theorem changed_digit_is_detected :
    crc16CcittFalse "123456789" ≠ crc16CcittFalse (.ofList "127456789".toList) := by
  exact (crc16_is_remainder "123456789" (by decide)).2.2 ['1', '2'] '3' "456789".toList rfl '7'
    (by decide) (by decide)

end ApiBank.Qr
