import ApiBank.Numeric.BinaryPolynomials
import Mathlib.Algebra.Polynomial.FieldDivision
import Mathlib.Algebra.Polynomial.RingDivision
import Mathlib.RingTheory.Ideal.Quotient.Basic
import Mathlib.RingTheory.PrincipalIdealDomain

/-!
# Cyclic redundancy checks

A register of some width is shifted to the left, bit by bit, and the tail of a generator is
added for every bit that leaves it. Bytes are added to its highest places. The register is the
remainder of the message, and a remainder that ends in one detects every changed byte.
-/

namespace ApiBank.Numeric.Crc

open Polynomial

set_option autoImplicit false

section Register

variable (width tail : ℕ)

noncomputable def generator : Binary := X ^ width + binary tail

def shiftBit (register : ℕ) : ℕ :=
  (if register &&& 2 ^ (width - 1) ≠ 0 then (register <<< 1) ^^^ tail else register <<< 1) &&&
    (2 ^ width - 1)

def shiftByte (register byte : ℕ) : ℕ :=
  (shiftBit width tail)^[8] (register ^^^ (byte <<< (width - 8)))

def checksum (start : ℕ) (bytes : List ℕ) : ℕ := bytes.foldl (shiftByte width tail) start

end Register

/-- The lowest bits, the most significant of them first. -/
def bitsOf (count number : ℕ) : List Bool := (List.range count).reverse.map number.testBit

/-- A string of bits as a polynomial, the first bit weighing most. -/
noncomputable def ofBits : List Bool → Binary
  | [] => 0
  | bit :: rest => (if bit then X ^ rest.length else 0) + ofBits rest

theorem ofBits_append (first rest : List Bool) :
    ofBits (first ++ rest) = ofBits first * X ^ rest.length + ofBits rest := by
  induction first with
  | nil => simp [ofBits]
  | cons bit first ih =>
      rw [List.cons_append, ofBits, ofBits, ih, List.length_append]
      split <;> ring

@[simp] theorem length_bitsOf (count number : ℕ) : (bitsOf count number).length = count := by
  simp [bitsOf]

theorem ofBits_bitsOf (count number : ℕ) :
    ofBits (bitsOf count number) = binary (number % 2 ^ count) := by
  induction count with
  | zero => simp [bitsOf, ofBits, Nat.mod_one]
  | succ count ih =>
      have split : bitsOf (count + 1) number = number.testBit count :: bitsOf count number := by
        simp [bitsOf, List.range_succ]
      rw [split, ofBits, ih, length_bitsOf, binary_mod_succ, add_comm]

def bitString (bytes : List ℕ) : List Bool := bytes.flatMap (bitsOf 8)

theorem length_bitString (bytes : List ℕ) : (bitString bytes).length = 8 * bytes.length := by
  induction bytes with
  | nil => rfl
  | cons byte rest ih =>
      have split : bitString (byte :: rest) = bitsOf 8 byte ++ bitString rest := rfl
      rw [split, List.length_append, length_bitsOf, ih, List.length_cons]
      ring

theorem ofBits_bitString_cons {byte : ℕ} (bound : byte < 2 ^ 8) (rest : List ℕ) :
    ofBits (bitString (byte :: rest)) =
      binary byte * X ^ (8 * rest.length) + ofBits (bitString rest) := by
  have split : bitString (byte :: rest) = bitsOf 8 byte ++ bitString rest := rfl
  rw [split, ofBits_append, ofBits_bitsOf, Nat.mod_eq_of_lt bound, length_bitString]

section Remainder

variable {width tail : ℕ}

theorem monic_generator (bound : tail < 2 ^ width) : (generator width tail).Monic :=
  monic_X_pow_add (degree_binary_lt bound)

theorem degree_generator (bound : tail < 2 ^ width) :
    (generator width tail).degree = width := by
  rw [generator, degree_add_eq_left_of_degree_lt, degree_X_pow]
  rw [degree_X_pow]
  exact degree_binary_lt bound

theorem shiftBit_lt (register : ℕ) : shiftBit width tail register < 2 ^ width :=
  Nat.and_lt_two_pow _ (Nat.sub_lt (Nat.two_pow_pos width) Nat.one_pos)

/-- The classes of the polynomials that have one remainder. -/
noncomputable abbrev residue (width tail : ℕ) :
    Binary →+* Binary ⧸ Ideal.span {generator width tail} :=
  Ideal.Quotient.mk _

theorem residue_eq_iff {polynomial other : Binary} :
    residue width tail polynomial = residue width tail other ↔
      generator width tail ∣ polynomial - other := by
  rw [Ideal.Quotient.eq, Ideal.mem_span_singleton]

theorem and_top_ne_zero_iff (register place : ℕ) :
    register &&& 2 ^ place ≠ 0 ↔ register.testBit place = true := by
  rw [Nat.and_two_pow]
  cases register.testBit place <;> simp

/-- A shift multiplies by the indeterminate. -/
theorem residue_shiftBit (positive : 0 < width) (bound : tail < 2 ^ width) {register : ℕ}
    (small : register < 2 ^ width) :
    residue width tail (binary (shiftBit width tail register)) =
      residue width tail (binary register * X) := by
  have top : ∀ shifted : ℕ, shifted < 2 ^ (width + 1) →
      binary (shifted &&& (2 ^ width - 1)) =
        binary shifted + if shifted.testBit width then X ^ width else 0 := by
    intro shifted fits
    have apart := binary_mod_succ shifted width
    rw [Nat.mod_eq_of_lt fits] at apart
    rw [Nat.and_two_pow_sub_one_eq_mod, apart, add_assoc, binary_add_self, add_zero]
  have fits : register <<< 1 < 2 ^ (width + 1) := by
    rw [Nat.shiftLeft_eq, pow_one, pow_succ 2 width]
    exact Nat.mul_lt_mul_of_pos_right small two_pos
  have tailFits : tail < 2 ^ (width + 1) :=
    bound.trans (Nat.pow_lt_pow_right (by decide) (Nat.lt_succ_self width))
  have shiftedTop : (register <<< 1).testBit width = register.testBit (width - 1) := by
    rw [Nat.testBit_shiftLeft, decide_eq_true (Nat.succ_le_of_lt positive), Bool.true_and]
  have tailTop : tail.testBit width = false := Nat.testBit_lt_two_pow bound
  rw [residue_eq_iff, shiftBit]
  by_cases leaves : register.testBit (width - 1) = true
  · rw [if_pos ((and_top_ne_zero_iff register (width - 1)).mpr leaves),
      top _ (Nat.xor_lt_two_pow fits tailFits), Nat.testBit_xor, shiftedTop, tailTop, leaves,
      binary_xor, binary_shiftLeft, pow_one]
    refine ⟨1, ?_⟩
    simp only [Bool.bne_false, if_true, generator]
    ring
  · rw [if_neg fun above => leaves ((and_top_ne_zero_iff register (width - 1)).mp above),
      top _ fits, shiftedTop, if_neg leaves, binary_shiftLeft, pow_one, add_zero, sub_self]
    exact dvd_zero _

/-- What the first bits of a byte make of a register. -/
theorem iterate_shiftBit_lt {register : ℕ} (small : register < 2 ^ width) (count : ℕ) :
    (shiftBit width tail)^[count] register < 2 ^ width := by
  cases count with
  | zero => exact small
  | succ count =>
      rw [Function.iterate_succ_apply']
      exact shiftBit_lt _

theorem residue_iterate (positive : 0 < width) (bound : tail < 2 ^ width) {register : ℕ}
    (small : register < 2 ^ width) (count : ℕ) :
    residue width tail (binary ((shiftBit width tail)^[count] register)) =
      residue width tail (binary register * X ^ count) := by
  induction count with
  | zero => simp
  | succ count ih =>
      rw [Function.iterate_succ_apply',
        residue_shiftBit positive bound (iterate_shiftBit_lt small count), map_mul, ih, ← map_mul,
        mul_assoc, ← pow_succ]

/-- A byte of at most eight bits at the top of a register stays inside it. -/
theorem added_lt (wide : 8 ≤ width) {register byte : ℕ} (small : register < 2 ^ width)
    (byteBound : byte < 2 ^ 8) : register ^^^ (byte <<< (width - 8)) < 2 ^ width := by
  apply Nat.xor_lt_two_pow small
  have whole : 2 ^ width = 2 ^ 8 * 2 ^ (width - 8) := by
    rw [← pow_add]
    congr 1
    omega
  rw [Nat.shiftLeft_eq, whole]
  exact Nat.mul_lt_mul_of_pos_right byteBound (Nat.two_pow_pos _)

theorem residue_shiftByte (wide : 8 ≤ width) (bound : tail < 2 ^ width) {register byte : ℕ}
    (small : register < 2 ^ width) (byteBound : byte < 2 ^ 8) :
    residue width tail (binary (shiftByte width tail register byte)) =
      residue width tail (binary register * X ^ 8 + binary byte * X ^ width) := by
  have places : (X : Binary) ^ width = X ^ (width - 8) * X ^ 8 := by
    rw [← pow_add]
    congr 1
    omega
  rw [shiftByte, residue_iterate (by omega) bound (added_lt wide small byteBound), binary_xor,
    binary_shiftLeft, places]
  exact congrArg _ (by ring)

theorem checksum_lt {start : ℕ} (small : start < 2 ^ width) (bytes : List ℕ) :
    checksum width tail start bytes < 2 ^ width := by
  induction bytes generalizing start with
  | nil => exact small
  | cons byte rest ih =>
      apply ih
      rw [shiftByte, Function.iterate_succ_apply']
      exact shiftBit_lt _

theorem residue_checksum (wide : 8 ≤ width) (bound : tail < 2 ^ width) {start : ℕ}
    (small : start < 2 ^ width) {bytes : List ℕ} (octets : ∀ byte ∈ bytes, byte < 2 ^ 8) :
    residue width tail (binary (checksum width tail start bytes)) =
      residue width tail (binary start * X ^ (8 * bytes.length) +
        ofBits (bitString bytes) * X ^ width) := by
  induction bytes generalizing start with
  | nil => simp [checksum, bitString, ofBits]
  | cons byte rest ih =>
      have byteBound := octets byte List.mem_cons_self
      have next : shiftByte width tail start byte < 2 ^ width := by
        rw [shiftByte, Function.iterate_succ_apply']
        exact shiftBit_lt _
      have later := ih next fun other member => octets other (List.mem_cons_of_mem byte member)
      rw [checksum, List.foldl_cons, ← checksum, later, map_add, map_mul,
        residue_shiftByte wide bound small byteBound, ofBits_bitString_cons byteBound]
      simp only [← map_mul, ← map_add, List.length_cons]
      exact congrArg _ (by ring)

/-- The register is the remainder of the message, with the first register in front of it. -/
theorem checksum_eq_remainder (wide : 8 ≤ width) (bound : tail < 2 ^ width) {start : ℕ}
    (small : start < 2 ^ width) {bytes : List ℕ} (octets : ∀ byte ∈ bytes, byte < 2 ^ 8) :
    binary (checksum width tail start bytes) =
      (binary start * X ^ (8 * bytes.length) + ofBits (bitString bytes) * X ^ width) %ₘ
        generator width tail := by
  have divides := residue_eq_iff.mp (residue_checksum wide bound small octets)
  have monic := monic_generator bound
  have short : (binary (checksum width tail start bytes)).degree <
      (generator width tail).degree := by
    rw [degree_generator bound]
    exact degree_binary_lt (checksum_lt small bytes)
  rw [← (modByMonic_eq_self_iff monic).mpr short]
  exact modByMonic_eq_of_dvd_sub monic divides

/-- A generator that ends in one has no factor in common with the indeterminate. -/
theorem coprime_generator (positive : 0 < width) (odd : tail.testBit 0 = true) (count : ℕ) :
    IsCoprime (generator width tail) (X ^ count) := by
  apply IsCoprime.pow_right
  apply IsCoprime.symm
  rw [(irreducible_X (R := ZMod 2)).coprime_iff_not_dvd, X_dvd_iff, generator, coeff_add,
    coeff_binary, odd, coeff_X_pow, if_neg (Nat.ne_of_lt positive)]
  simp

theorem checksum_append (start : ℕ) (first rest : List ℕ) :
    checksum width tail start (first ++ rest) =
      checksum width tail (checksum width tail start first) rest :=
  List.foldl_append

/-- A multiple of the generator by powers of the indeterminate is no small number, unless it
is zero. -/
theorem eq_zero_of_dvd_shifted (positive : 0 < width) (bound : tail < 2 ^ width)
    (odd : tail.testBit 0 = true) {number count : ℕ} (small : number < 2 ^ width)
    (divides : generator width tail ∣ binary number * X ^ count) : number = 0 := by
  have own := (coprime_generator positive odd count).dvd_of_dvd_mul_right divides
  have zero : binary number = 0 := by
    apply eq_zero_of_dvd_of_degree_lt own
    rw [degree_generator bound]
    exact degree_binary_lt small
  exact binary_injective (zero.trans binary_zero.symm)

theorem checksum_detects (wide : 8 ≤ width) (bound : tail < 2 ^ width)
    (odd : tail.testBit 0 = true) {start : ℕ} (small : start < 2 ^ width) (before : List ℕ)
    {after : List ℕ} {byte other : ℕ} (octet : byte < 2 ^ 8) (otherOctet : other < 2 ^ 8)
    (octets : ∀ octet ∈ after, octet < 2 ^ 8) (differ : byte ≠ other) :
    checksum width tail start (before ++ byte :: after) ≠
      checksum width tail start (before ++ other :: after) := by
  intro same
  rw [checksum_append, checksum_append] at same
  have register : checksum width tail start before < 2 ^ width := checksum_lt small before
  generalize checksum width tail start before = passed at same register
  have residues : residue width tail (binary (checksum width tail passed (byte :: after))) =
      residue width tail (binary (checksum width tail passed (other :: after))) := by
    rw [same]
  rw [residue_checksum wide bound register (List.forall_mem_cons.mpr ⟨octet, octets⟩),
    residue_checksum wide bound register (List.forall_mem_cons.mpr ⟨otherOctet, octets⟩),
    residue_eq_iff, ofBits_bitString_cons octet, ofBits_bitString_cons otherOctet,
    List.length_cons, List.length_cons] at residues
  have difference : generator width tail ∣
      binary (byte ^^^ other) * X ^ (8 * after.length + width) := by
    have sum : binary (byte ^^^ other) = binary byte - binary other := by
      rw [binary_xor, sub_eq_add_neg, neg_eq_of_add_eq_zero_left (binary_add_self _)]
    convert residues using 1
    rw [sum]
    ring
  have small : byte ^^^ other < 2 ^ width :=
    (Nat.xor_lt_two_pow octet otherOctet).trans_le (Nat.pow_le_pow_right two_pos wide)
  have none := eq_zero_of_dvd_shifted (by omega) bound odd small difference
  exact differ (Nat.xor_eq_zero_iff.mp none)

end Remainder

end ApiBank.Numeric.Crc
