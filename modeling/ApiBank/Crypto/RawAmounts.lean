import ApiBank.Crypto.Watchers
import ApiBank.Numeric.Digits
import ApiBank.Text.Hexadecimal

/-!
# Raw amounts

`raw_to_decimal` of both watchers: a quantity as the chain reports it is divided by the
power of ten of its token. The division has the digits of the decimal context, twenty-eight,
and a quantity may have seventy-eight.
-/

namespace ApiBank.Crypto.RawAmounts

open ApiBank.Numeric ApiBank.Text Watchers

set_option autoImplicit false

/-- `int | str`. -/
inductive Raw where
  | int (value : Int)
  | str (text : String)
deriving DecidableEq, Repr

def Raw.hexadecimal : Raw → Bool
  | .int _ => false
  | .str text => "0x".toList.isPrefixOf text.toList

section Conversions

variable (interpreter : Interpreter)

/-- `int(raw)`. -/
def toInt : Raw → Option Int
  | .int value => some value
  | .str text => interpreter.int text

/-- `int(raw, 16)` of a text with the prefix and `int(raw)` of everything else. -/
def evmToInt (raw : Raw) : Option Int :=
  match raw with
  | .int value => some value
  | .str text => if raw.hexadecimal then interpreter.intHex text else interpreter.int text

/-- `Decimal(value) / (Decimal(10) ** decimals)`; a power of ten has one digit. -/
def quotient (value : Int) (decimals : Nat) : ℚ :=
  significant contextDigits ((value : ℚ) / 10 ^ decimals)

/-- `raw_to_decimal` of the EVM watcher, `none` where it raises `ValueError`. -/
def evmRawToDecimal (raw : Raw) (decimals : Nat) : Option ℚ :=
  (evmToInt interpreter raw).map fun value => quotient value decimals

/-- `raw_to_decimal` of the Tron watcher. -/
def tronRawToDecimal (raw : Raw) (decimals : Nat) : Option ℚ :=
  (toInt interpreter raw).map fun value => quotient value decimals

end Conversions

/-- What the watchers record of a quantity. -/
theorem quotient_natCast (raw decimals : Nat) :
    quotient (raw : Int) decimals = rawToDecimal raw decimals := by
  rw [quotient, rawToDecimal, Int.cast_natCast]

theorem quotient_exact_iff {value : Int} {decimals : Nat} :
    quotient value decimals * 10 ^ decimals = value ↔ HasDigits contextDigits value := by
  have scale : (10 : ℚ) ^ decimals ≠ 0 := by positivity
  rw [quotient, ← eq_div_iff scale]
  exact significant_exact_iff

/-- Quantities with few digits have different quotients. -/
theorem quotient_injective {first second : Int} {decimals : Nat}
    (short : HasDigits contextDigits first) (otherShort : HasDigits contextDigits second)
    (same : quotient first decimals = quotient second decimals) : first = second := by
  have kept : quotient first decimals * 10 ^ decimals = first := quotient_exact_iff.mpr short
  have otherKept : quotient second decimals * 10 ^ decimals = second :=
    quotient_exact_iff.mpr otherShort
  rw [same, otherKept] at kept
  exact_mod_cast kept.symm

/-- The forms in which a quantity arrives: a number, decimal digits, or hexadecimal digits
with zeros in front, as in the data of a log. -/
inductive Shows (raw : Nat) : Raw → Prop where
  | int : Shows raw (.int raw)
  | decimal : Shows raw (.str (toString (raw : Int)))
  | hex (width : Nat) : Shows raw (.str ("0x" ++ padded 16 width raw))

/-- The result is the quantity in units of the token, without a loss. -/
def Exact (raw decimals : Nat) (result : Option ℚ) : Prop :=
  ∃ value, result = some value ∧ value * 10 ^ decimals = raw

section Forms

variable {interpreter : Interpreter} {raw : Nat}

theorem not_hexadecimal_of_printed (raw : Nat) :
    Raw.hexadecimal (.str (toString (raw : Int))) = false := by
  apply Bool.eq_false_iff.mpr
  intro marked
  have member : 'x' ∈ (toString (raw : Int)).toList :=
    (List.isPrefixOf_iff_prefix.mp marked).subset (by decide)
  cases Interpreter.printed_of_mem_toString member with
  | inl digit => cases digit
  | inr sign => cases sign

/-- A quantity of two hundred and fifty-six bits is within every limit on digits. -/
theorem int_toString (limit : interpreter.maxStrDigits = 0 ∨ 640 ≤ interpreter.maxStrDigits)
    (bounded : raw < 2 ^ 256) : interpreter.int (toString (raw : Int)) = some (raw : Int) := by
  apply interpreter.int_of_str
  apply if_pos
  refine limit.imp_right fun most => ?_
  have short : (Nat.toDigits 10 raw).length ≤ 78 :=
    (Nat.length_toDigits_le_iff (by decide) (by decide)).mpr (bounded.trans (by decide))
  rw [Int.natAbs_natCast]
  omega

theorem evmToInt_of_shows
    (limit : interpreter.maxStrDigits = 0 ∨ 640 ≤ interpreter.maxStrDigits)
    (bounded : raw < 2 ^ 256) {form : Raw} (shows : Shows raw form) :
    evmToInt interpreter form = some (raw : Int) := by
  cases shows with
  | int => rfl
  | decimal =>
      simp only [evmToInt, not_hexadecimal_of_printed]
      exact int_toString limit bounded
  | hex width =>
      have marked : Raw.hexadecimal (.str ("0x" ++ padded 16 width raw)) = true := by
        simp [Raw.hexadecimal]
      simp only [evmToInt, marked, if_true]
      exact interpreter.intHex_padded width raw

/-- Without the prefix both watchers read the same number. -/
theorem tron_eq_evm {form : Raw} (plain : form.hexadecimal = false) (decimals : Nat) :
    tronRawToDecimal interpreter form decimals = evmRawToDecimal interpreter form decimals := by
  cases form with
  | int value => rfl
  | str text => simp [tronRawToDecimal, evmRawToDecimal, toInt, evmToInt, plain]

theorem evm_exact_iff (limit : interpreter.maxStrDigits = 0 ∨ 640 ≤ interpreter.maxStrDigits)
    (bounded : raw < 2 ^ 256) {form : Raw} (shows : Shows raw form) (decimals : Nat) :
    Exact raw decimals (evmRawToDecimal interpreter form decimals) ↔
      HasDigits contextDigits raw := by
  have kept := @quotient_exact_iff raw decimals
  simpa [Exact, evmRawToDecimal, evmToInt_of_shows limit bounded shows] using kept

end Forms

/-- Both conversions of a quantity agree, and they are exact just when the quantity has no
more digits than the context but for zeros at the end. Such quantities stay apart. -/
theorem raw_amounts_exact_iff {interpreter : Interpreter}
    (limit : interpreter.maxStrDigits = 0 ∨ 640 ≤ interpreter.maxStrDigits) {raw : Nat}
    (bounded : raw < 2 ^ 256) (decimals : Nat) :
    (∀ form, Shows raw form → form.hexadecimal = false →
      tronRawToDecimal interpreter form decimals = evmRawToDecimal interpreter form decimals) ∧
    ((∀ form, Shows raw form → Exact raw decimals (evmRawToDecimal interpreter form decimals) ∧
        (form.hexadecimal = false →
          Exact raw decimals (tronRawToDecimal interpreter form decimals))) ↔
      HasDigits contextDigits raw) ∧
    ∀ other : Nat, other < 2 ^ 256 → HasDigits contextDigits raw → HasDigits contextDigits other →
      ∀ form otherForm, Shows raw form → Shows other otherForm →
        evmRawToDecimal interpreter form decimals =
          evmRawToDecimal interpreter otherForm decimals → raw = other := by
  refine ⟨fun form _ plain => tron_eq_evm plain decimals, ?_, ?_⟩
  · constructor
    · intro kept
      exact (evm_exact_iff limit bounded .int decimals).mp (kept _ .int).1
    · intro short form shows
      have kept := (evm_exact_iff limit bounded shows decimals).mpr short
      refine ⟨kept, fun plain => ?_⟩
      rwa [tron_eq_evm plain]
  · intro other otherBounded short otherShort form otherForm shows otherShows same
    simp only [evmRawToDecimal, evmToInt_of_shows limit bounded shows,
      evmToInt_of_shows limit otherBounded otherShows, Option.map_some] at same
    exact_mod_cast quotient_injective short otherShort (Option.some.inj same)

theorem digits_of_tenths : HasDigits contextDigits (100000000 : Nat) :=
  ⟨0, by decide, by decide⟩

/-- A hundred units of a token with six decimals. -/
theorem hundred_units_convert :
    Exact 100000000 6 (evmRawToDecimal .ascii (.str "0x5f5e100") 6) := by
  have own := (@raw_amounts_exact_iff .ascii (.inr (by decide)) 100000000
    (by decide) 6).2.1.mpr digits_of_tenths
  exact (own _ (.hex 0)).1

theorem quotient_above : quotient (10 ^ 28 + 1) 18 = quotient (10 ^ 28) 18 := by
  have tens : nearestEven (((10 ^ 28 + 1 : ℤ) : ℚ) / 10) = 10 ^ 27 := by
    have most : nearestEven (((10 ^ 28 + 1 : ℤ) : ℚ) / 10) ≤ 10 ^ 27 :=
      nearestEven_le_of_lt (by norm_num)
    have least : nearestEven (((10 ^ 27 : ℤ)) : ℚ) ≤ nearestEven (((10 ^ 28 + 1 : ℤ) : ℚ) / 10) :=
      nearestEven_mono (by norm_num)
    rw [nearestEven_intCast] at least
    omega
  have short : HasDigits contextDigits (10 ^ 28) := ⟨1, by decide, by decide⟩
  rw [quotient, quotient, significant_next 18 (by decide) (by decide), tens,
    significant_of_hasDigits 18 short]
  norm_num

/-- Ten thousand million units of a token with eighteen decimals, and one raw unit more:
the second amount is not exact and equals the first. -/
theorem next_raw_unit_is_lost :
    ¬Exact (10 ^ 28 + 1) 18 (evmRawToDecimal .ascii (.int (10 ^ 28 + 1)) 18) ∧
      evmRawToDecimal .ascii (.int (10 ^ 28 + 1)) 18 =
        evmRawToDecimal .ascii (.int (10 ^ 28)) 18 := by
  constructor
  · rintro ⟨value, shown, kept⟩
    have same : quotient (10 ^ 28) 18 = value := by
      rw [← quotient_above]
      exact Option.some.inj shown
    have short : HasDigits contextDigits (10 ^ 28) := ⟨1, by decide, by decide⟩
    have below : quotient (10 ^ 28) 18 * 10 ^ 18 = ((10 ^ 28 : ℤ) : ℚ) :=
      quotient_exact_iff.mpr short
    rw [same, kept] at below
    norm_num at below
  · exact congrArg some quotient_above

end ApiBank.Crypto.RawAmounts
