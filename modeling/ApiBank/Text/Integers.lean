import Mathlib.Data.Nat.Digits.Lemmas
import Mathlib.Tactic.Common

/-!
# Integers as text

Python's `str(int)` and `int(str)`. The Unicode tables are consulted beyond ASCII only.
Both directions refuse more digits than the interpreter's limit, when it has one.
-/

namespace ApiBank.Text

set_option autoImplicit false

/-- `str.isspace` and the value of a decimal digit, of characters beyond ASCII, and
`sys.get_int_max_str_digits()`, where zero stands for no limit. -/
structure Interpreter where
  isSpace : Char → Bool
  decimal : Char → Option (Fin 10)
  maxStrDigits : Nat

namespace Interpreter

variable (interpreter : Interpreter)

/-- Nothing beyond ASCII counts, and the limit is the default one. -/
def ascii : Interpreter where
  isSpace := fun _ => false
  decimal := fun _ => none
  maxStrDigits := 4300

/-- `count` digits may be converted. -/
def Admits (count : Nat) : Prop :=
  interpreter.maxStrDigits = 0 ∨ count ≤ interpreter.maxStrDigits

instance (count : Nat) : Decidable (interpreter.Admits count) :=
  inferInstanceAs (Decidable (_ ∨ _))

/-- `str` of an integer, or `None` where it raises `ValueError`. -/
def str (value : Int) : Option String :=
  if interpreter.Admits (Nat.toDigits 10 value.natAbs).length then some (toString value) else none

def isIntSpace (char : Char) : Bool :=
  if char.toNat < 127 then char.toNat = 32 || (9 ≤ char.toNat && char.toNat ≤ 13)
  else interpreter.isSpace char

def digitValue (char : Char) : Option Nat :=
  if char.toNat < 127 then if char.isDigit then some (char.toNat - 48) else none
  else (interpreter.decimal char).map Fin.val

/-- Digits with single underscores between them. -/
def readDigits : List Char → Option (List Nat)
  | [] => none
  | [char] => (interpreter.digitValue char).map fun digit => [digit]
  | char :: next :: more =>
      let remaining := if next = '_' then readDigits more else readDigits (next :: more)
      (interpreter.digitValue char).bind fun digit => remaining.map (digit :: ·)

def readNat (text : List Char) : Option Nat :=
  match interpreter.readDigits text with
  | none => none
  | some digits =>
      if interpreter.Admits digits.length then
        some (digits.foldl (fun value digit => 10 * value + digit) 0)
      else none

def readInt : List Char → Option Int
  | '-' :: rest => (interpreter.readNat rest).map fun value : Nat => -(value : Int)
  | '+' :: rest => (interpreter.readNat rest).map Int.ofNat
  | digits => (interpreter.readNat digits).map Int.ofNat

/-- `int` of a string, or `None` where it raises `ValueError`. -/
def int (text : String) : Option Int :=
  let trimmed := ((text.toList.dropWhile interpreter.isIntSpace).reverse.dropWhile
    interpreter.isIntSpace).reverse
  interpreter.readInt trimmed

theorem toNat_of_isDigit {char : Char} (digit : char.isDigit = true) :
    48 ≤ char.toNat ∧ char.toNat ≤ 57 := by
  simp only [Char.isDigit, Bool.and_eq_true, decide_eq_true_eq] at digit
  exact digit

theorem digitValue_digit {char : Char} (digit : char.isDigit = true) :
    interpreter.digitValue char = some (char.toNat - 48) := by
  have bounds := toNat_of_isDigit digit
  have bound : char.toNat < 127 := by omega
  rw [digitValue, if_pos bound, if_pos digit]

theorem readDigits_digits {text : List Char} (filled : text ≠ [])
    (digits : ∀ char ∈ text, char.isDigit = true) :
    interpreter.readDigits text = some (text.map fun char => char.toNat - 48) := by
  induction text with
  | nil => exact absurd rfl filled
  | cons char rest ih =>
      have own := interpreter.digitValue_digit (digits char List.mem_cons_self)
      cases rest with
      | nil => simp [readDigits, own]
      | cons next more =>
          have nextDigit := digits next (List.mem_cons_of_mem char List.mem_cons_self)
          have plain : next ≠ '_' := by
            rintro rfl
            cases nextDigit
          have remaining := ih (List.cons_ne_nil next more) fun other member =>
            digits other (List.mem_cons_of_mem char member)
          simp [readDigits, own, plain, remaining]

theorem readNat_digits {text : List Char} (filled : text ≠ [])
    (digits : ∀ char ∈ text, char.isDigit = true) (admitted : interpreter.Admits text.length) :
    interpreter.readNat text = some (Nat.ofDigitChars 10 text 0) := by
  have folded : (text.map fun char => char.toNat - 48).foldl
      (fun value digit => 10 * value + digit) 0 = Nat.ofDigitChars 10 text 0 := by
    rw [List.foldl_map]
    rfl
  rw [readNat, interpreter.readDigits_digits filled digits]
  simp only [List.length_map, if_pos admitted, folded]

theorem readNat_toDigits {value : Nat}
    (admitted : interpreter.Admits (Nat.toDigits 10 value).length) :
    interpreter.readNat (Nat.toDigits 10 value) = some value := by
  have digits : ∀ char ∈ Nat.toDigits 10 value, char.isDigit = true := by
    intro char member
    exact Nat.isDigit_of_mem_toDigits (by decide) (by decide) member
  rw [interpreter.readNat_digits Nat.toDigits_ne_nil digits admitted, Nat.ofDigitChars_ten_toDigits]

/-- A text of digits begins with neither sign. -/
theorem readInt_digits {text : List Char} (digits : ∀ char ∈ text, char.isDigit = true) :
    interpreter.readInt text = (interpreter.readNat text).map Int.ofNat := by
  unfold readInt
  split
  · cases digits '-' List.mem_cons_self
  · cases digits '+' List.mem_cons_self
  · rfl

theorem readInt_toDigits (value : Nat) : interpreter.readInt (Nat.toDigits 10 value) =
    (interpreter.readNat (Nat.toDigits 10 value)).map Int.ofNat :=
  interpreter.readInt_digits fun _ member =>
    Nat.isDigit_of_mem_toDigits (by decide) (by decide) member

theorem toList_toString (value : Int) : (toString value).toList =
    if value < 0 then '-' :: Nat.toDigits 10 value.natAbs else Nat.toDigits 10 value.natAbs := by
  cases value with
  | ofNat magnitude =>
      have nonnegative : ¬Int.ofNat magnitude < 0 := by simp
      rw [if_neg nonnegative]
      exact Nat.toList_repr
  | negSucc magnitude =>
      rw [if_pos (Int.negSucc_lt_zero magnitude)]
      have signed : (toString (Int.negSucc magnitude)).toList =
          '-' :: (magnitude + 1).repr.toList := by
        simp [toString, Int.repr]
      rw [signed, Nat.toList_repr]
      rfl

theorem isIntSpace_eq_false {char : Char} (printed : char.isDigit = true ∨ char = '-') :
    interpreter.isIntSpace char = false := by
  rcases printed with digit | rfl
  · have bounds := toNat_of_isDigit digit
    have bound : char.toNat < 127 := by omega
    rw [isIntSpace, if_pos bound]
    simp
    omega
  · rfl

/-- White space at the ends only. -/
theorem trimmed_of_printed {text : List Char}
    (printed : ∀ char ∈ text, interpreter.isIntSpace char = false) :
    ((text.dropWhile interpreter.isIntSpace).reverse.dropWhile
      interpreter.isIntSpace).reverse = text := by
  have untouched : ∀ chars : List Char, (∀ char ∈ chars, interpreter.isIntSpace char = false) →
      chars.dropWhile interpreter.isIntSpace = chars := by
    intro chars visible
    cases chars with
    | nil => rfl
    | cons head rest => simp [visible head List.mem_cons_self]
  rw [untouched text printed, untouched text.reverse (by simpa using printed),
    List.reverse_reverse]

/-- Digits are read as the number that they denote, with zeros in front or without. -/
theorem int_digits {text : List Char} (filled : text ≠ [])
    (digits : ∀ char ∈ text, char.isDigit = true) (admitted : interpreter.Admits text.length) :
    interpreter.int (.ofList text) = some (Nat.ofDigitChars 10 text 0 : Int) := by
  have visible : ∀ char ∈ text, interpreter.isIntSpace char = false := fun char member =>
    interpreter.isIntSpace_eq_false (.inl (digits char member))
  rw [int, String.toList_ofList, interpreter.trimmed_of_printed visible,
    interpreter.readInt_digits digits, interpreter.readNat_digits filled digits admitted]
  rfl

theorem printed_of_mem_toString {value : Int} {char : Char}
    (member : char ∈ (toString value).toList) : char.isDigit = true ∨ char = '-' := by
  rw [toList_toString] at member
  split at member
  · rcases List.mem_cons.mp member with sign | digit
    · exact .inr sign
    · exact .inl (Nat.isDigit_of_mem_toDigits (by decide) (by decide) digit)
  · exact .inl (Nat.isDigit_of_mem_toDigits (by decide) (by decide) member)

/-- What is printed is read back. -/
theorem int_of_str {value : Int} {text : String} (printed : interpreter.str value = some text) :
    interpreter.int text = some value := by
  unfold str at printed
  split at printed
  · rename_i admitted
    obtain rfl := Option.some.inj printed
    have visible : ∀ char ∈ (toString value).toList, interpreter.isIntSpace char = false := by
      intro char member
      exact interpreter.isIntSpace_eq_false (printed_of_mem_toString member)
    have read := interpreter.readNat_toDigits admitted
    rw [int, interpreter.trimmed_of_printed visible, toList_toString]
    split
    · rename_i negative
      rw [readInt, read, Option.map_some, Option.some.injEq]
      omega
    · rename_i nonnegative
      rw [interpreter.readInt_toDigits, read, Option.map_some, Option.some.injEq]
      have magnitude : Int.ofNat value.natAbs = (value.natAbs : Int) := rfl
      omega
  · cases printed

theorem digitValue_lt {char : Char} {digit : Nat}
    (read : interpreter.digitValue char = some digit) : digit < 10 := by
  unfold digitValue at read
  split at read
  · split at read
    · rename_i isDigit
      obtain rfl := Option.some.inj read
      have bounds := toNat_of_isDigit isDigit
      omega
    · cases read
  · obtain ⟨value, -, rfl⟩ := Option.map_eq_some_iff.mp read
    exact value.isLt

theorem readDigits_lt {text : List Char} {digits : List Nat}
    (read : interpreter.readDigits text = some digits) :
    digits ≠ [] ∧ ∀ digit ∈ digits, digit < 10 := by
  fun_induction interpreter.readDigits text generalizing digits with
  | case1 => cases read
  | case2 char =>
      obtain ⟨digit, value, rfl⟩ := Option.map_eq_some_iff.mp read
      refine ⟨List.cons_ne_nil digit [], ?_⟩
      intro other member
      obtain rfl := List.mem_singleton.mp member
      exact interpreter.digitValue_lt value
  | case3 char next more =>
      rename_i remaining separated grouped
      obtain ⟨digit, value, rest⟩ := Option.bind_eq_some_iff.mp read
      obtain ⟨others, later, rfl⟩ := Option.map_eq_some_iff.mp rest
      change (if next = '_' then _ else _) = some others at later
      have bounds : ∀ other ∈ others, other < 10 := by
        by_cases underscore : next = '_'
        · rw [if_pos underscore] at later
          exact (separated later).2
        · rw [if_neg underscore] at later
          exact (grouped later).2
      refine ⟨List.cons_ne_nil digit others, ?_⟩
      intro other member
      rcases List.mem_cons.mp member with rfl | old
      · exact interpreter.digitValue_lt value
      · exact bounds other old

theorem fold_lt {digits : List Nat} (bounds : ∀ digit ∈ digits, digit < 10) (initial : Nat) :
    digits.foldl (fun value digit => 10 * value + digit) initial <
      (initial + 1) * 10 ^ digits.length := by
  induction digits generalizing initial with
  | nil => simp
  | cons digit rest ih =>
      have own := bounds digit List.mem_cons_self
      have later := ih (fun other member => bounds other (List.mem_cons_of_mem digit member))
        (10 * initial + digit)
      calc
        rest.foldl (fun value digit => 10 * value + digit) (10 * initial + digit)
            < (10 * initial + digit + 1) * 10 ^ rest.length := later
        _ ≤ (10 * (initial + 1)) * 10 ^ rest.length := by gcongr; omega
        _ = (initial + 1) * 10 ^ (digit :: rest).length := by
          rw [List.length_cons, pow_succ]
          ring

theorem admits_of_readNat {text : List Char} {value : Nat}
    (read : interpreter.readNat text = some value) :
    interpreter.Admits (Nat.toDigits 10 value).length := by
  unfold readNat at read
  split at read
  · cases read
  · rename_i digits listed
    split at read
    · rename_i admitted
      obtain rfl := Option.some.inj read
      obtain ⟨filled, bounds⟩ := interpreter.readDigits_lt listed
      have shorter : (Nat.toDigits 10 (digits.foldl (fun value digit => 10 * value + digit)
          0)).length ≤ digits.length := by
        have below := fold_lt bounds 0
        apply (Nat.length_toDigits_le_iff (by decide) (List.length_pos_of_ne_nil filled)).mpr
        simpa using below
      exact admitted.imp_right shorter.trans
    · cases read

theorem str_of_int {text : String} {value : Int} (read : interpreter.int text = some value) :
    interpreter.str value = some (toString value) := by
  have admitted : interpreter.Admits (Nat.toDigits 10 value.natAbs).length := by
    unfold int at read
    simp only [readInt] at read
    split at read
    all_goals
      obtain ⟨magnitude, digits, rfl⟩ := Option.map_eq_some_iff.mp read
      have admits := interpreter.admits_of_readNat digits
      simpa using admits
  rw [str, if_pos admitted]

theorem toString_of_str {value : Int} {text : String} (printed : interpreter.str value = some text) :
    text = toString value := by
  unfold str at printed
  split at printed
  · exact (Option.some.inj printed).symm
  · cases printed

/-- Two integers with one text are one. -/
theorem toString_injective : Function.Injective (toString : Int → String) := by
  intro first second same
  let unlimited : Interpreter := { ascii with maxStrDigits := 0 }
  have printed : ∀ value, unlimited.str value = some (toString value) := by
    intro value
    exact if_pos (.inl rfl)
  have read := unlimited.int_of_str (printed second)
  rw [← same, unlimited.int_of_str (printed first)] at read
  exact Option.some.inj read

/-- Everything within the limit is printed. -/
theorem str_of_lt {value : Int} (bound : value.natAbs < 10 ^ interpreter.maxStrDigits) :
    interpreter.str value = some (toString value) := by
  apply if_pos
  by_cases unlimited : interpreter.maxStrDigits = 0
  · exact .inl unlimited
  · exact .inr ((Nat.length_toDigits_le_iff (by decide) (Nat.pos_of_ne_zero unlimited)).mpr bound)

end Interpreter

end ApiBank.Text
