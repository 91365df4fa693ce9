import ApiBank.Text.Integers
import ApiBank.Text.Rendering

/-!
# Hexadecimal numbers as text

`int(text, 16)`, which has no limit on the digits, and the upper-case format `04X`.
-/

namespace ApiBank.Text

set_option autoImplicit false

namespace Interpreter

variable (interpreter : Interpreter)

def hexValue (char : Char) : Option Nat :=
  let code := char.toNat
  if code < 127 then
    if char.isDigit then some (code - 48)
    else if 97 ≤ code ∧ code ≤ 102 then some (code - 87)
    else if 65 ≤ code ∧ code ≤ 70 then some (code - 55)
    else none
  else (interpreter.decimal char).map Fin.val

/-- Digits with single underscores between them. -/
def readHexDigits : List Char → Option (List Nat)
  | [] => none
  | [char] => (interpreter.hexValue char).map fun digit => [digit]
  | char :: next :: more =>
      let remaining := if next = '_' then readHexDigits more else readHexDigits (next :: more)
      (interpreter.hexValue char).bind fun digit => remaining.map (digit :: ·)

/-- The number that digits denote, the first of them weighing most. -/
def ofHexDigits (digits : List Nat) : Nat :=
  digits.foldl (fun value digit => 16 * value + digit) 0

/-- The part after the sign: the prefix may be missing, and an underscore may follow it. -/
def readHexNat (text : List Char) : Option Nat :=
  let digits :=
    match text with
    | '0' :: 'x' :: '_' :: rest | '0' :: 'X' :: '_' :: rest => rest
    | '0' :: 'x' :: rest | '0' :: 'X' :: rest => rest
    | _ => text
  (interpreter.readHexDigits digits).map ofHexDigits

def readHexInt : List Char → Option Int
  | '-' :: rest => (interpreter.readHexNat rest).map fun value : Nat => -(value : Int)
  | '+' :: rest => (interpreter.readHexNat rest).map Int.ofNat
  | digits => (interpreter.readHexNat digits).map Int.ofNat

/-- `int` of a string in base 16, or `None` where it raises `ValueError`. -/
def intHex (text : String) : Option Int :=
  let trimmed := ((text.toList.dropWhile interpreter.isIntSpace).reverse.dropWhile
    interpreter.isIntSpace).reverse
  interpreter.readHexInt trimmed

end Interpreter

/-- The format `04X`. -/
def upperHex (value : Nat) : String :=
  String.ofList ((padded 16 4 value).toList.map Char.toUpper)

open Interpreter (ofHexDigits)

theorem ofHexDigits_append_singleton (digits : List Nat) (digit : Nat) :
    ofHexDigits (digits ++ [digit]) = 16 * ofHexDigits digits + digit := by
  simp [ofHexDigits]

theorem ofHexDigits_zeros (count : Nat) (digits : List Nat) :
    ofHexDigits (List.replicate count 0 ++ digits) = ofHexDigits digits := by
  have zeros : (List.replicate count 0).foldl (fun value digit => 16 * value + digit) 0 = 0 := by
    induction count with
    | zero => rfl
    | succ count ih => simpa [List.replicate_succ] using ih
  rw [ofHexDigits, List.foldl_append, zeros]
  rfl

theorem toDigits_hex (value : Nat) : ∃ digits : List Nat,
    Nat.toDigits 16 value = digits.map Nat.digitChar ∧ digits ≠ [] ∧
      (∀ digit ∈ digits, digit < 16) ∧ ofHexDigits digits = value := by
  induction value using Nat.strong_induction_on with
  | _ value ih =>
      by_cases small : value < 16
      · exact ⟨[value], by simp [Nat.toDigits_of_lt_base small], by simp, by simpa using small,
          by simp [ofHexDigits]⟩
      · obtain ⟨digits, shown, -, bounds, read⟩ := ih (value / 16) (by omega)
        refine ⟨digits ++ [value % 16], ?_, by simp, ?_, ?_⟩
        · rw [Nat.toDigits_of_base_le (by decide) (by omega), shown, List.map_append]
          rfl
        · intro digit member
          rcases List.mem_append.mp member with earlier | last
          · exact bounds digit earlier
          · rw [List.mem_singleton.mp last]
            exact Nat.mod_lt value (by decide)
        · rw [ofHexDigits_append_singleton, read]
          omega

theorem padded_hex (width value : Nat) : ∃ digits : List Nat,
    (padded 16 width value).toList = digits.map Nat.digitChar ∧ digits ≠ [] ∧
      (∀ digit ∈ digits, digit < 16) ∧ ofHexDigits digits = value := by
  obtain ⟨digits, shown, filled, bounds, read⟩ := toDigits_hex value
  refine ⟨List.replicate (width - digits.length) 0 ++ digits, ?_, by simp [filled], ?_, ?_⟩
  · simp [padded, shown, List.map_append]
  · intro digit member
    rcases List.mem_append.mp member with zero | own
    · rw [List.eq_of_mem_replicate zero]
      decide
    · exact bounds digit own
  · rw [ofHexDigits_zeros, read]

namespace Interpreter

variable (interpreter : Interpreter)

theorem readHexDigits_map {write : Nat → Char}
    (reads : ∀ digit < 16, interpreter.hexValue (write digit) = some digit ∧ write digit ≠ '_')
    {digits : List Nat} (filled : digits ≠ []) (bounds : ∀ digit ∈ digits, digit < 16) :
    interpreter.readHexDigits (digits.map write) = some digits := by
  induction digits with
  | nil => exact absurd rfl filled
  | cons digit rest ih =>
      have own := (reads digit (bounds digit List.mem_cons_self)).1
      cases rest with
      | nil => simp [readHexDigits, own]
      | cons next more =>
          have plain := (reads next (bounds next (by simp))).2
          have remaining := ih (List.cons_ne_nil next more) fun other member =>
            bounds other (List.mem_cons_of_mem digit member)
          simp only [List.map_cons] at remaining
          simp [readHexDigits, own, plain, remaining]

theorem reads_digitChar : ∀ digit < 16,
    interpreter.hexValue digit.digitChar = some digit ∧ digit.digitChar ≠ '_' := by
  intro digit bound
  interval_cases digit <;> exact ⟨rfl, by decide⟩

theorem reads_upper : ∀ digit < 16,
    interpreter.hexValue digit.digitChar.toUpper = some digit ∧
      digit.digitChar.toUpper ≠ '_' := by
  intro digit bound
  interval_cases digit <;> exact ⟨rfl, by decide⟩

theorem isIntSpace_digitChar {digit : Nat} (bound : digit < 16) :
    interpreter.isIntSpace digit.digitChar = false := by
  interval_cases digit <;> rfl

/-- A number written with the prefix is read back, with whatever zeros in front. -/
theorem intHex_padded (width value : Nat) :
    interpreter.intHex ("0x" ++ padded 16 width value) = some (value : Int) := by
  obtain ⟨digits, shown, filled, bounds, read⟩ := padded_hex width value
  have text : ("0x" ++ padded 16 width value).toList =
      '0' :: 'x' :: digits.map Nat.digitChar := by
    rw [String.toList_append, shown]
    rfl
  have visible : ∀ char ∈ '0' :: 'x' :: digits.map Nat.digitChar,
      interpreter.isIntSpace char = false := by
    intro char member
    simp only [List.mem_cons, List.mem_map] at member
    rcases member with rfl | rfl | ⟨digit, listed, rfl⟩
    · rfl
    · rfl
    · exact interpreter.isIntSpace_digitChar (bounds digit listed)
  have plain : ∀ rest, digits.map Nat.digitChar ≠ '_' :: rest := by
    intro rest same
    obtain ⟨digit, others, rfl⟩ := List.exists_cons_of_ne_nil filled
    exact (interpreter.reads_digitChar digit (bounds digit List.mem_cons_self)).2
      (List.cons.inj same).1
  have parsed : interpreter.readHexNat ('0' :: 'x' :: digits.map Nat.digitChar) = some value := by
    have digitsRead :=
      interpreter.readHexDigits_map interpreter.reads_digitChar filled bounds
    simp [readHexNat, digitsRead, read]
  rw [intHex, text, interpreter.trimmed_of_printed visible, readHexInt, parsed]
  · rfl
  · intro rest same
    cases (List.cons.inj same).1
  · intro rest same
    cases (List.cons.inj same).1

end Interpreter

/-- Two numbers with one format are one. -/
theorem upperHex_injective : Function.Injective upperHex := by
  have read : ∀ value, (Interpreter.ascii.readHexDigits (upperHex value).toList).map ofHexDigits =
      some value := by
    intro value
    obtain ⟨digits, shown, filled, bounds, own⟩ := padded_hex 4 value
    have text : (upperHex value).toList =
        digits.map fun digit => digit.digitChar.toUpper := by
      simp [upperHex, shown, Function.comp_def]
    rw [text, Interpreter.readHexDigits_map _ Interpreter.ascii.reads_upper filled bounds,
      Option.map_some, own]
  intro first other same
  have own := read first
  rw [same, read other] at own
  exact (Option.some.inj own).symm

/-- Sixteen bits have four digits. -/
theorem length_upperHex {value : Nat} (bound : value < 2 ^ 16) :
    (upperHex value).toList.length = 4 := by
  have short : (Nat.toDigits 16 value).length ≤ 4 :=
    (Nat.length_toDigits_le_iff (by decide) (by decide)).mpr bound
  simp only [upperHex, padded, String.toList_ofList, List.length_map, List.length_append,
    List.length_replicate]
  omega

end ApiBank.Text
