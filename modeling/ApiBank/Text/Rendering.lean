import ApiBank.Db.Clock
import ApiBank.Db.Models
import Mathlib.Data.List.Sort
import Mathlib.Data.String.Basic

/-!
# JSON documents and datetimes as text

`json.dumps` with sorted keys, without blanks and without escapes beyond ASCII, and
`datetime.isoformat` of an aware value in UTC.
-/

namespace ApiBank.Text

open ApiBank.Db

set_option autoImplicit false

def padded (base width value : Nat) : String :=
  let digits := Nat.toDigits base value
  String.ofList (List.replicate (width - digits.length) '0' ++ digits)

theorem isDigit_of_mem_padded {width value : Nat} {char : Char}
    (member : char ∈ (padded 10 width value).toList) : char.isDigit = true := by
  rw [padded, String.toList_ofList, List.mem_append] at member
  cases member with
  | inl zero =>
      rw [List.eq_of_mem_replicate zero]
      rfl
  | inr digit => exact Nat.isDigit_of_mem_toDigits (by decide) (by decide) digit

/-- Zeros in front do not change the number that is read. -/
theorem ofDigitChars_padded (width value : Nat) :
    Nat.ofDigitChars 10 (padded 10 width value).toList 0 = value := by
  rw [padded, String.toList_ofList, Nat.ofDigitChars_append, Nat.ofDigitChars_replicate_zero,
    Nat.mul_zero, Nat.ofDigitChars_ten_toDigits]

theorem padded_injective (width : Nat) : Function.Injective (padded 10 width) := by
  intro first other same
  rw [← ofDigitChars_padded width first, same, ofDigitChars_padded]

theorem length_padded {width value : Nat} (filled : 0 < width) (bound : value < 10 ^ width) :
    (padded 10 width value).toList.length = width := by
  have short : (Nat.toDigits 10 value).length ≤ width :=
    (Nat.length_toDigits_le_iff (by decide) filled).mpr bound
  simp only [padded, String.toList_ofList, List.length_append, List.length_replicate]
  omega

theorem padded_two {number : Nat} (bound : number < 100) : (padded 10 2 number).toList =
    [Nat.digitChar (number / 10), Nat.digitChar (number % 10)] := by
  have each : ∀ number : Fin 100, (padded 10 2 number).toList =
      [Nat.digitChar (number / 10), Nat.digitChar (number % 10)] := by
    decide +kernel
  exact each ⟨number, bound⟩

/-- One character of a JSON string. The codes are the quote and the backslash. -/
def escaped (char : Char) : String :=
  let backslash := String.singleton (Char.ofNat 92)
  match char.toNat with
  | 34 => backslash ++ String.singleton char
  | 92 => backslash ++ backslash
  | 10 => backslash ++ "n"
  | 13 => backslash ++ "r"
  | 9 => backslash ++ "t"
  | 12 => backslash ++ "f"
  | 8 => backslash ++ "b"
  | code => if code < 32 then backslash ++ "u" ++ padded 16 4 code else String.singleton char

def quoted (text : String) : String :=
  let quote := String.singleton (Char.ofNat 34)
  quote ++ String.join (text.toList.map escaped) ++ quote

def commaJoined (items : List String) : String := String.intercalate "," items

mutual

/-- `json.dumps(..., sort_keys=True, separators=(",", ":"), ensure_ascii=False)`. -/
def canonicalJson : Json → String
  | .null => "null"
  | .bool true => "true"
  | .bool false => "false"
  | .number value => toString value
  | .text value => quoted value
  | .array items => "[" ++ commaJoined (canonicalItems items) ++ "]"
  | .object fields =>
      let sorted := (canonicalFields fields).insertionSort fun left right => left.1 ≤ right.1
      "\x7b" ++ commaJoined (sorted.map fun field => quoted field.1 ++ ":" ++ field.2) ++ "\x7d"

def canonicalItems : List Json → List String
  | [] => []
  | item :: rest => canonicalJson item :: canonicalItems rest

def canonicalFields : List (String × Json) → List (String × String)
  | [] => []
  | (key, value) :: rest => (key, canonicalJson value) :: canonicalFields rest

end

example : canonicalJson (.object [("to", .array [.null]), ("by", .text "a\nb")]) =
    "\x7b\"by\":\"a\\nb\",\"to\":[null]\x7d" := by decide +kernel

theorem mem_commaJoined {items : List String} {item : String} {char : Char} (listed : item ∈ items)
    (member : char ∈ item.toList) : char ∈ (commaJoined items).toList := by
  unfold commaJoined
  induction items with
  | nil => cases listed
  | cons head rest ih =>
      cases rest with
      | nil =>
          obtain rfl := List.mem_singleton.mp listed
          simpa using member
      | cons next more =>
          rw [String.intercalate_cons_cons, String.toList_append, String.toList_append]
          rcases List.mem_cons.mp listed with rfl | later
          · exact List.mem_append_left _ (List.mem_append_left _ member)
          · exact List.mem_append_right _ (ih later)

/-- Characters that need no escape. -/
theorem mem_quoted {text : String} {char : Char} (member : char ∈ text.toList)
    (plain : escaped char = String.singleton char) : char ∈ (quoted text).toList := by
  simp only [quoted, String.toList_append, String.toList_join, List.mem_append, List.mem_flatMap,
    List.mem_map]
  refine .inl (.inr ⟨String.singleton char, ⟨char, member, plain⟩, ?_⟩)
  simp

theorem canonicalFields_eq_map (fields : List (String × Json)) :
    canonicalFields fields = fields.map fun field => (field.1, canonicalJson field.2) := by
  induction fields with
  | nil => rfl
  | cons field rest ih => rw [canonicalFields, ih, List.map_cons]

/-- What a text field contains, the document contains. -/
theorem mem_canonicalJson {fields : List (String × Json)} {key text : String} {char : Char}
    (listed : (key, Json.text text) ∈ fields) (member : char ∈ text.toList)
    (plain : escaped char = String.singleton char) :
    char ∈ (canonicalJson (.object fields)).toList := by
  have sorted : (key, quoted text) ∈ (canonicalFields fields).insertionSort
      fun left right => left.1 ≤ right.1 := by
    rw [List.mem_insertionSort, canonicalFields_eq_map, List.mem_map]
    exact ⟨_, listed, by rw [canonicalJson]⟩
  have value : char ∈ (quoted key ++ ":" ++ quoted text).toList := by
    rw [String.toList_append]
    exact List.mem_append_right _ (mem_quoted member plain)
  rw [canonicalJson, String.toList_append, String.toList_append]
  apply List.mem_append_left
  apply List.mem_append_right
  exact mem_commaJoined (List.mem_map_of_mem sorted) value

def civil (days : Int) : Nat × Nat × Nat :=
  let shifted := days + 719468
  let era := shifted / 146097
  let dayOfEra := (shifted % 146097).toNat
  let yearOfEra := (dayOfEra - dayOfEra / 1460 + dayOfEra / 36524 - dayOfEra / 146096) / 365
  let dayOfYear := dayOfEra - (365 * yearOfEra + yearOfEra / 4 - yearOfEra / 100)
  -- the year begins with March here
  let shiftedMonth := (5 * dayOfYear + 2) / 153
  let day := dayOfYear - (153 * shiftedMonth + 2) / 5 + 1
  let month := if shiftedMonth < 10 then shiftedMonth + 3 else shiftedMonth - 9
  let year := (era * 400 + yearOfEra).toNat
  (if month ≤ 2 then year + 1 else year, month, day)

/-- `isoformat` of the aware value in UTC. -/
def isoformat (instant : Int) : String :=
  let second := (instant / 1000000 % 86400).toNat
  let micro := (instant % 1000000).toNat
  let date := civil (instant / days 1)
  let fraction := if micro = 0 then "" else "." ++ padded 10 6 micro
  padded 10 4 date.1 ++ "-" ++ padded 10 2 date.2.1 ++ "-" ++ padded 10 2 date.2.2 ++ "T" ++
    padded 10 2 (second / 3600) ++ ":" ++ padded 10 2 (second / 60 % 60) ++ ":" ++
      padded 10 2 (second % 60) ++ fraction ++ "+00:00"

theorem isoformat_ne_empty (instant : Int) : isoformat instant ≠ "" := by
  intro empty
  have chars := congrArg String.toList empty
  simp [isoformat] at chars

example : isoformat 1782864000123456 = "2026-07-01T00:00:00.123456+00:00" := by decide +kernel

end ApiBank.Text
