import ApiBank.Text.Rendering

/-!
# Tagged fields

A field is a tag of two digits, the length of its value in two digits, and the value. A text
is read field by field until it is used up, and the value of a field may be such a text again.
-/

namespace ApiBank.Text.Tlv

set_option autoImplicit false

/-- A field whose length has two digits. -/
structure Field where
  tag : Fin 100
  value : List Char
  short : value.length < 100
deriving DecidableEq

def encodePair (number : Nat) : List Char := (padded 10 2 number).toList

def Field.encode (field : Field) : List Char :=
  encodePair field.tag ++ (encodePair field.value.length ++ field.value)

def encodeAll (fields : List Field) : List Char := fields.flatMap Field.encode

def digit (char : Char) : Option (Fin 10) :=
  if bound : 48 ≤ char.toNat ∧ char.toNat < 58 then some ⟨char.toNat - 48, by omega⟩ else none

/-- A number of two digits, and the text behind it. -/
def readPair : List Char → Option (Fin 100 × List Char)
  | tens :: units :: rest => do
      let high ← digit tens
      let low ← digit units
      some (⟨10 * high + low, by omega⟩, rest)
  | _ => none

def readField (text : List Char) : Option (Field × List Char) := do
  let (tag, afterTag) ← readPair text
  let (length, afterLength) ← readPair afterTag
  if length ≤ afterLength.length then
    some (⟨tag, afterLength.take length,
      (List.length_take_le length afterLength).trans_lt length.isLt⟩, afterLength.drop length)
  else none

def parseWithin : Nat → List Char → Option (List Field)
  | _, [] => some []
  | 0, _ :: _ => none
  | fuel + 1, char :: text => do
      let (field, rest) ← readField (char :: text)
      let fields ← parseWithin fuel rest
      some (field :: fields)

/-- The fields of a text, or `none` where it is no list of fields. -/
def parse (text : List Char) : Option (List Field) := parseWithin text.length text

def lookup (tag : Fin 100) (fields : List Field) : Option (List Char) :=
  (fields.find? fun field => field.tag = tag).map Field.value

def descend : List (Fin 100) → List Char → Option (List Char)
  | [], text => some text
  | tag :: path, text => do
      let fields ← parse text
      let value ← lookup tag fields
      descend path value

example : (parse "0201x6400".toList).map (·.map Field.tag) = some [2, 64] := by decide +kernel

theorem encodePair_eq (number : Fin 100) :
    encodePair number = [Nat.digitChar (number / 10), Nat.digitChar (number % 10)] :=
  padded_two number.isLt

theorem length_encodePair (number : Fin 100) : (encodePair number).length = 2 := by
  rw [encodePair_eq]
  rfl

theorem digit_digitChar : ∀ value : Fin 10, digit (Nat.digitChar value) = some value := by
  decide +kernel

theorem readPair_encodePair (number : Fin 100) (rest : List Char) :
    readPair (encodePair number ++ rest) = some (number, rest) := by
  have tens := digit_digitChar ⟨number / 10, by omega⟩
  have units := digit_digitChar ⟨number % 10, by omega⟩
  have whole : 10 * (number.val / 10) + number.val % 10 = number.val := by omega
  rw [encodePair_eq]
  simp only [List.cons_append, List.nil_append, readPair, tens, units, Option.bind_eq_bind,
    Option.bind_some, whole]

theorem length_encode (field : Field) : field.encode.length = field.value.length + 4 := by
  have length : (encodePair field.value.length).length = 2 :=
    length_encodePair ⟨field.value.length, field.short⟩
  simp only [Field.encode, List.length_append, length_encodePair]
  omega

theorem readField_encode (field : Field) (rest : List Char) :
    readField (field.encode ++ rest) = some (field, rest) := by
  have length := readPair_encodePair ⟨field.value.length, field.short⟩ (field.value ++ rest)
  rw [Field.encode, List.append_assoc, List.append_assoc]
  simp [readField, readPair_encodePair, length]

theorem parseWithin_encodeAll (fields : List Field) {fuel : Nat}
    (enough : (encodeAll fields).length ≤ fuel) :
    parseWithin fuel (encodeAll fields) = some fields := by
  induction fields generalizing fuel with
  | nil => cases fuel <;> rfl
  | cons field fields ih =>
      have split : encodeAll (field :: fields) = field.encode ++ encodeAll fields :=
        List.flatMap_cons
      rw [split] at enough ⊢
      rw [List.length_append, length_encode] at enough
      obtain ⟨fuel, rfl⟩ := Nat.exists_eq_add_one.mpr (by omega : 0 < fuel)
      have filled : field.encode ++ encodeAll fields ≠ [] := by
        apply List.ne_nil_of_length_pos
        rw [List.length_append, length_encode]
        omega
      obtain ⟨char, text, whole⟩ := List.exists_cons_of_ne_nil filled
      have first := readField_encode field (encodeAll fields)
      rw [whole] at first ⊢
      simp [parseWithin, first, ih (by omega : (encodeAll fields).length ≤ fuel)]

/-- What the fields are written as is read as these fields. -/
theorem parse_encodeAll (fields : List Field) : parse (encodeAll fields) = some fields :=
  parseWithin_encodeAll fields le_rfl

theorem descend_encodeAll {fields : List Field} {tag : Fin 100} {value : List Char}
    (found : lookup tag fields = some value) (path : List (Fin 100)) :
    descend (tag :: path) (encodeAll fields) = descend path value := by
  simp [descend, parse_encodeAll, found]

end ApiBank.Text.Tlv
