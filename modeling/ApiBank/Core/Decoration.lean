import ApiBank.Core.Matcher
import Mathlib.Logic.Relation

/-!
# Decorated transfer contents

Normalisation reads a text character by character: each character leaves the ASCII
letters and digits of its decomposition, in lower case, and nothing else. A separator or
an accent leaves none and both cases of a letter leave the same one, so the matcher
cannot tell a decorated content from the one that the customer typed.
-/

namespace ApiBank.Core.Decoration

open Matcher

set_option autoImplicit false

/-- The tables of the runtime: the canonical decomposition, the characters that the
canonical ordering moves, and the lower case of one character. -/
structure CharacterTables where
  decompose : Char → List Char
  combining : Char → Bool
  lowerOf : Char → List Char

/-- NFD decomposes character by character and reorders combining characters alone, and
`str.lower` looks around a character for a final sigma only. Accents decompose into
accents, and no combining character holds an ASCII letter or digit. -/
structure Characterwise (unicode : UnicodeData) (tables : CharacterTables) : Prop where
  nfd : ∀ text, (unicode.nfd text).filter (fun char => !tables.combining char) =
    (text.flatMap tables.decompose).filter fun char => !tables.combining char
  lower : ∀ text, (unicode.lower text).filter isAlnum =
    text.flatMap fun char => (tables.lowerOf char).filter isAlnum
  ascii : ∀ char : Char, char.toNat < 128 → tables.decompose char = [char] ∧
    unicode.isMn char = false ∧ tables.lowerOf char = [char.toLower]
  mark : ∀ char, unicode.isMn char = true →
    ∀ part ∈ tables.decompose char, unicode.isMn part = true
  combining : ∀ char, tables.combining char = true →
    char ≠ 'đ' ∧ char ≠ 'Đ' ∧ (tables.lowerOf char).filter isAlnum = []

/-- What a bank does to a content, one character at a time. -/
inductive Decorates (unicode : UnicodeData) : List Char → List Char → Prop where
  | separator (front back : List Char) {char : Char} (ascii : char.toNat < 128)
      (neither : char.isAlphanum = false) :
      Decorates unicode (front ++ back) (front ++ char :: back)
  | recase (front back : List Char) {char other : Char} (letter : char.isAlpha = true)
      (cased : other = char.toUpper ∨ other = char.toLower) :
      Decorates unicode (front ++ char :: back) (front ++ other :: back)
  | mark (front back : List Char) {char : Char} (mark : unicode.isMn char = true) :
      Decorates unicode (front ++ back) (front ++ char :: back)

/-- Any number of such changes, anywhere. -/
def Decorated (unicode : UnicodeData) (content decorated : String) : Prop :=
  Relation.ReflTransGen (Decorates unicode) content.toList decorated.toList

/-- What a character of the decomposed text leaves. -/
def lettersOfPart (unicode : UnicodeData) (tables : CharacterTables) (part : Char) : List Char :=
  if unicode.isMn part then []
  else
    let mapped := if part = 'đ' then 'd' else if part = 'Đ' then 'D' else part
    (tables.lowerOf mapped).filter isAlnum

def letters (unicode : UnicodeData) (tables : CharacterTables) (char : Char) : List Char :=
  (tables.decompose char).flatMap (lettersOfPart unicode tables)

section Characters

theorem flatMap_filter_of_nil {First Second : Type} {text : List First} {kept : First → Bool}
    {image : First → List Second} (silent : ∀ char, kept char = false → image char = []) :
    (text.filter kept).flatMap image = text.flatMap image := by
  induction text with
  | nil => rfl
  | cons char rest ih =>
      cases keeps : kept char with
      | true => rw [List.filter_cons_of_pos keeps, List.flatMap_cons, List.flatMap_cons, ih]
      | false =>
          rw [List.filter_cons_of_neg (by simp [keeps]), List.flatMap_cons, silent char keeps, ih,
            List.nil_append]

/-- A fact about the characters below 128 is checked on each. -/
theorem ascii_cases (holds : Char → Bool)
    (each : ∀ code < 128, holds (Char.ofNat code) = true) (char : Char)
    (ascii : char.toNat < 128) : holds char = true := by
  have one := each char.toNat ascii
  rwa [Char.ofNat_toNat] at one

theorem isAlnum_toLower (char : Char) (ascii : char.toNat < 128) :
    isAlnum char.toLower = char.isAlphanum :=
  beq_iff_eq.mp (ascii_cases (fun char => isAlnum char.toLower == char.isAlphanum)
    (by decide +kernel) char ascii)

theorem ascii_of_isAlpha {char : Char} (letter : char.isAlpha = true) : char.toNat < 128 := by
  have cased : char.isUpper = true ∨ char.isLower = true := Bool.or_eq_true_iff.mp letter
  rcases cased with upper | lower
  · have bounds : 'A'.val ≤ char.val ∧ char.val ≤ 'Z'.val := of_decide_eq_true upper
    exact Nat.lt_of_le_of_lt bounds.2 (by decide)
  · have bound : char.val ≤ 'z'.val := of_decide_eq_true (Bool.and_eq_true_iff.mp lower).2
    exact Nat.lt_of_le_of_lt bound (by decide)

theorem toLower_of_cased {char other : Char} (letter : char.isAlpha = true)
    (cased : other = char.toUpper ∨ other = char.toLower) :
    other.toNat < 128 ∧ other.toLower = char.toLower := by
  have both := ascii_cases (fun char => char.toUpper.toNat < 128 && char.toLower.toNat < 128 &&
    char.toUpper.toLower == char.toLower && char.toLower.toLower == char.toLower)
    (by decide +kernel) char (ascii_of_isAlpha letter)
  simp only [Bool.and_eq_true, decide_eq_true_eq, beq_iff_eq] at both
  obtain ⟨⟨⟨upperAscii, lowerAscii⟩, upperLower⟩, lowerLower⟩ := both
  rcases cased with rfl | rfl
  · exact ⟨upperAscii, upperLower⟩
  · exact ⟨lowerAscii, lowerLower⟩

/-- The letters and digits that a text keeps are ASCII, and lower case already. -/
theorem keeps_of_isAlnum {char : Char} (alnum : isAlnum char = true) :
    char.toNat < 128 ∧ char.toLower = char := by
  have ascii : char.toNat < 128 := by
    simp only [isAlnum, Bool.or_eq_true, Bool.and_eq_true, decide_eq_true_eq] at alnum
    rcases alnum with ⟨-, letter⟩ | ⟨-, digit⟩
    · exact Nat.lt_of_le_of_lt letter (by decide)
    · exact Nat.lt_of_le_of_lt digit (by decide)
  have same := ascii_cases (fun char => !isAlnum char || char.toLower == char)
    (by decide +kernel) char ascii
  rw [alnum, Bool.not_true, Bool.false_or, beq_iff_eq] at same
  exact ⟨ascii, same⟩

end Characters

section Normalisation

variable {unicode : UnicodeData} {tables : CharacterTables}

namespace Characterwise

theorem normalize_eq_flatMap (characterwise : Characterwise unicode tables) (value : String) :
    normalizePaymentText unicode value = value.toList.flatMap (letters unicode tables) := by
  have silent : ∀ part, (!tables.combining part) = false →
      lettersOfPart unicode tables part = [] := by
    intro part combining
    obtain ⟨notSmall, notCapital, none⟩ := characterwise.combining part (by simpa using combining)
    simp [lettersOfPart, notSmall, notCapital, none]
  have accents : ∀ part, (!unicode.isMn part) = false → lettersOfPart unicode tables part = [] := by
    intro part mark
    rw [lettersOfPart, if_pos (by simpa using mark)]
  calc normalizePaymentText unicode value
      = ((unicode.nfd value.toList).filter fun part => !unicode.isMn part).flatMap
          (lettersOfPart unicode tables) := by
        rw [normalizePaymentText, characterwise.lower, List.flatMap_map]
        refine List.flatMap_congr fun part member => ?_
        have other : unicode.isMn part = false := by simpa using (List.mem_filter.mp member).2
        rw [lettersOfPart, other]
        rfl
    _ = (unicode.nfd value.toList).flatMap (lettersOfPart unicode tables) :=
        flatMap_filter_of_nil accents
    _ = (value.toList.flatMap tables.decompose).flatMap (lettersOfPart unicode tables) := by
        rw [← flatMap_filter_of_nil silent, characterwise.nfd, flatMap_filter_of_nil silent]
    _ = value.toList.flatMap (letters unicode tables) := List.flatMap_assoc

theorem letters_of_ascii (characterwise : Characterwise unicode tables) {char : Char}
    (ascii : char.toNat < 128) :
    letters unicode tables char = [char.toLower].filter isAlnum := by
  obtain ⟨alone, other, lower⟩ := characterwise.ascii char ascii
  have notSmall : char ≠ 'đ' := by
    rintro rfl
    exact absurd ascii (by decide)
  have notCapital : char ≠ 'Đ' := by
    rintro rfl
    exact absurd ascii (by decide)
  simp [letters, lettersOfPart, alone, other, notSmall, notCapital, lower]

theorem letters_of_mark (characterwise : Characterwise unicode tables) {char : Char}
    (mark : unicode.isMn char = true) : letters unicode tables char = [] := by
  refine List.flatMap_eq_nil_iff.mpr fun part member => ?_
  rw [lettersOfPart, if_pos (characterwise.mark char mark part member)]

/-- A character that leaves nothing may stand anywhere. -/
theorem flatMap_insert {char : Char} (none : letters unicode tables char = [])
    (front back : List Char) : (front ++ char :: back).flatMap (letters unicode tables) =
      (front ++ back).flatMap (letters unicode tables) := by
  rw [List.flatMap_append, List.flatMap_cons, none, List.nil_append, List.flatMap_append]

theorem letters_of_decorates (characterwise : Characterwise unicode tables)
    {content decorated : List Char} (change : Decorates unicode content decorated) :
    decorated.flatMap (letters unicode tables) = content.flatMap (letters unicode tables) := by
  cases change with
  | separator front back ascii neither =>
      apply flatMap_insert
      rw [characterwise.letters_of_ascii ascii]
      simp [isAlnum_toLower _ ascii, neither]
  | recase front back letter cased =>
      obtain ⟨ascii, lower⟩ := toLower_of_cased letter cased
      have same := characterwise.letters_of_ascii ascii
      rw [lower, ← characterwise.letters_of_ascii (ascii_of_isAlpha letter)] at same
      simp only [List.flatMap_append, List.flatMap_cons, same]
  | mark front back mark => exact flatMap_insert (characterwise.letters_of_mark mark) front back

/-- Any number of changes, by induction on them. -/
theorem normalize_of_decorated (characterwise : Characterwise unicode tables)
    {content decorated : String} (changes : Decorated unicode content decorated) :
    normalizePaymentText unicode decorated = normalizePaymentText unicode content := by
  rw [characterwise.normalize_eq_flatMap, characterwise.normalize_eq_flatMap]
  unfold Decorated at changes
  generalize decorated.toList = reached at changes
  induction changes with
  | refl => rfl
  | tail _ change same => exact (characterwise.letters_of_decorates change).trans same

theorem normalize_append (characterwise : Characterwise unicode tables) (first second : String) :
    normalizePaymentText unicode (first ++ second) =
      normalizePaymentText unicode first ++ normalizePaymentText unicode second := by
  simp only [characterwise.normalize_eq_flatMap, String.toList_append, List.flatMap_append]

theorem isAlnum_of_mem_normalize {value : String} {char : Char}
    (member : char ∈ normalizePaymentText unicode value) : isAlnum char = true :=
  List.of_mem_filter member

/-- A text of lower case letters and digits is normal already. -/
theorem normalize_of_isAlnum (characterwise : Characterwise unicode tables) {text : List Char}
    (alnum : ∀ char ∈ text, isAlnum char = true) :
    normalizePaymentText unicode (String.ofList text) = text := by
  rw [characterwise.normalize_eq_flatMap, String.toList_ofList]
  induction text with
  | nil => rfl
  | cons char rest ih =>
      have kept := alnum char List.mem_cons_self
      obtain ⟨ascii, lower⟩ := keeps_of_isAlnum kept
      rw [List.flatMap_cons, characterwise.letters_of_ascii ascii, lower,
        ih fun other member => alnum other (List.mem_cons_of_mem char member),
        List.filter_cons_of_pos kept, List.filter_nil, List.singleton_append]

end Characterwise

/-- Any decoration of a content leaves the matcher's result as it is, and normalisation is
an idempotent homomorphism into the lower case letters and digits. -/
theorem matching_ignores_decoration (characterwise : Characterwise unicode tables) :
    (∀ (now : Int) (transaction : MatchInput) (decorated : String) (orders : List MatchCandidate),
      Decorated unicode transaction.content decorated →
        findOrderMatch unicode now { transaction with content := decorated } orders =
          findOrderMatch unicode now transaction orders) ∧
    (∀ value, normalizePaymentText unicode (String.ofList (normalizePaymentText unicode value)) =
      normalizePaymentText unicode value) ∧
    (∀ first second, normalizePaymentText unicode (first ++ second) =
      normalizePaymentText unicode first ++ normalizePaymentText unicode second) ∧
    ∀ value, ∀ char ∈ normalizePaymentText unicode value,
      ('a' ≤ char ∧ char ≤ 'z') ∨ ('0' ≤ char ∧ char ≤ '9') := by
  refine ⟨?_, ?_, characterwise.normalize_append, ?_⟩
  · intro now transaction decorated orders changes
    have same := characterwise.normalize_of_decorated changes
    have fitsSame : fits unicode now { transaction with content := decorated } =
        fits unicode now transaction := by
      funext order
      simp only [fits, same]
    rw [findOrderMatch, findOrderMatch, fitsSame]
  · intro value
    exact characterwise.normalize_of_isAlnum fun char => Characterwise.isAlnum_of_mem_normalize
  · intro value char member
    have alnum := Characterwise.isAlnum_of_mem_normalize member
    simpa [isAlnum] using alnum

/-- The tables on ASCII text, `á` and the accents alone. -/
def accentTables : CharacterTables where
  decompose := fun char => if char = 'á' then ['a', '\u0301'] else [char]
  combining := fun char => 0x300 ≤ char.toNat && char.toNat < 0x370
  lowerOf := fun char => [char.toLower]

def accented : UnicodeData where
  nfd := fun text => text.flatMap accentTables.decompose
  isMn := accentTables.combining
  lower := List.map Char.toLower

theorem combining_of_accented {char : Char} (mark : accentTables.combining char = true) :
    0x300 ≤ char.toNat ∧ char.toLower = char := by
  have outside : 0x300 ≤ char.toNat := by
    simp only [accentTables, Bool.and_eq_true, decide_eq_true_eq] at mark
    exact mark.1
  refine ⟨outside, dif_neg ?_⟩
  rintro ⟨-, upper⟩
  have small : char.toNat ≤ 90 := upper
  omega

theorem accented_characterwise : Characterwise accented accentTables where
  nfd := fun _ => rfl
  lower := by
    intro text
    induction text with
    | nil => rfl
    | cons char rest ih =>
        rw [List.flatMap_cons, ← ih]
        exact List.filter_append [char.toLower] (rest.map Char.toLower)
  ascii := by
    intro char ascii
    have plain : char ≠ 'á' := by
      rintro rfl
      exact absurd ascii (by decide)
    refine ⟨if_neg plain, ?_, rfl⟩
    simp only [accented, accentTables, Bool.and_eq_false_imp, decide_eq_true_eq]
    omega
  mark := by
    intro char mark part member
    have plain : char ≠ 'á' := by
      rintro rfl
      exact absurd (combining_of_accented (show accentTables.combining 'á' = true from mark)).1
        (by decide)
    have same : part ∈ [char] := (if_neg plain : accentTables.decompose char = [char]) ▸ member
    exact List.mem_singleton.mp same ▸ mark
  combining := by
    intro char mark
    obtain ⟨outside, lower⟩ := combining_of_accented mark
    refine ⟨?_, ?_, ?_⟩
    · rintro rfl
      exact absurd outside (by decide)
    · rintro rfl
      exact absurd outside (by decide)
    · refine List.filter_eq_nil_iff.mpr fun other member alnum => ?_
      have same : other = char := (List.mem_singleton.mp member).trans lower
      have ascii := (keeps_of_isAlnum alnum).1
      rw [same] at ascii
      omega

def decoratedOrder : MatchCandidate := ⟨"o1", "DHJWM6YB", 100000, .pending, .utc 900⟩

/-- A separator, a lower case letter and an accent inside the code. -/
theorem decorated_code_is_found :
    findOrderMatch accented 10 ⟨100000, "quá DH-JWm\u03016YB"⟩ [decoratedOrder] =
      .matched "o1" := by
  have separated : Decorates accented "quá DHJWM6YB".toList "quá DH-JWM6YB".toList :=
    .separator "quá DH".toList "JWM6YB".toList (by decide) (by decide)
  have recased : Decorates accented "quá DH-JWM6YB".toList "quá DH-JWm6YB".toList :=
    .recase "quá DH-JW".toList "6YB".toList (by decide) (.inr (by decide))
  have marked : Decorates accented "quá DH-JWm6YB".toList
      "quá DH-JWm\u03016YB".toList :=
    .mark "quá DH-JWm".toList "6YB".toList (by decide)
  have same := (matching_ignores_decoration accented_characterwise).1 10
    ⟨100000, "quá DHJWM6YB"⟩ "quá DH-JWm\u03016YB" [decoratedOrder]
    (((Relation.ReflTransGen.single separated).tail recased).tail marked)
  exact same.trans (by decide +kernel)

end Normalisation

end ApiBank.Core.Decoration
