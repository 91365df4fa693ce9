import Mathlib.Data.List.Basic
import Mathlib.Tactic.Common

/-!
# Words

A text is cut at its blanks and the words are joined again by single ones. Substituting
the letters of the words commutes with both, as long as blanks stay and words stay words.
-/

namespace ApiBank.Text

set_option autoImplicit false

variable {Symbol : Type} (isSpace : Symbol → Bool)

/-- A word is not empty and has no blank in it. -/
def IsWord (word : List Symbol) : Prop :=
  word ≠ [] ∧ ∀ char ∈ word, isSpace char = false

/-- What stands between the blanks. -/
def words [DecidableEq Symbol] (text : List Symbol) : List (List Symbol) :=
  (text.splitOnP isSpace).filter fun word => word ≠ []

theorem splitOnP_append_visible {text : List Symbol} (rest : List Symbol)
    (visible : ∀ char ∈ text, isSpace char = false) :
    (text ++ rest).splitOnP isSpace = (rest.splitOnP isSpace).modifyHead (text ++ ·) := by
  induction text with
  | nil =>
      rw [List.nil_append]
      cases rest.splitOnP isSpace <;> rfl
  | cons char text ih =>
      have own := visible char List.mem_cons_self
      have tail := ih fun other member => visible other (List.mem_cons_of_mem char member)
      rw [List.cons_append, List.splitOnP_cons_eq_if_modifyHead, own, tail]
      simp [Function.comp_def]

theorem visible_of_mem_splitOnP {text part : List Symbol}
    (member : part ∈ text.splitOnP isSpace) : ∀ char ∈ part, isSpace char = false := by
  induction text generalizing part with
  | nil =>
      rw [List.splitOnP_nil, List.mem_singleton] at member
      simp [member]
  | cons char text ih =>
      rw [List.splitOnP_cons_eq_if_modifyHead] at member
      split at member
      · cases List.mem_cons.mp member with
        | inl blank => simp [blank]
        | inr later => exact ih later
      · rename_i visible
        cases parts : text.splitOnP isSpace with
        | nil => exact absurd parts (List.splitOnP_ne_nil isSpace text)
        | cons first others =>
            rw [parts] at member ih
            cases List.mem_cons.mp member with
            | inl extended =>
                have own := ih List.mem_cons_self
                simpa [extended, visible] using own
            | inr later => exact ih (List.mem_cons_of_mem first later)

/-- A substitution that keeps blanks, and words visible, acts between the cuts. -/
theorem splitOnP_flatMap {change : Symbol → List Symbol}
    (keeps : ∀ char, isSpace char = true → change char = [char])
    (visible : ∀ char, isSpace char = false → ∀ other ∈ change char, isSpace other = false)
    (text : List Symbol) : (text.flatMap change).splitOnP isSpace =
      (text.splitOnP isSpace).map fun part => part.flatMap change := by
  induction text with
  | nil => simp
  | cons char text ih =>
      rw [List.flatMap_cons, List.splitOnP_cons_eq_if_modifyHead]
      cases blank : isSpace char with
      | true =>
          rw [keeps char blank, List.singleton_append, List.splitOnP_cons_eq_if_modifyHead]
          simp [blank, ih]
      | false =>
          rw [splitOnP_append_visible isSpace _ (visible char blank), ih]
          cases text.splitOnP isSpace <;> simp

section Words

variable [DecidableEq Symbol]

theorem isWord_of_mem_words {text word : List Symbol} (member : word ∈ words isSpace text) :
    IsWord isSpace word := by
  have parts := List.mem_filter.mp member
  exact ⟨of_decide_eq_true parts.2, visible_of_mem_splitOnP isSpace parts.1⟩

@[simp] theorem words_nil : words isSpace [] = [] := by
  simp [words]

theorem words_word {word : List Symbol} (visible : IsWord isSpace word) :
    words isSpace word = [word] := by
  simp [words, List.splitOnP_eq_singleton visible.2, visible.1]

theorem words_append_cons (before after : List Symbol) {blank : Symbol}
    (space : isSpace blank = true) :
    words isSpace (before ++ blank :: after) = words isSpace before ++ words isSpace after := by
  simp [words, List.splitOnP_append_cons before after space]

theorem words_append_blanks (before after : List Symbol) {gap : List Symbol} (filled : gap ≠ [])
    (blanks : ∀ char ∈ gap, isSpace char = true) :
    words isSpace (before ++ gap ++ after) = words isSpace before ++ words isSpace after := by
  induction gap generalizing before with
  | nil => exact absurd rfl filled
  | cons blank gap ih =>
      have own := blanks blank List.mem_cons_self
      cases gap with
      | nil => simpa using words_append_cons isSpace before after own
      | cons next others =>
          have later := ih (before ++ [blank]) (List.cons_ne_nil next others)
            fun char member => blanks char (List.mem_cons_of_mem blank member)
          have first := words_append_cons isSpace before [] own
          rw [words_nil, List.append_nil] at first
          rw [first] at later
          simpa using later

theorem words_flatMap {change : Symbol → List Symbol}
    (keeps : ∀ char, isSpace char = true → change char = [char])
    (visible : ∀ char, isSpace char = false → ∀ other ∈ change char, isSpace other = false)
    (filled : ∀ char, change char ≠ []) (text : List Symbol) :
    words isSpace (text.flatMap change) =
      (words isSpace text).map fun word => word.flatMap change := by
  have nonempty : ∀ word : List Symbol, word.flatMap change ≠ [] ↔ word ≠ [] := by
    intro word
    cases word with
    | nil => simp
    | cons char word => simp [filled char]
  rw [words, words, splitOnP_flatMap isSpace keeps visible, List.filter_map]
  simp only [Function.comp_def, nonempty]

end Words

/-- Words in a row, with one blank between two of them. -/
def joined (blank : Symbol) (parts : List (List Symbol)) : List Symbol :=
  [blank].intercalate parts

theorem joined_cons_cons (blank : Symbol) (first second : List Symbol)
    (others : List (List Symbol)) :
    joined blank (first :: second :: others) =
      first ++ blank :: joined blank (second :: others) := by
  simp [joined, List.intercalate_cons_cons]

theorem words_joined [DecidableEq Symbol] {blank : Symbol} (space : isSpace blank = true)
    {parts : List (List Symbol)} (visible : ∀ word ∈ parts, IsWord isSpace word) :
    words isSpace (joined blank parts) = parts := by
  induction parts with
  | nil => simp [joined]
  | cons first parts ih =>
      have own := words_word isSpace (visible first List.mem_cons_self)
      cases parts with
      | nil => simpa [joined] using own
      | cons second others =>
          have later := ih fun word member => visible word (List.mem_cons_of_mem first member)
          rw [joined_cons_cons, words_append_cons isSpace _ _ space, own, later]
          rfl

theorem flatMap_joined {change : Symbol → List Symbol} {blank : Symbol}
    (keeps : change blank = [blank]) (parts : List (List Symbol)) :
    (joined blank parts).flatMap change =
      joined blank (parts.map fun word => word.flatMap change) := by
  induction parts with
  | nil => simp [joined]
  | cons first parts ih =>
      cases parts with
      | nil => simp [joined]
      | cons second others =>
          rw [joined_cons_cons, List.flatMap_append, List.flatMap_cons, keeps, ih]
          simp only [List.map_cons, joined_cons_cons, List.singleton_append]

end ApiBank.Text
