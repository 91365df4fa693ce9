import Mathlib.Tactic.Common

/-!
# Separated lists

Two lists joined by a separator, the split at its first occurrence, and pairs of which
the last one under a key counts.
-/

namespace ApiBank.Text

set_option autoImplicit false

variable {Symbol : Type} {separator : Symbol}

theorem join_injective {first other rest more : List Symbol} (free : separator ∉ first)
    (otherFree : separator ∉ other)
    (same : first ++ separator :: rest = other ++ separator :: more) :
    first = other ∧ rest = more := by
  induction first generalizing other with
  | nil =>
      cases other with
      | nil => exact ⟨rfl, (List.cons.inj same).2⟩
      | cons head tail =>
          obtain rfl : separator = head := (List.cons.inj same).1
          exact absurd List.mem_cons_self otherFree
  | cons head tail ih =>
      cases other with
      | nil =>
          obtain rfl : head = separator := (List.cons.inj same).1
          exact absurd List.mem_cons_self free
      | cons otherHead otherTail =>
          obtain ⟨rfl, tails⟩ := List.cons.inj same
          have apart := List.not_mem_of_not_mem_cons free
          have otherApart := List.not_mem_of_not_mem_cons otherFree
          obtain ⟨rfl, rests⟩ := ih apart otherApart tails
          exact ⟨rfl, rests⟩

theorem join_injective_last {first other rest more : List Symbol} (free : separator ∉ rest)
    (otherFree : separator ∉ more)
    (same : first ++ separator :: rest = other ++ separator :: more) :
    first = other ∧ rest = more := by
  have reversed := congrArg List.reverse same
  simp only [List.reverse_append, List.reverse_cons, List.append_assoc,
    List.singleton_append] at reversed
  have parts := join_injective (by simpa using free) (by simpa using otherFree) reversed
  exact ⟨List.reverse_inj.mp parts.2, List.reverse_inj.mp parts.1⟩

/-- A joined list has one pair of parts exactly when the separator occurs nowhere else. -/
theorem unique_parts_iff (first rest : List Symbol) :
    (∀ other more, first ++ separator :: rest = other ++ separator :: more →
        first = other ∧ rest = more) ↔
      separator ∉ first ∧ separator ∉ rest := by
  constructor
  · intro unique
    constructor
    · intro occurs
      obtain ⟨before, after, rfl⟩ := List.append_of_mem occurs
      have parts := unique before (after ++ separator :: rest) (by simp)
      have lengths := congrArg List.length parts.1
      simp at lengths
    · intro occurs
      obtain ⟨before, after, rfl⟩ := List.append_of_mem occurs
      have parts := unique (first ++ separator :: before) after (by simp)
      have lengths := congrArg List.length parts.1
      simp at lengths
  · rintro ⟨free, restFree⟩ other more same
    have otherFree : separator ∉ other := by
      intro occurs
      obtain ⟨before, after, rfl⟩ := List.append_of_mem occurs
      -- the separators on the left are one, on the right at least two
      classical
      have counts := congrArg (List.count separator) same
      simp [List.count_eq_zero_of_not_mem free, List.count_eq_zero_of_not_mem restFree] at counts
      omega
    exact join_injective free otherFree same

theorem stops_of_dropWhile {goesOn : Symbol → Bool} {symbols tail : List Symbol} {head : Symbol}
    (left : symbols.dropWhile goesOn = head :: tail) : goesOn head = false := by
  induction symbols with
  | nil => cases left
  | cons symbol rest ih =>
      cases on : goesOn symbol with
      | true =>
          rw [List.dropWhile_cons_of_pos on] at left
          exact ih left
      | false =>
          have stops : ¬goesOn symbol = true := by simp [on]
          rw [List.dropWhile_cons_of_neg stops] at left
          rw [← (List.cons.inj left).1, on]

variable [DecidableEq Symbol]

def splitOnce (separator : Symbol) : List Symbol → Option (List Symbol × List Symbol)
  | [] => none
  | head :: rest =>
      if head = separator then some ([], rest)
      else (splitOnce separator rest).map fun parts => (head :: parts.1, parts.2)

theorem splitOnce_join {first : List Symbol} (free : separator ∉ first) (rest : List Symbol) :
    splitOnce separator (first ++ separator :: rest) = some (first, rest) := by
  induction first with
  | nil => simp [splitOnce]
  | cons head tail ih =>
      have different : head ≠ separator := by
        rintro rfl
        exact free List.mem_cons_self
      rw [List.cons_append, splitOnce, if_neg different,
        ih (List.not_mem_of_not_mem_cons free)]
      rfl

/-- What follows the first occurrence of a pattern. -/
def after (pattern : List Symbol) : List Symbol → Option (List Symbol)
  | [] => if pattern = [] then some [] else none
  | head :: rest =>
      if pattern.isPrefixOf (head :: rest) then some ((head :: rest).drop pattern.length)
      else after pattern rest

theorem after_append {start : Symbol} {pattern first : List Symbol} (free : start ∉ first)
    (rest : List Symbol) :
    after (start :: pattern) (first ++ (start :: pattern) ++ rest) = some rest := by
  induction first with
  | nil => simp [after]
  | cons head tail ih =>
      have different : start ≠ head := by
        rintro rfl
        exact free List.mem_cons_self
      have later := ih (List.not_mem_of_not_mem_cons free)
      simp [after, different, ← later]

def lookupLast {Value : Type} (key : List Symbol) (pairs : List (List Symbol × Value)) :
    Option Value :=
  pairs.reverse.lookup key

theorem lookupLast_append_self {Value : Type} (key : List Symbol) (value : Value)
    (pairs : List (List Symbol × Value)) :
    lookupLast key (pairs ++ [(key, value)]) = some value := by
  simp [lookupLast]

theorem lookupLast_append_other {Value : Type} {key other : List Symbol}
    (different : key ≠ other) (value : Value) (pairs : List (List Symbol × Value)) :
    lookupLast key (pairs ++ [(other, value)]) = lookupLast key pairs := by
  have apart : (key == other) = false := by simpa using different
  simp [lookupLast, List.lookup_cons, apart]

end ApiBank.Text
