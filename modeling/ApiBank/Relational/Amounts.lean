import ApiBank.Relational.Table
import Mathlib.Algebra.BigOperators.Group.List.Basic

/-!
# Amounts in keyed tables

A table whose rows hold amounts of a commutative monoid says for every key how much it holds,
nothing for a key without a row. Insertions and additions move that amount by what they add,
and the amounts of a table that keeps tables in its rows are summed over the rows.
-/

namespace ApiBank.Relational

set_option autoImplicit false

variable {Row Key Amount : Type} [DecidableEq Key] {key : Row → Key} [AddCommMonoid Amount]

def share (key : Row → Key) (value : Row → Amount) (wanted : Key) (rows : List Row) : Amount :=
  (rows.map fun row => if key row = wanted then value row else 0).sum

theorem share_eq_filter (value : Row → Amount) (wanted : Key) (rows : List Row) :
    share key value wanted rows =
      ((rows.filter fun row => key row = wanted).map value).sum := by
  unfold share
  induction rows with
  | nil => rfl
  | cons row rest ih =>
      by_cases keyed : key row = wanted
      · simp [keyed, ih]
      · simp [keyed, ih]

theorem share_append (value : Row → Amount) (wanted : Key) (first second : List Row) :
    share key value wanted (first ++ second) =
      share key value wanted first + share key value wanted second := by
  simp [share]

namespace Table

def amount (value : Row → Amount) (table : Table key) (wanted : Key) : Amount :=
  ((table.find? wanted).map value).getD 0

@[simp] theorem amount_empty (value : Row → Amount) (wanted : Key) :
    (empty : Table key).amount value wanted = 0 := rfl

theorem amount_of_find? {value : Row → Amount} {table : Table key} {row : Row} {wanted : Key}
    (found : table.find? wanted = some row) : table.amount value wanted = value row := by
  simp [amount, found]

theorem amount_of_none {value : Row → Amount} {table : Table key} {wanted : Key}
    (absent : table.find? wanted = none) : table.amount value wanted = 0 := by
  simp [amount, absent]

theorem share_rows (value : Row → Amount) (table : Table key) (wanted : Key) :
    share key value wanted table.rows = table.amount value wanted := by
  rw [share_eq_filter, filter_key, amount]
  cases table.find? wanted with
  | none => rfl
  | some row => simp

theorem amount_insert? {value : Row → Amount} {table next : Table key} {row : Row}
    (inserted : table.insert? row = some next) (wanted : Key) :
    next.amount value wanted =
      table.amount value wanted + if key row = wanted then value row else 0 := by
  rw [← share_rows, ← share_rows, rows_of_insert? inserted, share_append]
  simp [share]

theorem amount_modify {value : Row → Amount} {table : Table key} {row : Row} {wanted : Key}
    {change : Row → Row} (keeps : ∀ row, key (change row) = key row)
    (found : table.find? wanted = some row) (other : Key) :
    (table.modify wanted change keeps).amount value other =
      if other = wanted then value (change row) else table.amount value other := by
  unfold amount
  rw [find?_modify]
  split
  · rename_i same
    rw [same, found]
    rfl
  · rfl

/-- `INSERT`, or the change of the row that has the key already. -/
def upsert (table : Table key) (row : Row) (change : Row → Row)
    (keeps : ∀ row, key (change row) = key row) : Table key :=
  match table.insert? row with
  | some next => next
  | none => table.modify (key row) change keeps

theorem amount_upsert {value : Row → Amount} {table : Table key} {row : Row}
    {change : Row → Row} (keeps : ∀ row, key (change row) = key row)
    (adds : ∀ old, value (change old) = value old + value row) (wanted : Key) :
    (table.upsert row change keeps).amount value wanted =
      table.amount value wanted + if key row = wanted then value row else 0 := by
  unfold upsert
  split
  · rename_i next inserted
    exact amount_insert? inserted wanted
  · rename_i refused
    obtain ⟨old, member, keyed⟩ := (insert?_eq_none_iff table row).mp refused
    have found : table.find? (key row) = some old := keyed ▸ find?_of_mem member
    rw [amount_modify keeps found]
    by_cases same : key row = wanted
    · subst same
      simp [adds, amount_of_find? found]
    · simp [same, Ne.symm same]

theorem find?_upsert_of_ne {table : Table key} {row : Row} {change : Row → Row}
    (keeps : ∀ row, key (change row) = key row) {wanted : Key} (other : wanted ≠ key row) :
    (table.upsert row change keeps).find? wanted = table.find? wanted := by
  unfold upsert
  split
  · rename_i next inserted
    rw [find?_insert? inserted, if_neg (Ne.symm other)]
  · rw [find?_modify, if_neg other]

/-- Rows that meet a condition still meet it after an upsert. -/
theorem upsert_forall {Holds : Row → Prop} {table : Table key} {row : Row} {change : Row → Row}
    (keeps : ∀ row, key (change row) = key row) (all : ∀ old ∈ table.rows, Holds old)
    (new : Holds row) (changed : ∀ old, Holds old → Holds (change old)) :
    ∀ stored ∈ (table.upsert row change keeps).rows, Holds stored := by
  intro stored member
  unfold upsert at member
  split at member
  · rename_i next inserted
    rw [rows_of_insert? inserted] at member
    rcases List.mem_append.mp member with old | added
    · exact all stored old
    · exact List.mem_singleton.mp added ▸ new
  · obtain ⟨old, listed, rfl⟩ := (mem_modify_iff ..).mp member
    split
    · exact changed old (all old listed)
    · exact all old listed

section Totals

def total (worth : Row → Amount) (table : Table key) : Amount := (table.rows.map worth).sum

theorem total_insert? {worth : Row → Amount} {table next : Table key} {row : Row}
    (inserted : table.insert? row = some next) :
    next.total worth = table.total worth + worth row := by
  simp [total, rows_of_insert? inserted]

theorem total_modify {worth : Row → Amount} {table : Table key} {wanted : Key}
    {change : Row → Row} (keeps : ∀ row, key (change row) = key row)
    (same : ∀ row, table.find? wanted = some row → worth (change row) = worth row) :
    (table.modify wanted change keeps).total worth = table.total worth := by
  unfold total modify
  rw [rows_update, List.map_map]
  congr 1
  apply List.map_congr_left
  intro row member
  simp only [Function.comp]
  split
  · rename_i keyed
    exact same row (keyed ▸ find?_of_mem member)
  · rfl

theorem total_delete {worth : Row → Amount} {table : Table key} {wanted : Key} {row : Row}
    (found : table.find? wanted = some row) :
    table.total worth = worth row + (table.delete wanted).total worth := by
  have parted := (List.filter_append_perm (fun other => decide (key other = wanted))
    table.rows).symm.map worth
  have sums := parted.sum_eq
  rw [filter_key, found, List.map_append, List.sum_append] at sums
  simpa [total, delete] using sums

end Totals

end Table

end ApiBank.Relational
