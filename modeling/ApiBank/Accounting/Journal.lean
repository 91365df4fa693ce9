import Mathlib.Algebra.BigOperators.Group.List.Basic
import Mathlib.Tactic.Common

/-!
# Journals with running totals

A journal is a list of postings in creation order. Each posting moves an amount
on one account and records the total of that account after it. The account
balance is the sum of its postings; a journal is consistent when every recorded
total is the balance of the prefix that ends with its posting. Amounts live in
any additive monoid; how a row is read as a posting is a parameter.
-/

namespace ApiBank.Accounting

set_option autoImplicit false

/-- How a row is read as a posting. -/
structure Journal (Row Account Amount : Type*) where
  account : Row → Account
  amount : Row → Amount
  running : Row → Amount

namespace Journal

variable {Row Account Amount : Type*} [DecidableEq Account] [AddMonoid Amount]
variable (journal : Journal Row Account Amount)

def balance (rows : List Row) (account : Account) : Amount :=
  ((rows.filter fun row => journal.account row = account).map journal.amount).sum

@[simp] theorem balance_nil (account : Account) : journal.balance [] account = 0 := by
  simp [balance]

theorem balance_append (earlier later : List Row) (account : Account) :
    journal.balance (earlier ++ later) account =
      journal.balance earlier account + journal.balance later account := by
  simp [balance]

theorem balance_singleton (row : Row) (account : Account) :
    journal.balance [row] account =
      if journal.account row = account then journal.amount row else 0 := by
  by_cases own : journal.account row = account <;> simp [balance, own]

theorem balance_of_absent {rows : List Row} {account : Account}
    (absent : ∀ row ∈ rows, journal.account row ≠ account) :
    journal.balance rows account = 0 := by
  have none : (rows.filter fun row => journal.account row = account) = [] := by
    simpa using absent
  simp [balance, none]

/-- Every recorded total is the balance of the prefix that its posting closes. -/
def RunningTotals (rows : List Row) : Prop :=
  ∀ earlier row later, rows = earlier ++ row :: later →
    journal.running row = journal.balance (earlier ++ [row]) (journal.account row)

theorem running_totals_nil : journal.RunningTotals [] := by
  intro earlier row later split
  simp at split

/-- Posting one more row keeps the journal consistent when its recorded total is
the old balance of its account plus its amount. -/
theorem running_totals_snoc {rows : List Row} {row : Row}
    (consistent : journal.RunningTotals rows)
    (posted : journal.running row =
      journal.balance rows (journal.account row) + journal.amount row) :
    journal.RunningTotals (rows ++ [row]) := by
  intro earlier other later split
  rcases List.eq_nil_or_concat later with empty | ⟨front, last, rfl⟩
  · subst empty
    obtain ⟨sameRows, sameRow⟩ := List.append_inj' split rfl
    obtain rfl : row = other := by simpa using sameRow
    subst sameRows
    rw [posted, balance_append, balance_singleton, if_pos rfl]
  · rw [List.concat_eq_append, ← List.cons_append, ← List.append_assoc] at split
    exact consistent earlier other front (List.append_inj' split rfl).1

end Journal

end ApiBank.Accounting
