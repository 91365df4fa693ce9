import Mathlib.Algebra.Order.BigOperators.Group.List
import Mathlib.Tactic.Common

/-!
# Claims settled once each

Rows with distinct keys each hold an amount for an owner, and a list of marks names the
rows that have been settled. However often a row is marked it counts once, so what is
settled for an owner never exceeds what the owner's rows hold.
-/

namespace ApiBank.Accounting

set_option autoImplicit false

variable {Row Key Owner Amount : Type*} [DecidableEq Key] [DecidableEq Owner]
variable [AddCommMonoid Amount]
variable (key : Row → Key) (owner : Row → Owner) (amount : Row → Amount)

def settled (rows : List Row) (marks : List Key) (account : Owner) : Amount :=
  (rows.map fun row => if owner row = account ∧ key row ∈ marks then amount row else 0).sum

def held (rows : List Row) (account : Owner) : Amount :=
  (rows.map fun row => if owner row = account then amount row else 0).sum

theorem settled_nil (rows : List Row) (account : Owner) :
    settled key owner amount rows [] account = 0 := by
  simp [settled]

theorem settled_again {rows : List Row} {marks : List Key} {mark : Key} (marked : mark ∈ marks)
    (account : Owner) :
    settled key owner amount rows (mark :: marks) account =
      settled key owner amount rows marks account := by
  unfold settled
  congr 1
  apply List.map_congr_left
  intro row _
  have same : key row ∈ mark :: marks ↔ key row ∈ marks := by
    rw [List.mem_cons]
    constructor
    · rintro (new | old)
      · exact new ▸ marked
      · exact old
    · exact .inr
  simp only [same]

/-- The first mark of a row adds what it holds. -/
theorem settled_mark {rows : List Row} {marks : List Key} {row : Row}
    (distinct : (rows.map key).Nodup) (member : row ∈ rows) (fresh : key row ∉ marks)
    (account : Owner) :
    settled key owner amount rows (key row :: marks) account =
      settled key owner amount rows marks account +
        if owner row = account then amount row else 0 := by
  induction rows with
  | nil => cases member
  | cons first rest ih =>
      rw [List.map_cons, List.nodup_cons] at distinct
      unfold settled at ih ⊢
      simp only [List.map_cons, List.sum_cons]
      rcases List.mem_cons.mp member with rfl | deeper
      · -- the other rows have other keys
        have others : (rest.map fun other =>
            if owner other = account ∧ key other ∈ key row :: marks then amount other else 0) =
              rest.map fun other =>
                if owner other = account ∧ key other ∈ marks then amount other else 0 := by
          apply List.map_congr_left
          intro other listed
          have apart : key other ≠ key row :=
            fun same => distinct.1 (same ▸ List.mem_map_of_mem listed)
          simp [apart]
        rw [others]
        simp [fresh, add_comm]
      · have apart : key first ≠ key row :=
          fun same => distinct.1 (same ▸ List.mem_map_of_mem deeper)
        rw [ih distinct.2 deeper, add_assoc]
        simp [apart]

theorem settled_le_held [PartialOrder Amount] [IsOrderedAddMonoid Amount] {rows : List Row}
    (nonneg : ∀ row ∈ rows, 0 ≤ amount row) (marks : List Key) (account : Owner) :
    settled key owner amount rows marks account ≤ held owner amount rows account := by
  apply List.sum_le_sum
  intro row member
  by_cases mine : owner row = account
  · by_cases marked : key row ∈ marks
    · simp [mine, marked]
    · simpa [mine, marked] using nonneg row member
  · simp [mine]

omit [DecidableEq Key] in
theorem held_of_sole {rows : List Row} {row : Row} (distinct : (rows.map key).Nodup)
    (member : row ∈ rows)
    (sole : ∀ other ∈ rows, owner other = owner row → key other = key row) :
    held owner amount rows (owner row) = amount row := by
  induction rows with
  | nil => cases member
  | cons first rest ih =>
      rw [List.map_cons, List.nodup_cons] at distinct
      unfold held at ih ⊢
      simp only [List.map_cons, List.sum_cons]
      rcases List.mem_cons.mp member with rfl | deeper
      · have others : (rest.map fun other =>
            if owner other = owner row then amount other else 0).sum = 0 := by
          apply List.sum_eq_zero
          intro value listed
          obtain ⟨other, otherMember, rfl⟩ := List.mem_map.mp listed
          apply if_neg
          intro same
          have keyed := sole other (List.mem_cons_of_mem row otherMember) same
          exact distinct.1 (keyed ▸ List.mem_map_of_mem otherMember)
        simp [others]
      · have apart : owner first ≠ owner row := by
          intro same
          have keyed := sole first List.mem_cons_self same
          exact distinct.1 (keyed ▸ List.mem_map_of_mem deeper)
        rw [if_neg apart, zero_add]
        apply ih distinct.2 deeper
        intro other listed
        exact sole other (List.mem_cons_of_mem first listed)

/-- A total that is bounded by what is settled stays so when a row is marked, if it grows
by no more than the row holds for its owner, and not at all when the row was marked. -/
theorem settled_grows [PartialOrder Amount] [IsOrderedAddMonoid Amount] {rows : List Row}
    {marks : List Key} {row : Row} {before after : Owner → Amount}
    (distinct : (rows.map key).Nodup) (member : row ∈ rows) (nonneg : 0 ≤ amount row)
    (bound : ∀ account, before account ≤ settled key owner amount rows marks account)
    (grows : after = before ∨ key row ∉ marks ∧
      ∀ account, after account ≤ before account + if owner row = account then amount row else 0)
    (account : Owner) :
    after account ≤ settled key owner amount rows (key row :: marks) account := by
  by_cases marked : key row ∈ marks
  · rw [settled_again key owner amount marked]
    rcases grows with rfl | ⟨fresh, -⟩
    · exact bound account
    · exact absurd marked fresh
  · rw [settled_mark key owner amount distinct member marked]
    have added : 0 ≤ if owner row = account then amount row else 0 := by
      split
      · exact nonneg
      · exact le_refl 0
    rcases grows with rfl | ⟨-, more⟩
    · exact (bound account).trans (le_add_of_nonneg_right added)
    · exact (more account).trans (add_le_add_left (bound account) _)

end ApiBank.Accounting
