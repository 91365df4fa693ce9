import Mathlib.Order.Lattice

/-!
# The latest row

`ORDER BY time DESC LIMIT 1` as a fold over the rows: the first of the rows that none is
later than. A change that does not set the latest row back keeps it the latest, and rows
that are over do not count against one that lasts.
-/

namespace ApiBank.Relational

set_option autoImplicit false

variable {Row Time : Type} [LinearOrder Time] {time : Row → Time}

/-- The later of the best row so far and the next; the first of equals. -/
def laterBy (time : Row → Time) (best : Option Row) (row : Row) : Option Row :=
  match best with
  | none => some row
  | some current => if time current < time row then some row else best

def FirstLatest (time : Row → Time) (rows : List Row) (best : Row) : Prop :=
  ∃ earlier rest, rows = earlier ++ best :: rest ∧
    (∀ row ∈ earlier, time row < time best) ∧ ∀ row ∈ rest, time row ≤ time best

namespace FirstLatest

variable {rows : List Row} {best row : Row}

theorem mem (first : FirstLatest time rows best) : best ∈ rows := by
  obtain ⟨earlier, rest, rfl, -, -⟩ := first
  exact List.mem_append_right earlier List.mem_cons_self

theorem bound (first : FirstLatest time rows best) : ∀ row ∈ rows, time row ≤ time best := by
  obtain ⟨earlier, rest, rfl, before, after⟩ := first
  intro row member
  rcases List.mem_append.mp member with early | late
  · exact (before row early).le
  · rcases List.mem_cons.mp late with rfl | late
    · exact le_refl _
    · exact after row late

theorem cons_lt (first : FirstLatest time rows best) (sooner : time row < time best) :
    FirstLatest time (row :: rows) best := by
  obtain ⟨earlier, rest, rfl, before, after⟩ := first
  refine ⟨row :: earlier, rest, rfl, ?_, after⟩
  intro other member
  rcases List.mem_cons.mp member with rfl | early
  · exact sooner
  · exact before other early

/-- A row that is no later than the one in front of it changes nothing. -/
theorem cons_cons {head : Row} (first : FirstLatest time (head :: rows) best)
    (noLater : time row ≤ time head) : FirstLatest time (head :: row :: rows) best := by
  obtain ⟨earlier, rest, split, before, after⟩ := first
  cases earlier with
  | nil =>
      cases split
      refine ⟨[], row :: rows, rfl, by simp, ?_⟩
      intro other member
      rcases List.mem_cons.mp member with rfl | late
      · exact noLater
      · exact after other late
  | cons front earlier =>
      cases split
      refine ⟨head :: row :: earlier, rest, rfl, ?_, after⟩
      have sooner := before head List.mem_cons_self
      intro other member
      rcases List.mem_cons.mp member with rfl | member
      · exact sooner
      · rcases List.mem_cons.mp member with rfl | early
        · exact noLater.trans_lt sooner
        · exact before other (List.mem_cons_of_mem head early)

/-- Nothing before the latest row changes, nothing after it becomes later, and it is not
set back itself. -/
theorem map {change : Row → Row} {further : Row} (first : FirstLatest time rows best)
    (kept : ∀ row ∈ rows, row ≠ best → time (change row) = time row)
    (moved : change best = further) (forward : time best ≤ time further) :
    FirstLatest time (rows.map change) further := by
  obtain ⟨earlier, rest, rfl, before, after⟩ := first
  subst moved
  refine ⟨earlier.map change, rest.map change, by simp, ?_, ?_⟩
  · intro other member
    obtain ⟨row, early, rfl⟩ := List.mem_map.mp member
    have sooner := before row early
    have apart : row ≠ best := by
      rintro rfl
      exact lt_irrefl _ sooner
    rw [kept row (List.mem_append_left _ early) apart]
    exact sooner.trans_le forward
  · intro other member
    obtain ⟨row, late, rfl⟩ := List.mem_map.mp member
    by_cases same : row = best
    · exact same ▸ le_refl _
    · rw [kept row (List.mem_append_right earlier (List.mem_cons_of_mem best late)) same]
      exact (after row late).trans forward

end FirstLatest

theorem mem_of_foldl_laterBy {rows : List Row} {init : Option Row} {best : Row}
    (found : rows.foldl (laterBy time) init = some best) : init = some best ∨ best ∈ rows := by
  induction rows generalizing init with
  | nil => exact .inl found
  | cons row rest ih =>
      rcases ih found with chosen | listed
      · unfold laterBy at chosen
        split at chosen
        · cases chosen
          exact .inr List.mem_cons_self
        · split at chosen
          · cases chosen
            exact .inr List.mem_cons_self
          · exact .inl chosen
      · exact .inr (List.mem_cons_of_mem row listed)

theorem foldl_laterBy_keep {rows : List Row} {best : Row}
    (bound : ∀ row ∈ rows, time row ≤ time best) :
    rows.foldl (laterBy time) (some best) = some best := by
  induction rows with
  | nil => rfl
  | cons row rest ih =>
      have noLater : ¬time best < time row := not_lt.mpr (bound row List.mem_cons_self)
      have step : laterBy time (some best) row = some best := by
        simp only [laterBy, if_neg noLater]
      rw [List.foldl_cons, step]
      exact ih fun other member => bound other (List.mem_cons_of_mem row member)

theorem foldl_laterBy_eq_some_iff {rows : List Row} {best : Row} :
    rows.foldl (laterBy time) none = some best ↔ FirstLatest time rows best := by
  constructor
  · intro found
    cases rows with
    | nil => cases found
    | cons head rest =>
        have started : rest.foldl (laterBy time) (some head) = some best := found
        clear found
        induction rest generalizing head with
        | nil =>
            cases started
            exact ⟨[], [], rfl, by simp, by simp⟩
        | cons row rest ih =>
            rw [List.foldl_cons] at started
            by_cases later : time head < time row
            · simp only [laterBy, if_pos later] at started
              have first := ih row started
              exact first.cons_lt (later.trans_le (first.bound row List.mem_cons_self))
            · simp only [laterBy, if_neg later] at started
              exact (ih head started).cons_cons (not_lt.mp later)
  · rintro ⟨earlier, rest, rfl, before, after⟩
    rw [List.foldl_append, List.foldl_cons]
    have taken : laterBy time (earlier.foldl (laterBy time) none) best = some best := by
      cases found : earlier.foldl (laterBy time) none with
      | none => rfl
      | some current =>
          have early := (mem_of_foldl_laterBy found).resolve_left (by simp)
          simp only [laterBy, if_pos (before current early)]
    rw [taken]
    exact foldl_laterBy_keep after

theorem foldl_laterBy_filter (now : Time) (rows : List Row) (best : Option Row) :
    (rows.foldl (laterBy time) best).filter (fun row => now ≤ time row) =
      (rows.filter fun row => now ≤ time row).foldl (laterBy time)
        (best.filter fun row => now ≤ time row) := by
  induction rows generalizing best with
  | nil => rfl
  | cons row rest ih =>
      rw [List.foldl_cons, ih, List.filter_cons]
      have step : (laterBy time best row).filter (fun row => now ≤ time row) =
          if decide (now ≤ time row) then
            laterBy time (best.filter fun row => now ≤ time row) row
          else best.filter fun row => now ≤ time row := by
        cases best with
        | none => by_cases lasts : now ≤ time row <;> simp [laterBy, lasts, not_le.mp]
        | some current =>
            simp only [laterBy, Option.filter_some, decide_eq_true_eq]
            grind [laterBy]
      rw [step]
      split
      · rfl
      · rfl

end ApiBank.Relational
