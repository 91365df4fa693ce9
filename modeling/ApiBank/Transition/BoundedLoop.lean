import Mathlib.Tactic.Common

/-!
# Loops with a bound and a break

A `for` loop over a range whose rounds may break it. Where it ends is read off the states
that the rounds would make one after the other: it is the first round that breaks, or the
bound.
-/

namespace ApiBank.Transition.BoundedLoop

set_option autoImplicit false

variable {State : Type*} (body : Nat → State → State × Bool)

/-- `for index in range(index, index + remaining)`: how many rounds there were when it
ends, counted from 0, and the state. The flag of a round is its `break`. -/
def forRange : Nat → Nat → State → Nat × State
  | 0, index, state => (index, state)
  | remaining + 1, index, state =>
      if (body index state).2 then (index + 1, (body index state).1)
      else forRange remaining (index + 1) (body index state).1

/-- The state before a round, if no round broke the loop. -/
def stateBefore (start : State) : Nat → State
  | 0 => start
  | index + 1 => (body index (stateBefore start index)).1

def Breaks (start : State) (index : Nat) : Prop :=
  (body index (stateBefore body start index)).2 = true

/-- The rounds before the last one did not break the loop, and the last one did unless
the range is exhausted. -/
structure Ends (start : State) (limit : Nat) (ended : Nat × State) : Prop where
  state : ended.2 = stateBefore body start ended.1
  bound : ended.1 ≤ limit
  earlier : ∀ index, index + 1 < ended.1 → ¬Breaks body start index
  last : ended.1 = limit ∨ ∃ index, ended.1 = index + 1 ∧ Breaks body start index

variable {body} {start : State} {limit : Nat} {ended : Nat × State}

theorem ends_of_forRange (remaining index : Nat)
    (earlier : ∀ round < index, ¬Breaks body start round) :
    Ends body start (index + remaining)
      (forRange body remaining index (stateBefore body start index)) := by
  induction remaining generalizing index with
  | zero =>
      exact ⟨rfl, Nat.le_refl _, fun round before => earlier round (Nat.lt_of_succ_lt before),
        .inl rfl⟩
  | succ remaining ih =>
      rw [forRange]
      split
      · rename_i breaks
        refine ⟨rfl, by simp, fun round before => earlier round (by simpa using before), ?_⟩
        exact .inr ⟨index, rfl, breaks⟩
      · rename_i goesOn
        have next := ih (index + 1) fun round before => by
          rcases Nat.lt_succ_iff_lt_or_eq.mp before with old | rfl
          · exact earlier round old
          · exact goesOn
        rwa [Nat.add_assoc, Nat.add_comm 1 remaining] at next

theorem forRange_ends (body : Nat → State → State × Bool) (limit : Nat) (start : State) :
    Ends body start limit (forRange body limit 0 start) := by
  have whole := @ends_of_forRange _ body start limit 0 (by simp)
  rwa [Nat.zero_add] at whole

theorem Ends.count_of_breaks (ends : Ends body start limit ended) {index : Nat}
    (inside : index < limit) (earlier : ∀ round < index, ¬Breaks body start round)
    (breaks : Breaks body start index) : ended.1 = index + 1 := by
  have notLater : ended.1 ≤ index + 1 := by
    by_contra later
    exact ends.earlier index (by omega) breaks
  rcases ends.last with exhausted | ⟨round, counted, broke⟩
  · omega
  · have notBefore : index ≤ round := by
      by_contra before
      exact earlier round (by omega) broke
    omega

theorem stateBefore_keeps {Holds : State → Prop}
    (step : ∀ index state, Holds state → Holds (body index state).1) (holds : Holds start)
    (index : Nat) : Holds (stateBefore body start index) := by
  induction index with
  | zero => exact holds
  | succ index ih => exact step index _ ih

end ApiBank.Transition.BoundedLoop
