import Mathlib.Data.List.Pairwise
import Mathlib.Logic.Function.Basic
import Mathlib.Order.Lattice
import Mathlib.Tactic.Common

/-!
# Keyed histories

Every event carries a key and acts on the state of that key alone. The state of a
key is then a matter of the events of the key, and of nothing that happens between
them. Two histories in one order come to the same when they agree place by place.
-/

namespace ApiBank.Transition.Keyed

set_option autoImplicit false

section Machine

variable {Key State Event : Type*} [DecidableEq Key]

def tell (key : Event → Key) (step : State → Event → State) (states : Key → State)
    (event : Event) : Key → State :=
  Function.update states (key event) (step (states (key event)) event)

theorem tell_self (key : Event → Key) (step : State → Event → State) (states : Key → State)
    (event : Event) :
    tell key step states event (key event) = step (states (key event)) event :=
  Function.update_self ..

theorem tell_other {key : Event → Key} {step : State → Event → State} {states : Key → State}
    {event : Event} {wanted : Key} (apart : key event ≠ wanted) :
    tell key step states event wanted = states wanted :=
  Function.update_of_ne (Ne.symm apart) ..

theorem foldl_tell (key : Event → Key) (step : State → Event → State) (states : Key → State)
    (events : List Event) (wanted : Key) :
    events.foldl (tell key step) states wanted =
      (events.filter fun event => key event = wanted).foldl step (states wanted) := by
  induction events generalizing states with
  | nil => rfl
  | cons event rest ih =>
      rw [List.foldl_cons, ih]
      by_cases own : key event = wanted
      · subst own
        rw [tell_self, List.filter_cons_of_pos (by simp), List.foldl_cons]
      · rw [tell_other own, List.filter_cons_of_neg (by simp [own])]

end Machine

section Places

variable {Event Place : Type*} [LinearOrder Place] {place : Event → Place}

theorem filter_place_cons (event : Event) (rest : List Event) (wanted : Place) :
    ((event :: rest).filter fun event => place event = wanted) =
      if place event = wanted then event :: rest.filter fun event => place event = wanted
      else rest.filter fun event => place event = wanted := by
  simp only [List.filter_cons, decide_eq_true_eq]

theorem mem_iff_of_places {first second : List Event}
    (same : ∀ wanted, (first.filter fun event => place event = wanted) =
      second.filter fun event => place event = wanted) (event : Event) :
    event ∈ first ↔ event ∈ second := by
  have shared := congrArg (event ∈ ·) (same (place event))
  simpa using shared

theorem eq_of_places {first second : List Event}
    (ordered : first.Pairwise fun earlier later => place earlier ≤ place later)
    (orderedToo : second.Pairwise fun earlier later => place earlier ≤ place later)
    (same : ∀ wanted, (first.filter fun event => place event = wanted) =
      second.filter fun event => place event = wanted) :
    first = second := by
  induction first generalizing second with
  | nil =>
      apply Eq.symm
      apply List.eq_nil_iff_forall_not_mem.mpr
      intro event listed
      cases (mem_iff_of_places same event).mpr listed
  | cons head rest ih =>
      cases second with
      | nil => cases (mem_iff_of_places same head).mp List.mem_cons_self
      | cons other others =>
          have leads := List.pairwise_cons.mp ordered
          have leadsToo := List.pairwise_cons.mp orderedToo
          -- each head is somewhere in the other history, hence not before its head
          have below : place head ≤ place other := by
            rcases List.mem_cons.mp ((mem_iff_of_places same other).mpr List.mem_cons_self)
              with rfl | later
            · exact le_refl _
            · exact leads.1 other later
          have above : place other ≤ place head := by
            rcases List.mem_cons.mp ((mem_iff_of_places same head).mp List.mem_cons_self)
              with rfl | later
            · exact le_refl _
            · exact leadsToo.1 head later
          have level : place head = place other := le_antisymm below above
          have heads := same (place head)
          rw [filter_place_cons, filter_place_cons, if_pos rfl, if_pos level.symm] at heads
          obtain rfl : head = other := (List.cons.inj heads).1
          congr 1
          apply ih leads.2 leadsToo.2
          intro wanted
          have tails := same wanted
          rw [filter_place_cons, filter_place_cons, ← level] at tails
          split at tails
          · exact (List.cons.inj tails).2
          · exact tails

/-- One event any number of times has one order. -/
theorem eq_of_perm_of_same {first second : List Event} (perm : first.Perm second)
    (same : ∀ event ∈ first, ∀ other ∈ first, event = other) : first = second := by
  cases first with
  | nil => exact perm.nil_eq
  | cons event rest =>
      have repeated : event :: rest = List.replicate (event :: rest).length event :=
        List.eq_replicate_of_mem fun other listed => same other listed event List.mem_cons_self
      rw [repeated] at perm ⊢
      exact (List.perm_replicate.mp perm.symm).symm

end Places

end ApiBank.Transition.Keyed
