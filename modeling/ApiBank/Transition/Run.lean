import Mathlib.Algebra.BigOperators.Group.List.Basic
import Mathlib.Data.List.Basic
import Mathlib.Tactic.Common

/-!
# Labelled runs

A run of a step relation keeps its events, oldest first. The rules below are the
only inductions over runs in this development: an invariant is established once
at the start and once for a step, and a relation between the events so far and
the state reached is carried the same way. A guard restricts a step relation to
the steps taken from states that meet it, so that "every step of the run meets
the condition" is again a run.
-/

namespace ApiBank.Transition

set_option autoImplicit false

variable {State Event : Type*}

/-- Finite runs from `start`, with the events in order. -/
inductive Run (step : State → Event → State → Prop) (start : State) :
    List Event → State → Prop where
  | nil : Run step start [] start
  | snoc {events : List Event} {state next : State} {event : Event}
      (earlier : Run step start events state) (taken : step state event next) :
      Run step start (events ++ [event]) next

/-- The steps that are taken from a state and with an event meeting `guard`. -/
def Guarded (guard : State → Event → Prop) (step : State → Event → State → Prop) :
    State → Event → State → Prop :=
  fun state event next => guard state event ∧ step state event next

/-- The steps of a total function. -/
def Computed (next : State → Event → State) : State → Event → State → Prop :=
  fun state event after => after = next state event

def Throughout (Fair : List Event → Event → Prop) (events : List Event) : Prop :=
  ∀ prior event later, events = prior ++ event :: later → Fair prior event

theorem throughout_nil (Fair : List Event → Event → Prop) : Throughout Fair [] := by
  intro prior event later split
  simp at split

theorem throughout_snoc {Fair : List Event → Event → Prop} {events : List Event} {last : Event}
    (earlier : Throughout Fair events) (fair : Fair events last) :
    Throughout Fair (events ++ [last]) := by
  intro prior event later split
  rcases List.eq_nil_or_concat later with rfl | ⟨rest, final, rfl⟩
  · obtain ⟨rfl, same⟩ := List.append_inj' split rfl
    obtain rfl : last = event := by simpa using same
    exact fair
  · rw [List.concat_eq_append, ← List.cons_append, ← List.append_assoc] at split
    exact earlier prior event rest (List.append_inj' split rfl).1

namespace Run

variable {step : State → Event → State → Prop} {start : State}

theorem single {event : Event} {next : State} (taken : step start event next) :
    Run step start [event] next := by
  have run := Run.snoc (.nil : Run step start [] start) taken
  simpa using run

/-- A relation between the history and the state, kept by every step, holds at
the end of every run. -/
theorem history (Holds : List Event → State → Prop) {events : List Event} {state : State}
    (run : Run step start events state) (base : Holds [] start)
    (keeps : ∀ events state event next, Holds events state → step state event next →
      Holds (events ++ [event]) next) :
    Holds events state := by
  induction run with
  | nil => exact base
  | snoc earlier taken ih => exact keeps _ _ _ _ ih taken

theorem throughout (Holds : List Event → State → Prop) {Fair : List Event → Event → Prop}
    {events : List Event} {state : State} (run : Run step start events state)
    (base : Holds [] start)
    (keeps : ∀ events state event next, Holds events state → step state event next →
      Holds (events ++ [event]) next)
    (fair : ∀ events state event next, Holds events state → step state event next →
      Fair events event) :
    Throughout Fair events := by
  induction run with
  | nil => exact throughout_nil Fair
  | snoc earlier taken ih =>
      exact throughout_snoc ih (fair _ _ _ _ (earlier.history Holds base keeps) taken)

theorem invariant (Holds : State → Prop) {events : List Event} {state : State}
    (run : Run step start events state) (base : Holds start)
    (keeps : ∀ state event next, Holds state → step state event next → Holds next) :
    Holds state :=
  history (fun _ state => Holds state) run base
    fun _ state event next => keeps state event next

theorem weaken {wider : State → Event → State → Prop} {events : List Event} {state : State}
    (run : Run step start events state)
    (includes : ∀ state event next, step state event next → wider state event next) :
    Run wider start events state := by
  induction run with
  | nil => exact .nil
  | snoc earlier taken ih => exact ih.snoc (includes _ _ _ taken)

theorem append {middle : State} {first second : List Event} {state : State}
    (run : Run step start first middle) (rest : Run step middle second state) :
    Run step start (first ++ second) state := by
  induction rest with
  | nil => simpa using run
  | snoc earlier taken ih =>
      rw [← List.append_assoc]
      exact ih.snoc taken

theorem of_computed (next : State → Event → State) (start : State) (events : List Event) :
    Run (Computed next) start events (events.foldl next start) := by
  induction events generalizing start with
  | nil => exact .nil
  | cons event rest ih =>
      have first : Run (Computed next) start [event] (next start event) := .single rfl
      exact first.append (ih (next start event))

def Along (guard : State → Event → Prop) (next : State → Event → State) :
    State → List Event → Prop
  | _, [] => True
  | state, event :: rest => guard state event ∧ Along guard next (next state event) rest

theorem along_append_iff {guard : State → Event → Prop} {next : State → Event → State}
    {start : State} {prior later : List Event} :
    Along guard next start (prior ++ later) ↔
      Along guard next start prior ∧ Along guard next (prior.foldl next start) later := by
  induction prior generalizing start with
  | nil => exact (and_iff_right trivial).symm
  | cons first rest ih =>
      rw [List.cons_append, List.foldl_cons, Along, Along, ih, and_assoc]

theorem along_split {guard : State → Event → Prop} {next : State → Event → State}
    {start : State} {prior later : List Event} {event : Event}
    (guarded : Along guard next start (prior ++ event :: later)) :
    guard (prior.foldl next start) event ∧
      Along guard next (next (prior.foldl next start) event) later :=
  (along_append_iff.mp guarded).2

theorem along_iff_split {guard : State → Event → Prop} {next : State → Event → State}
    {start : State} {events : List Event} :
    Along guard next start events ↔ ∀ prior event later, events = prior ++ event :: later →
      guard (prior.foldl next start) event := by
  constructor
  · rintro along prior event later rfl
    exact (along_split along).1
  · intro each
    induction events generalizing start with
    | nil => trivial
    | cons first rest ih =>
        refine ⟨each [] first rest rfl, ih ?_⟩
        intro prior event later split
        exact each (first :: prior) event later (by rw [split, List.cons_append])

theorem along_and {Holds : Event → Prop} {guard : State → Event → Prop}
    {next : State → Event → State} {start : State} {events : List Event}
    (all : ∀ event ∈ events, Holds event) (guarded : Along guard next start events) :
    Along (fun state event => Holds event ∧ guard state event) next start events := by
  induction events generalizing start with
  | nil => trivial
  | cons event rest ih =>
      exact ⟨⟨all event List.mem_cons_self, guarded.1⟩,
        ih (fun other member => all other (List.mem_cons_of_mem event member)) guarded.2⟩

theorem along_both_iff {first second : State → Event → Prop} {next : State → Event → State}
    {start : State} {events : List Event} :
    Along (fun state event => first state event ∧ second state event) next start events ↔
      Along first next start events ∧ Along second next start events := by
  induction events generalizing start with
  | nil => exact (and_self_iff).symm
  | cons event rest ih =>
      constructor
      · rintro ⟨⟨now, also⟩, later⟩
        obtain ⟨firsts, seconds⟩ := ih.mp later
        exact ⟨⟨now, firsts⟩, also, seconds⟩
      · rintro ⟨⟨now, firsts⟩, also, seconds⟩
        exact ⟨⟨now, also⟩, ih.mpr ⟨firsts, seconds⟩⟩

theorem along_mono {guard weaker : State → Event → Prop} {next : State → Event → State}
    (implies : ∀ state event, guard state event → weaker state event) {start : State}
    {events : List Event} (guarded : Along guard next start events) :
    Along weaker next start events := by
  induction events generalizing start with
  | nil => trivial
  | cons event rest ih => exact ⟨implies start event guarded.1, ih guarded.2⟩

/-- From states with an invariant a step has a property just when it meets a guard, and
a step with the property keeps the invariant: then the steps of a run all have the
property just when they all meet the guard. -/
theorem along_iff (Holds : State → Prop) {property guard : State → Event → Prop}
    {next : State → Event → State}
    (exact_guard : ∀ state event, Holds state → (property state event ↔ guard state event))
    (keeps : ∀ state event, Holds state → property state event → Holds (next state event))
    {start : State} {events : List Event} (base : Holds start) :
    Along property next start events ↔ Along guard next start events := by
  induction events generalizing start with
  | nil => exact Iff.rfl
  | cons event rest ih =>
      have first := exact_guard start event base
      constructor
      · intro along
        have held := along.1
        exact ⟨first.mp held, (ih (keeps start event base held)).mp along.2⟩
      · intro along
        have held := first.mpr along.1
        exact ⟨held, (ih (keeps start event base held)).mpr along.2⟩

/-- What a state holds is accounted for after every event just when every event moves it by
its gain. -/
theorem accounted_iff {Amount : Type*} [AddMonoid Amount] (holding : State → Amount)
    (gain : Event → Amount) {next : State → Event → State} {start : State}
    {events : List Event} :
    (∀ prior later, events = prior ++ later →
        holding (prior.foldl next start) = holding start + (prior.map gain).sum) ↔
      Along (fun state event => holding (next state event) = holding state + gain event) next
        start events := by
  induction events generalizing start with
  | nil =>
      constructor
      · intro _
        trivial
      · intro _ prior later split
        obtain ⟨rfl, -⟩ := List.append_eq_nil_iff.mp split.symm
        simp
  | cons event rest ih =>
      constructor
      · intro accounted
        have first : holding (next start event) = holding start + gain event := by
          simpa using accounted [event] rest rfl
        refine ⟨first, ih.mp ?_⟩
        intro prior later split
        have whole := accounted (event :: prior) later (by rw [split, List.cons_append])
        rw [List.foldl_cons, List.map_cons, List.sum_cons, ← add_assoc, ← first] at whole
        exact whole
      · rintro ⟨first, along⟩ prior later split
        cases prior with
        | nil => simp
        | cons other prior =>
            rw [List.cons_append, List.cons.injEq] at split
            obtain ⟨rfl, split⟩ := split
            rw [List.foldl_cons, ih.mpr along prior later split, first, List.map_cons,
              List.sum_cons, add_assoc]

/-- A property of every state of a run, step by step. -/
theorem always_iff (Holds : State → Prop) {next : State → Event → State} {start : State}
    {events : List Event} :
    (∀ prior later, events = prior ++ later → Holds (prior.foldl next start)) ↔
      Holds start ∧ Along (fun state event => Holds (next state event)) next start events := by
  induction events generalizing start with
  | nil =>
      constructor
      · intro always
        exact ⟨always [] [] rfl, trivial⟩
      · rintro ⟨first, -⟩ prior later split
        obtain ⟨rfl, -⟩ := List.append_eq_nil_iff.mp split.symm
        exact first
  | cons event rest ih =>
      constructor
      · intro always
        have later := ih.mp fun prior later split =>
          always (event :: prior) later (by rw [split, List.cons_append])
        exact ⟨always [] (event :: rest) rfl, later.1, later.2⟩
      · rintro ⟨first, second, along⟩ prior later split
        cases prior with
        | nil => exact first
        | cons other prior =>
            rw [List.cons_append, List.cons.injEq] at split
            obtain ⟨rfl, split⟩ := split
            exact ih.mpr ⟨second, along⟩ prior later split

theorem of_guarded {guard : State → Event → Prop} {next : State → Event → State}
    {start : State} {events : List Event} (guarded : Along guard next start events) :
    Run (Guarded guard (Computed next)) start events (events.foldl next start) := by
  induction events generalizing start with
  | nil => exact .nil
  | cons event rest ih =>
      obtain ⟨now, later⟩ := guarded
      have first : Run (Guarded guard (Computed next)) start [event] (next start event) :=
        .single ⟨now, rfl⟩
      exact first.append (ih later)

/-- A partial function that goes through all events makes a run of its steps. -/
theorem of_foldlM (next : State → Event → Option State) {guard : State → Event → Prop}
    {start last : State} {events : List Event}
    (meets : ∀ state, ∀ event ∈ events, guard state event)
    (ran : events.foldlM next start = some last) :
    Run (Guarded guard fun state event after => next state event = some after) start events
      last := by
  induction events generalizing start with
  | nil =>
      obtain rfl : start = last := by simpa using ran
      exact .nil
  | cons event rest ih =>
      rw [List.foldlM_cons] at ran
      obtain ⟨middle, taken, later⟩ := Option.bind_eq_some_iff.mp ran
      have first : Run (Guarded guard fun state event after => next state event = some after)
          start [event] middle := .single ⟨meets start event List.mem_cons_self, taken⟩
      exact first.append (ih (fun state other member =>
        meets state other (List.mem_cons_of_mem event member)) later)

theorem of_foldlM_some (next : State → Event → Option State) {start last : State}
    {events : List Event} (ran : events.foldlM next start = some last) :
    Run (fun state event after => next state event = some after) start events last := by
  have guarded : Run (Guarded (fun _ _ => True) fun state event after =>
      next state event = some after) start events last :=
    of_foldlM next (fun _ _ _ => trivial) ran
  exact guarded.weaken fun _ _ _ taken => taken.2

end Run

end ApiBank.Transition
