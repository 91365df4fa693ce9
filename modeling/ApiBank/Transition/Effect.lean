import Mathlib.Tactic.Common

/-!
# Stateful computations that raise

`EStateM` keeps the state across an exception, as a Python session does: what was
written before a `raise` is still there for an `except` block to see. The rules
below take a computation apart at a bind, and say what the two ways of ending a
unit of work do with the state.
-/

namespace ApiBank.Transition

set_option autoImplicit false

namespace Effect

variable {Failure State Value Result : Type}

theorem bind_ok_iff (first : EStateM Failure State Value)
    (rest : Value → EStateM Failure State Result) (before after : State) (result : Result) :
    (first >>= rest) before = .ok result after ↔
      ∃ value middle, first before = .ok value middle ∧ rest value middle = .ok result after := by
  simp only [bind, EStateM.bind]
  cases ran : first before with
  | ok value middle => simp
  | error failure middle => simp

theorem bind_error_iff (first : EStateM Failure State Value)
    (rest : Value → EStateM Failure State Result) (before after : State) (failure : Failure) :
    (first >>= rest) before = .error failure after ↔
      first before = .error failure after ∨
        ∃ value middle, first before = .ok value middle ∧
          rest value middle = .error failure after := by
  simp only [bind, EStateM.bind]
  cases ran : first before with
  | ok value middle => simp
  | error other middle => simp

@[simp] theorem pure_apply (value : Value) (before : State) :
    (pure value : EStateM Failure State Value) before = .ok value before := rfl

@[simp] theorem get_apply (before : State) :
    (get : EStateM Failure State State) before = .ok before before := rfl

@[simp] theorem throw_apply (failure : Failure) (before : State) :
    (throw failure : EStateM Failure State Value) before = .error failure before := rfl

@[simp] theorem modify_apply (change : State → State) (before : State) :
    (modify change : EStateM Failure State PUnit) before = .ok () (change before) := rfl

def raises (kind : Failure → Bool) (work : EStateM Failure State Value) (before : State) : Bool :=
  match work before with
  | .ok _ _ => false
  | .error failure _ => kind failure

/-- `try: ... except Exception: pass` before another statement: the failure is dropped and the
state stays, except that after a failure which breaks the transaction that statement raises. -/
def swallow (breaks : Failure → Bool) (work : EStateM Failure State Value) :
    EStateM Failure State Unit := fun before =>
  match work before with
  | .ok _ after => .ok () after
  | .error failure after => if breaks failure then .error failure after else .ok () after

def discard (work : EStateM Failure State Value) : EStateM Failure State Unit := do
  let _ ← work
  pure ()

theorem discard_ok {work : EStateM Failure State Value} {before after : State}
    (returned : discard work before = .ok () after) :
    ∃ value, work before = .ok value after := by
  obtain ⟨value, middle, ran, done⟩ := (bind_ok_iff ..).mp returned
  cases done
  exact ⟨value, ran⟩

theorem discard_of_ok {work : EStateM Failure State Value} {before after : State} {value : Value}
    (returned : work before = .ok value after) : discard work before = .ok () after :=
  (bind_ok_iff ..).mpr ⟨value, after, returned, rfl⟩

theorem raises_bind_pure (kind : Failure → Bool) (work : EStateM Failure State Value)
    (made : Value → Result) (before : State) :
    raises kind (work >>= fun value => pure (made value)) before = raises kind work before := by
  simp only [raises, bind, EStateM.bind]
  cases work before <;> rfl

/-- A request on its own session: the work is committed when it returns and
discarded when it raises. -/
def commit (work : EStateM Failure State Value) (before : State) : State :=
  match work before with
  | .ok _ after => after
  | .error _ _ => before

/-- Work that writes nothing when it raises may be swallowed or discarded alike, unless it breaks
the transaction. -/
theorem swallow_eq_commit {breaks : Failure → Bool} {work : EStateM Failure State Value}
    {before : State} (survives : raises breaks work before = false)
    (clean : ∀ failure after, work before = .error failure after → after = before) :
    swallow breaks work before = .ok () (commit work before) := by
  unfold raises at survives
  unfold swallow commit
  cases ran : work before with
  | ok value after => rfl
  | error failure after =>
      rw [ran] at survives
      simp only [survives, clean failure after ran]
      rfl

theorem survives_of_swallow {breaks : Failure → Bool} {work : EStateM Failure State Value}
    {before after : State} (swallowed : swallow breaks work before = .ok () after) :
    raises breaks work before = false := by
  unfold swallow at swallowed
  unfold raises
  cases ran : work before with
  | ok value final => rfl
  | error failure final =>
      rw [ran] at swallowed
      cases broken : breaks failure with
      | false => exact broken
      | true => simp [broken] at swallowed

theorem swallow_of_raises {breaks : Failure → Bool} {work : EStateM Failure State Value}
    {before : State} (broken : raises breaks work before = true) :
    ∃ failure after, swallow breaks work before = .error failure after := by
  unfold raises at broken
  unfold swallow
  cases ran : work before with
  | ok value after =>
      rw [ran] at broken
      cases broken
  | error failure after =>
      rw [ran] at broken
      exact ⟨failure, after, if_pos broken⟩

theorem commit_of_ok {work : EStateM Failure State Value} {before after : State} {value : Value}
    (returned : work before = .ok value after) : commit work before = after := by
  simp [commit, returned]

theorem commit_of_error {work : EStateM Failure State Value} {before after : State}
    {failure : Failure} (raised : work before = .error failure after) :
    commit work before = before := by
  simp [commit, raised]

def returns (work : EStateM Failure State Value) (before : State) : Bool :=
  match work before with
  | .ok _ _ => true
  | .error _ _ => false

theorem ok_of_returns {work : EStateM Failure State Value} {before : State}
    (returned : returns work before = true) : ∃ value after, work before = .ok value after := by
  unfold returns at returned
  split at returned
  · rename_i value after ran
    exact ⟨value, after, ran⟩
  · contradiction

/-- What every returning run of the work establishes, the committed state has,
provided the state before has it. -/
theorem commit_keeps {Holds : State → Prop} {work : EStateM Failure State Value} {before : State}
    (base : Holds before)
    (keeps : ∀ value after, work before = .ok value after → Holds after) :
    Holds (commit work before) := by
  cases ran : work before with
  | ok value after =>
      rw [commit_of_ok ran]
      exact keeps value after ran
  | error failure after =>
      rw [commit_of_error ran]
      exact base

theorem forM_keeps {Holds : State → Prop} {work : Value → EStateM Failure State PUnit}
    {values : List Value} {before after : State} (base : Holds before)
    (keeps : ∀ value ∈ values, ∀ state next, Holds state → work value state = .ok () next →
      Holds next)
    (returned : values.forM work before = .ok () after) : Holds after := by
  induction values generalizing before with
  | nil =>
      cases returned
      exact base
  | cons value rest ih =>
      obtain ⟨⟨⟩, middle, first, later⟩ := (bind_ok_iff ..).mp returned
      apply ih (keeps value (List.mem_cons_self ..) before middle base first) ?_ later
      intro other member
      exact keeps other (List.mem_cons_of_mem value member)

theorem forM_append_ok_iff (work : Value → EStateM Failure State PUnit) (first second : List Value)
    (before after : State) :
    (first ++ second).forM work before = .ok () after ↔
      ∃ middle, first.forM work before = .ok () middle ∧
        second.forM work middle = .ok () after := by
  induction first generalizing before with
  | nil =>
      constructor
      · intro ran
        exact ⟨before, rfl, ran⟩
      · rintro ⟨middle, done, ran⟩
        cases done
        exact ran
  | cons value rest ih =>
      constructor
      · intro ran
        obtain ⟨⟨⟩, next, once, later⟩ := (bind_ok_iff ..).mp ran
        obtain ⟨middle, firstRan, secondRan⟩ := (ih next).mp later
        exact ⟨middle, (bind_ok_iff ..).mpr ⟨(), next, once, firstRan⟩, secondRan⟩
      · rintro ⟨middle, firstRan, secondRan⟩
        obtain ⟨⟨⟩, next, once, later⟩ := (bind_ok_iff ..).mp firstRan
        exact (bind_ok_iff ..).mpr ⟨(), next, once, (ih next).mpr ⟨middle, later, secondRan⟩⟩

section Keeps

variable {Part : Type}

def Keeps (part : State → Part) (work : EStateM Failure State Value) : Prop :=
  ∀ before value after, work before = .ok value after → part after = part before

variable {part : State → Part}

theorem keeps_pure (value : Value) : Keeps part (pure value : EStateM Failure State Value) := by
  intro before result after returned
  cases returned
  rfl

theorem keeps_throw (failure : Failure) :
    Keeps part (throw failure : EStateM Failure State Value) := by
  intro before result after returned
  cases returned

theorem keeps_get : Keeps part (get : EStateM Failure State State) := by
  intro before result after returned
  cases returned
  rfl

theorem keeps_bind {work : EStateM Failure State Value}
    {rest : Value → EStateM Failure State Result} (first : Keeps part work)
    (later : ∀ value, Keeps part (rest value)) : Keeps part (work >>= rest) := by
  intro before result after returned
  obtain ⟨value, middle, ran, done⟩ := (bind_ok_iff ..).mp returned
  exact (later value middle result after done).trans (first before value middle ran)

theorem keeps_ite {chosen : Prop} [Decidable chosen] {left right : EStateM Failure State Value}
    (yes : Keeps part left) (no : Keeps part right) :
    Keeps part (if chosen then left else right) := by
  split
  · exact yes
  · exact no

theorem keeps_discard {work : EStateM Failure State Value} (keeps : Keeps part work) :
    Keeps part (discard work) :=
  keeps_bind keeps fun _ => keeps_pure ()

/-- A request that leaves the part alone when it returns leaves it alone. -/
theorem commit_of_keeps {work : EStateM Failure State Value} (keeps : Keeps part work)
    (before : State) : part (commit work before) = part before := by
  cases ran : work before with
  | ok value after =>
      rw [commit_of_ok ran]
      exact keeps before value after ran
  | error failure after => rw [commit_of_error ran]

end Keeps

section Carries

/-- Work that neither reads nor writes what `change` alters: whatever it does from a
state, it does from the altered state. -/
def Carries (change : State → State) (work : EStateM Failure State Value) : Prop :=
  ∀ before value after, work before = .ok value after →
    work (change before) = .ok value (change after)

variable {change : State → State}

theorem carries_pure (value : Value) :
    Carries change (pure value : EStateM Failure State Value) := by
  intro before result after returned
  cases returned
  rfl

theorem carries_modify {write : State → State}
    (commutes : ∀ state, write (change state) = change (write state)) :
    Carries change (modify write : EStateM Failure State PUnit) := by
  intro before result after returned
  cases returned
  exact congrArg _ (commutes before)

theorem carries_bind {work : EStateM Failure State Value}
    {rest : Value → EStateM Failure State Result} (first : Carries change work)
    (later : ∀ value, Carries change (rest value)) : Carries change (work >>= rest) := by
  intro before result after returned
  obtain ⟨value, middle, ran, done⟩ := (bind_ok_iff ..).mp returned
  exact (bind_ok_iff ..).mpr
    ⟨value, change middle, first before value middle ran, later value middle result after done⟩

theorem carries_get {rest : State → EStateM Failure State Value}
    (blind : ∀ state, rest (change state) = rest state)
    (later : ∀ state, Carries change (rest state)) : Carries change (get >>= rest) := by
  intro before result after returned
  obtain ⟨state, middle, ran, done⟩ := (bind_ok_iff ..).mp returned
  cases ran
  refine (bind_ok_iff ..).mpr ⟨change before, change before, rfl, ?_⟩
  rw [blind]
  exact later before before result after done

end Carries

end Effect

end ApiBank.Transition
