import ApiBank.Transition.Effect

/-!
# Postconditions of computations that raise

A computation ensures one condition on what it returns and another on what it
raises, each with the state it leaves. A bind asks of the first part that the rest
ensures the same from wherever the first part returns.
-/

namespace ApiBank.Transition.Effect

set_option autoImplicit false

variable {Failure State Value Result : Type}

/-- From `before` the work returns with `returned` or raises with `raised`. -/
def Ensures (work : EStateM Failure State Value) (before : State)
    (returned : Value → State → Prop) (raised : Failure → State → Prop) : Prop :=
  match work before with
  | .ok value after => returned value after
  | .error failure after => raised failure after

variable {returned : Value → State → Prop} {raised : Failure → State → Prop} {before : State}

theorem ensures_of_ok {work : EStateM Failure State Value} {value : Value} {after : State}
    (ensures : Ensures work before returned raised) (ran : work before = .ok value after) :
    returned value after := by
  unfold Ensures at ensures
  rwa [ran] at ensures

theorem ensures_of_error {work : EStateM Failure State Value} {failure : Failure} {after : State}
    (ensures : Ensures work before returned raised) (ran : work before = .error failure after) :
    raised failure after := by
  unfold Ensures at ensures
  rwa [ran] at ensures

theorem ensures_pure {value : Value} (now : returned value before) :
    Ensures (pure value : EStateM Failure State Value) before returned raised := now

theorem ensures_throw {failure : Failure} (now : raised failure before) :
    Ensures (throw failure : EStateM Failure State Value) before returned raised := now

theorem ensures_mono {work : EStateM Failure State Value}
    {weaker : Value → State → Prop} {milder : Failure → State → Prop}
    (ensures : Ensures work before returned raised)
    (returns : ∀ value after, returned value after → weaker value after)
    (raises : ∀ failure after, raised failure after → milder failure after) :
    Ensures work before weaker milder := by
  unfold Ensures at ensures ⊢
  cases ran : work before with
  | ok value after =>
      rw [ran] at ensures
      exact returns value after ensures
  | error failure after =>
      rw [ran] at ensures
      exact raises failure after ensures

theorem ensures_bind {first : EStateM Failure State Value}
    {rest : Value → EStateM Failure State Result} {returned : Result → State → Prop}
    (ensures : Ensures first before
      (fun value middle => Ensures (rest value) middle returned raised) raised) :
    Ensures (first >>= rest) before returned raised := by
  unfold Ensures at ensures ⊢
  simp only [bind, EStateM.bind]
  cases ran : first before with
  | ok value middle =>
      rw [ran] at ensures
      exact ensures
  | error failure middle =>
      rw [ran] at ensures
      exact ensures

/-- Reading the state hands it on. -/
theorem ensures_get {rest : State → EStateM Failure State Result}
    {returned : Result → State → Prop}
    (ensures : Ensures (rest before) before returned raised) :
    Ensures (get >>= rest) before returned raised := ensures

theorem ensures_set {after : State} {rest : PUnit → EStateM Failure State Result}
    {returned : Result → State → Prop}
    (ensures : Ensures (rest ()) after returned raised) :
    Ensures (set after >>= rest) before returned raised := ensures

theorem ensures_modify {change : State → State} {rest : PUnit → EStateM Failure State Result}
    {returned : Result → State → Prop}
    (ensures : Ensures (rest ()) (change before) returned raised) :
    Ensures (modify change >>= rest) before returned raised := ensures

end ApiBank.Transition.Effect
