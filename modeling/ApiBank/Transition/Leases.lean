import Mathlib.Logic.Function.Basic
import Mathlib.Tactic.Common

/-!
# Locks that expire

A key with an expiry serves as a lock: who creates it has the lock until the key is
deleted or expires. Its value is the same for everybody, so a later command cannot tell
whose lock it meets. A lease is what an owner may count on from its own commands: it
ends a time to live after the last of them that set the key.
-/

namespace ApiBank.Transition

set_option autoImplicit false

/-- The clock and the key. Who created the key last, and when the lease of each owner
ends, is kept for the statements; no command reads it. -/
structure Lock (Owner : Type) where
  now : Int
  expiresAt : Option Int
  takenBy : Option Owner
  leasedUntil : Owner → Int

namespace Lock

variable {Owner : Type}

/-- The key exists. -/
def held (lock : Lock Owner) : Bool :=
  match lock.expiresAt with
  | some instant => lock.now < instant
  | none => false

def holder (lock : Lock Owner) : Option Owner := if lock.held then lock.takenBy else none

def Leased (lock : Lock Owner) (owner : Owner) : Prop := lock.now < lock.leasedUntil owner

instance (lock : Lock Owner) (owner : Owner) : Decidable (lock.Leased owner) :=
  inferInstanceAs (Decidable (lock.now < lock.leasedUntil owner))

def elapse (lock : Lock Owner) (time : Nat) : Lock Owner :=
  { lock with now := lock.now + time }

def opened (now : Int) : Lock Owner where
  now := now
  expiresAt := none
  takenBy := none
  leasedUntil := fun _ => now

section Commands

variable [DecidableEq Owner]

/-- A command of the owner has set the key. -/
def renewed (lock : Lock Owner) (owner : Owner) (ttl : Int) : Lock Owner :=
  { lock with
    expiresAt := some (lock.now + ttl)
    leasedUntil := Function.update lock.leasedUntil owner (lock.now + ttl) }

/-- `SET key value NX EX ttl`. -/
def take (lock : Lock Owner) (owner : Owner) (ttl : Int) : Option (Lock Owner) :=
  if lock.held then none else some { lock.renewed owner ttl with takenBy := some owner }

/-- `SET key value XX EX ttl`. -/
def refresh (lock : Lock Owner) (owner : Owner) (ttl : Int) : Lock Owner :=
  if lock.held then lock.renewed owner ttl else lock

/-- `DEL key`. -/
def delete (lock : Lock Owner) (owner : Owner) : Lock Owner :=
  { lock with
    expiresAt := none
    leasedUntil := Function.update lock.leasedUntil owner lock.now }

end Commands

/-- The leases agree with the key. -/
structure Sound (lock : Lock Owner) : Prop where
  held : lock.held = true →
    ∃ owner, lock.takenBy = some owner ∧ lock.expiresAt = some (lock.leasedUntil owner)
  leased : ∀ owner, lock.Leased owner →
    lock.takenBy = some owner ∧ lock.expiresAt = some (lock.leasedUntil owner)

section Sound

variable {lock : Lock Owner} {owner other : Owner} {ttl : Int}

theorem held_of_leased (sound : lock.Sound) (leased : lock.Leased owner) : lock.held = true := by
  rw [Lock.held, (sound.leased owner leased).2]
  exact decide_eq_true leased

theorem takenBy_of_holder (holds : lock.holder = some owner) :
    lock.held = true ∧ lock.takenBy = some owner := by
  unfold holder at holds
  split at holds
  · rename_i held
    exact ⟨held, holds⟩
  · cases holds

theorem sound_opened (now : Int) : (opened now : Lock Owner).Sound where
  held := nofun
  leased := by
    intro owner leased
    exact absurd leased (Int.lt_irrefl now)

theorem leased_of_elapse {time : Nat} (leased : (lock.elapse time).Leased owner) :
    lock.Leased owner := by
  simp only [Leased, elapse] at leased ⊢
  omega

theorem held_of_elapse {time : Nat} (held : (lock.elapse time).held = true) :
    lock.held = true := by
  obtain ⟨now, expiresAt, takenBy, leasedUntil⟩ := lock
  cases expiresAt with
  | none => cases held
  | some instant =>
      have later : now + time < instant := of_decide_eq_true held
      exact decide_eq_true (show now < instant by omega)

theorem sound_elapse (sound : lock.Sound) (time : Nat) : (lock.elapse time).Sound where
  held := fun held => sound.held (held_of_elapse held)
  leased := fun owner leased => sound.leased owner (leased_of_elapse leased)

theorem others_of_takenBy (sound : lock.Sound) (last : lock.takenBy = some owner)
    (different : other ≠ owner) : ¬lock.Leased other := by
  intro leased
  have taken := (sound.leased other leased).1
  rw [last, Option.some.injEq] at taken
  exact different taken.symm

variable [DecidableEq Owner] {next : Lock Owner}

@[simp] theorem leasedUntil_renewed : (lock.renewed owner ttl).leasedUntil owner = lock.now + ttl :=
  Function.update_self ..

theorem leased_renewed (different : other ≠ owner) :
    (lock.renewed owner ttl).Leased other ↔ lock.Leased other := by
  simp only [Leased, renewed, Function.update_of_ne different]

theorem sound_renewed (last : lock.takenBy = some owner)
    (others : ∀ other, other ≠ owner → ¬lock.Leased other) : (lock.renewed owner ttl).Sound where
  held := fun _ => ⟨owner, last, congrArg some leasedUntil_renewed.symm⟩
  leased := by
    intro other leased
    by_cases same : other = owner
    · subst same
      exact ⟨last, congrArg some leasedUntil_renewed.symm⟩
    · exact absurd ((leased_renewed same).mp leased) (others other same)

theorem sound_take (sound : lock.Sound) (taken : lock.take owner ttl = some next) :
    next.Sound := by
  unfold take at taken
  split at taken
  · cases taken
  · rename_i free
    cases taken
    have renewal : ({ lock with takenBy := some owner }.renewed owner ttl).Sound := by
      apply sound_renewed rfl
      intro other _ leased
      exact free (held_of_leased sound leased)
    exact renewal

theorem leased_take (taken : lock.take owner ttl = some next) (different : other ≠ owner) :
    next.Leased other ↔ lock.Leased other := by
  unfold take at taken
  split at taken
  · cases taken
  · cases taken
    exact leased_renewed different

/-- Whoever took the key last may refresh it. -/
theorem sound_refresh (sound : lock.Sound) (last : lock.takenBy = some owner) :
    (lock.refresh owner ttl).Sound := by
  unfold refresh
  split
  · exact sound_renewed last fun _ different => others_of_takenBy sound last different
  · exact sound

theorem leased_refresh (different : other ≠ owner) :
    (lock.refresh owner ttl).Leased other ↔ lock.Leased other := by
  unfold refresh
  split
  · exact leased_renewed different
  · exact Iff.rfl

theorem leased_of_delete (leased : (lock.delete owner).Leased other) :
    other ≠ owner ∧ lock.Leased other := by
  by_cases same : other = owner
  · subst same
    simp only [Leased, delete, Function.update_self] at leased
    exact absurd leased (Int.lt_irrefl lock.now)
  · simp only [Leased, delete, Function.update_of_ne same] at leased
    exact ⟨same, leased⟩

/-- Whoever took the key last may delete it. -/
theorem sound_delete (sound : lock.Sound) (last : lock.takenBy = some owner) :
    (lock.delete owner).Sound where
  held := nofun
  leased := by
    intro other leased
    obtain ⟨different, before⟩ := leased_of_delete leased
    exact absurd before (others_of_takenBy sound last different)

end Sound

end Lock

end ApiBank.Transition
