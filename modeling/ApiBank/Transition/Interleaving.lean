import ApiBank.Transition.Run
import Mathlib.Logic.Function.Basic

/-!
# Interleaved sessions

Any number of sessions share one store. A session advances by an action on the
store and on its own state; the scheduler picks the session and the action
freely, and an action that is not enabled (a lock that is held, say) has no
step. What a session owns until its transaction ends, row locks say, is a map from
names to sessions. The invariant rule splits the work: what the acting session
establishes, and what its step leaves intact for everybody else. A session that
acts alone gives one of the runs.
-/

namespace ApiBank.Transition

set_option autoImplicit false

abbrev SessionId := Nat

structure Interleaved (Shared Local : Type) where
  shared : Shared
  sessions : SessionId → Local

structure SessionEvent (Action Outcome : Type) where
  session : SessionId
  action : Action
  outcome : Outcome

/-- The end of a transaction gives up what the session owns. -/
def release (owner : String → Option SessionId) (session : SessionId) :
    String → Option SessionId :=
  fun name => if owner name = some session then none else owner name

theorem release_other {owner : String → Option SessionId} {session other : SessionId}
    {name : String} (different : other ≠ session) (owned : owner name = some other) :
    release owner session name = some other := by
  simp [release, owned, different]

theorem update_other {owner : String → Option SessionId} {session other : SessionId}
    {taken name : String} (different : other ≠ session)
    (free : owner taken = none ∨ owner taken = some session) (owned : owner name = some other) :
    Function.update owner taken (some session) name = some other := by
  have apart : name ≠ taken := by
    rintro rfl
    rcases free with free | free <;> simp [owned, different] at free
  rw [Function.update_of_ne apart, owned]

theorem owner_of_update {owner : String → Option SessionId} {session other : SessionId}
    {taken name : String} (different : other ≠ session)
    (owned : Function.update owner taken (some session) name = some other) :
    owner name = some other := by
  by_cases same : name = taken
  · subst same
    rw [Function.update_self, Option.some.injEq] at owned
    exact absurd owned.symm different
  · rwa [Function.update_of_ne same] at owned

theorem release_self (owner : String → Option SessionId) (session : SessionId) (name : String) :
    release owner session name ≠ some session := by
  unfold release
  split
  · simp
  · assumption

theorem owner_of_release {owner : String → Option SessionId} {session other : SessionId}
    {name : String} (owned : release owner session name = some other) :
    owner name = some other := by
  unfold release at owned
  split at owned
  · contradiction
  · exact owned

namespace Interleaved

variable {Shared Local Action Outcome : Type}

/-- The system after session `actor` moved to `own` and the store to `shared`. -/
def moved (system : Interleaved Shared Local) (actor : SessionId) (shared : Shared)
    (own : Local) : Interleaved Shared Local where
  shared := shared
  sessions := Function.update system.sessions actor own

@[simp] theorem shared_moved (system : Interleaved Shared Local) (actor : SessionId)
    (shared : Shared) (own : Local) : (system.moved actor shared own).shared = shared := rfl

@[simp] theorem sessions_moved_self (system : Interleaved Shared Local) (actor : SessionId)
    (shared : Shared) (own : Local) : (system.moved actor shared own).sessions actor = own := by
  simp [moved]

theorem sessions_moved_other (system : Interleaved Shared Local) {actor other : SessionId}
    (shared : Shared) (own : Local) (different : other ≠ actor) :
    (system.moved actor shared own).sessions other = system.sessions other := by
  simp [moved, different]

theorem forall_moved (Holds : SessionId → Local → Prop) {system : Interleaved Shared Local}
    {actor : SessionId} {shared : Shared} {own : Local} (acted : Holds actor own)
    (others : ∀ other, other ≠ actor → Holds other (system.sessions other)) (session : SessionId) :
    Holds session ((system.moved actor shared own).sessions session) := by
  by_cases same : session = actor
  · subst same
    simpa using acted
  · rw [sessions_moved_other system shared own same]
    exact others session same

/-- No two sessions have a name in common: so it stays when the acting session takes
nothing that another one has. -/
theorem apart_moved {Name : Type} (Has : Name → Local → Prop) {system : Interleaved Shared Local}
    {actor : SessionId} {shared : Shared} {own : Local}
    (apart : ∀ first second name, first ≠ second → Has name (system.sessions first) →
      ¬Has name (system.sessions second))
    (acted : ∀ other, other ≠ actor → ∀ name, Has name own →
      ¬Has name (system.sessions other)) :
    ∀ first second name, first ≠ second → Has name ((system.moved actor shared own).sessions first) →
      ¬Has name ((system.moved actor shared own).sessions second) := by
  intro first second name different has
  by_cases firstActs : first = actor
  · subst firstActs
    rw [sessions_moved_self] at has
    rw [sessions_moved_other _ _ _ different.symm]
    exact acted second different.symm name has
  · rw [sessions_moved_other _ _ _ firstActs] at has
    by_cases secondActs : second = actor
    · subst secondActs
      rw [sessions_moved_self]
      exact fun taken => acted first firstActs name taken has
    · rw [sessions_moved_other _ _ _ secondActs]
      exact apart first second name different has

variable (advance : SessionId → Shared → Local → Action → Option (Outcome × Shared × Local))

def Step (system : Interleaved Shared Local) (event : SessionEvent Action Outcome)
    (next : Interleaved Shared Local) : Prop :=
  ∃ shared own,
    advance event.session system.shared (system.sessions event.session) event.action =
      some (event.outcome, shared, own) ∧ next = system.moved event.session shared own

/-- A condition on the acting session's view, as a condition on the system. -/
def AtActor (guard : SessionId → Shared → Local → Action → Prop)
    (system : Interleaved Shared Local) (event : SessionEvent Action Outcome) : Prop :=
  guard event.session system.shared (system.sessions event.session) event.action

/-- The schedule is executed; a disabled action fails the whole schedule. -/
def replay : Interleaved Shared Local → List (SessionId × Action) →
    Option (List (SessionEvent Action Outcome) × Interleaved Shared Local)
  | system, [] => some ([], system)
  | system, (actor, action) :: rest =>
      match advance actor system.shared (system.sessions actor) action with
      | none => none
      | some (outcome, shared, own) =>
          match replay (system.moved actor shared own) rest with
          | none => none
          | some (events, last) => some (⟨actor, action, outcome⟩ :: events, last)

theorem run_of_replay {system last : Interleaved Shared Local}
    {schedule : List (SessionId × Action)} {events : List (SessionEvent Action Outcome)}
    (replayed : replay advance system schedule = some (events, last)) :
    Run (Step advance) system events last := by
  induction schedule generalizing system events with
  | nil =>
      obtain ⟨rfl, rfl⟩ : [] = events ∧ system = last := by simpa [replay] using replayed
      exact .nil
  | cons head rest ih =>
      simp only [replay] at replayed
      split at replayed
      · contradiction
      · rename_i outcome shared own advanced
        split at replayed
        · contradiction
        · rename_i later final replayedRest
          obtain ⟨rfl, rfl⟩ : ⟨head.1, head.2, outcome⟩ :: later = events ∧ final = last := by
            simpa using replayed
          have first : Run (Step advance) system [⟨head.1, head.2, outcome⟩]
              (system.moved head.1 shared own) := .single ⟨shared, own, advanced, rfl⟩
          exact first.append (ih replayedRest)

def alone (actor : SessionId) : Shared → Local → List Action → Option (Shared × Local)
  | shared, state, [] => some (shared, state)
  | shared, state, action :: rest =>
      match advance actor shared state action with
      | none => none
      | some (_, shared', state') => alone actor shared' state' rest

theorem alone_append (actor : SessionId) (shared : Shared) (state : Local)
    (first second : List Action) :
    alone advance actor shared state (first ++ second) =
      (alone advance actor shared state first).bind fun reached =>
        alone advance actor reached.1 reached.2 second := by
  induction first generalizing shared state with
  | nil => rfl
  | cons action rest ih =>
      simp only [List.cons_append, alone]
      cases advance actor shared state action with
      | none => rfl
      | some reached => exact ih reached.2.1 reached.2.2

theorem run_of_alone {actor : SessionId} {system : Interleaved Shared Local}
    {actions : List Action} {shared : Shared} {state : Local}
    (reached : alone advance actor system.shared (system.sessions actor) actions =
      some (shared, state)) :
    ∃ events last, Run (Step advance) system events last ∧ last.shared = shared := by
  induction actions generalizing system with
  | nil =>
      obtain ⟨rfl, -⟩ : system.shared = shared ∧ _ := by simpa [alone] using reached
      exact ⟨[], system, .nil, rfl⟩
  | cons action rest ih =>
      simp only [alone] at reached
      split at reached
      · contradiction
      · rename_i outcome shared' state' advanced
        have moved : alone advance actor (system.moved actor shared' state').shared
            ((system.moved actor shared' state').sessions actor) rest = some (shared, state) := by
          simpa using reached
        obtain ⟨events, last, run, same⟩ := ih moved
        have first : Run (Step advance) system [⟨actor, action, outcome⟩]
            (system.moved actor shared' state') := .single ⟨shared', state', advanced, rfl⟩
        exact ⟨_, last, first.append run, same⟩

/-- The actions of `advance` that pass a check. -/
def checked (check : SessionId → Shared → Local → Action → Bool) :
    SessionId → Shared → Local → Action → Option (Outcome × Shared × Local) :=
  fun actor shared state action =>
    if check actor shared state action then advance actor shared state action else none

theorem guarded_run_of_replay (check : SessionId → Shared → Local → Action → Bool)
    {system last : Interleaved Shared Local} {schedule : List (SessionId × Action)}
    {events : List (SessionEvent Action Outcome)}
    (replayed : replay (checked advance check) system schedule = some (events, last)) :
    Run (Guarded (AtActor fun actor shared state action => check actor shared state action)
      (Step advance)) system events last := by
  apply (run_of_replay (checked advance check) replayed).weaken
  rintro state event next ⟨shared, own, advanced, rfl⟩
  unfold checked at advanced
  split at advanced
  · rename_i passed
    exact ⟨passed, shared, own, advanced, rfl⟩
  · contradiction

@[simp] theorem moved_moved (system : Interleaved Shared Local) (actor : SessionId)
    (first second : Shared) (before after : Local) :
    (system.moved actor first before).moved actor second after =
      system.moved actor second after := by
  simp [moved]

theorem moved_self (system : Interleaved Shared Local) (actor : SessionId) :
    system.moved actor system.shared (system.sessions actor) = system := by
  simp [moved]

/-- One session acts, with a check that implies a condition on the whole system while
the others stand still. -/
theorem guarded_run_of_alone {guard : Interleaved Shared Local →
      SessionEvent Action Outcome → Prop}
    (check : SessionId → Shared → Local → Action → Bool) {start : Interleaved Shared Local}
    {actor : SessionId}
    (meets : ∀ shared state action outcome, check actor shared state action = true →
      guard (start.moved actor shared state) ⟨actor, action, outcome⟩)
    {shared last : Shared} {state final : Local} {actions : List Action}
    (reached : alone (checked advance check) actor shared state actions = some (last, final)) :
    ∃ events, Run (Guarded guard (Step advance)) (start.moved actor shared state) events
      (start.moved actor last final) := by
  induction actions generalizing shared state with
  | nil =>
      obtain ⟨rfl, rfl⟩ : shared = last ∧ state = final := by simpa [alone] using reached
      exact ⟨[], .nil⟩
  | cons action rest ih =>
      simp only [alone, checked] at reached
      split at reached
      · contradiction
      · rename_i outcome shared' state' advanced
        split at advanced
        · rename_i passed
          obtain ⟨events, run⟩ := ih reached
          have step : Step advance (start.moved actor shared state) ⟨actor, action, outcome⟩
              (start.moved actor shared' state') :=
            ⟨shared', state', by simpa using advanced, by simp⟩
          have first : Run (Guarded guard (Step advance)) (start.moved actor shared state)
              [⟨actor, action, outcome⟩] (start.moved actor shared' state') :=
            .single ⟨meets shared state action outcome passed, step⟩
          exact ⟨_, first.append run⟩
        · contradiction

section InvariantRule

variable {guard : SessionId → Shared → Local → Action → Prop}
variable (Store : Shared → Prop) (Own : SessionId → Shared → Local → Prop)

def Holds (system : Interleaved Shared Local) : Prop :=
  Store system.shared ∧ ∀ session, Own session system.shared (system.sessions session)

/-- The invariant rule for one step: the actor re-establishes the store part and
its own part, and its step does not disturb the parts of the others. -/
theorem holds_step {system next : Interleaved Shared Local}
    {event : SessionEvent Action Outcome}
    (own : ∀ actor shared state action outcome shared' state',
      guard actor shared state action → Store shared → Own actor shared state →
      advance actor shared state action = some (outcome, shared', state') →
      Store shared' ∧ Own actor shared' state')
    (frame : ∀ actor other shared state otherState action outcome shared' state',
      other ≠ actor → Store shared → Own actor shared state →
      advance actor shared state action = some (outcome, shared', state') →
      Own other shared otherState → Own other shared' otherState)
    (holds : Holds Store Own system)
    (taken : Guarded (AtActor guard) (Step advance) system event next) :
    Holds Store Own next := by
  obtain ⟨guarded, shared, state, advanced, rfl⟩ := taken
  obtain ⟨store, owned⟩ := holds
  have acted := own _ _ _ _ _ _ _ guarded store (owned event.session) advanced
  refine ⟨acted.1, ?_⟩
  intro session
  by_cases same : session = event.session
  · subst same
    simpa using acted.2
  · rw [sessions_moved_other _ _ _ same]
    exact frame _ _ _ _ _ _ _ _ _ same store (owned event.session) advanced (owned session)

theorem holds_run {start system : Interleaved Shared Local}
    {events : List (SessionEvent Action Outcome)}
    (own : ∀ actor shared state action outcome shared' state',
      guard actor shared state action → Store shared → Own actor shared state →
      advance actor shared state action = some (outcome, shared', state') →
      Store shared' ∧ Own actor shared' state')
    (frame : ∀ actor other shared state otherState action outcome shared' state',
      other ≠ actor → Store shared → Own actor shared state →
      advance actor shared state action = some (outcome, shared', state') →
      Own other shared otherState → Own other shared' otherState)
    (base : Holds Store Own start)
    (run : Run (Guarded (AtActor guard) (Step advance)) start events system) :
    Holds Store Own system :=
  run.invariant (Holds Store Own) base
    fun _ _ _ holds taken => holds_step advance Store Own own frame holds taken

end InvariantRule

end Interleaved

end ApiBank.Transition
