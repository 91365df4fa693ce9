import ApiBank.Worker.Supervised

/-!
# The lock of an account

The key has the value "1" for every worker, and the heartbeat and the release ask nobody
whose it is. Workers keep out of each other's way as long as none of them goes on with a
lease that has run out once another has taken the lock.
-/

namespace ApiBank.Worker.LeaseExclusion

open ApiBank.Db ApiBank.Transition Supervised

set_option autoImplicit false

/-- The section is as the phases say, and whoever was in it before another came has no
lease any more. -/
structure Exclusive (system : System) : Prop where
  inside : ∀ worker, worker ∈ system.shared.inside ↔
    (system.sessions worker).phase = .fetching
  leased : system.shared.inside.Pairwise fun _ first => ¬system.shared.lock.Leased first

/-- The heartbeat, the release and the entry come within the lease of the worker, or
nobody has taken the lock after it. Without Redis a worker enters while there is no key. -/
def inTime (actor : SessionId) (shared : Shared) (poller : Poller) (action : Action) : Bool :=
  let keeps := shared.lock.Leased actor || shared.lock.takenBy = some actor
  match action with
  | .enter => if poller.redis then keeps else !shared.lock.held
  | .heartbeat sent => !(poller.redis && sent) || keeps
  | .release sent => !(poller.redis && sent) || keeps
  | _ => true

/-- The leases agree with the key, and of those inside only the last can have one. -/
structure Sound (shared : Shared) : Prop where
  lock : shared.lock.Sound
  leased : shared.inside.Pairwise fun _ first => ¬shared.lock.Leased first

def Placed (worker : SessionId) (shared : Shared) (poller : Poller) : Prop :=
  worker ∈ shared.inside ↔ poller.phase = .fetching

section Step

variable {actor other : SessionId} {shared shared' : Shared} {poller : Poller} {phase : Phase}
  {action : Action} {outcome : Outcome}

theorem takenBy_of_inTime (sound : shared.lock.Sound)
    (keeps : (shared.lock.Leased actor || shared.lock.takenBy = some actor) = true) :
    shared.lock.takenBy = some actor := by
  simp only [Bool.or_eq_true, decide_eq_true_eq] at keeps
  rcases keeps with leased | taken
  · exact (sound.leased actor leased).1
  · exact taken

/-- Whoever keeps within its lease meets its own lock only. -/
theorem met_self (taken : shared.lock.takenBy = some actor) {holder : SessionId}
    (met : (shared.outcome actor).met = some holder) : holder = actor := by
  have last := (Lock.takenBy_of_holder met).2
  rw [taken, Option.some.injEq] at last
  exact last.symm

theorem pairwise_mono {inside : List SessionId} {before after : Lock SessionId}
    (pairwise : inside.Pairwise fun _ first => ¬before.Leased first)
    (spares : ∀ worker ∈ inside, after.Leased worker → before.Leased worker) :
    inside.Pairwise fun _ first => ¬after.Leased first :=
  pairwise.imp_of_mem fun _ member expired leased => expired (spares _ member leased)

theorem sound_exit (sound : Sound shared) (worker : SessionId) : Sound (shared.exit worker) :=
  ⟨sound.lock, sound.leased.filter _⟩

theorem expired_of_inTime (sound : Sound shared) (outside : actor ∉ shared.inside)
    (timely : inTime actor shared poller .enter = true) :
    ∀ worker ∈ shared.inside, ¬shared.lock.Leased worker := by
  intro worker member leased
  simp only [inTime] at timely
  split at timely
  · have taken := takenBy_of_inTime sound.lock timely
    by_cases same : worker = actor
    · exact outside (same ▸ member)
    · exact Lock.others_of_takenBy sound.lock taken same leased
  · rw [Lock.held_of_leased sound.lock leased] at timely
    cases timely

/-- What the acting worker establishes, and whose lock it met. -/
theorem sound_touched (sound : Sound shared) (placed : Placed actor shared poller)
    (timely : inTime actor shared poller action = true)
    (touched : Touched actor shared poller action outcome shared' phase) :
    Sound shared' ∧ ∀ holder, outcome.met = some holder → holder = actor := by
  have apart (elsewhere : poller.phase ≠ .fetching) :
      ∀ worker ∈ shared.inside, worker ≠ actor := by
    rintro worker member rfl
    exact elsewhere (placed.mp member)
  cases touched with
  | moved phase outside kept => exact ⟨sound, nofun⟩
  | elapsed time =>
      refine ⟨⟨Lock.sound_elapse sound.lock time, ?_⟩, nofun⟩
      exact pairwise_mono sound.leased fun _ _ => Lock.leased_of_elapse
  | taken lock idle accepted =>
      refine ⟨⟨Lock.sound_take sound.lock accepted, ?_⟩, nofun⟩
      apply pairwise_mono sound.leased
      intro worker member
      exact (Lock.leased_take accepted (apart (idle ▸ nofun) worker member)).mp
  | entered asked looping =>
      subst asked
      have outside : actor ∉ shared.inside := fun member =>
        apart (looping ▸ nofun) actor member rfl
      exact ⟨⟨sound.lock, .cons (expired_of_inTime sound outside timely) sound.leased⟩, nofun⟩
  | left phase kept => exact ⟨sound_exit sound actor, nofun⟩
  | refreshed asked redis refreshing =>
      subst asked
      have taken : shared.lock.takenBy = some actor := by
        apply takenBy_of_inTime sound.lock
        simpa [inTime, redis] using timely
      refine ⟨⟨Lock.sound_refresh sound.lock taken, ?_⟩, fun holder => met_self taken⟩
      apply pairwise_mono sound.leased
      intro worker member
      exact (Lock.leased_refresh (apart (refreshing ▸ nofun) worker member)).mp
  | deleted asked redis releasing =>
      subst asked
      have taken : shared.lock.takenBy = some actor := by
        apply takenBy_of_inTime sound.lock
        simpa [inTime, redis] using timely
      refine ⟨⟨Lock.sound_delete sound.lock taken, ?_⟩, fun holder => met_self taken⟩
      exact pairwise_mono sound.leased fun _ _ leased => (Lock.leased_of_delete leased).2

theorem placed_exit (kept : phase ≠ .fetching) :
    actor ∈ (shared.exit actor).inside ↔ phase = .fetching := by
  constructor
  · intro member
    simp [Shared.exit] at member
  · intro fetching
    exact absurd fetching kept

/-- The acting worker is in the section when its phase says so. -/
theorem placed_touched (placed : Placed actor shared poller)
    (touched : Touched actor shared poller action outcome shared' phase) :
    actor ∈ shared'.inside ↔ phase = .fetching := by
  have stays {phase : Phase} (elsewhere : poller.phase ≠ .fetching) (kept : phase ≠ .fetching) :
      actor ∈ shared.inside ↔ phase = .fetching := by
    constructor
    · intro member
      exact absurd (placed.mp member) elsewhere
    · intro fetching
      exact absurd fetching kept
  cases touched with
  | moved phase outside kept => exact stays outside kept
  | elapsed time => exact placed
  | taken lock idle accepted => exact stays (idle ▸ nofun) nofun
  | entered asked looping => exact ⟨fun _ => rfl, fun _ => List.mem_cons_self⟩
  | left phase kept => exact placed_exit kept
  | refreshed asked redis refreshing => exact stays (refreshing ▸ nofun) nofun
  | deleted asked redis releasing => exact stays (releasing ▸ nofun) nofun

/-- Nobody else enters or leaves. -/
theorem inside_touched (different : other ≠ actor)
    (touched : Touched actor shared poller action outcome shared' phase) :
    other ∈ shared'.inside ↔ other ∈ shared.inside := by
  cases touched with
  | entered asked looping => simp [different]
  | left phase kept => simp [Shared.exit, different]
  | moved | elapsed | taken | refreshed | deleted => exact Iff.rfl

end Step

abbrev GuardedStep : System → Event → System → Prop :=
  Guarded (Interleaved.AtActor fun actor shared poller action =>
    inTime actor shared poller action) (Interleaved.Step advance)

def Invariant (system : System) : Prop := Interleaved.Holds Sound Placed system

theorem invariant_opened (now : Int) : Invariant (opened now) := by
  refine ⟨⟨Lock.sound_opened now, .nil⟩, fun worker => ?_⟩
  constructor
  · intro member
    cases member
  · intro fetching
    cases fetching

theorem invariant_step {system next : System} {event : Event} (invariant : Invariant system)
    (taken : GuardedStep system event next) : Invariant next := by
  apply Interleaved.holds_step advance Sound Placed ?own ?frame invariant taken
  case own =>
    intro actor shared poller action outcome shared' poller' timely sound placed advanced
    have touched := touched_of_advance advanced
    exact ⟨(sound_touched sound placed timely touched).1, placed_touched placed touched⟩
  case frame =>
    intro actor other shared poller otherPoller action outcome shared' poller' different _ _
      advanced otherPlaced
    exact (inside_touched different (touched_of_advance advanced)).trans otherPlaced

/-- In every run in which the workers keep within their leases, nobody extends or deletes
the lock of another, and who is in the section with a running lease is the last to have
entered. -/
theorem workers_excluded_while_in_time {now : Int} {events : List Event} {system : System}
    (run : Run GuardedStep (opened now) events system) :
    (∀ event ∈ events, ∀ holder, event.outcome.met = some holder → holder = event.session) ∧
      Exclusive system := by
  have reached : (∀ event ∈ events, ∀ holder, event.outcome.met = some holder →
      holder = event.session) ∧ Invariant system := by
    apply run.history (fun events system => (∀ event ∈ events, ∀ holder,
      event.outcome.met = some holder → holder = event.session) ∧ Invariant system)
    · exact ⟨nofun, invariant_opened now⟩
    · rintro events system event next ⟨own, invariant⟩ taken
      refine ⟨?_, invariant_step invariant taken⟩
      intro other member
      rcases List.mem_append.mp member with old | new
      · exact own other old
      · obtain rfl := List.mem_singleton.mp new
        obtain ⟨timely, shared, poller, advanced, rfl⟩ := taken
        exact (sound_touched invariant.1 (invariant.2 _) timely (touched_of_advance advanced)).2
  obtain ⟨own, sound, placed⟩ := reached
  exact ⟨own, placed, sound.leased⟩

/-- The bank accepts the login at once, and the worker enters the section. -/
def entry (worker : SessionId) : List (SessionId × Action) :=
  [(worker, .supervise true), (worker, .orderActive), (worker, .login true), (worker, .enter)]

/-- One worker polls once and gives up the lock, and another one takes it. -/
def handedOver : List (SessionId × Action) :=
  entry 0 ++ [(0, .elapse 90000000), (0, .leave .ok), (0, .wake), (0, .heartbeat true),
    (0, .elapse 90000000), (0, .stop), (0, .release true)] ++ entry 1

/-- Whose locks were extended and deleted. -/
def locksMet (events : List Event) : List SessionId :=
  events.filterMap fun event => event.outcome.met

theorem workers_excluded_handed_over : ∃ (events : List Event) (system : System),
    locksMet events = [0, 0] ∧ system.shared.inside = [1] ∧
      (∀ event ∈ events, ∀ holder, event.outcome.met = some holder → holder = event.session) ∧
        Exclusive system := by
  have replayed : (Interleaved.replay (Interleaved.checked advance inTime) (opened 0)
      handedOver).map (fun reached => (locksMet reached.1, reached.2.shared.inside)) =
        some ([0, 0], [1]) := by decide +kernel
  obtain ⟨⟨events, system⟩, ran, record⟩ := Option.map_eq_some_iff.mp replayed
  obtain ⟨met, inside⟩ := Prod.mk.inj record
  have run := Interleaved.guarded_run_of_replay advance inTime ran
  exact ⟨events, system, met, inside, workers_excluded_while_in_time run⟩

/-- The first worker waits 30, 60 and 120 seconds for a login. Meanwhile its lock expires,
and the second one takes it. The first one is stopped and releases the lock of the
second one, and a third one takes it. -/
def takenOver : List (SessionId × Action) :=
  [(0, .supervise true), (0, .orderActive), (0, .login false), (0, .elapse 30000000), (0, .wake),
    (0, .login false), (0, .elapse 60000000), (0, .wake), (0, .login false),
    (0, .elapse 60000000)] ++ entry 1 ++ [(0, .elapse 60000000), (0, .wake), (0, .login true),
      (0, .stop), (0, .release true)] ++ entry 2

theorem late_release_admits_a_third : ∃ (events : List Event) (system : System),
    Run (Interleaved.Step advance) (opened 0) events system ∧
      (¬∀ event ∈ events, event.outcome.late = true →
        ∀ holder, event.outcome.met = some holder → holder = event.session) ∧
      ¬Exclusive system := by
  have replayed : (Interleaved.replay advance (opened 0) takenOver).map (fun reached =>
      (reached.1.any fun event => event.session = 0 && event.outcome = ⟨some 1, true⟩,
        reached.2.shared.inside, decide (reached.2.shared.lock.Leased 1))) =
          some (true, [2, 1], true) := by decide +kernel
  obtain ⟨⟨events, system⟩, ran, record⟩ := Option.map_eq_some_iff.mp replayed
  simp only [Prod.mk.injEq, List.any_eq_true, Bool.and_eq_true, decide_eq_true_eq] at record
  obtain ⟨⟨event, member, first, outcome⟩, inside, leased⟩ := record
  refine ⟨events, system, Interleaved.run_of_replay advance ran, ?_, ?_⟩
  · intro own
    have same := own event member (outcome ▸ rfl) 1 (outcome ▸ rfl)
    rw [first] at same
    cases same
  · intro exclusive
    have expired := exclusive.leased
    rw [inside, List.pairwise_pair] at expired
    exact expired leased

end ApiBank.Worker.LeaseExclusion
