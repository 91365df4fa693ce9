import ApiBank.Transition.Run
import Mathlib.Data.List.Count
import Mathlib.Data.List.Induction
import Mathlib.Logic.Function.Basic

/-!
# Counters that expire

A machine answers one event after another; two machines give the same answers when the
state of the one can be told from the events so far and so can the answers of the other.
The machines here count hits under keys. The reference one numbers the hits of a key, a
store forgets a counter at the deadline its first hit has set, and the two agree as long
as no hit comes after the deadline of its key.
-/

namespace ApiBank.Transition

set_option autoImplicit false

section Machines

variable {State Event Answer : Type*}

def answers (serve : State → Event → Answer × State) : State → List Event → List Answer
  | _, [] => []
  | state, event :: rest =>
      (serve state event).1 :: answers serve (serve state event).2 rest

def reached (serve : State → Event → Answer × State) (start : State) (events : List Event) :
    State :=
  events.foldl (fun state event => (serve state event).2) start

theorem reached_snoc (serve : State → Event → Answer × State) (start : State)
    (events : List Event) (event : Event) :
    reached serve start (events ++ [event]) = (serve (reached serve start events) event).2 := by
  simp [reached]

theorem answers_snoc (serve : State → Event → Answer × State) (start : State)
    (events : List Event) (event : Event) :
    answers serve start (events ++ [event]) =
      answers serve start events ++ [(serve (reached serve start events) event).1] := by
  induction events generalizing start with
  | nil => rfl
  | cons first rest ih =>
      simp only [List.cons_append, answers, ih, reached, List.foldl_cons]

theorem throughout_of_snoc {Fair : List Event → Event → Prop} {events : List Event} {last : Event}
    (fair : Throughout Fair (events ++ [last])) : Throughout Fair events ∧ Fair events last := by
  constructor
  · intro prior event later split
    exact fair prior event (later ++ [last]) (by rw [split]; simp)
  · exact fair events last [] rfl

theorem throughout_true (events : List Event) :
    Throughout (fun _ _ => True) events :=
  fun _ _ _ _ => trivial

theorem reached_of_history (Holds : List Event → State → Prop)
    {serve : State → Event → Answer × State} {start : State} {Fair : List Event → Event → Prop}
    (base : Holds [] start)
    (keeps : ∀ prior event state, Holds prior state → Fair prior event →
      Holds (prior ++ [event]) (serve state event).2)
    {events : List Event} (fair : Throughout Fair events) :
    Holds events (reached serve start events) := by
  induction events using List.reverseRecOn with
  | nil => exact base
  | append_singleton prior event ih =>
      have parts := throughout_of_snoc fair
      rw [reached_snoc]
      exact keeps prior event _ (ih parts.1) parts.2

def narrated (answer : List Event → Event → Answer) (events : List Event) : List Answer :=
  answers (fun prior event => (answer prior event, prior ++ [event])) [] events

theorem reached_narrated (answer : List Event → Event → Answer) (events : List Event) :
    reached (fun prior event => (answer prior event, prior ++ [event])) [] events = events := by
  induction events using List.reverseRecOn with
  | nil => rfl
  | append_singleton prior event ih => rw [reached_snoc, ih]

theorem narrated_snoc (answer : List Event → Event → Answer) (events : List Event)
    (event : Event) :
    narrated answer (events ++ [event]) = narrated answer events ++ [answer events event] := by
  rw [narrated, answers_snoc, reached_narrated, narrated]

theorem narrated_map {Result : Type*} (present : Answer → Result)
    (answer : List Event → Event → Answer) (events : List Event) :
    narrated (fun prior event => present (answer prior event)) events =
      (narrated answer events).map present := by
  induction events using List.reverseRecOn with
  | nil => rfl
  | append_singleton prior event ih => simp [narrated_snoc, ih]

theorem length_narrated (answer : List Event → Event → Answer) (events : List Event) :
    (narrated answer events).length = events.length := by
  induction events using List.reverseRecOn with
  | nil => rfl
  | append_singleton prior event ih => simp [narrated_snoc, ih]

/-- A machine whose state tells the events so far gives the answers they determine. -/
theorem answers_of_history (Holds : List Event → State → Prop)
    {serve : State → Event → Answer × State} {start : State} {Fair : List Event → Event → Prop}
    {answer : List Event → Event → Answer} (base : Holds [] start)
    (keeps : ∀ prior event state, Holds prior state → Fair prior event →
      (serve state event).1 = answer prior event ∧
        Holds (prior ++ [event]) (serve state event).2)
    {events : List Event} (fair : Throughout Fair events) :
    answers serve start events = narrated answer events := by
  induction events using List.reverseRecOn with
  | nil => rfl
  | append_singleton prior event ih =>
      have parts := throughout_of_snoc fair
      have held : Holds prior (reached serve start prior) :=
        reached_of_history Holds base
          (fun prior event state held fair => (keeps prior event state held fair).2) parts.1
      rw [answers_snoc, narrated_snoc, ih parts.1, (keeps prior event _ held parts.2).1]

end Machines

namespace Counters

section Tallies

variable {Event Key : Type*} [DecidableEq Key]

def tally (key : Event → Key) (events : List Event) (wanted : Key) : Nat :=
  events.countP fun event => key event = wanted

theorem tally_snoc (key : Event → Key) (events : List Event) (event : Event) (wanted : Key) :
    tally key (events ++ [event]) wanted =
      tally key events wanted + if key event = wanted then 1 else 0 := by
  simp [tally, List.countP_append, List.countP_singleton]

/-- The number of an event among those of its key. -/
def ordinal (key : Event → Key) (prior : List Event) (event : Event) : Nat :=
  tally key prior (key event) + 1

theorem ordinal_comp {Name : Type*} [DecidableEq Name] (key : Event → Key) {name : Key → Name}
    (injective : Function.Injective name) :
    ordinal (fun event => name (key event)) = ordinal key := by
  funext prior event
  simp only [ordinal, tally, injective.eq_iff]

theorem tally_map {Other : Type*} (key : Event → Key) (event : Other → Event)
    (others : List Other) (wanted : Key) :
    tally key (others.map event) wanted = tally (fun other => key (event other)) others wanted := by
  simp only [tally, List.countP_map]
  rfl

/-- Exactly the first `limit` hits of a key have a number up to `limit`. -/
theorem count_within_limit (key : Event → Key) (limit : Nat) (wanted : Key)
    (events : List Event) :
    (events.zip (narrated (ordinal key) events)).countP
        (fun hit => key hit.1 = wanted ∧ hit.2 ≤ limit) =
      min limit (tally key events wanted) := by
  induction events using List.reverseRecOn with
  | nil => simp [narrated, answers, tally]
  | append_singleton prior event ih =>
      rw [narrated_snoc, List.zip_append (length_narrated _ _).symm, List.countP_append, ih,
        tally_snoc]
      by_cases same : key event = wanted
      · by_cases within : tally key prior wanted + 1 ≤ limit
        · simp [ordinal, same, within]
          omega
        · simp [ordinal, same, within]
          omega
      · simp [same]

/-- At most `limit` events of a key are granted when none with a higher number is. -/
theorem count_granted_le {Answer : Type*} (key : Event → Key)
    (answer : List Event → Event → Answer) (granted : Answer → Bool) (limit : Nat) (wanted : Key)
    (within : ∀ prior event, key event = wanted → granted (answer prior event) = true →
      ordinal key prior event ≤ limit)
    (events : List Event) :
    (events.zip (narrated answer events)).countP
        (fun pair => key pair.1 = wanted ∧ granted pair.2) ≤ limit := by
  have bound : (events.zip (narrated answer events)).countP
        (fun pair => key pair.1 = wanted ∧ granted pair.2) ≤
      (events.zip (narrated (ordinal key) events)).countP
        (fun hit => key hit.1 = wanted ∧ hit.2 ≤ limit) := by
    induction events using List.reverseRecOn with
    | nil => exact Nat.le_refl _
    | append_singleton prior event ih =>
        rw [narrated_snoc, narrated_snoc, List.zip_append (length_narrated _ _).symm,
          List.zip_append (length_narrated _ _).symm, List.countP_append, List.countP_append]
        apply Nat.add_le_add ih
        by_cases passed : key event = wanted ∧ granted (answer prior event) = true
        · have number := within prior event passed.1 passed.2
          simp [passed.1, passed.2, number]
        · simp [passed]
  rw [count_within_limit] at bound
  omega

end Tallies

/-- A counter and, once one is set, its deadline. -/
structure Entry (Time : Type*) where
  count : Nat
  deadline : Option Time
  deriving DecidableEq, Repr

abbrev Store (Key Time : Type*) := Key → Option (Entry Time)

/-- A hit under a key whose first hit gives the counter its lifetime. -/
structure Hit (Key Time : Type*) where
  key : Key
  now : Time
  lifetime : Time

variable {Key Time : Type*} [DecidableEq Key] [LT Time] [DecidableLT Time] [Add Time]

/-- A counter is there until its deadline. -/
def Entry.isLive (now : Time) (entry : Entry Time) : Bool :=
  entry.deadline.all fun deadline => now < deadline

/-- What a command finds under a key. -/
def Store.get (store : Store Key Time) (now : Time) (key : Key) : Option (Entry Time) :=
  (store key).filter (Entry.isLive now)

/-- Counts one up, from nothing when there is no counter, and keeps the deadline. -/
def Store.incr (store : Store Key Time) (now : Time) (key : Key) : Nat × Store Key Time :=
  match store.get now key with
  | none => (1, Function.update store key (some ⟨1, none⟩))
  | some entry =>
      (entry.count + 1,
        Function.update store key (some { entry with count := entry.count + 1 }))

/-- Gives a counter that is there its deadline. -/
def Store.expire (store : Store Key Time) (now : Time) (key : Key) (lifetime : Time) :
    Store Key Time :=
  match store.get now key with
  | none => store
  | some entry => Function.update store key (some { entry with deadline := some (now + lifetime) })

def Store.count (store : Store Key Time) (hit : Hit Key Time) : Nat × Store Key Time :=
  let counted := store.incr hit.now hit.key
  (counted.1,
    if counted.1 = 1 then counted.2.expire hit.now hit.key hit.lifetime else counted.2)

def Hit.deadline (hit : Hit Key Time) : Time := hit.now + hit.lifetime

def opener (hits : List (Hit Key Time)) (key : Key) : Option (Hit Key Time) :=
  hits.find? fun hit => hit.key = key

def Accounts (hits : List (Hit Key Time)) (store : Store Key Time) : Prop :=
  ∀ key, store key =
    (opener hits key).map fun first => ⟨tally Hit.key hits key, some first.deadline⟩

def InTime (prior : List (Hit Key Time)) (hit : Hit Key Time) : Prop :=
  ∀ first, opener prior hit.key = some first → hit.now < first.deadline

omit [LT Time] [DecidableLT Time] [Add Time] in
theorem key_of_opener {hits : List (Hit Key Time)} {key : Key} {first : Hit Key Time}
    (opened : opener hits key = some first) : first.key = key :=
  of_decide_eq_true
    (List.find?_some (p := fun hit : Hit Key Time => decide (hit.key = key)) opened)

omit [LT Time] [DecidableLT Time] [Add Time] in
theorem opener_snoc (prior : List (Hit Key Time)) (hit : Hit Key Time) (key : Key) :
    opener (prior ++ [hit]) key =
      (opener prior key).or (if hit.key = key then some hit else none) := by
  by_cases same : hit.key = key <;> simp [opener, List.find?_append, same]

omit [LT Time] [DecidableLT Time] [Add Time] in
theorem tally_eq_zero {prior : List (Hit Key Time)} {key : Key} (fresh : opener prior key = none) :
    tally Hit.key prior key = 0 := by
  rw [tally, List.countP_eq_zero]
  exact List.find?_eq_none.mp fresh

omit [LT Time] [DecidableLT Time] [Add Time] in
theorem tally_pos {prior : List (Hit Key Time)} {key : Key} {first : Hit Key Time}
    (opened : opener prior key = some first) : 0 < tally Hit.key prior key := by
  rw [tally, List.countP_pos_iff]
  exact ⟨first, List.mem_of_find?_eq_some opened, decide_eq_true (key_of_opener opened)⟩

omit [LT Time] [DecidableLT Time] in
theorem accounts_nil : Accounts ([] : List (Hit Key Time)) (fun _ => none) := by
  intro key
  rfl

theorem count_spec {prior : List (Hit Key Time)} {store : Store Key Time} {hit : Hit Key Time}
    (accounts : Accounts prior store) (inTime : InTime prior hit) :
    (store.count hit).1 = ordinal Hit.key prior hit ∧
      Accounts (prior ++ [hit]) (store.count hit).2 := by
  have found := accounts hit.key
  cases opened : opener prior hit.key with
  | none =>
      rw [opened] at found
      have missing : store.get hit.now hit.key = none := by
        rw [Store.get, found]
        rfl
      have counted : store.incr hit.now hit.key =
          (1, Function.update store hit.key (some ⟨1, none⟩)) := by
        rw [Store.incr, missing]
      constructor
      · simp [Store.count, counted, ordinal, tally_eq_zero opened]
      · intro key
        have there : Store.get (Function.update store hit.key (some ⟨1, none⟩)) hit.now hit.key =
            some ⟨1, none⟩ := by
          simp [Store.get, Entry.isLive]
        by_cases same : hit.key = key
        · subst same
          simp [Store.count, counted, Store.expire, there, opener_snoc, opened, tally_snoc,
            tally_eq_zero opened, Hit.deadline]
        · have other : key ≠ hit.key := fun equal => same equal.symm
          simp [Store.count, counted, Store.expire, there, opener_snoc, tally_snoc, same, other,
            accounts key]
  | some first =>
      rw [opened] at found
      have before : hit.now < first.deadline := inTime first opened
      have live : store.get hit.now hit.key =
          some ⟨tally Hit.key prior hit.key, some first.deadline⟩ := by
        rw [Store.get, found]
        simp [Entry.isLive, before, Option.filter]
      have positive := tally_pos opened
      have later : tally Hit.key prior hit.key ≠ 0 := by omega
      constructor
      · simp [Store.count, Store.incr, live, ordinal]
      · intro key
        by_cases same : hit.key = key
        · subst same
          simp [Store.count, Store.incr, live, later, opener_snoc, opened, tally_snoc]
        · have other : key ≠ hit.key := fun equal => same equal.symm
          simp [Store.count, Store.incr, live, later, opener_snoc, tally_snoc, same, other,
            accounts key]

end Counters

end ApiBank.Transition
