import ApiBank.Text.Integers
import ApiBank.Text.Separated
import ApiBank.Transition.Counters
import Mathlib.Data.Rat.Floor
import Mathlib.Tactic.Linarith
import Mathlib.Tactic.NormNum

/-!
# Rate limits

`TokenBucketRateLimiter` counts the hits of a window bucket in Redis, under a key that
expires, and `InMemoryRateLimiter` in a dictionary whose old buckets it drops. A hit
carries what `time.time()` returns for it; Redis reads the same clock.
-/

namespace ApiBank.Security.RateLimit

open ApiBank.Text
open ApiBank.Transition
open ApiBank.Transition.Counters (Store Entry Accounts InTime tally ordinal opener)

set_option autoImplicit false

structure RateLimitDecision where
  allowed : Bool
  remaining : Int
  retryAfterSeconds : ℚ
  deriving DecidableEq, Repr

/-- The arguments that `TokenBucketRateLimiter` accepts. -/
structure Limits where
  capacity : Int
  windowSeconds : Int
  capacity_pos : 0 < capacity
  window_pos : 0 < windowSeconds
  deriving DecidableEq, Repr

def tokenBucketRateLimiter (capacity windowSeconds : Int) : Except String Limits :=
  if refused : capacity ≤ 0 then .error "capacity must be positive"
  else if empty : windowSeconds ≤ 0 then .error "window_seconds must be positive"
  else .ok ⟨capacity, windowSeconds, by omega, by omega⟩

structure Hit where
  identifier : String
  now : ℚ
  deriving DecidableEq, Repr

/-- `int()` of a number drops its fraction. -/
def int (number : ℚ) : Int := if 0 ≤ number then ⌊number⌋ else ⌈number⌉

/-- `int(time.time()) // self._window_seconds`; the divisor is positive. -/
def bucketOf (limits : Limits) (hit : Hit) : Int := int hit.now / limits.windowSeconds

def decision (limits : Limits) (current : Int) : RateLimitDecision where
  allowed := current ≤ limits.capacity
  remaining := max 0 (limits.capacity - current)
  retryAfterSeconds := if current ≤ limits.capacity then 0 else limits.windowSeconds

def redisKey (identifier : String) (bucket : Int) : String :=
  "ratelimit:" ++ identifier ++ ":" ++ toString bucket

/-- `TokenBucketRateLimiter.hit`. -/
def redisHit (limits : Limits) (redis : Store String ℚ) (hit : Hit) :
    RateLimitDecision × Store String ℚ :=
  let bucket := bucketOf limits hit
  let key := redisKey hit.identifier bucket
  let counted := redis.incr hit.now key
  let current := counted.1
  let redis :=
    if current = 1 then counted.2.expire hit.now key (limits.windowSeconds + 1) else counted.2
  (decision limits current, redis)

/-- `self._counters`. -/
abbrev Dictionary := String × Int → Option Nat

/-- The counters that are left after the old buckets are popped. -/
def pruned (bucket : Int) (counters : Dictionary) : Dictionary :=
  fun key => if key.2 < bucket - 1 then none else counters key

/-- `InMemoryRateLimiter.hit`. -/
def memoryHit (limits : Limits) (counters : Dictionary) (hit : Hit) :
    RateLimitDecision × Dictionary :=
  let bucket := bucketOf limits hit
  let kept := pruned bucket counters
  let current := (kept (hit.identifier, bucket)).getD 0 + 1
  (decision limits current, Function.update kept (hit.identifier, bucket) (some current))

def redisDecisions (limits : Limits) (hits : List Hit) : List RateLimitDecision :=
  answers (redisHit limits) (fun _ => none) hits

def memoryDecisions (limits : Limits) (hits : List Hit) : List RateLimitDecision :=
  answers (memoryHit limits) (fun _ => none) hits

def memoryAfter (limits : Limits) (hits : List Hit) : Dictionary :=
  reached (memoryHit limits) (fun _ => none) hits

/-- The time read by a hit is not before that read by an earlier one. -/
def Nondecreasing (hits : List Hit) : Prop :=
  hits.Pairwise fun earlier later => earlier.now ≤ later.now

instance (hits : List Hit) : Decidable (Nondecreasing hits) :=
  inferInstanceAs (Decidable (hits.Pairwise _))

theorem tokenBucketRateLimiter_accepts_iff (capacity windowSeconds : Int) :
    (∃ limits, tokenBucketRateLimiter capacity windowSeconds = .ok limits) ↔
      0 < capacity ∧ 0 < windowSeconds := by
  unfold tokenBucketRateLimiter
  by_cases refused : capacity ≤ 0
  · simp [refused]
  · by_cases empty : windowSeconds ≤ 0
    · simp [refused, empty]
    · simp [refused, empty]
      omega

/-! ## Buckets -/

theorem int_near (number : ℚ) : number - 1 < int number ∧ (int number : ℚ) < number + 1 := by
  unfold int
  have below := Int.floor_le number
  have above := Int.lt_floor_add_one number
  have under := Int.ceil_lt_add_one number
  have notBelow := Int.le_ceil number
  split
  · constructor <;> linarith
  · constructor <;> linarith

theorem int_monotone {earlier later : ℚ} (order : earlier ≤ later) : int earlier ≤ int later := by
  unfold int
  by_cases positive : 0 ≤ earlier
  · rw [if_pos positive, if_pos (le_trans positive order)]
    exact Int.floor_mono order
  · rw [if_neg positive]
    by_cases after : 0 ≤ later
    · have atMost : ⌈earlier⌉ ≤ 0 := Int.ceil_le.mpr (by simpa using (not_le.mp positive).le)
      have atLeast : 0 ≤ ⌊later⌋ := Int.floor_nonneg.mpr after
      rw [if_pos after]
      exact atMost.trans atLeast
    · rw [if_neg after]
      exact Int.ceil_mono order

theorem bucketOf_monotone (limits : Limits) {earlier later : Hit}
    (order : earlier.now ≤ later.now) : bucketOf limits earlier ≤ bucketOf limits later :=
  Int.ediv_le_ediv limits.window_pos (int_monotone order)

theorem close_of_same_bucket (limits : Limits) {first other : Hit}
    (same : bucketOf limits first = bucketOf limits other) :
    other.now < first.now + (limits.windowSeconds + 1) := by
  have low : int first.now / limits.windowSeconds * limits.windowSeconds ≤ int first.now :=
    Int.ediv_mul_le _ limits.window_pos.ne'
  have high : int other.now <
      int other.now / limits.windowSeconds * limits.windowSeconds + limits.windowSeconds := by
    have bound := Int.lt_ediv_add_one_mul_self (int other.now) limits.window_pos
    linarith
  have whole : int other.now + 1 ≤ int first.now + limits.windowSeconds := by
    unfold bucketOf at same
    rw [← same] at high
    linarith
  have wholeQ : (int other.now : ℚ) + 1 ≤ int first.now + limits.windowSeconds := by
    exact_mod_cast whole
  have firstBound := (int_near first.now).2
  have otherBound := (int_near other.now).1
  linarith

/-! ## Keys -/

def keyOf (limits : Limits) (hit : Hit) : String × Int := (hit.identifier, bucketOf limits hit)

/-- An identifier may hold colons; the bucket does not. -/
theorem redisKey_injective : Function.Injective fun key : String × Int => redisKey key.1 key.2 := by
  intro first other same
  have lists := congrArg String.toList same
  simp only [redisKey, String.toList_append, List.append_assoc] at lists
  have tails := List.append_cancel_left lists
  have noColon : ∀ bucket : Int, ':' ∉ (toString bucket).toList := by
    intro bucket member
    cases Interpreter.printed_of_mem_toString member with
    | inl digit => exact absurd digit (by decide)
    | inr sign => exact absurd sign (by decide)
  have parts := join_injective_last (noColon first.2) (noColon other.2) tails
  exact Prod.ext (String.toList_inj.mp parts.1)
    (Interpreter.toString_injective (String.toList_inj.mp parts.2))

def counterHit (limits : Limits) (hit : Hit) : Counters.Hit String ℚ where
  key := redisKey hit.identifier (bucketOf limits hit)
  now := hit.now
  lifetime := limits.windowSeconds + 1

theorem redisHit_eq (limits : Limits) (redis : Store String ℚ) (hit : Hit) :
    redisHit limits redis hit =
      (decision limits (redis.count (counterHit limits hit)).1,
        (redis.count (counterHit limits hit)).2) := by
  rfl

theorem ordinal_counterHit (limits : Limits) (prior : List Hit) (hit : Hit) :
    ordinal Counters.Hit.key (prior.map (counterHit limits)) (counterHit limits hit) =
      ordinal (keyOf limits) prior hit := by
  rw [ordinal, Counters.tally_map]
  exact congrFun (congrFun (Counters.ordinal_comp (keyOf limits) redisKey_injective) prior) hit

/-- A counter in Redis outlives its bucket. -/
theorem inTime (limits : Limits) (prior : List Hit) (hit : Hit) :
    InTime (prior.map (counterHit limits)) (counterHit limits hit) := by
  intro first opened
  have member := List.mem_of_find?_eq_some opened
  have keys := Counters.key_of_opener opened
  obtain ⟨earlier, -, rfl⟩ := List.mem_map.mp member
  have same := @redisKey_injective (keyOf limits earlier) (keyOf limits hit) keys
  exact close_of_same_bucket limits (congrArg Prod.snd same)

/-! ## Both limiters number the hits of a bucket -/

def numbered (limits : Limits) (prior : List Hit) (hit : Hit) : RateLimitDecision :=
  decision limits (ordinal (keyOf limits) prior hit)

theorem redisHit_spec (limits : Limits) {prior : List Hit} {redis : Store String ℚ}
    (accounts : Accounts (prior.map (counterHit limits)) redis) (hit : Hit) :
    (redisHit limits redis hit).1 = numbered limits prior hit ∧
      Accounts ((prior ++ [hit]).map (counterHit limits)) (redisHit limits redis hit).2 := by
  have counted := Counters.count_spec accounts (inTime limits prior hit)
  rw [redisHit_eq, List.map_append]
  rw [ordinal_counterHit] at counted
  exact ⟨congrArg (fun current : Nat => decision limits current) counted.1, counted.2⟩

theorem redisDecisions_eq (limits : Limits) (hits : List Hit) :
    redisDecisions limits hits = narrated (numbered limits) hits :=
  answers_of_history (fun prior redis => Accounts (prior.map (counterHit limits)) redis)
    Counters.accounts_nil (fun _ hit _ accounts _ => redisHit_spec limits accounts hit)
    (throughout_true hits)

def Recent (limits : Limits) (prior : List Hit) (bucket : Int) : Prop :=
  ∀ hit ∈ prior, bucketOf limits hit - 1 ≤ bucket

/-- The dictionary holds the tallies of the recent buckets, and nothing else. -/
def Remembers (limits : Limits) (prior : List Hit) (counters : Dictionary) : Prop :=
  ∀ key count, counters key = some count ↔
    count = tally (keyOf limits) prior key ∧ 0 < count ∧ Recent limits prior key.2

def InOrder (limits : Limits) (prior : List Hit) (hit : Hit) : Prop :=
  ∀ earlier ∈ prior, bucketOf limits earlier ≤ bucketOf limits hit

theorem remembers_nil (limits : Limits) : Remembers limits [] (fun _ => none) := by
  intro key count
  simp [tally]
  omega

theorem recent_snoc (limits : Limits) (prior : List Hit) (hit : Hit) (bucket : Int) :
    Recent limits (prior ++ [hit]) bucket ↔
      Recent limits prior bucket ∧ bucketOf limits hit - 1 ≤ bucket := by
  simp [Recent, or_imp, forall_and]

theorem pruned_spec {limits : Limits} {prior : List Hit} {counters : Dictionary}
    (remembers : Remembers limits prior counters) (hit : Hit) (key : String × Int) (count : Nat) :
    pruned (bucketOf limits hit) counters key = some count ↔
      count = tally (keyOf limits) prior key ∧ 0 < count ∧
        Recent limits (prior ++ [hit]) key.2 := by
  rw [recent_snoc]
  unfold pruned
  by_cases old : key.2 < bucketOf limits hit - 1
  · rw [if_pos old]
    constructor
    · intro absent
      cases absent
    · intro kept
      exact absurd old (not_lt.mpr kept.2.2.2)
  · rw [if_neg old, remembers key count, and_iff_left (not_lt.mp old)]

theorem pruned_current {limits : Limits} {prior : List Hit} {counters : Dictionary}
    (remembers : Remembers limits prior counters) {hit : Hit} (order : InOrder limits prior hit) :
    (pruned (bucketOf limits hit) counters (keyOf limits hit)).getD 0 =
      tally (keyOf limits) prior (keyOf limits hit) := by
  have recent : Recent limits (prior ++ [hit]) (bucketOf limits hit) := by
    rw [recent_snoc]
    constructor
    · intro earlier member
      have bound := order earlier member
      omega
    · omega
  cases found : pruned (bucketOf limits hit) counters (keyOf limits hit) with
  | some count => exact ((pruned_spec remembers hit _ count).mp found).1
  | none =>
      by_contra nonzero
      have positive : 0 < tally (keyOf limits) prior (keyOf limits hit) :=
        Nat.pos_of_ne_zero fun zero => nonzero zero.symm
      have there := (pruned_spec remembers hit (keyOf limits hit) _).mpr ⟨rfl, positive, recent⟩
      rw [found] at there
      cases there

theorem memoryHit_spec {limits : Limits} {prior : List Hit} {counters : Dictionary}
    (remembers : Remembers limits prior counters) {hit : Hit} (order : InOrder limits prior hit) :
    (memoryHit limits counters hit).1 = numbered limits prior hit ∧
      Remembers limits (prior ++ [hit]) (memoryHit limits counters hit).2 := by
  have current := pruned_current remembers order
  constructor
  · exact congrArg (fun count : Nat => decision limits (count + 1 : Nat)) current
  · intro key count
    have keeps := pruned_spec remembers hit key count
    have next : (memoryHit limits counters hit).2 =
        Function.update (pruned (bucketOf limits hit) counters) (keyOf limits hit)
          (some (tally (keyOf limits) prior (keyOf limits hit) + 1)) := by
      rw [← current]
      rfl
    rw [next]
    by_cases same : key = keyOf limits hit
    · subst same
      have recent : Recent limits (prior ++ [hit]) (bucketOf limits hit) := by
        rw [recent_snoc]
        constructor
        · intro earlier member
          have bound := order earlier member
          omega
        · omega
      rw [Function.update_self, Counters.tally_snoc, if_pos rfl, Option.some.injEq]
      constructor
      · intro equal
        exact ⟨equal.symm, by omega, recent⟩
      · intro parts
        exact parts.1.symm
    · rw [Function.update_of_ne same, keeps, Counters.tally_snoc,
        if_neg fun equal => same equal.symm, Nat.add_zero]

theorem inOrder_of_nondecreasing {limits : Limits} {hits : List Hit}
    (order : Nondecreasing hits) : Throughout (InOrder limits) hits := by
  intro prior hit later split earlier member
  rw [split, Nondecreasing, List.pairwise_append] at order
  exact bucketOf_monotone limits (order.2.2 earlier member hit List.mem_cons_self)

theorem memoryDecisions_eq (limits : Limits) {hits : List Hit} (order : Nondecreasing hits) :
    memoryDecisions limits hits = narrated (numbered limits) hits :=
  answers_of_history (Remembers limits) (remembers_nil limits)
    (fun _ _ _ remembers order => memoryHit_spec remembers order)
    (inOrder_of_nondecreasing order)

theorem memoryAfter_remembers (limits : Limits) {hits : List Hit} (order : Nondecreasing hits) :
    Remembers limits hits (memoryAfter limits hits) :=
  reached_of_history (Remembers limits) (remembers_nil limits)
    (fun _ _ _ remembers order => (memoryHit_spec remembers order).2)
    (inOrder_of_nondecreasing order)

def allowedHits (limits : Limits) (decisions : List Hit → List RateLimitDecision)
    (hits : List Hit) (key : String × Int) : Nat :=
  (hits.zip (decisions hits)).countP fun pair => keyOf limits pair.1 = key ∧ pair.2.allowed

theorem allowedHits_numbered (limits : Limits) (hits : List Hit) (key : String × Int) :
    allowedHits limits (narrated (numbered limits)) hits key =
      min limits.capacity.toNat (tally (keyOf limits) hits key) := by
  rw [← Counters.count_within_limit (keyOf limits) limits.capacity.toNat key hits, allowedHits]
  have presented : narrated (numbered limits) hits =
      (narrated (ordinal (keyOf limits)) hits).map fun count => decision limits (count : Nat) :=
    narrated_map (fun count : Nat => decision limits count) (ordinal (keyOf limits)) hits
  rw [presented, List.zip_map_right, List.countP_map]
  apply List.countP_congr
  intro pair _
  have positive := limits.capacity_pos
  simp [decision]
  intro _
  omega

/-! ## The two limiters over a whole run -/

/-- What holds of the two limiters over the same hits. -/
structure LimitersAgree (limits : Limits) (hits : List Hit) : Prop where
  same : redisDecisions limits hits = memoryDecisions limits hits
  bounded : ∀ identifier bucket,
    (allowedHits limits (redisDecisions limits) hits (identifier, bucket) : Int) ≤ limits.capacity
  /-- What a hit drops is read by no hit from there on. -/
  unread : ∀ prior hit later, hits = prior ++ hit :: later → ∀ key,
    (memoryAfter limits prior key).isSome →
      pruned (bucketOf limits hit) (memoryAfter limits prior) key = none →
        ∀ reader ∈ hit :: later, keyOf limits reader ≠ key
  recent : ∀ prior hit later, hits = prior ++ hit :: later → ∀ key,
    (memoryAfter limits (prior ++ [hit]) key).isSome →
      key.2 = bucketOf limits hit ∨ key.2 = bucketOf limits hit - 1

theorem dropped_before {counters : Dictionary} {bucket : Int}
    {key : String × Int} (there : (counters key).isSome)
    (dropped : pruned bucket counters key = none) : key.2 < bucket - 1 := by
  by_contra recent
  rw [pruned, if_neg recent] at dropped
  rw [dropped] at there
  cases there

theorem nondecreasing_before {prior later : List Hit} (order : Nondecreasing (prior ++ later)) :
    Nondecreasing prior :=
  (List.pairwise_append.mp order).1

theorem limiters_agree (limits : Limits) (hits : List Hit) (order : Nondecreasing hits) :
    LimitersAgree limits hits where
  same := by rw [redisDecisions_eq, memoryDecisions_eq limits order]
  bounded := by
    intro identifier bucket
    have counted := allowedHits_numbered limits hits (identifier, bucket)
    have positive := limits.capacity_pos
    unfold allowedHits at counted ⊢
    rw [redisDecisions_eq, counted]
    omega
  unread := by
    intro prior hit later split key there dropped reader member equal
    have old := dropped_before there dropped
    have ordered : bucketOf limits hit ≤ bucketOf limits reader := by
      rw [split, Nondecreasing, List.pairwise_append, List.pairwise_cons] at order
      cases List.mem_cons.mp member with
      | inl same => rw [same]
      | inr after => exact bucketOf_monotone limits (order.2.1.1 reader after)
    subst equal
    have bucket : (keyOf limits reader).2 = bucketOf limits reader := rfl
    omega
  recent := by
    intro prior hit later split key there
    rw [split, List.append_cons] at order
    obtain ⟨count, found⟩ := Option.isSome_iff_exists.mp there
    have remembered := (memoryAfter_remembers limits (nondecreasing_before order) key count).mp found
    have near : bucketOf limits hit - 1 ≤ key.2 := remembered.2.2 hit (by simp)
    have positive : 0 < tally (keyOf limits) (prior ++ [hit]) key := by
      rw [← remembered.1]
      exact remembered.2.1
    obtain ⟨earlier, member, same⟩ := List.countP_pos_iff.mp positive
    have notLater : bucketOf limits earlier ≤ bucketOf limits hit := by
      rw [List.mem_append, List.mem_singleton] at member
      cases member with
      | inl before =>
          have ordered := (List.pairwise_append.mp (nondecreasing_before order)).2.2
          exact bucketOf_monotone limits (ordered earlier before hit (by simp))
      | inr equal => rw [equal]
    have bucket : bucketOf limits earlier = key.2 := congrArg Prod.snd (of_decide_eq_true same)
    omega

/-- A limit of two hits in each minute. -/
def twoAMinute : Limits := ⟨2, 60, by decide, by decide⟩

def straddling : List Hit :=
  [⟨"203.0.113.7", 119 / 2⟩, ⟨"::1", 119 / 2⟩, ⟨"203.0.113.7", 60⟩, ⟨"203.0.113.7", 181⟩]

theorem straddling_limiters_agree : LimitersAgree twoAMinute straddling :=
  limiters_agree twoAMinute straddling (by decide +kernel)

example : (memoryDecisions twoAMinute [⟨"key", 0⟩, ⟨"key", 1⟩, ⟨"key", 2⟩, ⟨"key", 60⟩]).map
    RateLimitDecision.allowed = [true, true, false, true] := by decide +kernel

end ApiBank.Security.RateLimit
