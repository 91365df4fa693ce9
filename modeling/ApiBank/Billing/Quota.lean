import ApiBank.Numeric.Calendar
import ApiBank.Text.Integers
import ApiBank.Text.Rendering
import ApiBank.Text.Separated
import ApiBank.Transition.Counters
import Mathlib.Data.Rat.Floor
import Mathlib.Tactic.Linarith
import Mathlib.Tactic.NormNum

/-!
# Quotas

`QuotaTracker.hit` counts a user's calls of a UTC day and of a UTC month. Redis keeps the
two counters for a day and a minute and for 31 days from their first hit on, the fallback
dictionary keeps them for good.
-/

namespace ApiBank.Billing.Quota

open ApiBank.Numeric
open ApiBank.Text
open ApiBank.Transition
open ApiBank.Transition.Counters (Store Entry Accounts InTime tally ordinal)

set_option autoImplicit false

/-- `Plan.daily_quota` and `Plan.monthly_quota`; zero stands for no limit. -/
structure Limits where
  limitDay : Int
  limitMonth : Int
  deriving DecidableEq, Repr

structure QuotaStatus where
  usedToday : Nat
  usedMonth : Nat
  limits : Limits
  deriving DecidableEq, Repr

def QuotaStatus.exceeded (status : QuotaStatus) : Bool :=
  if status.limits.limitDay ≠ 0 ∧ (status.usedToday : Int) > status.limits.limitDay then true
  else status.limits.limitMonth ≠ 0 ∧ (status.usedMonth : Int) > status.limits.limitMonth

/-- A call of `hit` and the seconds since 1970-01-01 at which it runs. -/
structure Call where
  userId : String
  now : ℚ
  deriving DecidableEq, Repr

/-- The UTC day of a time. -/
def dayOf (now : ℚ) : Int := ⌊now / 86400⌋

def quotaKey (userId family bucket : String) : String :=
  "quota:" ++ userId ++ ":" ++ family ++ ":" ++ bucket

/-- The bucket is `{tm_year}-{tm_yday:03d}`. -/
def dayKey (userId : String) (day : Int) : String :=
  quotaKey userId "day"
    (toString (Calendar.yearOf day) ++ "-" ++ padded 10 3 (Calendar.dayOfYear day + 1))

/-- The bucket is `{tm_year}-{tm_mon:02d}`. -/
def monthKey (userId : String) (year : Int) (month : Nat) : String :=
  quotaKey userId "month" (toString year ++ "-" ++ padded 10 2 month)

def Call.day (call : Call) : String × Int := (call.userId, dayOf call.now)

def Call.month (call : Call) : String × Int × Nat :=
  (call.userId, Calendar.yearOf (dayOf call.now), Calendar.monthOf (dayOf call.now))

def Call.dayKey (call : Call) : String := Quota.dayKey call.day.1 call.day.2

def Call.monthKey (call : Call) : String :=
  Quota.monthKey call.month.1 call.month.2.1 call.month.2.2

def dayLifetime : ℚ := 86400 + 60

def monthLifetime : ℚ := 86400 * 31

/-- `QuotaTracker.hit` with Redis. -/
def redisHit (limits : String → Limits) (redis : Store String ℚ) (call : Call) :
    QuotaStatus × Store String ℚ :=
  let day := redis.incr call.now call.dayKey
  let redis := if day.1 = 1 then day.2.expire call.now call.dayKey dayLifetime else day.2
  let month := redis.incr call.now call.monthKey
  let redis := if month.1 = 1 then month.2.expire call.now call.monthKey monthLifetime else month.2
  (⟨day.1, month.1, limits call.userId⟩, redis)

/-- `QuotaTracker.hit` without Redis. -/
def fallbackHit (limits : String → Limits) (fallback : String → Nat) (call : Call) :
    QuotaStatus × (String → Nat) :=
  let fallback := Function.update fallback call.dayKey (fallback call.dayKey + 1)
  let fallback := Function.update fallback call.monthKey (fallback call.monthKey + 1)
  (⟨fallback call.dayKey, fallback call.monthKey, limits call.userId⟩, fallback)

def redisStatuses (limits : String → Limits) (calls : List Call) : List QuotaStatus :=
  answers (redisHit limits) (fun _ => none) calls

def fallbackStatuses (limits : String → Limits) (calls : List Call) : List QuotaStatus :=
  answers (fallbackHit limits) (fun _ => 0) calls

def redisAfter (limits : String → Limits) (calls : List Call) : Store String ℚ :=
  reached (redisHit limits) (fun _ => none) calls

/-! ## Keys -/

theorem colon_not_mem_bucket (year : Int) (width value : Nat) :
    ':' ∉ (toString year ++ "-" ++ padded 10 width value).toList := by
  intro member
  rw [String.toList_append, String.toList_append, List.mem_append, List.mem_append] at member
  cases member with
  | inl front =>
      cases front with
      | inl inYear =>
          cases Interpreter.printed_of_mem_toString inYear with
          | inl digit => exact absurd digit (by decide)
          | inr sign => exact absurd sign (by decide)
      | inr dash => exact absurd dash (by decide)
  | inr inNumber => exact absurd (isDigit_of_mem_padded inNumber) (by decide)

theorem bucket_injective {year other : Int} {width value otherValue : Nat}
    (same : toString year ++ "-" ++ padded 10 width value =
      toString other ++ "-" ++ padded 10 width otherValue) :
    year = other ∧ value = otherValue := by
  have noDash : ∀ number : Nat, '-' ∉ (padded 10 width number).toList := by
    intro number member
    exact absurd (isDigit_of_mem_padded member) (by decide)
  have lists := congrArg String.toList same
  simp only [String.toList_append, List.append_assoc] at lists
  have parts := join_injective_last (noDash value) (noDash otherValue) lists
  exact ⟨Interpreter.toString_injective (String.toList_inj.mp parts.1),
    padded_injective width (String.toList_inj.mp parts.2)⟩

theorem quotaKey_parts {user other family otherFamily bucket otherBucket : String}
    (free : ':' ∉ bucket.toList) (otherFree : ':' ∉ otherBucket.toList)
    (plain : ':' ∉ family.toList) (otherPlain : ':' ∉ otherFamily.toList)
    (same : quotaKey user family bucket = quotaKey other otherFamily otherBucket) :
    user = other ∧ family = otherFamily ∧ bucket = otherBucket := by
  have lists := congrArg String.toList same
  unfold quotaKey at lists
  rw [String.toList_append, String.toList_append (s := "quota:" ++ other ++ ":" ++ otherFamily ++ ":"),
    String.toList_append, String.toList_append (s := "quota:" ++ other ++ ":" ++ otherFamily),
    List.append_assoc, List.append_assoc] at lists
  have last := join_injective_last free otherFree lists
  have fronts := last.1
  rw [String.toList_append, String.toList_append (s := "quota:" ++ other ++ ":"),
    String.toList_append, String.toList_append (s := "quota:" ++ other),
    List.append_assoc, List.append_assoc] at fronts
  have first := join_injective_last plain otherPlain fronts
  have users := first.1
  rw [String.toList_append, String.toList_append] at users
  exact ⟨String.toList_inj.mp (List.append_cancel_left users), String.toList_inj.mp first.2,
    String.toList_inj.mp last.2⟩

theorem dayKey_injective : Function.Injective fun key : String × Int => dayKey key.1 key.2 := by
  intro first other same
  have parts := quotaKey_parts (colon_not_mem_bucket _ _ _) (colon_not_mem_bucket _ _ _)
    (by decide) (by decide) same
  have bucket := bucket_injective parts.2.2
  exact Prod.ext parts.1 (Calendar.eq_of_dayOfYear bucket.1 (Nat.succ.inj bucket.2))

theorem monthKey_injective :
    Function.Injective fun key : String × Int × Nat => monthKey key.1 key.2.1 key.2.2 := by
  intro first other same
  have parts := quotaKey_parts (colon_not_mem_bucket _ _ _) (colon_not_mem_bucket _ _ _)
    (by decide) (by decide) same
  have bucket := bucket_injective parts.2.2
  exact Prod.ext parts.1 (Prod.ext bucket.1 bucket.2)

theorem dayKey_ne_monthKey (first other : Call) : first.dayKey ≠ other.monthKey := by
  intro same
  have parts := quotaKey_parts (colon_not_mem_bucket _ _ _) (colon_not_mem_bucket _ _ _)
    (by decide) (by decide) same
  exact absurd parts.2.1 (by decide)

/-! ## Times -/

theorem dayOf_le (now : ℚ) : (dayOf now : ℚ) * 86400 ≤ now ∧ now < (dayOf now + 1) * 86400 := by
  have below := Int.floor_le (now / 86400)
  have above := Int.lt_floor_add_one (now / 86400)
  rw [le_div_iff₀ (by norm_num)] at below
  rw [div_lt_iff₀ (by norm_num)] at above
  exact ⟨below, above⟩

theorem close_of_day {first other : ℚ} (same : dayOf first = dayOf other) :
    other < first + dayLifetime := by
  have start := (dayOf_le first).1
  have finish := (dayOf_le other).2
  rw [same] at start
  unfold dayLifetime
  linarith

theorem close_of_month {first other : ℚ}
    (year : Calendar.yearOf (dayOf first) = Calendar.yearOf (dayOf other))
    (month : Calendar.monthOf (dayOf first) = Calendar.monthOf (dayOf other)) :
    other < first + monthLifetime := by
  have days := Calendar.close_of_month year month
  have whole : dayOf other + 1 ≤ dayOf first + 31 := by omega
  have wholeQ : (dayOf other : ℚ) + 1 ≤ dayOf first + 31 := by exact_mod_cast whole
  have start := (dayOf_le first).1
  have finish := (dayOf_le other).2
  unfold monthLifetime
  linarith

/-! ## The counters of the calls -/

def dayHit (call : Call) : Counters.Hit String ℚ := ⟨call.dayKey, call.now, dayLifetime⟩

def monthHit (call : Call) : Counters.Hit String ℚ := ⟨call.monthKey, call.now, monthLifetime⟩

def counterHits (calls : List Call) : List (Counters.Hit String ℚ) :=
  calls.flatMap fun call => [dayHit call, monthHit call]

theorem counterHits_snoc (prior : List Call) (call : Call) :
    counterHits (prior ++ [call]) = counterHits prior ++ [dayHit call] ++ [monthHit call] := by
  simp [counterHits]

theorem redisHit_eq (limits : String → Limits) (redis : Store String ℚ) (call : Call) :
    let day := redis.count (dayHit call)
    let month := day.2.count (monthHit call)
    redisHit limits redis call = (⟨day.1, month.1, limits call.userId⟩, month.2) := by
  rfl

theorem tally_counterHits (calls : List Call) (key : String) :
    tally Counters.Hit.key (counterHits calls) key =
      tally Call.dayKey calls key + tally Call.monthKey calls key := by
  induction calls using List.reverseRecOn with
  | nil => rfl
  | append_singleton prior call ih =>
      rw [counterHits_snoc, Counters.tally_snoc, Counters.tally_snoc, Counters.tally_snoc,
        Counters.tally_snoc, ih]
      have day : (dayHit call).key = call.dayKey := rfl
      have month : (monthHit call).key = call.monthKey := rfl
      rw [day, month]
      omega

theorem tally_dayKey (calls : List Call) (call : Call) :
    tally Call.monthKey calls call.dayKey = 0 := by
  rw [tally, List.countP_eq_zero]
  intro other _ same
  exact dayKey_ne_monthKey call other (of_decide_eq_true same).symm

theorem tally_monthKey (calls : List Call) (call : Call) :
    tally Call.dayKey calls call.monthKey = 0 := by
  rw [tally, List.countP_eq_zero]
  intro other _ same
  exact dayKey_ne_monthKey other call (of_decide_eq_true same)

theorem opened_by_day {calls : List Call} {call : Call} {hit : Counters.Hit String ℚ}
    (member : hit ∈ counterHits calls) (same : hit.key = call.dayKey) :
    ∃ first, hit = dayHit first ∧ first.day = call.day := by
  obtain ⟨first, -, ofFirst⟩ := List.mem_flatMap.mp member
  rw [List.mem_pair] at ofFirst
  cases ofFirst with
  | inl day =>
      rw [day] at same
      exact ⟨first, day, dayKey_injective same⟩
  | inr month =>
      rw [month] at same
      exact absurd same.symm (dayKey_ne_monthKey call first)

theorem opened_by_month {calls : List Call} {call : Call} {hit : Counters.Hit String ℚ}
    (member : hit ∈ counterHits calls) (same : hit.key = call.monthKey) :
    ∃ first, hit = monthHit first ∧ first.month = call.month := by
  obtain ⟨first, -, ofFirst⟩ := List.mem_flatMap.mp member
  rw [List.mem_pair] at ofFirst
  cases ofFirst with
  | inl day =>
      rw [day] at same
      exact absurd same (dayKey_ne_monthKey first call)
  | inr month =>
      rw [month] at same
      exact ⟨first, month, monthKey_injective same⟩

theorem day_lasts {first : Call} {day : Int} (same : first.day.2 = day) {instant : ℚ}
    (sameDay : dayOf instant = day) : instant < (dayHit first).deadline :=
  close_of_day (same.trans sameDay.symm)

theorem month_lasts {first other : Call} (same : first.month = other.month) {instant : ℚ}
    (year : Calendar.yearOf (dayOf instant) = other.month.2.1)
    (month : Calendar.monthOf (dayOf instant) = other.month.2.2) :
    instant < (monthHit first).deadline := by
  have buckets := congrArg Prod.snd same
  exact close_of_month ((congrArg Prod.fst buckets).trans year.symm)
    ((congrArg Prod.snd buckets).trans month.symm)

theorem day_inTime (prior : List Call) (call : Call) :
    InTime (counterHits prior) (dayHit call) := by
  intro first opened
  obtain ⟨other, rfl, same⟩ :=
    opened_by_day (List.mem_of_find?_eq_some opened) (Counters.key_of_opener opened)
  exact day_lasts (congrArg Prod.snd same) rfl

theorem month_inTime (prior : List Call) (call : Call) :
    InTime (counterHits prior ++ [dayHit call]) (monthHit call) := by
  intro first opened
  have key := Counters.key_of_opener opened
  have member := List.mem_of_find?_eq_some opened
  rw [List.mem_append, List.mem_singleton] at member
  cases member with
  | inl before =>
      obtain ⟨other, rfl, same⟩ := opened_by_month before key
      exact month_lasts same rfl rfl
  | inr day =>
      rw [day] at key
      exact absurd key (dayKey_ne_monthKey call call)

/-! ## Both backends number the calls -/

def numbered (limits : String → Limits) (prior : List Call) (call : Call) : QuotaStatus :=
  ⟨ordinal Call.day prior call, ordinal Call.month prior call, limits call.userId⟩

theorem ordinal_dayKey : ordinal Call.dayKey = ordinal Call.day :=
  Counters.ordinal_comp Call.day dayKey_injective

theorem ordinal_monthKey : ordinal Call.monthKey = ordinal Call.month :=
  Counters.ordinal_comp Call.month monthKey_injective

theorem redisHit_spec (limits : String → Limits) {prior : List Call} {redis : Store String ℚ}
    (accounts : Accounts (counterHits prior) redis) (call : Call) :
    (redisHit limits redis call).1 = numbered limits prior call ∧
      Accounts (counterHits (prior ++ [call])) (redisHit limits redis call).2 := by
  have day := Counters.count_spec accounts (day_inTime prior call)
  have month := Counters.count_spec day.2 (month_inTime prior call)
  have today : (redis.count (dayHit call)).1 = ordinal Call.day prior call := by
    have keys : (dayHit call).key = call.dayKey := rfl
    rw [day.1, ordinal, keys, tally_counterHits, tally_dayKey, Nat.add_zero, ← ordinal_dayKey]
    rfl
  have thisMonth : ((redis.count (dayHit call)).2.count (monthHit call)).1 =
      ordinal Call.month prior call := by
    have keys : (monthHit call).key = call.monthKey := rfl
    have other : (dayHit call).key ≠ call.monthKey := dayKey_ne_monthKey call call
    rw [month.1, ordinal, keys, Counters.tally_snoc, if_neg other, tally_counterHits,
      tally_monthKey, Nat.zero_add, Nat.add_zero, ← ordinal_monthKey]
    rfl
  rw [redisHit_eq, counterHits_snoc]
  exact ⟨by rw [today, thisMonth, numbered], month.2⟩

theorem redisStatuses_eq (limits : String → Limits) (calls : List Call) :
    redisStatuses limits calls = narrated (numbered limits) calls :=
  answers_of_history (fun prior redis => Accounts (counterHits prior) redis)
    Counters.accounts_nil (fun _ call _ accounts _ => redisHit_spec limits accounts call)
    (throughout_true calls)

theorem redisAfter_accounts (limits : String → Limits) (calls : List Call) :
    Accounts (counterHits calls) (redisAfter limits calls) :=
  reached_of_history (fun prior redis => Accounts (counterHits prior) redis)
    Counters.accounts_nil (fun _ call _ accounts _ => (redisHit_spec limits accounts call).2)
    (throughout_true calls)

/-- The dictionary holds the hits under every key. -/
def Tallied (prior : List Call) (fallback : String → Nat) : Prop :=
  ∀ key, fallback key = tally Call.dayKey prior key + tally Call.monthKey prior key

theorem fallbackHit_spec (limits : String → Limits) {prior : List Call} {fallback : String → Nat}
    (tallied : Tallied prior fallback) (call : Call) :
    (fallbackHit limits fallback call).1 = numbered limits prior call ∧
      Tallied (prior ++ [call]) (fallbackHit limits fallback call).2 := by
  have apart := dayKey_ne_monthKey call call
  constructor
  · have today : fallback call.dayKey + 1 = ordinal Call.day prior call := by
      rw [tallied, tally_dayKey, ← ordinal_dayKey]
      rfl
    have thisMonth : fallback call.monthKey + 1 = ordinal Call.month prior call := by
      rw [tallied, tally_monthKey, Nat.zero_add, ← ordinal_monthKey]
      rfl
    simp [fallbackHit, numbered, apart, apart.symm, ← today, ← thisMonth]
  · intro key
    have held := tallied key
    rw [Counters.tally_snoc, Counters.tally_snoc]
    by_cases month : call.monthKey = key
    · subst month
      simp [fallbackHit, apart, apart.symm]
      omega
    · by_cases day : call.dayKey = key
      · subst day
        simp [fallbackHit, apart, month]
        omega
      · have notMonth : key ≠ call.monthKey := fun same => month same.symm
        have notDay : key ≠ call.dayKey := fun same => day same.symm
        simp [fallbackHit, notMonth, notDay, month, day]
        omega

theorem fallbackStatuses_eq (limits : String → Limits) (calls : List Call) :
    fallbackStatuses limits calls = narrated (numbered limits) calls := by
  have base : Tallied [] (fun _ => 0) := fun _ => rfl
  exact answers_of_history Tallied base
    (fun _ call _ tallied _ => fallbackHit_spec limits tallied call) (throughout_true calls)

/-! ## The calls that are let through -/

def letThrough {Key : Type} [DecidableEq Key] (statuses : List Call → List QuotaStatus)
    (calls : List Call) (key : Call → Key) (wanted : Key) : Nat :=
  (calls.zip (statuses calls)).countP fun pair => key pair.1 = wanted ∧ !pair.2.exceeded

theorem usedToday_le {status : QuotaStatus} (within : status.exceeded = false)
    (limited : status.limits.limitDay ≠ 0) :
    status.usedToday ≤ status.limits.limitDay.toNat := by
  simp only [QuotaStatus.exceeded] at within
  split at within
  · cases within
  · omega

theorem usedMonth_le {status : QuotaStatus} (within : status.exceeded = false)
    (limited : status.limits.limitMonth ≠ 0) :
    status.usedMonth ≤ status.limits.limitMonth.toNat := by
  simp only [QuotaStatus.exceeded] at within
  split at within
  · cases within
  · simp at within
    omega

/-! ## The two backends over a whole run -/

/-- What holds of the two backends over the same calls. -/
structure QuotaCounts (limits : String → Limits) (calls : List Call) : Prop where
  same : redisStatuses limits calls = fallbackStatuses limits calls
  perDay : ∀ userId day, (limits userId).limitDay ≠ 0 →
    letThrough (redisStatuses limits) calls Call.day (userId, day) ≤
      (limits userId).limitDay.toNat
  perMonth : ∀ userId year month, (limits userId).limitMonth ≠ 0 →
    letThrough (redisStatuses limits) calls Call.month (userId, year, month) ≤
      (limits userId).limitMonth.toNat
  /-- From its first call on a counter is there throughout the day it counts. -/
  dayKept : ∀ prior later, calls = prior ++ later → ∀ call ∈ prior,
    ∃ entry, redisAfter limits prior call.dayKey = some entry ∧
      ∀ instant, dayOf instant = dayOf call.now → entry.isLive instant
  monthKept : ∀ prior later, calls = prior ++ later → ∀ call ∈ prior,
    ∃ entry, redisAfter limits prior call.monthKey = some entry ∧
      ∀ instant, Calendar.yearOf (dayOf instant) = Calendar.yearOf (dayOf call.now) →
        Calendar.monthOf (dayOf instant) = Calendar.monthOf (dayOf call.now) →
          entry.isLive instant

theorem dayKept (limits : String → Limits) {prior : List Call} {call : Call}
    (member : call ∈ prior) :
    ∃ entry, redisAfter limits prior call.dayKey = some entry ∧
      ∀ instant, dayOf instant = dayOf call.now → entry.isLive instant := by
  have accounts := redisAfter_accounts limits prior call.dayKey
  cases opened : Counters.opener (counterHits prior) call.dayKey with
  | none =>
      have hit : dayHit call ∈ counterHits prior := by
        exact List.mem_flatMap.mpr ⟨call, member, List.mem_cons_self⟩
      have absent := List.find?_eq_none.mp opened (dayHit call) hit
      simp [dayHit] at absent
  | some first =>
      rw [opened] at accounts
      obtain ⟨other, rfl, same⟩ :=
        opened_by_day (List.mem_of_find?_eq_some opened) (Counters.key_of_opener opened)
      refine ⟨_, accounts, ?_⟩
      intro instant sameDay
      exact decide_eq_true (day_lasts (congrArg Prod.snd same) sameDay)

theorem monthKept (limits : String → Limits) {prior : List Call} {call : Call}
    (member : call ∈ prior) :
    ∃ entry, redisAfter limits prior call.monthKey = some entry ∧
      ∀ instant, Calendar.yearOf (dayOf instant) = Calendar.yearOf (dayOf call.now) →
        Calendar.monthOf (dayOf instant) = Calendar.monthOf (dayOf call.now) →
          entry.isLive instant := by
  have accounts := redisAfter_accounts limits prior call.monthKey
  cases opened : Counters.opener (counterHits prior) call.monthKey with
  | none =>
      have hit : monthHit call ∈ counterHits prior := by
        exact List.mem_flatMap.mpr ⟨call, member, List.mem_cons_of_mem _ List.mem_cons_self⟩
      have absent := List.find?_eq_none.mp opened (monthHit call) hit
      simp [monthHit] at absent
  | some first =>
      rw [opened] at accounts
      obtain ⟨other, rfl, same⟩ :=
        opened_by_month (List.mem_of_find?_eq_some opened) (Counters.key_of_opener opened)
      refine ⟨_, accounts, ?_⟩
      intro instant year month
      exact decide_eq_true (month_lasts same year month)

/-- The two backends agree, nobody is let through beyond a limit and no counter expires
within its day or month. -/
theorem quota_counts (limits : String → Limits) (calls : List Call) :
    QuotaCounts limits calls where
  same := by rw [redisStatuses_eq, fallbackStatuses_eq]
  perDay := by
    intro userId day limited
    unfold letThrough
    rw [redisStatuses_eq]
    refine Counters.count_granted_le Call.day (numbered limits) (fun status => !status.exceeded)
      _ (userId, day) ?_ calls
    intro prior call own passed
    have user : call.userId = userId := congrArg Prod.fst own
    have within : (numbered limits prior call).exceeded = false := by simpa using passed
    rw [← user] at limited ⊢
    exact usedToday_le within limited
  perMonth := by
    intro userId year month limited
    unfold letThrough
    rw [redisStatuses_eq]
    refine Counters.count_granted_le Call.month (numbered limits) (fun status => !status.exceeded)
      _ (userId, year, month) ?_ calls
    intro prior call own passed
    have user : call.userId = userId := congrArg Prod.fst own
    have within : (numbered limits prior call).exceeded = false := by simpa using passed
    rw [← user] at limited ⊢
    exact usedMonth_le within limited
  dayKept := by
    intro prior later _ call member
    exact dayKept limits member
  monthKept := by
    intro prior later _ call member
    exact monthKept limits member

end ApiBank.Billing.Quota
