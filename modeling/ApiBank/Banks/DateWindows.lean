import ApiBank.Db.Clock
import ApiBank.Numeric.Calendar
import ApiBank.Text.Rendering
import ApiBank.Text.Separated

/-!
# The dates a bank is asked for

`list_transactions` of the three adapters names the first and the last day of a window as
`dd/mm/yyyy`, and the bank reads them as calendar days of Vietnam. The MB and VietinBank
adapters take both times to the Vietnamese clock first; the node bridge writes the date on
the clock the time came with.
-/

namespace ApiBank.Banks.DateWindows

open ApiBank.Db
open ApiBank.Numeric
open ApiBank.Text

set_option autoImplicit false

def day : Int := days 1

def hours (count : Int) : Int := seconds (count * 3600)

/-! ## Times and dates -/

/-- `datetime.min <= value <= datetime.max`, of a wall reading. -/
def InRange (wall : Int) : Prop := days (-719162) ≤ wall ∧ wall < days 2932897

instance (wall : Int) : Decidable (InRange wall) := inferInstanceAs (Decidable (_ ∧ _))

/-- A `datetime`, naive or aware. -/
structure Time where
  value : DateTime
  inRange : InRange value.wall

def Time.instant (time : Time) : Int := time.value.instant

def Time.utcOffset (time : Time) : Int := time.value.utcOffset.getD 0

/-- The offset of a zone from UTC at every instant. -/
abbrev Zone := Int → Int

/-- `value.astimezone(zone)`, of an aware value; `None` stands for `OverflowError`. -/
def astimezone (zone : Zone) (value : DateTime) : Option DateTime :=
  let utc := value.instant
  let wall := utc + zone utc
  if InRange utc then
    if InRange wall then some ⟨wall, some (zone utc)⟩ else none
  else none

/-- The date in `dd/mm/yyyy`. -/
def dateText (date : Calendar.Date) : String :=
  padded 10 2 date.day ++ "/" ++ padded 10 2 date.month ++ "/" ++ padded 10 4 date.year.toNat

/-- `value.strftime("%d/%m/%Y")` reads the wall. -/
def strftime (value : DateTime) : String := dateText (Calendar.civil (value.wall / day))

/-! ## Requests -/

structure DateRange where
  fromDate : String
  toDate : String
  deriving DecidableEq, Repr

/-- `start.astimezone(_VN_TZ)`, where a naive value is taken for UTC. -/
def toVietnam (vietnam : Zone) (time : Time) : Option DateTime :=
  if time.value.utcOffset ≠ none then astimezone vietnam time.value
  else astimezone vietnam time.value.replaceUtc

/-- Both times are converted before they are formatted. -/
def vietnamDates (vietnam : Zone) (start finish : Time) : Option DateRange :=
  match toVietnam vietnam start, toVietnam vietnam finish with
  | some startVn, some finishVn => some ⟨strftime startVn, strftime finishVn⟩
  | _, _ => none

/-- `MBAdapter.list_transactions`; `mbbank-lib` formats what it is given. -/
def mbDates (vietnam : Zone) (start finish : Time) : Option DateRange :=
  vietnamDates vietnam start finish

/-- `VietinAdapter.list_transactions`. -/
def vietinDates (vietnam : Zone) (start finish : Time) : Option DateRange :=
  vietnamDates vietnam start finish

/-- `MBNodeBridgeAdapter.list_transactions`. -/
def bridgeDates (start finish : Time) : Option DateRange :=
  some ⟨strftime start.value, strftime finish.value⟩

inductive Adapter where
  | mb
  | mbNodeBridge
  | vietin
  deriving DecidableEq, Repr

def requestDates (vietnam : Zone) (adapter : Adapter) (start finish : Time) : Option DateRange :=
  match adapter with
  | .mb => mbDates vietnam start finish
  | .mbNodeBridge => bridgeDates start finish
  | .vietin => vietinDates vietnam start finish

/-! ## What the bank makes of a request -/

def vietnamDay (instant : Int) : Int := (instant + hours 7) / day

/-- The day a text of the form `dd/mm/yyyy` names. -/
def Names (text : String) (named : Int) : Prop :=
  0 ≤ Calendar.yearOf named ∧ dateText (Calendar.civil named) = text

def Covers (range : DateRange) (start finish : Time) : Prop :=
  ∀ instant, start.instant ≤ instant → instant ≤ finish.instant →
    ∃ first last, Names range.fromDate first ∧ Names range.toDate last ∧
      first ≤ vietnamDay instant ∧ vietnamDay instant ≤ last

def WindowCovered (vietnam : Zone) (adapter : Adapter) (start finish : Time) : Prop :=
  ∃ range, requestDates vietnam adapter start finish = some range ∧ Covers range start finish

def clockOffset (vietnam : Zone) (adapter : Adapter) (time : Time) : Int :=
  match adapter with
  | .mbNodeBridge => time.utcOffset
  | .mb | .vietin => vietnam time.instant

/-- That clock shows a time a `datetime` can hold. -/
def Readable (vietnam : Zone) (adapter : Adapter) (time : Time) : Prop :=
  match adapter with
  | .mbNodeBridge => True
  | .mb | .vietin => InRange time.instant ∧ InRange (time.instant + vietnam time.instant)

instance (vietnam : Zone) (adapter : Adapter) (time : Time) :
    Decidable (Readable vietnam adapter time) :=
  match adapter with
  | .mbNodeBridge => inferInstanceAs (Decidable True)
  | .mb | .vietin => inferInstanceAs (Decidable (_ ∧ _))

/-- How long the Vietnamese day has lasted. -/
def vietnamTimeOfDay (instant : Int) : Int := (instant + hours 7) % day

/-- The adapter's clock is not yet past the Vietnamese day of the start, and no longer
before that of the finish. -/
structure ClocksReach (vietnam : Zone) (adapter : Adapter) (start finish : Time) : Prop where
  startReadable : Readable vietnam adapter start
  finishReadable : Readable vietnam adapter finish
  start : vietnamTimeOfDay start.instant + (clockOffset vietnam adapter start - hours 7) < day
  finish : 0 ≤ vietnamTimeOfDay finish.instant + (clockOffset vietnam adapter finish - hours 7)

/-! ## Texts and days -/

theorem dateText_injective {first other : Calendar.Date} (firstYear : 0 ≤ first.year)
    (otherYear : 0 ≤ other.year) (same : dateText first = dateText other) : first = other := by
  have noSlash : ∀ width number : Nat, '/' ∉ (padded 10 width number).toList := by
    intro width number member
    exact absurd (isDigit_of_mem_padded member) (by decide)
  have slash : "/".toList = ['/'] := rfl
  have lists := congrArg String.toList same
  simp only [dateText, String.toList_append, List.append_assoc, slash,
    List.singleton_append] at lists
  have days := join_injective (noSlash 2 first.day) (noSlash 2 other.day) lists
  have months := join_injective (noSlash 2 first.month) (noSlash 2 other.month) days.2
  have sameDay := padded_injective 2 (String.toList_inj.mp days.1)
  have sameMonth := padded_injective 2 (String.toList_inj.mp months.1)
  have sameYear := padded_injective 4 (String.toList_inj.mp months.2)
  cases first
  cases other
  simp only [Calendar.Date.mk.injEq]
  simp only at sameDay sameMonth sameYear firstYear otherYear
  omega

theorem names_injective {text : String} {first other : Int} (named : Names text first)
    (otherNamed : Names text other) : first = other :=
  Calendar.civil_injective
    (dateText_injective named.1 otherNamed.1 (named.2.trans otherNamed.2.symm))

theorem year_of_inRange {wall : Int} (inRange : InRange wall) :
    0 ≤ Calendar.yearOf (wall / day) := by
  have year := Calendar.day_of_year (wall / day)
  have low : -719162 ≤ wall / day := by
    unfold InRange days seconds at inRange
    unfold day days seconds
    omega
  have bound : (Calendar.dayOfYear (wall / day) : Int) < 366 := by
    cases leap : Calendar.isLeap (Calendar.yearOf (wall / day)) <;> simp [leap] at year <;> omega
  unfold Calendar.daysBeforeYear Calendar.epoch at year
  omega

/-! ## The dates and the Vietnamese days -/

theorem toVietnam_eq (vietnam : Zone) (time : Time) :
    toVietnam vietnam time =
      if InRange time.instant ∧ InRange (time.instant + vietnam time.instant) then
        some ⟨time.instant + vietnam time.instant, some (vietnam time.instant)⟩
      else none := by
  have same : toVietnam vietnam time = astimezone vietnam time.value.aware := by
    unfold toVietnam DateTime.aware
    by_cases naive : time.value.utcOffset = none <;> simp [naive]
  have instants : time.value.aware.instant = time.instant := DateTime.instant_aware time.value
  rw [same, astimezone, instants]
  by_cases utc : InRange time.instant <;> simp [utc]

theorem wall_eq (time : Time) : time.value.wall = time.instant + time.utcOffset := by
  unfold Time.instant DateTime.instant Time.utcOffset
  omega

def clockDay (vietnam : Zone) (adapter : Adapter) (time : Time) : Int :=
  (time.instant + clockOffset vietnam adapter time) / day

def clockRange (vietnam : Zone) (adapter : Adapter) (start finish : Time) : DateRange where
  fromDate := dateText (Calendar.civil (clockDay vietnam adapter start))
  toDate := dateText (Calendar.civil (clockDay vietnam adapter finish))

theorem vietnamDates_eq (vietnam : Zone) (start finish : Time) :
    vietnamDates vietnam start finish =
      if Readable vietnam .mb start ∧ Readable vietnam .mb finish then
        some (clockRange vietnam .mb start finish)
      else none := by
  have converted : ∀ time : Time, toVietnam vietnam time =
      if Readable vietnam .mb time then
        some ⟨time.instant + vietnam time.instant, some (vietnam time.instant)⟩
      else none := fun time => toVietnam_eq vietnam time
  unfold vietnamDates
  rw [converted, converted]
  by_cases startReadable : Readable vietnam .mb start
  · rw [if_pos startReadable]
    by_cases finishReadable : Readable vietnam .mb finish
    · rw [if_pos finishReadable, if_pos ⟨startReadable, finishReadable⟩]
      rfl
    · have notBoth : ¬(Readable vietnam .mb start ∧ Readable vietnam .mb finish) :=
        fun both => finishReadable both.2
      rw [if_neg finishReadable, if_neg notBoth]
  · have notBoth : ¬(Readable vietnam .mb start ∧ Readable vietnam .mb finish) :=
      fun both => startReadable both.1
    rw [if_neg startReadable, if_neg notBoth]

/-- What is sent is the date of both times on the adapter's clock, where it has one. -/
theorem requestDates_eq (vietnam : Zone) (adapter : Adapter) (start finish : Time) :
    requestDates vietnam adapter start finish =
      if Readable vietnam adapter start ∧ Readable vietnam adapter finish then
        some (clockRange vietnam adapter start finish)
      else none := by
  cases adapter with
  | mb => exact vietnamDates_eq vietnam start finish
  | vietin => exact vietnamDates_eq vietnam start finish
  | mbNodeBridge =>
      rw [if_pos ⟨trivial, trivial⟩]
      simp only [requestDates, bridgeDates, strftime, wall_eq]
      rfl

theorem readable_inRange {vietnam : Zone} {adapter : Adapter} {time : Time}
    (readable : Readable vietnam adapter time) :
    InRange (time.instant + clockOffset vietnam adapter time) := by
  cases adapter with
  | mb => exact readable.2
  | vietin => exact readable.2
  | mbNodeBridge =>
      have inRange := time.inRange
      rw [wall_eq] at inRange
      exact inRange

theorem clockDay_le_iff (instant offset : Int) :
    (instant + offset) / day ≤ vietnamDay instant ↔
      vietnamTimeOfDay instant + (offset - hours 7) < day := by
  unfold vietnamDay vietnamTimeOfDay hours day days seconds
  omega

theorem le_clockDay_iff (instant offset : Int) :
    vietnamDay instant ≤ (instant + offset) / day ↔
      0 ≤ vietnamTimeOfDay instant + (offset - hours 7) := by
  unfold vietnamDay vietnamTimeOfDay hours day days seconds
  omega

theorem vietnamDay_mono {earlier later : Int} (order : earlier ≤ later) :
    vietnamDay earlier ≤ vietnamDay later := by
  unfold vietnamDay hours day days seconds
  omega

theorem covers_iff {range : DateRange} {start finish : Time} {first last : Int}
    (ordered : start.instant ≤ finish.instant) (from_named : Names range.fromDate first)
    (to_named : Names range.toDate last) :
    Covers range start finish ↔
      first ≤ vietnamDay start.instant ∧ vietnamDay finish.instant ≤ last := by
  constructor
  · intro covers
    obtain ⟨startFirst, _, startNamed, _, startBound, _⟩ :=
      covers start.instant (Int.le_refl _) ordered
    obtain ⟨_, finishLast, _, finishNamed, _, finishBound⟩ :=
      covers finish.instant ordered (Int.le_refl _)
    rw [names_injective from_named startNamed, names_injective to_named finishNamed]
    exact ⟨startBound, finishBound⟩
  · intro outermost instant after before
    have low := vietnamDay_mono after
    have high := vietnamDay_mono before
    exact ⟨first, last, from_named, to_named, by omega, by omega⟩

theorem names_clock {vietnam : Zone} {adapter : Adapter} {time : Time}
    (readable : Readable vietnam adapter time) :
    Names (dateText (Calendar.civil (clockDay vietnam adapter time)))
      (clockDay vietnam adapter time) :=
  ⟨year_of_inRange (readable_inRange readable), rfl⟩

/-- Of a request that is sent. -/
theorem covers_clockRange_iff {vietnam : Zone} {adapter : Adapter} {start finish : Time}
    (ordered : start.instant ≤ finish.instant) (startReadable : Readable vietnam adapter start)
    (finishReadable : Readable vietnam adapter finish) :
    Covers (clockRange vietnam adapter start finish) start finish ↔
      vietnamTimeOfDay start.instant + (clockOffset vietnam adapter start - hours 7) < day ∧
        0 ≤ vietnamTimeOfDay finish.instant + (clockOffset vietnam adapter finish - hours 7) := by
  have outermost : Covers (clockRange vietnam adapter start finish) start finish ↔ _ :=
    covers_iff ordered (names_clock startReadable) (names_clock finishReadable)
  rw [outermost, clockDay, clockDay, clockDay_le_iff, le_clockDay_iff]

theorem clocks_of_covered {vietnam : Zone} {adapter : Adapter} {start finish : Time}
    (ordered : start.instant ≤ finish.instant)
    (covered : WindowCovered vietnam adapter start finish) :
    ClocksReach vietnam adapter start finish := by
  obtain ⟨range, sent, covers⟩ := covered
  rw [requestDates_eq] at sent
  by_cases readable : Readable vietnam adapter start ∧ Readable vietnam adapter finish
  · rw [if_pos readable, Option.some.injEq] at sent
    rw [← sent, covers_clockRange_iff ordered readable.1 readable.2] at covers
    exact ⟨readable.1, readable.2, covers.1, covers.2⟩
  · rw [if_neg readable] at sent
    cases sent

theorem covered_of_clocks {vietnam : Zone} {adapter : Adapter} {start finish : Time}
    (ordered : start.instant ≤ finish.instant)
    (clocks : ClocksReach vietnam adapter start finish) :
    WindowCovered vietnam adapter start finish := by
  have covers := (covers_clockRange_iff ordered clocks.startReadable clocks.finishReadable).mpr
    ⟨clocks.start, clocks.finish⟩
  have sent := requestDates_eq vietnam adapter start finish
  rw [if_pos ⟨clocks.startReadable, clocks.finishReadable⟩] at sent
  exact ⟨_, sent, covers⟩

/-- A window is covered exactly when both dates can be read from the adapter's clock and the
clock shows neither a later day at the start nor an earlier one at the finish. -/
theorem window_covered_iff (vietnam : Zone) (adapter : Adapter) (start finish : Time)
    (ordered : start.instant ≤ finish.instant) :
    WindowCovered vietnam adapter start finish ↔ ClocksReach vietnam adapter start finish :=
  ⟨clocks_of_covered ordered, covered_of_clocks ordered⟩

def sevenAhead : Zone := fun _ => hours 7

/-- Ten o'clock UTC on 1 July 2026, five in the afternoon in Vietnam. -/
def afternoon : Time := ⟨DateTime.utc (seconds 1782900000), by decide⟩

/-- Half past five in the afternoon UTC, half an hour into 2 July in Vietnam. -/
def pastMidnight : Time := ⟨DateTime.utc (seconds 1782927000), by decide⟩

theorem afternoon_covered :
    WindowCovered sevenAhead .mb afternoon pastMidnight ↔
      ClocksReach sevenAhead .mb afternoon pastMidnight :=
  window_covered_iff sevenAhead .mb afternoon pastMidnight (by decide)

/-- The node bridge asks for 1 July only. -/
theorem bridge_misses_the_night :
    ¬ ∀ adapter start finish, Time.instant start ≤ Time.instant finish →
      WindowCovered sevenAhead adapter start finish := by
  intro covered
  have night := covered .mbNodeBridge afternoon pastMidnight (by decide)
  have clocks := clocks_of_covered (by decide) night
  exact absurd clocks.finish (by decide)

/-- While Vietnam is seven hours ahead the two converting adapters cover every window whose
times they can convert. -/
theorem clocksReach_of_sevenAhead {vietnam : Zone} {adapter : Adapter} {start finish : Time}
    (converts : adapter ≠ .mbNodeBridge) (startOffset : vietnam start.instant = hours 7)
    (finishOffset : vietnam finish.instant = hours 7) :
    ClocksReach vietnam adapter start finish ↔
      Readable vietnam adapter start ∧ Readable vietnam adapter finish := by
  have startClock : clockOffset vietnam adapter start = hours 7 := by
    cases adapter with
    | mb => exact startOffset
    | vietin => exact startOffset
    | mbNodeBridge => exact absurd rfl converts
  have finishClock : clockOffset vietnam adapter finish = hours 7 := by
    cases adapter with
    | mb => exact finishOffset
    | vietin => exact finishOffset
    | mbNodeBridge => exact absurd rfl converts
  have positive : (0 : Int) < day := by decide
  constructor
  · intro clocks
    exact ⟨clocks.startReadable, clocks.finishReadable⟩
  · intro readable
    have startBound : vietnamTimeOfDay start.instant < day := Int.emod_lt_of_pos _ positive
    have finishBound : 0 ≤ vietnamTimeOfDay finish.instant := Int.emod_nonneg _ positive.ne'
    exact
      { startReadable := readable.1
        finishReadable := readable.2
        start := by rwa [startClock, Int.sub_self, Int.add_zero]
        finish := by rwa [finishClock, Int.sub_self, Int.add_zero] }

theorem clocksReach_bridge_utc {vietnam : Zone} {start finish : Time}
    (startUtc : start.utcOffset = 0) (finishUtc : finish.utcOffset = 0) :
    ClocksReach vietnam .mbNodeBridge start finish ↔ finish.instant % day < hours 17 := by
  have startClock : clockOffset vietnam .mbNodeBridge start = 0 := startUtc
  have finishClock : clockOffset vietnam .mbNodeBridge finish = 0 := finishUtc
  have timeOfDay : ∀ instant, 0 ≤ vietnamTimeOfDay instant + (0 - hours 7) ↔
      instant % day < hours 17 := by
    intro instant
    unfold vietnamTimeOfDay hours day days seconds
    omega
  constructor
  · intro clocks
    have finishBound := clocks.finish
    rw [finishClock] at finishBound
    exact (timeOfDay _).mp finishBound
  · intro early
    have startBound : vietnamTimeOfDay start.instant + (0 - hours 7) < day := by
      unfold vietnamTimeOfDay hours day days seconds
      omega
    have finishBound := (timeOfDay finish.instant).mpr early
    exact
      { startReadable := trivial
        finishReadable := trivial
        start := by rwa [startClock]
        finish := by rwa [finishClock] }

end ApiBank.Banks.DateWindows
