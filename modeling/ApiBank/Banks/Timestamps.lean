import ApiBank.Banks.History
import ApiBank.Text.Isoformat

/-!
# The times a bank writes

`_parse_datetime` of the MB and VietinBank adapters tries formats in turn, then ISO 8601, and
takes the current time where nothing reads the text. `_reliable_timestamp` says which texts
name their instant. The conversion to UTC may leave the calendar, and nothing catches the
`OverflowError`.
-/

namespace ApiBank.Banks.Timestamps

open ApiBank.Db ApiBank.Text
open DateWindows (InRange)
open Isoformat (fromisoformat)
open Strptime (Token strptime compile marks literals isMark)

set_option autoImplicit false

/-- What a conversion raises. -/
inductive Raised where
  | valueError
  | overflowError
  deriving DecidableEq, Repr

/-- The offset of `Asia/Ho_Chi_Minh` at a wall reading, and the instant of a naive value, which
`astimezone` takes for the clock of the system. -/
structure Zones where
  vietnam : Int → Int
  system : Int → Except Raised Int

section Adapters

variable (interpreter : Interpreter) (zones : Zones)

/-- `value.astimezone(UTC)`. -/
def astimezone (value : DateTime) : Except Raised DateTime :=
  match value.utcOffset with
  | some offset =>
      if InRange (value.wall - offset) then .ok (.utc (value.wall - offset))
      else .error .overflowError
  | none => (zones.system value.wall).map DateTime.utc

/-- An attempt whose `ValueError` is caught. -/
def exceptValueError (attempt next : Except Raised DateTime) : Except Raised DateTime :=
  match attempt with
  | .error .valueError => next
  | result => result

/-- What is left after the formats. -/
def parseIso (value : String) (now : Int) : Except Raised DateTime :=
  match fromisoformat value with
  | none => .ok (.utc now)
  | some parsed => exceptValueError (astimezone zones parsed) (.ok (.utc now))

/-- `strptime(value, format).replace(tzinfo=_VN_TZ)`, taken to UTC. -/
def fromVietnam (wall : Int) : Except Raised DateTime :=
  astimezone zones ⟨wall, some (zones.vietnam wall)⟩

def tryFormats (value : String) (now : Int) : List String → Except Raised DateTime
  | [] => parseIso zones value now
  | format :: formats =>
      match strptime interpreter value format with
      | none => tryFormats value now formats
      | some wall => exceptValueError (fromVietnam zones wall) (tryFormats value now formats)

def parseDatetime (formats : List String) (value : String) (now : Int) :
    Except Raised DateTime :=
  if value = "" then .ok (.utc now) else tryFormats interpreter zones value now formats

def reliableTimestamp (formats : List String) (value : String) : Bool :=
  formats.any (fun format => (strptime interpreter value format).isSome) ||
    (fromisoformat value).any fun parsed =>
      value.toList.contains 'T' && parsed.utcOffset.isSome

def mbFormats : List String :=
  ["%d/%m/%Y %H:%M:%S", "%d/%m/%Y", "%Y-%m-%dT%H:%M:%S", "%d%m%Y%H%M%S"]

def mbReliableFormats : List String := ["%d/%m/%Y %H:%M:%S", "%d%m%Y%H%M%S"]

/-- `_parse_datetime` of the MB adapter. -/
def mbParseDatetime : String → Int → Except Raised DateTime :=
  parseDatetime interpreter zones mbFormats

/-- `_reliable_timestamp` of the MB adapter. -/
def mbReliableTimestamp : String → Bool := reliableTimestamp interpreter mbReliableFormats

def vietinFormats : List String :=
  ["%d/%m/%Y %H:%M:%S", "%d/%m/%Y", "%Y-%m-%d %H:%M:%S", "%Y-%m-%dT%H:%M:%S"]

def vietinReliableFormats : List String :=
  ["%d/%m/%Y %H:%M:%S", "%Y-%m-%d %H:%M:%S", "%Y-%m-%dT%H:%M:%S"]

/-- `_parse_datetime` of the VietinBank adapter, where nothing raises the `TypeError` that it
catches as well. -/
def vietinParseDatetime : String → Int → Except Raised DateTime :=
  parseDatetime interpreter zones vietinFormats

/-- `_reliable_timestamp` of the VietinBank adapter. -/
def vietinReliableTimestamp : String → Bool :=
  reliableTimestamp interpreter vietinReliableFormats

/-- The node bridge of MB uses the functions of the MB adapter. -/
inductive Adapter where
  | mb
  | vietin
  deriving DecidableEq, Repr

namespace Adapter

def formats : Adapter → List String
  | .mb => mbFormats
  | .vietin => vietinFormats

def reliableFormats : Adapter → List String
  | .mb => mbReliableFormats
  | .vietin => vietinReliableFormats

def parse : Adapter → String → Int → Except Raised DateTime
  | .mb => mbParseDatetime interpreter zones
  | .vietin => vietinParseDatetime interpreter zones

def reliable : Adapter → String → Bool
  | .mb => mbReliableTimestamp interpreter
  | .vietin => vietinReliableTimestamp interpreter

end Adapter

end Adapters

variable {interpreter : Interpreter} {zones : Zones} {adapter : Adapter} {value : String}

theorem Adapter.parse_eq (now : Int) : adapter.parse interpreter zones value now =
    parseDatetime interpreter zones adapter.formats value now := by
  cases adapter <;> rfl

theorem Adapter.reliable_eq : adapter.reliable interpreter value =
    reliableTimestamp interpreter adapter.reliableFormats value := by
  cases adapter <;> rfl

/-! ## The formats -/

/-- The characters that a format puts between its numbers. -/
def formatMarks (format : String) : List Char :=
  ((compile Interpreter.ascii format.toList).map literals).getD []

theorem marks_of_read {format : String} (listed : format ∈ adapter.formats) {wall : Int}
    (read : strptime interpreter value format = some wall) :
    marks interpreter value.toList = formatMarks format := by
  cases adapter <;>
    simp only [Adapter.formats, mbFormats, vietinFormats, List.mem_cons, List.not_mem_nil,
      or_false] at listed <;>
    obtain rfl | rfl | rfl | rfl := listed <;>
    exact Strptime.marks_of_strptime rfl rfl read

/-- Two formats of an adapter never read the same text. -/
theorem format_unique (adapter : Adapter) : ∀ format ∈ adapter.formats,
    ∀ other ∈ adapter.formats, formatMarks other = formatMarks format → other = format := by
  cases adapter <;> decide +kernel

theorem reliable_subset (adapter : Adapter) : adapter.reliableFormats ⊆ adapter.formats := by
  cases adapter <;> decide +kernel

theorem format_of_letter (adapter : Adapter) : ∀ format ∈ adapter.formats,
    't' ∈ formatMarks format → format = "%Y-%m-%dT%H:%M:%S" := by
  cases adapter <;> decide +kernel

theorem sole_format {format : String} (listed : format ∈ adapter.formats) {wall : Int}
    (read : strptime interpreter value format = some wall) {other : String}
    (otherListed : other ∈ adapter.formats) {otherWall : Int}
    (otherRead : strptime interpreter value other = some otherWall) : other = format := by
  apply format_unique adapter format listed other otherListed
  rw [← marks_of_read otherListed otherRead, marks_of_read listed read]

theorem unread_empty {format : String} (listed : format ∈ adapter.formats) :
    strptime interpreter "" format = none := by
  cases adapter <;>
    simp only [Adapter.formats, mbFormats, vietinFormats, List.mem_cons, List.not_mem_nil,
      or_false] at listed <;>
    obtain rfl | rfl | rfl | rfl := listed <;>
    rfl

def dateTokens : List Token :=
  [.directive .Y, .literal '-', .directive .m, .literal '-']

def timeTokens : List Token :=
  [.directive .d, .literal 'T', .directive .H, .literal ':', .directive .M, .literal ':',
    .directive .S]

theorem compile_dashed : compile interpreter "%Y-%m-%dT%H:%M:%S".toList =
    some (dateTokens ++ timeTokens) := rfl

theorem dashed_parts {wall : Int}
    (read : strptime interpreter value "%Y-%m-%dT%H:%M:%S" = some wall) :
    ∃ year month rest : List Char, value.toList = year ++ '-' :: (month ++ '-' :: rest) ∧
      year.length = 4 ∧ (month.length = 1 ∨ month.length = 2) ∧
        (∀ char ∈ month, isMark interpreter char = false) ∧
          marks interpreter rest = ['t', ':', ':'] := by
  obtain ⟨tokens, groups, compiled, found⟩ := Strptime.search_of_strptime read
  obtain rfl := Option.some.inj (compiled.symm.trans compile_dashed)
  obtain ⟨_, _, _, yearRead, afterYear⟩ := Strptime.search_cons found
  obtain ⟨_, _, _, firstRead, afterFirst⟩ := Strptime.search_cons afterYear
  obtain ⟨_, _, _, monthRead, afterMonth⟩ := Strptime.search_cons afterFirst
  obtain ⟨_, _, rest, secondRead, timed⟩ := Strptime.search_cons afterMonth
  obtain ⟨yearAtoms, yearListed, year, whole, yearLength, -⟩ := Strptime.mem_directive yearRead
  obtain ⟨firstDash, rfl, firstSame⟩ := Strptime.mem_literal firstRead
  obtain ⟨monthAtoms, monthListed, month, rfl, monthLength, quiet⟩ :=
    Strptime.mem_directive monthRead
  obtain ⟨secondDash, rfl, secondSame⟩ := Strptime.mem_literal secondRead
  obtain rfl := Strptime.eq_of_toLower_eq rfl firstSame
  obtain rfl := Strptime.eq_of_toLower_eq rfl secondSame
  have yearAlternatives : ∀ atoms ∈ Strptime.Directive.Y.alternatives, atoms.length = 4 := by
    decide
  have monthAlternatives : ∀ atoms ∈ Strptime.Directive.m.alternatives,
      atoms.length = 1 ∨ atoms.length = 2 := by
    decide
  have marked : Strptime.Marked interpreter timeTokens := rfl
  have timeMarks : marks interpreter rest = ['t', ':', ':'] := Strptime.marks_of_search marked timed
  refine ⟨year, month, rest, whole, ?_, ?_, quiet, timeMarks⟩
  · rw [yearLength, yearAlternatives yearAtoms yearListed]
  · rw [monthLength]
    exact monthAlternatives monthAtoms monthListed

variable (interpreter) in
theorem isMark_of_isSign {char : Char} (sign : Isoformat.isSign char = true) :
    isMark interpreter char = true ∧ char.toLower ∉ ['t', ':', ':'] := by
  simp only [Isoformat.isSign, Bool.or_eq_true, decide_eq_true_eq] at sign
  rcases sign with (rfl | rfl) | rfl <;> exact ⟨rfl, by decide⟩

theorem offset_of_dashed {wall : Int} {parsed : DateTime}
    (read : strptime interpreter value "%Y-%m-%dT%H:%M:%S" = some wall)
    (iso : fromisoformat value = some parsed) : parsed.utcOffset = none := by
  obtain ⟨year, month, rest, whole, yearLength, monthLength, quiet, timeMarks⟩ := dashed_parts read
  have unsigned : ∀ char ∈ rest, Isoformat.isSign char = false := by
    intro char member
    by_contra sign
    obtain ⟨mark, foreign⟩ := isMark_of_isSign interpreter (Bool.not_eq_false _ ▸ sign)
    apply foreign
    rw [← timeMarks]
    exact List.mem_map_of_mem (List.mem_filter.mpr ⟨member, mark⟩)
  have filled : 0 < rest.length := by
    apply List.length_pos_of_ne_nil
    intro empty
    rw [empty] at timeMarks
    cases timeMarks
  apply Isoformat.offset_of_unsigned _ _ _ _ iso
  · rw [whole]
    simp only [List.length_append, List.length_cons]
    omega
  · rw [whole, List.getElem?_append_right (by omega), yearLength]
    rfl
  · rw [whole, List.getElem?_append_right (by omega), yearLength]
    intro week
    cases month with
    | nil => cases monthLength <;> contradiction
    | cons first others =>
        obtain rfl := Option.some.inj week
        cases quiet 'W' List.mem_cons_self
  · intro char member
    apply unsigned char
    have front : value.toList = (year ++ '-' :: (month ++ ['-'])) ++ rest := by simp [whole]
    have length : (year ++ '-' :: (month ++ ['-'])).length ≤ 11 := by
      simp only [List.length_append, List.length_cons, List.length_nil]
      omega
    rw [front, List.drop_append, List.drop_eq_nil_of_le length, List.nil_append] at member
    exact List.mem_of_mem_drop member

/-! ## What is read -/

/-- A conversion with an offset raises nothing but `OverflowError`. -/
theorem exceptValueError_aware (wall offset : Int) (next : Except Raised DateTime) :
    exceptValueError (astimezone zones ⟨wall, some offset⟩) next =
      astimezone zones ⟨wall, some offset⟩ := by
  simp only [astimezone]
  split <;> rfl

theorem tryFormats_of_read {formats : List String} {format : String} {wall now : Int}
    (sole : ∀ other ∈ formats, ∀ otherWall,
      strptime interpreter value other = some otherWall → other = format)
    (listed : format ∈ formats) (read : strptime interpreter value format = some wall) :
    tryFormats interpreter zones value now formats = fromVietnam zones wall := by
  induction formats with
  | nil => cases listed
  | cons first formats ih =>
      cases firstRead : strptime interpreter value first with
      | none =>
          have later : format ∈ formats := by
            apply List.mem_of_ne_of_mem _ listed
            rintro rfl
            rw [read] at firstRead
            cases firstRead
          simp only [tryFormats, firstRead]
          exact ih (fun other member => sole other (List.mem_cons_of_mem first member)) later
      | some firstWall =>
          obtain rfl := sole first List.mem_cons_self firstWall firstRead
          obtain rfl := Option.some.inj (read.symm.trans firstRead)
          simp only [tryFormats, firstRead, fromVietnam, exceptValueError_aware]

theorem tryFormats_of_unread {formats : List String} {now : Int}
    (unread : ∀ format ∈ formats, strptime interpreter value format = none) :
    tryFormats interpreter zones value now formats = parseIso zones value now := by
  induction formats with
  | nil => rfl
  | cons first formats ih =>
      rw [List.forall_mem_cons] at unread
      simp only [tryFormats, unread.1]
      exact ih unread.2

theorem parse_of_read {format : String} (listed : format ∈ adapter.formats) {wall : Int}
    (read : strptime interpreter value format = some wall) (now : Int) :
    adapter.parse interpreter zones value now = fromVietnam zones wall := by
  have filled : value ≠ "" := by
    rintro rfl
    rw [unread_empty listed] at read
    cases read
  rw [adapter.parse_eq, parseDatetime, if_neg filled]
  apply tryFormats_of_read _ listed read
  intro other member otherWall otherRead
  exact sole_format listed read member otherRead

theorem parse_of_unread
    (unread : ∀ format ∈ adapter.formats, strptime interpreter value format = none) (now : Int) :
    adapter.parse interpreter zones value now = parseIso zones value now := by
  rw [adapter.parse_eq, parseDatetime]
  split
  · next empty =>
      subst empty
      rfl
  · exact tryFormats_of_unread unread

/-- An instant that a text names in a form that counts as reliable: a wall reading of Vietnam,
or one with its own offset behind the letter. -/
inductive Written (interpreter : Interpreter) (zones : Zones) (adapter : Adapter)
    (value : String) : Int → Prop where
  | vietnam {format : String} {wall : Int} (listed : format ∈ adapter.reliableFormats)
      (read : strptime interpreter value format = some wall) :
      Written interpreter zones adapter value (wall - zones.vietnam wall)
  | offset {wall offset : Int} (letter : 'T' ∈ value.toList)
      (read : fromisoformat value = some ⟨wall, some offset⟩) :
      Written interpreter zones adapter value (wall - offset)

variable (interpreter) in
theorem reliable_format {format : String} (listed : format ∈ adapter.reliableFormats) :
    ∃ tokens, compile interpreter format.toList = some tokens ∧ Strptime.Spaced tokens ∧
      ∀ directive, Token.directive directive ∈ tokens := by
  have six : ∀ tokens : List Token, [.d, .m, .Y, .H, .M, .S].all
      (fun directive => decide (Token.directive directive ∈ tokens)) = true →
        ∀ directive, Token.directive directive ∈ tokens := by
    intro tokens all directive
    apply of_decide_eq_true (List.all_eq_true.mp all directive _)
    cases directive <;> decide
  cases adapter <;>
    simp only [Adapter.reliableFormats, mbReliableFormats, vietinReliableFormats, List.mem_cons,
      List.not_mem_nil, or_false] at listed
  · obtain rfl | rfl := listed <;> exact ⟨_, rfl, trivial, six _ rfl⟩
  · obtain rfl | rfl | rfl := listed <;> exact ⟨_, rfl, trivial, six _ rfl⟩

theorem written_strftime
    (limit : interpreter.maxStrDigits = 0 ∨ 640 ≤ interpreter.maxStrDigits)
    {format : String} (listed : format ∈ adapter.reliableFormats)
    {date : Numeric.Calendar.Date} {clock : Strptime.Clock} (valid : Strptime.ValidDate date)
    (inDay : clock.Valid) (whole : clock.microsecond = 0) :
    Written interpreter zones adapter (Strptime.strftime interpreter date clock format)
      (days date.days + clock.length - zones.vietnam (days date.days + clock.length)) := by
  obtain ⟨tokens, compiled, spaced, all⟩ := reliable_format interpreter listed
  exact .vietnam listed (Strptime.strptime_strftime limit compiled spaced valid inDay whole
    fun directive => .inl (all directive))

theorem exists_written (reliable : adapter.reliable interpreter value = true) :
    ∃ instant, Written interpreter zones adapter value instant := by
  rw [adapter.reliable_eq, reliableTimestamp, Bool.or_eq_true] at reliable
  cases reliable with
  | inl read =>
      obtain ⟨format, listed, isSome⟩ := List.any_eq_true.mp read
      obtain ⟨wall, read⟩ := Option.isSome_iff_exists.mp isSome
      exact ⟨_, .vietnam listed read⟩
  | inr iso =>
      cases read : fromisoformat value with
      | none =>
          rw [read] at iso
          cases iso
      | some parsed =>
          obtain ⟨wall, utcOffset⟩ := parsed
          simp only [read, Option.any_some, Bool.and_eq_true, List.contains_iff_mem] at iso
          obtain ⟨offset, rfl⟩ := Option.isSome_iff_exists.mp iso.2
          exact ⟨_, .offset iso.1 read⟩

theorem unread_of_offset {wall offset : Int} (letter : 'T' ∈ value.toList)
    (iso : fromisoformat value = some ⟨wall, some offset⟩) :
    ∀ format ∈ adapter.formats, strptime interpreter value format = none := by
  intro format listed
  by_contra some
  obtain ⟨own, read⟩ := Option.ne_none_iff_exists'.mp some
  have mark : 't' ∈ formatMarks format := by
    rw [← marks_of_read listed read]
    exact List.mem_map.mpr ⟨'T', List.mem_filter.mpr ⟨letter, rfl⟩, rfl⟩
  obtain rfl := format_of_letter adapter format listed mark
  cases offset_of_dashed read iso

/-- What is read from a text lies in the calendar on the clock of UTC too, or the system's zone
can convert it. -/
structure InCalendar (interpreter : Interpreter) (zones : Zones) (adapter : Adapter)
    (value : String) : Prop where
  vietnam : ∀ format ∈ adapter.formats, ∀ wall,
    strptime interpreter value format = some wall → InRange (wall - zones.vietnam wall)
  offset : (∀ format ∈ adapter.formats, strptime interpreter value format = none) →
    ∀ wall offset, fromisoformat value = some ⟨wall, some offset⟩ → InRange (wall - offset)
  system : (∀ format ∈ adapter.formats, strptime interpreter value format = none) →
    ∀ wall, fromisoformat value = some ⟨wall, none⟩ →
      zones.system wall ≠ .error .overflowError

/-- A text is read whatever it is, and a reliable one independently of the clock, as the one
instant that it names. -/
structure Lawful (interpreter : Interpreter) (zones : Zones) (adapter : Adapter)
    (value : String) : Prop where
  total : ∀ now, ∃ instant, adapter.parse interpreter zones value now = .ok (.utc instant)
  reliable : adapter.reliable interpreter value = true →
    ∃ instant, (∀ other, Written interpreter zones adapter value other ↔ other = instant) ∧
      ∀ now, adapter.parse interpreter zones value now = .ok (.utc instant)

theorem fromVietnam_eq_ok_iff {wall : Int} {result : DateTime} :
    fromVietnam zones wall = .ok result ↔
      InRange (wall - zones.vietnam wall) ∧ DateTime.utc (wall - zones.vietnam wall) = result := by
  simp only [fromVietnam, astimezone]
  split <;> simp_all

theorem parseIso_of_offset {wall offset : Int}
    (iso : fromisoformat value = some ⟨wall, some offset⟩) (now : Int) :
    parseIso zones value now =
      if InRange (wall - offset) then .ok (.utc (wall - offset)) else .error .overflowError := by
  simp only [parseIso, iso, exceptValueError_aware]
  rfl

theorem parseIso_of_naive {wall : Int} (iso : fromisoformat value = some ⟨wall, none⟩)
    (now : Int) : parseIso zones value now =
      exceptValueError ((zones.system wall).map DateTime.utc) (.ok (.utc now)) := by
  simp only [parseIso, iso, astimezone]

theorem InCalendar.parseIso_ok (fits : InCalendar interpreter zones adapter value)
    (unread : ∀ format ∈ adapter.formats, strptime interpreter value format = none) (now : Int) :
    ∃ instant, parseIso zones value now = .ok (.utc instant) := by
  cases iso : fromisoformat value with
  | none => exact ⟨now, by simp only [parseIso, iso]⟩
  | some parsed =>
      obtain ⟨wall, utcOffset⟩ := parsed
      cases utcOffset with
      | some offset =>
          rw [parseIso_of_offset iso, if_pos (fits.offset unread wall offset iso)]
          exact ⟨_, rfl⟩
      | none =>
          have converts := fits.system unread wall iso
          rw [parseIso_of_naive iso]
          cases conversion : zones.system wall with
          | ok instant => exact ⟨instant, rfl⟩
          | error raised =>
              cases raised with
              | valueError => exact ⟨now, rfl⟩
              | overflowError => exact absurd conversion converts

theorem InCalendar.total (fits : InCalendar interpreter zones adapter value) (now : Int) :
    ∃ instant, adapter.parse interpreter zones value now = .ok (.utc instant) := by
  by_cases unread : ∀ format ∈ adapter.formats, strptime interpreter value format = none
  · rw [parse_of_unread unread]
    exact fits.parseIso_ok unread now
  · push Not at unread
    obtain ⟨format, listed, some⟩ := unread
    obtain ⟨wall, read⟩ := Option.ne_none_iff_exists'.mp some
    rw [parse_of_read listed read]
    exact ⟨_, fromVietnam_eq_ok_iff.mpr ⟨fits.vietnam format listed wall read, rfl⟩⟩

theorem InCalendar.parse_written (fits : InCalendar interpreter zones adapter value)
    {instant : Int} (written : Written interpreter zones adapter value instant) (now : Int) :
    adapter.parse interpreter zones value now = .ok (.utc instant) := by
  cases written with
  | vietnam listed read =>
      have own := reliable_subset adapter listed
      rw [parse_of_read own read]
      exact fromVietnam_eq_ok_iff.mpr ⟨fits.vietnam _ own _ read, rfl⟩
  | offset letter iso =>
      have unread : ∀ format ∈ adapter.formats, strptime interpreter value format = none :=
        unread_of_offset letter iso
      rw [parse_of_unread unread, parseIso_of_offset iso, if_pos (fits.offset unread _ _ iso)]

theorem InCalendar.lawful (fits : InCalendar interpreter zones adapter value) :
    Lawful interpreter zones adapter value where
  total := fits.total
  reliable := by
    intro reliable
    obtain ⟨instant, written⟩ : ∃ instant, Written interpreter zones adapter value instant :=
      exists_written reliable
    refine ⟨instant, fun other => ⟨fun again => ?_, fun same => same ▸ written⟩,
      fits.parse_written written⟩
    have both := (fits.parse_written again 0).symm.trans (fits.parse_written written 0)
    exact congrArg DateTime.wall (Except.ok.inj both)

theorem Lawful.inCalendar (lawful : Lawful interpreter zones adapter value) :
    InCalendar interpreter zones adapter value where
  vietnam := by
    intro format listed wall read
    obtain ⟨instant, parsed⟩ := lawful.total 0
    rw [parse_of_read listed read] at parsed
    exact (fromVietnam_eq_ok_iff.mp parsed).1
  offset := by
    intro unread wall offset iso
    obtain ⟨instant, parsed⟩ := lawful.total 0
    rw [parse_of_unread unread, parseIso_of_offset iso] at parsed
    by_contra outside
    rw [if_neg outside] at parsed
    cases parsed
  system := by
    intro unread wall iso overflow
    obtain ⟨instant, parsed⟩ := lawful.total 0
    rw [parse_of_unread unread, parseIso_of_naive iso, overflow] at parsed
    cases parsed

/-- The text of every bank transaction is read lawfully just if what it names lies in the
calendar. -/
theorem bank_timestamps_lawful_iff (interpreter : Interpreter) (zones : Zones)
    (adapter : Adapter) (value : String) :
    Lawful interpreter zones adapter value ↔ InCalendar interpreter zones adapter value :=
  ⟨Lawful.inCalendar, InCalendar.lawful⟩

def meanTime : Zones where
  vietnam := fun _ => seconds 25590
  system := fun wall => .ok wall

/-- The first day of the calendar began in Vietnam before it began in UTC. -/
theorem first_day_raises_overflow :
    (mbParseDatetime .ascii meanTime "01/01/0001 00:00:00" 0 = .error .overflowError ∧
      vietinParseDatetime .ascii meanTime "01/01/0001 00:00:00" 0 = .error .overflowError) ∧
    ¬Lawful .ascii meanTime .mb "01/01/0001 00:00:00" ∧
      ¬Lawful .ascii meanTime .vietin "01/01/0001 00:00:00" := by
  have raises : mbParseDatetime .ascii meanTime "01/01/0001 00:00:00" 0 = .error .overflowError ∧
      vietinParseDatetime .ascii meanTime "01/01/0001 00:00:00" 0 = .error .overflowError := by
    decide +kernel
  refine ⟨raises, ?_, ?_⟩
  · intro lawful
    obtain ⟨instant, parsed⟩ := lawful.total 0
    cases raises.1.symm.trans parsed
  · intro lawful
    obtain ⟨instant, parsed⟩ := lawful.total 0
    cases raises.2.symm.trans parsed

example : mbParseDatetime .ascii meanTime "2026-10-10T14:30:00+07:00" 0 =
    .ok (.utc (days 20736 + seconds 27000)) := by decide +kernel

/-! ## The adapters of the history -/

variable (zones) in
/-- `astimezone(UTC)` of an aware value in both models. -/
theorem toOption_astimezone (wall offset : Int) :
    (astimezone zones ⟨wall, some offset⟩).toOption =
      DateWindows.astimezone (fun _ => 0) ⟨wall, some offset⟩ := by
  simp only [astimezone, DateWindows.astimezone, DateTime.instant, Option.getD_some, add_zero]
  split <;> rfl

section History

variable {python : History.Python} (reads : python.strptime = strptime interpreter)
  (iso : python.fromisoformat = fromisoformat)

include reads iso

theorem history_reliableTimestamp (formats : List String) (value : String) :
    History.reliableTimestamp python formats value =
      reliableTimestamp interpreter formats value := by
  rw [History.reliableTimestamp, reliableTimestamp, reads, iso]

variable (vietnam : python.vietnam = zones.vietnam)
  (system : ∀ wall, zones.system wall =
    if InRange (wall - python.system wall) then .ok (wall - python.system wall)
    else .error .overflowError)

include vietnam system

/-- Where the system's zone has an offset at every reading, the adapters of the history are
these, with `None` for what is raised. -/
theorem history_parseDatetime (formats : List String) (value : String) (now : Int) :
    History.parseDatetime python formats value now =
      (parseDatetime interpreter zones formats value now).toOption := by
  rw [History.parseDatetime, parseDatetime]
  split
  · rfl
  · induction formats with
    | nil =>
        rw [List.findSome?_nil, iso, tryFormats, parseIso]
        cases fromisoformat value with
        | none => rfl
        | some parsed =>
            obtain ⟨wall, utcOffset⟩ := parsed
            cases utcOffset with
            | some offset =>
                simp only [exceptValueError_aware, toOption_astimezone]
                rfl
            | none =>
                simp only [astimezone, system, Option.getD_none, ← toOption_astimezone zones]
                split <;> rfl
    | cons format formats ih =>
        rw [List.findSome?_cons, tryFormats]
        rw [reads] at ih ⊢
        cases strptime interpreter value format with
        | none => exact ih
        | some wall =>
            simp only [fromVietnam, exceptValueError_aware, toOption_astimezone, vietnam]

end History

end ApiBank.Banks.Timestamps
