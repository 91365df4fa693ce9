import ApiBank.Text.Strptime

/-!
# Reading a date in ISO 8601

`datetime.fromisoformat` finds the place of the separator first, whatever character stands
there. A date, a time and an offset are then read from fixed places, with or without their
own separators.
-/

namespace ApiBank.Text.Isoformat

open ApiBank.Db ApiBank.Numeric
open Strptime (Clock ValidDate)

set_option autoImplicit false

def readNumber (count : Nat) (text : List Char) : Option (Nat × List Char) :=
  let digits := text.take count
  if digits.length = count ∧ digits.all Char.isDigit = true then
    some (Nat.ofDigitChars 10 digits 0, text.drop count)
  else none

/-- `_find_isoformat_datetime_separator`, of at least seven characters. -/
def separator (text : List Char) : Option Nat :=
  if text.length = 7 then some 7
  else if text[4]? = some '-' then
    if text[5]? = some 'W' then
      if text[8]? = some '-' then
        if text.length = 9 then none
        else if (text[10]?).any Char.isDigit then some 8
        else some 10
      else some 8
    else some 10
  else if text[4]? = some 'W' then
    let last := 7 + ((text.drop 7).takeWhile Char.isDigit).length
    if last < 9 then some last
    else if last % 2 = 0 then some 7
    else some 8
  else some 8

/-- `_isoweek_to_gregorian`, as days since 1970-01-01. -/
def isoWeekDays (year : Int) (week weekday : Nat) : Option Int :=
  let first := Calendar.Date.days ⟨year, 1, 1⟩
  -- Monday is zero
  let firstWeekday := (first + 3) % 7
  let long := firstWeekday = 3 ∨ firstWeekday = 2 ∧ Calendar.isLeap year
  let monday := first - firstWeekday + if 3 < firstWeekday then 7 else 0
  let day := monday + (week - 1) * 7 + (weekday - 1)
  if (1 ≤ year ∧ year ≤ 9999) ∧ 1 ≤ week ∧ (week ≤ 52 ∨ week = 53 ∧ long) ∧
      1 ≤ weekday ∧ weekday ≤ 7 ∧ day < 2932897 then some day
  else none

def readDash (dashed : Bool) (text : List Char) : Option (List Char) :=
  if dashed then
    match text with
    | '-' :: rest => some rest
    | _ => none
  else some text

/-- `_parse_isoformat_date`, as days since 1970-01-01. -/
def readDate (text : List Char) : Option Int := do
  let (year, afterYear) ← readNumber 4 text
  let dashed := afterYear.head? = some '-'
  match if dashed then afterYear.drop 1 else afterYear with
  | 'W' :: rest =>
      let (week, afterWeek) ← readNumber 2 rest
      if afterWeek = [] then isoWeekDays year week 1
      else
        let afterDash ← readDash dashed afterWeek
        let (weekday, afterDay) ← readNumber 1 afterDash
        if afterDay = [] then isoWeekDays year week weekday else none
  | rest =>
      let (month, afterMonth) ← readNumber 2 rest
      let afterDash ← readDash dashed afterMonth
      let (day, afterDay) ← readNumber 2 afterDash
      let date : Calendar.Date := ⟨year, month, day⟩
      if afterDay = [] ∧ ValidDate date then some date.days else none

/-- The decimal part of the seconds in microseconds; further digits are cut off. -/
def readFraction : List Char → Option Nat
  | [] => some 0
  | mark :: digits =>
      if (mark = '.' ∨ mark = ',') ∧ digits ≠ [] ∧ digits.all Char.isDigit = true then
        let kept := digits.take 6
        some (Nat.ofDigitChars 10 kept 0 * 10 ^ (6 - kept.length))
      else none

/-- `_parse_hh_mm_ss_ff`: `HH[:?MM[:?SS[{.,}fff[fff]]]]`, with colons everywhere or nowhere. -/
def readClock (text : List Char) : Option Clock := do
  let (hour, afterHour) ← readNumber 2 text
  if afterHour = [] then return ⟨hour, 0, 0, 0⟩
  let colons := afterHour.head? = some ':'
  let (minute, afterMinute) ← readNumber 2 (if colons then afterHour.drop 1 else afterHour)
  if afterMinute = [] then return ⟨hour, minute, 0, 0⟩
  if colons ∧ afterMinute.head? ≠ some ':' then none
  let (second, afterSecond) ← readNumber 2 (if colons then afterMinute.drop 1 else afterMinute)
  let microsecond ← readFraction afterSecond
  return ⟨hour, minute, second, microsecond⟩

def isSign (char : Char) : Bool := char = '+' || char = '-' || char = 'Z'

/-- `timezone(timedelta(...))` of what stands behind the sign. -/
def readOffset (sign : Char) (text : List Char) : Option Int :=
  if sign = 'Z' then if text = [] then some 0 else none
  else do
    let clock ← readClock text
    if clock.length < days 1 then some (if sign = '-' then -clock.length else clock.length)
    else none

/-- `_parse_isoformat_time`, with the offset if there is one. -/
def readTime (text : List Char) : Option (Clock × Option Int) := do
  let clock ← readClock (text.takeWhile fun char => !isSign char)
  match text.dropWhile fun char => !isSign char with
  | [] => some (clock, none)
  | sign :: rest =>
      let offset ← readOffset sign rest
      some (clock, some offset)

/-- `datetime.fromisoformat`, or `None` where it raises `ValueError`. -/
def fromisoformat (value : String) : Option DateTime :=
  let text := value.toList
  if text.length < 7 then none
  else do
    let place ← separator text
    let date ← readDate (text.take place)
    let time := text.drop (place + 1)
    if time = [] then some ⟨days date, none⟩
    else
      let (clock, offset) ← readTime time
      if clock.Valid then some ⟨days date + clock.length, offset⟩ else none

example : fromisoformat "1970-01-02T07:00:00+07:00" =
    some ⟨days 1 + seconds 25200, some (seconds 25200)⟩ := by decide +kernel

theorem readTime_of_unsigned {text : List Char} (unsigned : ∀ char ∈ text, isSign char = false)
    {clock : Clock} {offset : Option Int} (read : readTime text = some (clock, offset)) :
    offset = none := by
  have rest : (text.dropWhile fun char => !isSign char) = [] := by
    rw [List.dropWhile_eq_nil_iff]
    intro char member
    simp [unsigned char member]
  simp only [readTime, rest, Option.bind_eq_bind, Option.bind_eq_some_iff, Option.some.injEq,
    Prod.mk.injEq] at read
  obtain ⟨own, -, -, same⟩ := read
  exact same.symm

/-- A calendar date with dashes ends at a fixed place, and an offset is behind it. -/
theorem offset_of_unsigned {value : String} {parsed : DateTime} (long : 7 < value.toList.length)
    (dash : value.toList[4]? = some '-') (noWeek : value.toList[5]? ≠ some 'W')
    (unsigned : ∀ char ∈ value.toList.drop 11, isSign char = false)
    (read : fromisoformat value = some parsed) : parsed.utcOffset = none := by
  have place : separator value.toList = some 10 := by
    rw [separator, if_neg (by omega), if_pos dash, if_neg noWeek]
  simp only [fromisoformat, place, Option.bind_eq_bind, Option.bind_some] at read
  rw [if_neg (by omega), Option.bind_eq_some_iff] at read
  obtain ⟨date, -, read⟩ := read
  split at read
  · cases read
    rfl
  · obtain ⟨⟨clock, offset⟩, timed, read⟩ := Option.bind_eq_some_iff.mp read
    simp only at read
    split at read
    · cases read
      exact readTime_of_unsigned unsigned timed
    · cases read

end ApiBank.Text.Isoformat
