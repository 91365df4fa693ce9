import Mathlib.Tactic.Common

/-!
# Clock readings and stored datetimes

`datetime.now(UTC)` is an instant: an integer count of microseconds. A stored
`datetime` keeps its wall reading and, when it is aware, its UTC offset: SQLite
hands naive values back, Postgres aware ones, and bank adapters pass on whatever
the bank sent. The code compares only after `aware`, which reads a naive value as
UTC.
-/

namespace ApiBank.Db

set_option autoImplicit false

def seconds (count : Int) : Int := count * 1000000

def days (count : Int) : Int := seconds (count * 86400)

structure DateTime where
  wall : Int
  utcOffset : Option Int
deriving DecidableEq, Repr

namespace DateTime

/-- The aware value `datetime.now(UTC)` returns at an instant. -/
def utc (now : Int) : DateTime where
  wall := now
  utcOffset := some 0

/-- `value.replace(tzinfo=UTC)`: the wall reading stays, any offset is dropped. -/
def replaceUtc (value : DateTime) : DateTime where
  wall := value.wall
  utcOffset := some 0

def aware (value : DateTime) : DateTime :=
  if value.utcOffset = none then value.replaceUtc else value

/-- The instant an aware value denotes; a naive one is read as UTC. -/
def instant (value : DateTime) : Int := value.wall - value.utcOffset.getD 0

/-- `value + timedelta`. -/
def add (value : DateTime) (delta : Int) : DateTime :=
  { value with wall := value.wall + delta }

@[simp] theorem instant_utc (now : Int) : (utc now).instant = now := by
  simp [instant, utc]

@[simp] theorem instant_add (value : DateTime) (delta : Int) :
    (value.add delta).instant = value.instant + delta := by
  simp only [instant, add]
  omega

/-- `aware` never moves a value on the time line: only the reading of a naive
value as UTC is made explicit. -/
@[simp] theorem instant_aware (value : DateTime) : value.aware.instant = value.instant := by
  unfold aware
  split
  · rename_i naive
    simp [replaceUtc, instant, naive]
  · rfl

end DateTime

end ApiBank.Db
