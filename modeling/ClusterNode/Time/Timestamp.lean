/-!
# Timestamps

A `Timestamp` is a time of the civil calendar in UTC, to the nanosecond, kept by
its fields: two timestamps are the same time exactly when their fields are. The
second 60 is a leap second and may stand in any minute. Years run from -262143
to 262142.
-/

namespace ClusterNode

/-- Whether a year has a 29 February. -/
def isLeapYear (year : Int) : Bool :=
  year % 4 == 0 && (year % 100 != 0 || year % 400 == 0)

/-- The number of days of a month. -/
def daysInMonth (year : Int) (month : Nat) : Nat :=
  if month = 2 then if isLeapYear year then 29 else 28
  else if month = 4 ∨ month = 6 ∨ month = 9 ∨ month = 11 then 30
  else 31

/-- The fields of a civil time in UTC. -/
structure CivilTime where
  year : Int
  month : Nat
  day : Nat
  hour : Nat
  minute : Nat
  second : Nat
  nanos : Nat
  deriving DecidableEq, Repr

namespace CivilTime

/-- Whether the fields name a time. -/
def Valid (t : CivilTime) : Prop :=
  -262143 ≤ t.year ∧ t.year ≤ 262142 ∧ 1 ≤ t.month ∧ t.month ≤ 12 ∧
    1 ≤ t.day ∧ t.day ≤ daysInMonth t.year t.month ∧
    t.hour < 24 ∧ t.minute < 60 ∧ t.second ≤ 60 ∧ t.nanos < 1000000000

instance (t : CivilTime) : Decidable t.Valid := inferInstanceAs (Decidable (_ ∧ _))

/-- Days from 1 January 1970 to a date: whole years are counted from a first of
March, so that a leap day is the last day of its year. -/
def daysOfDate (year : Int) (month day : Nat) : Int :=
  let y := if month ≤ 2 then year - 1 else year
  let m : Int := (month + 9) % 12
  let dayOfYear := (153 * m + 2) / 5 + day - 1
  365 * y + y.fdiv 4 - y.fdiv 100 + y.fdiv 400 + dayOfYear - 719468

/-- The date some days from 1 January 1970, in periods of 400 years. -/
def dateOfDays (days : Int) : Int × Nat × Nat :=
  let z := days + 719468
  let era := z.fdiv 146097
  let doe := (z - era * 146097).toNat
  let yoe := (doe - doe / 1460 + doe / 36524 - doe / 146096) / 365
  let doy := doe - (365 * yoe + yoe / 4 - yoe / 100)
  let mp := (5 * doy + 2) / 153
  let day := doy - (153 * mp + 2) / 5 + 1
  let month := if mp < 10 then mp + 3 else mp - 9
  let year := yoe + era * 400 + (if month ≤ 2 then 1 else 0)
  (year, month, day)

/-- The time some minutes and seconds after the start of 1970. -/
def ofMinutes (minutes : Int) (second nanos : Nat) : CivilTime :=
  let (year, month, day) := dateOfDays (minutes.fdiv 1440)
  let m := (minutes - minutes.fdiv 1440 * 1440).toNat
  ⟨year, month, day, m / 60, m % 60, second, nanos⟩

/-- The whole minutes from the start of 1970. -/
def toMinutes (t : CivilTime) : Int :=
  daysOfDate t.year t.month t.day * 1440 + t.hour * 60 + t.minute

/-- The same time on a clock that runs some minutes behind. -/
def behind (t : CivilTime) (minutes : Int) : CivilTime :=
  if minutes = 0 then t else ofMinutes (t.toMinutes - minutes) t.second t.nanos

end CivilTime

/-- A time of the calendar. -/
structure Timestamp where
  civil : CivilTime
  valid : civil.Valid
  deriving DecidableEq

namespace Timestamp

/-- The timestamp of valid fields. -/
def ofCivil? (t : CivilTime) : Option Timestamp :=
  if h : t.Valid then some ⟨t, h⟩ else none

/-- The time some seconds and nanoseconds after the start of 1970. -/
def ofUnix? (seconds : Int) (nanos : Nat) : Option Timestamp :=
  ofCivil? (.ofMinutes (seconds.fdiv 60) (seconds - seconds.fdiv 60 * 60).toNat nanos)

/-- The start of 1970. -/
def epoch : Timestamp := ⟨⟨1970, 1, 1, 0, 0, 0, 0⟩, by decide⟩

instance : Inhabited Timestamp := ⟨epoch⟩

/-- A later time; at the end of the calendar time stands still. -/
def addMillis (t : Timestamp) (ms : Nat) : Timestamp :=
  let nanos := t.civil.nanos + ms % 1000 * 1000000
  let seconds : Int := t.civil.toMinutes * 60 + t.civil.second + (ms / 1000 : Nat)
  (ofUnix? (seconds + (nanos / 1000000000 : Nat)) (nanos % 1000000000)).getD t

end Timestamp

end ClusterNode
