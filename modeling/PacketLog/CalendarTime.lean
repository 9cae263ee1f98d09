set_option autoImplicit false

/-! # Moments on a calendar

A `CalendarTime` is a date and a time of day without a time zone, by the Gregorian rule for
all years. `CalendarTime.ofFields?` accepts the fields that name a moment, and
`CalendarTime.weekday` is the day of the week. -/

namespace PacketLog

/-- A moment on a calendar, without a time zone. -/
structure CalendarTime where
  year : Int
  month : Nat
  day : Nat
  hour : Nat
  minute : Nat
  second : Nat
  deriving DecidableEq, Inhabited

namespace CalendarTime

/-- Whether a year has a leap day. -/
def isLeapYear (year : Int) : Bool := year % 4 == 0 && (year % 100 != 0 || year % 400 == 0)

/-- The days of a month, January being 1. -/
def daysInMonth (year : Int) (month : Nat) : Nat :=
  match month with
  | 2 => if isLeapYear year then 29 else 28
  | 4 => 30
  | 6 => 30
  | 9 => 30
  | 11 => 30
  | _ => 31

/-- The first year that is counted. -/
def firstYear : Int := -262143

/-- The last year that is counted. -/
def lastYear : Int := 262142

/-- Whether a date exists. -/
def IsDate (year : Int) (month day : Nat) : Prop :=
  firstYear ≤ year ∧ year ≤ lastYear ∧ 1 ≤ month ∧ month ≤ 12 ∧ 1 ≤ day ∧
    day ≤ daysInMonth year month

instance (year : Int) (month day : Nat) : Decidable (IsDate year month day) :=
  inferInstanceAs (Decidable (_ ∧ _))

/-- Whether a time of day exists. A second may last twice as long only at the end of a minute, where
a leap second belongs to it. -/
def IsTimeOfDay (hour minute second nanos : Nat) : Prop :=
  hour < 24 ∧ minute < 60 ∧ second < 60 ∧
    (nanos < 1000000000 ∨ second = 59 ∧ nanos < 2000000000)

instance (hour minute second nanos : Nat) : Decidable (IsTimeOfDay hour minute second nanos) :=
  inferInstanceAs (Decidable (_ ∧ _))

/-- The moment with the given fields, if there is one. -/
def ofFields? (year : Int) (month day hour minute second nanos : Nat) : Option CalendarTime :=
  if IsDate year month day ∧ IsTimeOfDay hour minute second nanos then
    some { year, month, day, hour, minute, second }
  else
    none

/-- The days from the first of March of year 0 to a date. A year is counted from March on, so
that a leap day is its last. -/
def dayNumber (t : CalendarTime) : Int :=
  let y : Int := if t.month ≤ 2 then t.year - 1 else t.year
  let m : Int := if t.month ≤ 2 then t.month + 9 else t.month - 3
  365 * y + y / 4 - y / 100 + y / 400 + (153 * m + 2) / 5 + (t.day - 1)

/-- The day of the week, Sunday being 0. The first of March of year 0 was a Wednesday. -/
def weekday (t : CalendarTime) : Nat := ((t.dayNumber + 3) % 7).toNat

end CalendarTime

end PacketLog
