/-! Civil time in the proleptic Gregorian calendar, year 0 and the years before it included.  A date and
its day number determine each other: `Date.dayNumber` adds up years and months, `Date.ofDayNumber`
divides by the cycles of 400, 100, 4 and 1 years and then counts off the months. -/

namespace TimeWindow.Calendar

def IsLeap (year : Int) : Prop := year % 4 = 0 ∧ (year % 100 ≠ 0 ∨ year % 400 = 0)

instance (year : Int) : Decidable (IsLeap year) := inferInstanceAs (Decidable (_ ∧ _))

def monthLengths (year : Int) : List Nat :=
  [31, if IsLeap year then 29 else 28, 31, 30, 31, 30, 31, 31, 30, 31, 30, 31]

def totalDays : List Nat → Nat
  | [] => 0
  | n :: months => n + totalDays months

/-- The months are numbered from 1; there are no days in a month that does not exist. -/
def daysInMonth (year : Int) : Nat → Nat
  | 0 => 0
  | m + 1 => (monthLengths year)[m]?.getD 0

def daysBeforeYear (year : Int) : Int :=
  365 * (year - 1) + (year - 1) / 4 - (year - 1) / 100 + (year - 1) / 400

def daysBeforeMonth (year : Int) (month : Nat) : Nat := totalDays ((monthLengths year).take (month - 1))

def yearOfDay (day : Int) : Int :=
  let inEra := day % 146097
  let century := min 3 (inEra / 36524)
  let inCentury := inEra - century * 36524
  let inLeapCycle := inCentury % 1461
  400 * (day / 146097) + 100 * century + 4 * (inCentury / 1461) + min 3 (inLeapCycle / 365) + 1

def splitMonths : List Nat → Nat → Nat × Nat
  | [], day => (0, day)
  | n :: months, day =>
    if day < n then (0, day) else
      let (m, rest) := splitMonths months (day - n)
      (m + 1, rest)

structure Date where
  year : Int
  month : Nat
  day : Nat
  deriving DecidableEq, Repr

namespace Date

def Valid (d : Date) : Prop := 1 ≤ d.day ∧ d.day ≤ daysInMonth d.year d.month

instance (d : Date) : Decidable d.Valid := inferInstanceAs (Decidable (_ ∧ _))

/-- Days since 1970-01-01, which is day 719162 from the start of year 1. -/
def dayNumber (d : Date) : Int :=
  daysBeforeYear d.year + daysBeforeMonth d.year d.month + d.day - 1 - 719162

def ofDayNumber (n : Int) : Date :=
  let day := n + 719162
  let year := yearOfDay day
  let (months, rest) := splitMonths (monthLengths year) (day - daysBeforeYear year).toNat
  ⟨year, months + 1, rest + 1⟩

/-- The years in which instants are named by date. -/
def Supported (d : Date) : Prop := -262143 ≤ d.year ∧ d.year ≤ 262142

instance (d : Date) : Decidable d.Supported := inferInstanceAs (Decidable (_ ∧ _))

example : dayNumber ⟨1970, 1, 1⟩ = 0 := by decide

example : ofDayNumber (-1) = ⟨1969, 12, 31⟩ := by decide

end Date

/-- A time of day.  Second 60 is the leap second: it lasts as long as the others. -/
structure TimeOfDay where
  hour : Nat
  minute : Nat
  second : Nat
  milli : Nat
  deriving DecidableEq, Repr

namespace TimeOfDay

def Valid (t : TimeOfDay) : Prop := t.hour ≤ 23 ∧ t.minute ≤ 59 ∧ t.second ≤ 60 ∧ t.milli ≤ 999

instance (t : TimeOfDay) : Decidable t.Valid := inferInstanceAs (Decidable (_ ∧ _))

def millis (t : TimeOfDay) : Nat := ((t.hour * 60 + t.minute) * 60 + t.second) * 1000 + t.milli

def ofMillis (n : Nat) : TimeOfDay :=
  ⟨n / 3600000, n / 60000 % 60, n / 1000 % 60, n % 1000⟩

end TimeOfDay

def millisPerDay : Int := 86400000

/-- Civil time at a place `east` minutes ahead of UTC. -/
structure Moment where
  date : Date
  time : TimeOfDay
  east : Int
  deriving DecidableEq, Repr

namespace Moment

def Valid (m : Moment) : Prop := m.date.Valid ∧ m.date.Supported ∧ m.time.Valid

instance (m : Moment) : Decidable m.Valid := inferInstanceAs (Decidable (_ ∧ _))

def epochMillis (m : Moment) : Int :=
  m.date.dayNumber * millisPerDay + m.time.millis - m.east * 60000

/-- Civil time in UTC, rounding towards the past. -/
def ofEpochMillis (n : Int) : Moment :=
  ⟨Date.ofDayNumber (n / millisPerDay), TimeOfDay.ofMillis (n % millisPerDay).toNat, 0⟩

end Moment

end TimeWindow.Calendar
