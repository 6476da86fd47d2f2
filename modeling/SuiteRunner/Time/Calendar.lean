/-!
  SuiteRunner.Time.Calendar
  ────────────────────────────────
  **DATES AND TIMES OF DAY.**

  A moment is a number of nanoseconds since the beginning of 1970.  Its date is that of the
  Gregorian calendar, found by counting from the first of March of the year 0 in spans of 400 years,
  so that the leap day is the last day of a span's year.
-/

namespace SuiteRunner.Time

/-- A date. -/
structure Date where
  year : Int
  month : Nat
  day : Nat
  deriving DecidableEq, Repr, Inhabited

/-- A moment in parts.  `days` counts from the beginning of 1970. -/
structure Moment where
  days : Int
  date : Date
  hour : Nat
  minute : Nat
  second : Nat
  millisecond : Nat
  /-- What is left beyond the millisecond. -/
  nanosecond : Nat := 0
  deriving DecidableEq, Repr, Inhabited

/-- The date of a day. -/
def Date.ofDays (days : Int) : Date :=
  let z := days + 719468
  let era := z.fdiv 146097
  let dayOfEra := (z - era * 146097).toNat
  let yearOfEra := (dayOfEra - dayOfEra / 1460 + dayOfEra / 36524 - dayOfEra / 146096) / 365
  let dayOfYear := dayOfEra - (365 * yearOfEra + yearOfEra / 4 - yearOfEra / 100)
  let marchMonth := (5 * dayOfYear + 2) / 153
  let day := dayOfYear - (153 * marchMonth + 2) / 5 + 1
  let month := if marchMonth < 10 then marchMonth + 3 else marchMonth - 9
  let year : Int := (yearOfEra : Int) + era * 400
  ⟨if month ≤ 2 then year + 1 else year, month, day⟩

/-- The parts of a moment that is a number of milliseconds. -/
def Moment.ofMillis (ms : Int) : Moment :=
  let days := ms.fdiv 86400000
  let rest := (ms - days * 86400000).toNat
  ⟨days, .ofDays days, rest / 3600000, rest / 60000 % 60, rest / 1000 % 60, rest % 1000, 0⟩

/-- The whole milliseconds of a number of nanoseconds. -/
def millisOfNanos (ns : Int) : Int := ns.fdiv 1000000

/-- The parts of a moment that is a number of nanoseconds. -/
def Moment.ofNanos (ns : Int) : Moment :=
  { Moment.ofMillis (millisOfNanos ns) with nanosecond := (ns.fmod 1000000).toNat }

/-- Whether a year has a leap day. -/
def isLeapYear (year : Int) : Bool := year % 4 == 0 && (year % 100 != 0 || year % 400 == 0)

/-- The days of a year before each of its months, in a year without a leap day. -/
def daysBeforeMonth : List Nat := [0, 31, 59, 90, 120, 151, 181, 212, 243, 273, 304, 334]

/-- The number of a day in its year, from one. -/
def Date.ordinal (d : Date) : Nat :=
  (daysBeforeMonth[d.month - 1]?).getD 0 + d.day
    + (if d.month > 2 && isLeapYear d.year then 1 else 0)

/-- The day of the week, from zero for Sunday. -/
def weekday (days : Int) : Nat := ((days + 4) % 7).toNat

/-- The number of the week of a year whose first day is the first of some weekday in the year. -/
def weekOfYear (ordinal weekday firstWeekday : Nat) : Nat :=
  (ordinal + 6 - (weekday + 7 - firstWeekday) % 7) / 7

/-- The number of weeks of a year whose weeks belong to the year of their Thursday. -/
def weeksInYear (year : Int) : Nat :=
  let endDay (y : Int) : Int := (y + y.fdiv 4 - y.fdiv 100 + y.fdiv 400) % 7
  if endDay year == 4 || endDay (year - 1) == 3 then 53 else 52

/-- The year and the number of a week, where a week belongs to the year of its Thursday. -/
def thursdayWeek (d : Date) (days : Int) : Int × Nat :=
  let fromMonday := (weekday days + 6) % 7
  let week : Int := ((d.ordinal : Int) - (fromMonday : Int) + 9).fdiv 7
  if week < 1 then (d.year - 1, weeksInYear (d.year - 1))
  else if week > weeksInYear d.year then (d.year + 1, 1)
  else (d.year, week.toNat)

end SuiteRunner.Time
