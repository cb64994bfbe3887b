/-!
# Dates and times

A `Date` is a day of the Gregorian calendar, continued in both directions without end; a `DateTime`
is a second of such a day.  `dayNumber` counts days from the first day of the year 1; weekdays and
week numbers are read off it.
-/

namespace Bookkeeping

namespace Calendar

/-- The year has 366 days. -/
def isLeap (year : Int) : Bool := year % 4 == 0 && (year % 100 != 0 || year % 400 == 0)

/-- The number of days in a month of a year. -/
def monthDays (year : Int) : Nat → Nat
  | 2 => if isLeap year then 29 else 28
  | 4 | 6 | 9 | 11 => 30
  | _ => 31

/-- The number of days from the start of the year 1 to the start of the given year. -/
def daysBeforeYear (year : Int) : Int :=
  let y := year - 1
  365 * y + y / 4 - y / 100 + y / 400

/-- The weekday of a day number, counted from Monday. -/
def weekdayOf (dayNumber : Int) : Nat := ((dayNumber - 1) % 7).toNat

/-- The number of weeks of a year whose weeks begin on Monday and belong to the year that has their
Thursday. -/
def isoWeeks (year : Int) : Nat :=
  let start := weekdayOf (daysBeforeYear year + 1)
  if start == 3 || (isLeap year && start == 2) then 53 else 52

end Calendar

/-- A day of the Gregorian calendar. -/
structure Date where
  year : Int
  month : Nat
  day : Nat
  month_pos : 1 ≤ month
  month_le : month ≤ 12
  day_pos : 1 ≤ day
  day_le : day ≤ Calendar.monthDays year month
deriving DecidableEq

namespace Date

open Calendar

/-- The date with these parts, if there is one. -/
def ofParts? (year : Int) (month day : Nat) : Option Date :=
  if h : 1 ≤ month ∧ month ≤ 12 ∧ 1 ≤ day ∧ day ≤ monthDays year month then
    some ⟨year, month, day, h.1, h.2.1, h.2.2.1, h.2.2.2⟩
  else none

/-- The first day that dates of records can have. -/
def earliest : Date := ⟨-262143, 1, 1, by decide, by decide, by decide, by decide⟩

instance : Inhabited Date := ⟨earliest⟩

/-- The earlier date is the lesser. -/
def compare (a b : Date) : Ordering :=
  (Ord.compare a.year b.year).then ((Ord.compare a.month b.month).then (Ord.compare a.day b.day))

/-- The position in the year, from 1. -/
def dayOfYear (d : Date) : Nat :=
  ((List.range (d.month - 1)).map fun m => monthDays d.year (m + 1)).foldr (· + ·) d.day

/-- The position among all days; the first day of the year 1 has number 1. -/
def dayNumber (d : Date) : Int := daysBeforeYear d.year + d.dayOfYear

/-- The weekday, counted from Monday. -/
def weekday (d : Date) : Nat := weekdayOf d.dayNumber

/-- The number of the week, where weeks begin on the weekday that lies `sinceStart` days back and
days before the first such day are in week 0. -/
def weekFrom (d : Date) (sinceStart : Nat) : Nat := (d.dayOfYear + 6 - sinceStart) / 7

/-- The week that begins on Monday, with the year that has its Thursday. -/
def isoWeek (d : Date) : Int × Nat :=
  let week := (d.dayOfYear + 9 - d.weekday) / 7
  if week = 0 then (d.year - 1, isoWeeks (d.year - 1))
  else if isoWeeks d.year < week then (d.year + 1, 1)
  else (d.year, week)

end Date

/-- A second of a day. -/
structure DateTime where
  date : Date
  seconds : Nat
  seconds_lt : seconds < 86400
deriving DecidableEq

namespace DateTime

/-- The time of day on a date, if there is one. -/
def at? (date : Date) (hour minute second : Nat) : Option DateTime :=
  if h : hour < 24 ∧ minute < 60 ∧ second < 60 then
    some ⟨date, hour * 3600 + minute * 60 + second, by omega⟩
  else none

/-- The first second of a date. -/
def midnight (date : Date) : DateTime := ⟨date, 0, by decide⟩

def hour (t : DateTime) : Nat := t.seconds / 3600

def minute (t : DateTime) : Nat := t.seconds / 60 % 60

def second (t : DateTime) : Nat := t.seconds % 60

/-- The earlier time is the lesser. -/
def compare (a b : DateTime) : Ordering :=
  (a.date.compare b.date).then (Ord.compare a.seconds b.seconds)

/-- The seconds since the start of the year 1970. -/
def sinceEpoch (t : DateTime) : Int :=
  (t.date.dayNumber - Calendar.daysBeforeYear 1970 - 1) * 86400 + t.seconds

end DateTime

end Bookkeeping
