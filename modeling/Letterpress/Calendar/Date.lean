/-!
# Dates

The Gregorian calendar, extended to the years 1 to 9999, with days numbered from 1 January of year 1.

* `Date.of?`: the date of a year, month and day, if there is one.
* `Date.ordinal`, `Date.ofOrdinal?`: days as numbers.
* `Date.weekday`: Monday is zero.
* `Date.ofWeek?`: the date of a week and weekday in the count where a year's first week holds its first
  Thursday.
-/

namespace Letterpress

def isLeapYear (year : Nat) : Bool := year % 4 == 0 && (year % 100 != 0 || year % 400 == 0)

/-- The length of a month, zero for a number that is no month. -/
def daysInMonth (year month : Nat) : Nat :=
  match month with
  | 2 => if isLeapYear year then 29 else 28
  | 4 | 6 | 9 | 11 => 30
  | 1 | 3 | 5 | 7 | 8 | 10 | 12 => 31
  | _ => 0

def isCalendarDay (year month day : Nat) : Bool :=
  1 ≤ year && year ≤ 9999 && 1 ≤ day && day ≤ daysInMonth year month

/-- A day of the years 1 to 9999. -/
structure Date where
  year : Nat
  month : Nat
  day : Nat
  isDay : isCalendarDay year month day = true
  deriving DecidableEq, Repr

namespace Date

instance : Inhabited Date := ⟨⟨1, 1, 1, rfl⟩⟩

def of? (year month day : Nat) : Option Date :=
  if h : isCalendarDay year month day = true then some ⟨year, month, day, h⟩ else none

/-- Days in the years before a year. -/
def daysBeforeYear (year : Nat) : Nat :=
  let y := year - 1
  y * 365 + y / 4 - y / 100 + y / 400

/-- Days of a year before a month. -/
def daysBeforeMonth (year month : Nat) : Nat :=
  (List.range (month - 1)).foldl (fun n i => n + daysInMonth year (i + 1)) 0

def dayOfYear (d : Date) : Nat := daysBeforeMonth d.year d.month + d.day

def ordinal (d : Date) : Nat := daysBeforeYear d.year + d.dayOfYear

/-- Month and day of a day of the year, counted from one, searching from a month on. -/
def monthAndDay (year : Nat) (month : Nat) (day : Nat) : Nat → Nat × Nat
  | 0 => (month, day)
  | fuel + 1 =>
    let n := daysInMonth year month
    if day ≤ n then (month, day) else monthAndDay year (month + 1) (day - n) fuel

/-- The year that holds a day: an estimate from the mean length of a year, moved by at most one. -/
def yearOfOrdinal (n : Nat) : Nat :=
  let guess := (n - 1) * 400 / 146097 + 1
  if n ≤ daysBeforeYear guess then guess - 1
  else if daysBeforeYear (guess + 1) < n then guess + 1
  else guess

def ofOrdinal? (n : Nat) : Option Date :=
  let year := yearOfOrdinal n
  let (month, day) := monthAndDay year 1 (n - daysBeforeYear year) 12
  of? year month day

/-- Monday is zero. -/
def weekday (d : Date) : Nat := (d.ordinal + 6) % 7

/-- Whether a year has 53 weeks. -/
def hasLongYear (year : Nat) : Bool :=
  let first := (daysBeforeYear year + 1 + 6) % 7
  first == 3 || (first == 2 && isLeapYear year)

/-- The day number of the Monday of a year's first week; it may lie in the year before. -/
def firstMonday (year : Nat) : Int :=
  let first : Int := daysBeforeYear year + 1
  let weekday : Int := (first + 6) % 7
  let monday := first - weekday
  if 3 < weekday then monday + 7 else monday

def ofWeek? (year week day : Nat) : Option Date :=
  if 1 ≤ year && 1 ≤ week && (week ≤ 52 || (week == 53 && hasLongYear year)) && 1 ≤ day && day ≤ 7 then
    let n := firstMonday year + ((week - 1) * 7 + (day - 1) : Nat)
    if 1 ≤ n then ofOrdinal? n.toNat else none
  else none

/-- The first day of the date's year. -/
def newYear (d : Date) : Nat := daysBeforeYear d.year + 1

end Date

end Letterpress
