import Letterpress.Calendar.Date
import Letterpress.Fault
import Letterpress.Number.Shortest

/-!
# Moments

A moment is a date with a wall clock, and may carry its distance from UTC.

* `Moment.ofEpochSeconds`: the moment in UTC of a count of seconds since 1970, to the microsecond.
* `Moment.isoText`: the moment as text that sorts by time.
-/

namespace Letterpress

/-- A date and a wall clock to the microsecond. The offset is the distance from UTC in microseconds. -/
structure Moment where
  date : Date
  hour : Fin 24
  minute : Fin 60
  second : Fin 60
  microsecond : Fin 1000000
  offset : Option Int
  deriving DecidableEq, Repr, Inhabited

namespace Moment

def midnight (d : Date) : Moment := ⟨d, 0, 0, 0, 0, none⟩

/-- A moment as a clock on a wall shows it: to the second, and without an offset. -/
def toSecond (m : Moment) : Moment := { m with microsecond := 0, offset := none }

/-- The wall clock of the given parts, if they are in range. -/
def of? (d : Date) (hour minute second microsecond : Nat) (offset : Option Int) : Option Moment :=
  if hh : hour < 24 then
    if hm : minute < 60 then
      if hs : second < 60 then
        if hu : microsecond < 1000000 then
          some ⟨d, ⟨hour, hh⟩, ⟨minute, hm⟩, ⟨second, hs⟩, ⟨microsecond, hu⟩, offset⟩
        else none
      else none
    else none
  else none

/-- Day number of 1 January 1970. -/
def epochOrdinal : Int := 719163

/-- The moment in UTC of a whole number of seconds and microseconds since 1970. -/
def ofEpochParts? (seconds : Int) (microsecond : Nat) : Option Moment :=
  let day := Int.fdiv seconds 86400 + epochOrdinal
  let clock := (Int.fmod seconds 86400).toNat
  if day < 1 then none
  else (Date.ofOrdinal? day.toNat).bind fun d =>
    of? d (clock / 3600) (clock / 60 % 60) (clock % 60) microsecond (some 0)

/-- A binary64 number rounded to an integer, a half to the even neighbour. -/
def roundToInt (x : Binary64) : Int := ((Binary64.roundPlaces x 0).truncate?).getD 0

/-- Seconds as whole seconds and microseconds: the fraction is scaled as a binary64 number and rounded. -/
def splitSeconds (x : Binary64) : Int × Int :=
  let whole := (x.truncate?).getD 0
  let fraction := Binary64.sub x (Binary64.ofInt whole)
  let us := roundToInt (Binary64.mul fraction (Binary64.ofInt 1000000))
  if 1000000 ≤ us then (whole + 1, us - 1000000)
  else if us < 0 then (whole - 1, us + 1000000)
  else (whole, us)

/-- Seconds are counted in 64 bits, with a sign. -/
def secondsLimit : Int := 9223372036854775808

/-- The first second that the system's calendar can name, and the last. -/
def systemRange : Int × Int := (-67768040609740800, 67768036191676799)

def ofEpochSeconds (x : Binary64) : Except Fault Moment :=
  match x with
  | .nan => .error .badValue
  | .infinite _ => .error .overflow
  | x =>
    let (seconds, us) := splitSeconds x
    if seconds < -secondsLimit || secondsLimit ≤ seconds then .error .overflow
    else if seconds < systemRange.1 || systemRange.2 < seconds then
      .error (.system 75 "Value too large for defined data type")
    else
      match ofEpochParts? seconds us.toNat with
      | some m => .ok m
      | none => .error .badValue

/-- Digits padded with zeros to a width. -/
def padded (width n : Nat) : List Char :=
  let ds := Binary64.digits n
  List.replicate (width - ds.length) '0' ++ ds

def dateText (d : Date) : List Char :=
  padded 4 d.year ++ '-' :: padded 2 d.month ++ '-' :: padded 2 d.day

/-- An offset as sign, hours and minutes, with seconds and microseconds when they are not zero. -/
def offsetText (us : Int) : List Char :=
  let n := us.natAbs
  let seconds := n / 1000000
  let micro := n % 1000000
  (if us < 0 then '-' else '+') :: padded 2 (seconds / 3600) ++ ':' :: padded 2 (seconds / 60 % 60) ++
    (if seconds % 60 = 0 && micro = 0 then [] else ':' :: padded 2 (seconds % 60)) ++
    (if micro = 0 then [] else '.' :: padded 6 micro)

def clockText (m : Moment) : List Char :=
  padded 2 m.hour ++ ':' :: padded 2 m.minute ++ ':' :: padded 2 m.second ++
    (if m.microsecond.val = 0 then [] else '.' :: padded 6 m.microsecond)

def isoTextWith (separator : Char) (m : Moment) : List Char :=
  dateText m.date ++ separator :: clockText m ++ (match m.offset with | some us => offsetText us | none => [])

def isoText (m : Moment) : List Char := isoTextWith 'T' m

/-- Microseconds since midnight of day 0, of the wall clock less the offset. -/
def instant (m : Moment) : Int :=
  (((m.date.ordinal * 24 + m.hour.val) * 60 + m.minute.val) * 60 + m.second.val : Nat) * 1000000 +
    m.microsecond.val - m.offset.getD 0

end Moment

end Letterpress
