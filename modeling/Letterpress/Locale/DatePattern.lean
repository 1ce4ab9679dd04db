import Letterpress.Calendar.Moment
import Letterpress.Locale.CalendarNames
import Letterpress.Text.Trim

/-!
# Date patterns

Patterns in which runs of a letter stand for fields of a date or a clock, text in single quotes stands for
itself, and two single quotes stand for one.

* `DatePattern.pieces`: the literal text and the fields of a pattern.
* `DatePattern.formatDate`, `formatMoment`, `formatTime`: a date, a moment and a clock under a pattern, or
  under one of the locale's own patterns by name.
-/

namespace Letterpress.Locale.DatePattern

open Text

inductive Piece where
  | chars (text : List Char)
  | field (letter : Char) (count : Nat)
  deriving DecidableEq, Repr

/-- The letters that name fields. -/
def isFieldLetter (c : Char) : Bool := "GyYuQqMLwWdDFgEecabBhHKkmsSAzZOvVxX".toList.contains c

/-- Stands for a pair of single quotes while the pattern is taken apart. -/
def quoteMark : Char := Char.ofNat 0

structure Scan where
  done : List Piece
  chars : List Char
  field : Option (Char × Nat)
  /-- the text of a quotation that is not closed yet -/
  quoted : Option (List Char)

namespace Scan

/-- Closes the text or the field that is being collected. -/
def flushField (s : Scan) : Scan :=
  match s.field with
  | some (c, n) => { s with done := .field c n :: s.done, field := none }
  | none => s

def flushChars (s : Scan) : Scan :=
  if s.chars.isEmpty then s
  else { s with done := .chars (s.chars.reverse.map fun c => if c == quoteMark then '\'' else c) :: s.done, chars := [] }

def step (s : Scan) (c : Char) : Scan :=
  match s.quoted with
  | some text =>
    if c == '\'' then { s with chars := text ++ s.chars, quoted := none } else { s with quoted := some (c :: text) }
  | none =>
    if c == '\'' then
      { (if s.field.isSome then s.flushField else s.flushChars) with quoted := some [] }
    else if isFieldLetter c then
      let s := s.flushChars
      match s.field with
      | some (d, n) =>
        if d == c then { s with field := some (d, n + 1) } else { s.flushField with field := some (c, 1) }
      | none => { s with field := some (c, 1) }
    else
      let s := s.flushField
      { s with chars := c :: s.chars }

end Scan

/-- Literal text and fields, in order; a quotation that is never closed is dropped. -/
def pieces (pattern : List Char) : List Piece :=
  let s := (replaceAll ['\'', '\''] [quoteMark] pattern).foldl Scan.step ⟨[], [], none, none⟩
  (if s.field.isSome then s.flushField else s.flushChars).done.reverse

/-- How often the letter of a field may stand in a row. -/
def allowsCount (letter : Char) (count : Nat) : Bool :=
  match letter with
  | 'y' | 'Y' | 'u' | 'g' | 'S' | 'A' => true
  | 'w' | 'd' | 'h' | 'H' | 'K' | 'k' | 'm' | 's' => count ≤ 2
  | 'W' | 'F' => count == 1
  | 'D' => count ≤ 3
  | 'E' | 'e' => count ≤ 6
  | 'c' => count == 1 || 3 ≤ count && count ≤ 6
  | 'z' | 'V' => count ≤ 4
  | 'O' | 'v' => count == 1 || count == 4
  | _ => count ≤ 5

/-- What a pattern is applied to: a date, a clock, or both, with the distance from UTC in microseconds. -/
structure Subject where
  date : Option Date
  clock : Option Moment
  offset : Int

def pad (width n : Nat) : List Char := Moment.padded width n

/-- An integer padded with zeros between its sign and its digits. -/
def padInt (width : Nat) (i : Int) : List Char :=
  if i < 0 then '-' :: pad (width - 1) i.natAbs else pad width i.natAbs

/-- The week of a day in a period, given the day's number in it and its weekday. -/
def weekNumber (names : CalendarNames) (day weekday : Nat) : Nat :=
  let first := (Int.fmod ((weekday : Int) - names.firstDay - day + 1) 7).toNat
  (day + first - 1) / 7 + (if names.minDays ≤ 7 - first then 1 else 0)

/-- The week of the year; days before the first week belong to the last week of the year before, and days
after the last one may belong to the next year's first. -/
def weekOfYear (names : CalendarNames) (d : Date) : Except Fault Nat :=
  let week := weekNumber names d.dayOfYear d.weekday
  if week = 0 then
    match Date.of? (d.year - 1) 12 31 with
    | some last => .ok (weekNumber names last.dayOfYear last.weekday)
    | none => .error .badValue
  else if 52 < week then
    match Date.of? (d.year + 1) 1 1 with
    | some next =>
      let weekday := next.weekday
      let shift := (Int.fmod ((weekday : Int) - names.firstDay) 7).toNat
      .ok (if weekNumber names 1 weekday = 1 && 32 - shift ≤ d.day then 1 else week)
    | none => .error .badValue
  else .ok week

/-- The year that the day's week belongs to. -/
def weekYear (names : CalendarNames) (d : Date) : Except Fault Int := do
  if d.month = 1 && d.day < 7 then
    let w ← weekOfYear names d
    .ok (if 52 ≤ w then (d.year : Int) - 1 else d.year)
  else if d.month = 12 && 25 < d.day then
    let w ← weekOfYear names d
    .ok (if w ≤ 2 then d.year + 1 else d.year)
  else .ok d.year

def yearText (count : Nat) (year : Int) : List Char :=
  let ds := padInt count year
  if count = 2 then ds.drop (ds.length - 2) else ds

def nameAt (names : List String) (i : Nat) : List Char := (names.getD i "").toList

/-- A distance from UTC: hours rounded down, the rest as minutes after `colon`. -/
def zoneText (offset : Int) (colon : List Char) (minutes : Bool) : List Char :=
  let seconds := Int.fdiv offset 1000000
  let hours := Int.fdiv seconds 3600
  let rest := (Int.fmod seconds 3600).toNat
  (if hours < 0 then '-' else '+') :: pad 2 hours.natAbs ++
    (if minutes then colon ++ pad 2 (rest / 60) else [])

/-- Whether a distance from UTC counts as none: whole hours and seconds are zero. -/
def isUtc (offset : Int) : Bool := Int.fdiv offset 1000000 == 0

def zoneField (names : CalendarNames) (letter : Char) (count : Nat) (offset : Int) : Except Fault (List Char) :=
  let whole := Int.fmod (Int.fdiv offset 1000000) 3600 == 0
  match letter, count with
  | 'Z', 5 => .ok (if isUtc offset then ['Z'] else zoneText offset [':'] true)
  | 'Z', 4 => .ok (names.zoneMark.toList ++ zoneText offset [':'] true)
  | 'Z', _ => .ok (zoneText offset [] true)
  | 'O', 4 => .ok (names.zoneMark.toList ++ zoneText offset [':'] true)
  | 'X', 1 => .ok (if isUtc offset then ['Z'] else zoneText offset [] (!whole))
  | 'X', n => .ok (if isUtc offset then ['Z'] else zoneText offset (if n % 2 = 0 then [] else [':']) true)
  | 'x', 1 => .ok (zoneText offset [] (!whole))
  | 'x', n => .ok (zoneText offset (if n % 2 = 0 then [] else [':']) true)
  | _, _ => .error .badValue

/-- A fraction of a second scaled to `count` digits; the product is cut, not rounded. -/
def fractionText (microsecond count : Nat) : List Char :=
  let x := Binary64.ofRatio false microsecond 1000000
  let scaled := Binary64.mul (Binary64.roundPlaces x count) (Binary64.ofInt (Nat.pow 10 count))
  padInt count ((scaled.truncate?).getD 0)

def dateField (names : CalendarNames) (letter : Char) (n : Nat) (d : Date) : Except Fault (List Char) :=
  match letter with
  | 'G' => .ok (nameAt (if n = 4 then names.eras else if n = 5 then names.erasNarrow else names.erasShort) 1)
  | 'y' | 'u' => .ok (yearText n d.year)
  | 'Y' => do .ok (yearText n (← weekYear names d))
  | 'Q' | 'q' =>
    let quarter := (d.month - 1) / 3
    let alone := letter == 'q'
    .ok (if n ≤ 2 then pad n (quarter + 1)
      else if n = 3 then nameAt (if alone then names.quartersShortAlone else names.quartersShort) quarter
      else if n = 4 then nameAt (if alone then names.quartersAlone else names.quarters) quarter
      else pad 1 (quarter + 1))
  | 'M' | 'L' =>
    .ok (if n ≤ 2 then pad n d.month
      else nameAt (if n = 3 then (if letter == 'L' then names.monthsShortAlone else names.monthsShort)
        else if n = 4 then names.months else names.monthsNarrow) (d.month - 1))
  | 'w' => do .ok (pad n (← weekOfYear names d))
  | 'W' => .ok (pad 1 (weekNumber names d.day d.weekday))
  | 'd' => .ok (pad n d.day)
  | 'D' => .ok (pad n d.dayOfYear)
  | 'F' => .ok (pad 1 ((d.day - 1) / 7 + 1))
  | 'E' | 'e' | 'c' =>
    .ok (if n < 3 && letter != 'E' then pad n ((7 - names.firstDay + d.weekday) % 7 + 1)
      else if n = 4 then nameAt names.days d.weekday
      else if n = 5 then nameAt names.daysNarrow d.weekday
      else nameAt (if letter == 'c' then names.daysShortAlone else names.daysShort) d.weekday)
  | _ => .error .badValue

def clockField (names : CalendarNames) (letter : Char) (n : Nat) (t : Moment) : List Char :=
  let hour := t.hour.val
  match letter with
  | 'a' => nameAt names.halves (if 12 ≤ hour then 1 else 0)
  | 'h' => pad n (if hour % 12 = 0 then 12 else hour % 12)
  | 'H' => pad n hour
  | 'K' => pad n (hour % 12)
  | 'k' => pad n (if hour = 0 then 24 else hour)
  | 'm' => pad n t.minute.val
  | 's' => pad n t.second.val
  | 'S' => fractionText t.microsecond.val n
  | _ => pad n (((hour * 60 + t.minute.val) * 60 + t.second.val) * 1000 + t.microsecond.val / 1000)

def isClockLetter (c : Char) : Bool := "ahHKkmsSA".toList.contains c

def isZoneLetter (c : Char) : Bool := "zZOvVxX".toList.contains c

def pieceText (names : CalendarNames) (s : Subject) : Piece → Except Fault (List Char)
  | .chars text => .ok text
  | .field letter n =>
    if isZoneLetter letter then zoneField names letter n s.offset
    else if isClockLetter letter then
      match s.clock with
      | some t => .ok (clockField names letter n t)
      | none => .error .noAttribute
    else
      match s.date with
      | some d => dateField names letter n d
      | none => .error .noAttribute

def checkCount : Piece → Except Fault Unit
  | .chars _ => .ok ()
  | .field letter n => if allowsCount letter n then .ok () else .error .badValue

/-- The text of a pattern for a subject. -/
def apply (names : CalendarNames) (pattern : List Char) (s : Subject) : Except Fault (List Char) := do
  let ps := pieces pattern
  ps.forM checkCount
  let texts ← ps.mapM (pieceText names s)
  .ok texts.flatten

/-- The names of a locale's own patterns. -/
def patternNames : List String := ["short", "medium", "long", "full"]

/-- The pattern that a name stands for. -/
def named (table : List String) (pattern : List Char) : List Char :=
  match patternNames.findIdx? (· == String.ofList pattern) with
  | some i => (table.getD i "").toList
  | none => pattern

def formatDate (locale : String) (pattern : List Char) (d : Date) : Except Fault (List Char) :=
  let names := calendarNames locale
  apply names (named names.datePatterns pattern) ⟨some d, none, 0⟩

/-- Hour, minute and second under a pattern. -/
def formatTime (locale : String) (pattern : List Char) (t : Moment) : Except Fault (List Char) :=
  let names := calendarNames locale
  apply names (named names.timePatterns pattern) ⟨none, some t, t.offset.getD 0⟩

def formatMoment (locale : String) (pattern : List Char) (t : Moment) : Except Fault (List Char) :=
  let names := calendarNames locale
  match patternNames.findIdx? (· == String.ofList pattern) with
  | some i => do
    let time ← formatTime locale pattern t
    let date ← formatDate locale pattern t.date
    .ok (date ++ nameAt names.joiners i ++ time)
  | none => apply names pattern ⟨some t.date, some t, t.offset.getD 0⟩

end Letterpress.Locale.DatePattern
