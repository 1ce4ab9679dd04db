import Letterpress.Calendar.Moment
import Letterpress.Text.Class

/-!
# Moments in text

Reads the formats of ISO 8601 that name a day: `YYYY-MM-DD`, `YYYYMMDD`, weeks as `YYYY-Www-D`, `YYYYWwwD` or
without the day, and after one separating character of any kind a wall clock of one to three pairs of digits,
a fraction after a point or a comma, and a distance from UTC.

* `Iso.readMoment?`: the moment that a text names.
-/

namespace Letterpress.Iso

open Text

/-- The number made of the next `n` characters, which must be digits, and the rest. -/
def takeDigits? (n : Nat) (cs : List Char) : Option (Nat × List Char) :=
  let ds := cs.take n
  if ds.length = n && ds.all isAsciiDigit then
    some (ds.foldl (fun v c => v * 10 + (c.toNat - 48)) 0, cs.drop n)
  else none

def isDigitAt (cs : List Char) (i : Nat) : Bool := (cs[i]?.map isAsciiDigit).getD false

/-- How many characters the date takes; what follows is told from the date by the characters themselves. -/
def dateLength (cs : List Char) : Nat :=
  let n := cs.length
  if n = 7 then 7
  else if cs[4]? == some '-' then
    if cs[5]? == some 'W' then
      if 8 < n && cs[8]? == some '-' then (if 10 < n && isDigitAt cs 10 then 8 else 10) else 8
    else 10
  else if cs[4]? == some 'W' then
    let stop := 7 + ((cs.drop 7).takeWhile isAsciiDigit).length
    if stop < 9 then stop else if stop % 2 = 0 then 7 else 8
  else 8

/-- The rest after a hyphen, which must be there when the parts are separated. -/
def skipHyphen? (separated : Bool) (cs : List Char) : Option (List Char) :=
  if separated then (match cs with | '-' :: rest => some rest | _ => none) else some cs

def readWeek? (year : Nat) (separated : Bool) (cs : List Char) : Option Date :=
  (takeDigits? 2 cs).bind fun (week, cs) =>
    if cs.isEmpty then Date.ofWeek? year week 1
    else (skipHyphen? separated cs).bind fun cs =>
      (takeDigits? 1 cs).bind fun (day, _) => Date.ofWeek? year week day

def readDate? (cs : List Char) : Option Date :=
  (takeDigits? 4 cs).bind fun (year, cs) =>
    let separated := cs.head? == some '-'
    let cs := if separated then cs.drop 1 else cs
    match cs with
    | 'W' :: cs => readWeek? year separated cs
    | cs =>
      (takeDigits? 2 cs).bind fun (month, cs) =>
        (skipHyphen? separated cs).bind fun cs =>
          (takeDigits? 2 cs).bind fun (day, cs) => if cs.isEmpty then Date.of? year month day else none

/-- A wall clock, and whether characters were left over that belong to none of its parts. -/
structure Clock where
  hour : Nat
  minute : Nat
  second : Nat
  microsecond : Nat
  leftover : Bool

/-- A fraction of a second: up to six digits count, more are skipped. -/
def readFraction? (parts : List Nat) (last : Bool) (cs : List Char) : Option Clock :=
  let n := min 6 cs.length
  (takeDigits? n cs).map fun (v, rest) =>
    { hour := parts.getD 0 0, minute := parts.getD 1 0, second := parts.getD 2 0,
      microsecond := v * Nat.pow 10 (6 - n), leftover := !(rest.dropWhile isAsciiDigit).isEmpty || !last }

/-- The pairs of digits of a wall clock, of which `pending` may still come. `colons` tells whether a colon
stood after the first pair, `last` whether the text ends with the clock. -/
def readPairs? (last : Bool) (parts : List Nat) (colons : Bool) : Nat → List Char → Option Clock
  | 0, cs => readFraction? parts last cs
  | pending + 1, cs =>
    (takeDigits? 2 cs).bind fun (v, rest) =>
      let parts := parts ++ [v]
      let done (leftover : Bool) : Clock :=
        { hour := parts.getD 0 0, minute := parts.getD 1 0, second := parts.getD 2 0,
          microsecond := 0, leftover := leftover }
      match rest with
      | [] => some (done !last)
      | [_] => some (done true)
      | c :: more =>
        let colons := if parts.length = 1 then c == ':' else colons
        if colons && c == ':' then readPairs? last parts colons pending more
        else if c == '.' || c == ',' then readFraction? parts last more
        else if !colons then readPairs? last parts colons pending (c :: more)
        else none

def readClock? (last : Bool) (cs : List Char) : Option Clock := readPairs? last [] true 3 cs

def isZoneStart (c : Char) : Bool := c == '+' || c == '-' || c == 'Z'

/-- The distance from UTC in microseconds. It is less than a day, and a fraction of a second alone is no distance. -/
def readOffset? (cs : List Char) : Option Int :=
  match cs with
  | ['Z'] => some 0
  | 'Z' :: _ => none
  | sign :: rest =>
    (readClock? true rest).bind fun t =>
      let seconds := (t.hour * 60 + t.minute) * 60 + t.second
      let us : Int := seconds * 1000000 + t.microsecond
      if t.leftover || 86400000000 ≤ us then none
      else if seconds = 0 then some 0
      else some (if sign == '-' then -us else us)
  | [] => none

def readTime? (d : Date) (cs : List Char) : Option Moment :=
  match cs with
  | [] => none
  | c :: rest =>
    let head := if isZoneStart c then [] else c :: rest.takeWhile (!isZoneStart ·)
    let zone := cs.drop head.length
    (readClock? zone.isEmpty head).bind fun t =>
      if zone.isEmpty then
        if t.leftover then none else Moment.of? d t.hour t.minute t.second t.microsecond none
      else (readOffset? zone).bind fun us => Moment.of? d t.hour t.minute t.second t.microsecond (some us)

/-- One character for each byte of the text's encoding: what may stand before a zone is counted in bytes. -/
def byteChars (cs : List Char) : List Char :=
  (String.ofList cs).toUTF8.toList.map fun b => Char.ofNat b.toNat

def readMoment? (cs : List Char) : Option Moment :=
  if (String.ofList cs).utf8ByteSize < 7 then none
  else
    let n := dateLength cs
    (readDate? (cs.take n)).bind fun d =>
      match cs.drop n with
      | [] => some (Moment.midnight d)
      | _ :: time => readTime? d (byteChars time)

end Letterpress.Iso
