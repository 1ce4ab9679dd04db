import Letterpress.Number.Binary64
import Letterpress.Text.Trim

/-!
# Reading numbers

Numbers in text, as people type them: white space around, digits of any script, low lines between digits.

* `Number.readInt?`: a whole number.
* `Number.readBinary64?`: a number with a point or an exponent, or one of the words for infinity and for no
  number; rounded once.
-/

namespace Letterpress.Number

open Text

/-- Every digit as an ASCII digit and all white space as blanks. -/
def plainDigits (cs : List Char) : List Char :=
  cs.map fun c =>
    if c.toNat < 128 then c
    else if isBlank c then ' '
    else match decimalValue? c with
      | some v => Char.ofNat (48 + v)
      | none => '?'

/-- The white space that may stand around a plain number: blanks, tabs and line breaks, but no separators of
records. -/
def isGap (c : Char) : Bool := c == ' ' || (9 ≤ c.toNat && c.toNat ≤ 13)

/-- Without the low lines, each of which must stand between two digits. -/
def dropLowLines? (previous : Char) : List Char → Option (List Char)
  | [] => if previous == '_' then none else some []
  | '_' :: cs => if isAsciiDigit previous then dropLowLines? '_' cs else none
  | c :: cs =>
    if previous == '_' && !isAsciiDigit c then none else (dropLowLines? c cs).map (c :: ·)

def digitsValue (ds : List Char) : Nat := ds.foldl (fun n c => n * 10 + (c.toNat - 48)) 0

/-- The most digits of a whole number that is read. -/
def digitLimit : Nat := 4300

/-- The sign in front and the rest. -/
def splitSign : List Char → Bool × List Char
  | '-' :: cs => (true, cs)
  | '+' :: cs => (false, cs)
  | cs => (false, cs)

def readInt? (text : List Char) : Option Int :=
  match dropLowLines? ' ' (trimBy isGap (plainDigits text)) with
  | none => none
  | some cs =>
    let (negative, ds) := splitSign cs
    if ds.isEmpty || !ds.all isAsciiDigit || digitLimit < ds.length then none
    else some (if negative then -(digitsValue ds : Int) else digitsValue ds)

/-- The number `digits * 10 ^ exponent`, where an exponent out of all bounds is not computed with. -/
def ofScientific (negative : Bool) (ds : List Char) (exponent : Int) : Binary64 :=
  let c := digitsValue ds
  let top : Int := (ds.dropWhile (· == '0')).length + exponent
  if c = 0 then .signedZero negative
  else if 320 < top then .infinite negative
  else if top < -340 then .signedZero negative
  else if 0 ≤ exponent then .ofRatio negative (c * Nat.pow 10 exponent.toNat) 1
  else .ofRatio negative c (Nat.pow 10 (-exponent).toNat)

/-- The exponent at the end of a number, zero when there is none. -/
def readExponent? : List Char → Option Int
  | [] => some 0
  | c :: cs =>
    if c == 'e' || c == 'E' then
      let (negative, ds) := splitSign cs
      if ds.isEmpty || !ds.all isAsciiDigit then none
      else
        let n := digitsValue ds
        some (if negative then -(n : Int) else n)
    else none

/-- A number without a sign. -/
def readUnsigned? (negative : Bool) (cs : List Char) : Option Binary64 :=
  let whole := cs.takeWhile isAsciiDigit
  let rest := cs.dropWhile isAsciiDigit
  let (fraction, rest) :=
    match rest with
    | '.' :: more => (more.takeWhile isAsciiDigit, more.dropWhile isAsciiDigit)
    | _ => ([], rest)
  if whole.isEmpty && fraction.isEmpty then none
  else (readExponent? rest).map fun e => ofScientific negative (whole ++ fraction) (e - fraction.length)

def readBinary64? (text : List Char) : Option Binary64 :=
  match dropLowLines? ' ' (trimBy isGap (plainDigits text)) with
  | none => none
  | some cs =>
    let (negative, body) := splitSign cs
    let word := body.map fun c => if isAsciiUpper c then Char.ofNat (c.toNat + 32) else c
    if word == ['i', 'n', 'f'] || word == ['i', 'n', 'f', 'i', 'n', 'i', 't', 'y'] then some (.infinite negative)
    else if word == ['n', 'a', 'n'] then some .nan
    else readUnsigned? negative body

end Letterpress.Number
