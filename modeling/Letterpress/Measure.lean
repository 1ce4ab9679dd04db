import Letterpress.Fault
import Letterpress.Number.Reading

/-!
# Measures

Lengths in English metric units, of which 914400 make an inch.

* `Measure.ofCss`: the length that a style rule gives, or the default for text that gives none.
* `Measure.twips`: a length in twentieths of a point, the unit that documents store.
-/

namespace Letterpress.Measure

open Text

/-- Two centimetres. -/
def standard : Int := 720000

def perPixel : Nat := 9525

/-- The units of style rules. -/
def units : List (String × Nat) :=
  [("cm", 360000), ("mm", 36000), ("in", 914400), ("pt", 12700), ("px", perPixel)]

def lowerAscii (c : Char) : Char := if isAsciiUpper c then Char.ofNat (c.toNat + 32) else c

/-- The size of a unit by its name in any case. The names of inches with a letter i of Turkish stand for pixels,
as no name at all does. -/
def unitOf? (cs : List Char) : Option Nat :=
  let name := String.ofList (cs.map lowerAscii)
  if cs.isEmpty then some perPixel
  else
    match cs with
    | ['İ', n] => if lowerAscii n == 'n' then some perPixel else none
    | ['ı', n] => if lowerAscii n == 'n' then some perPixel else none
    | _ => units.lookup name

def isNumeral (c : Char) : Bool := isDecimal c || c == '.'

/-- So many units of a size, without the fraction. -/
def times (amount : Binary64) (size : Nat) : Except Fault Int :=
  match (amount.mul (Binary64.ofInt size)).truncate? with
  | some i => .ok i
  | none => .error .overflow

/-- A length in text: digits and points, then a unit, with blanks around both. -/
def ofCss (cs : List Char) : Except Fault Int :=
  let cs := trim cs
  let numeral := cs.takeWhile isNumeral
  match unitOf? (trimLeft (cs.dropWhile isNumeral)) with
  | some size =>
    if numeral.isEmpty then .ok standard
    else
      match Number.readBinary64? numeral with
      | some amount => times amount size
      | none => .error .badValue
  | none => .ok standard

def perTwip : Nat := 635

/-- A length in twips, rounded to the nearest, a tie to the even one. -/
def twips (length : Int) : Int :=
  let n := Binary64.roundHalfEven length.natAbs perTwip
  if length < 0 then -(n : Int) else n

end Letterpress.Measure
