import Letterpress.Number.Shortest

/-!
# Decimal numbers of limited precision

* `Decimal.shift`: scaling by a power of ten, with the result rounded to 28 digits.
* `Decimal.normalize`: without the zeros at the end.
* `Decimal.quantize?`: rounding to a number of places, a half to the even neighbour; none when the result
  needs more than 28 digits.
-/

namespace Letterpress

/-- A decimal number `±coefficient * 10 ^ exponent`, an infinity, or no number. -/
inductive Decimal where
  | finite (negative : Bool) (coefficient : Nat) (exponent : Int)
  | infinite (negative : Bool)
  | nan
  deriving DecidableEq, Inhabited, Repr

namespace Decimal

/-- The digits that a result may have. -/
def precision : Nat := 28

def ofInt (i : Int) : Decimal := finite (i < 0) i.natAbs 0

/-- The decimal that the shortest text of a binary64 number denotes. -/
def ofBinary64 : Binary64 → Decimal
  | .nan => nan
  | .infinite s => infinite s
  | x@(.finite s m _) =>
    if m = 0 then finite s 0 (-1)
    else
      let (c, unit) := x.shortest
      finite s c unit

def isNegative : Decimal → Bool
  | finite s _ _ => s
  | infinite s => s
  | nan => false

def digitCount (n : Nat) : Nat := (Binary64.digits n).length

/-- Rounded to the precision, a half to the even neighbour. -/
def fix : Decimal → Decimal
  | finite s c e =>
    let n := digitCount c
    if n ≤ precision then finite s c e
    else
      let drop := n - precision
      let q := Binary64.roundHalfEven c (Nat.pow 10 drop)
      if q = Nat.pow 10 precision then finite s (Nat.pow 10 (precision - 1)) (e + drop + 1) else finite s q (e + drop)
  | x => x

def shift (x : Decimal) (k : Int) : Decimal :=
  match x with
  | finite s c e => fix (finite s c (e + k))
  | x => x

def abs : Decimal → Decimal
  | finite _ c e => finite false c e
  | infinite _ => infinite false
  | nan => nan

/-- Moves zeros at the end of the coefficient into the exponent. -/
def stripZeros (c : Nat) (e : Int) : Nat → Nat × Int
  | 0 => (c, e)
  | fuel + 1 => if c % 10 = 0 then stripZeros (c / 10) (e + 1) fuel else (c, e)

def normalize : Decimal → Decimal
  | finite s c e =>
    if c = 0 then finite s 0 0
    else
      let (c, e) := stripZeros c e (digitCount c)
      finite s c e
  | x => x

/-- The coefficient over `10 ^ places` after rounding. -/
def quantizedCoefficient (c : Nat) (e : Int) (places : Nat) : Nat :=
  let k := e + places
  if 0 ≤ k then c * Nat.pow 10 k.toNat else Binary64.roundHalfEven c (Nat.pow 10 (-k).toNat)

def quantize? (x : Decimal) (places : Nat) : Option Decimal :=
  match x with
  | finite s c e =>
    if c = 0 then some (finite s 0 (-(places : Int)))
    else if (precision : Int) < digitCount c + (e + places) then none
    else
      let q := quantizedCoefficient c e places
      if precision < digitCount q then none else some (finite s q (-(places : Int)))
  | infinite _ => none
  | nan => some nan

/-- The whole part and the digits after the point, of a number with `places` decimals. -/
def splitPlaces (c : Nat) (places : Nat) : List Char × List Char :=
  let ds := Binary64.digits c
  let ds := List.replicate (places + 1 - ds.length) '0' ++ ds
  ds.splitAt (ds.length - places)

end Decimal

end Letterpress
