/-!
# Binary64 numbers

Numbers of the binary64 format with exact rational semantics: an operation computes the exact result and
rounds it once, to the nearest number, a tie to the even mantissa.

* `Binary64.ofRatio`: the rounding of a quotient of natural numbers.
* `Binary64.add`, `mul`, `div`, `floorDiv`, `floorMod`, `power`: arithmetic.
* `Binary64.cmp?`, `compareInt?`: exact comparison, with another number and with an integer.
* `Binary64.truncate?`: the integer part.
-/

namespace Letterpress

/-- A binary64 number: `±mantissa * 2 ^ exponent`, an infinity, or no number. The mantissa is below `2 ^ 53`,
and at least `2 ^ 52` unless the exponent is the least one, -1074. -/
inductive Binary64 where
  | finite (negative : Bool) (mantissa : Nat) (exponent : Int)
  | infinite (negative : Bool)
  | nan
  deriving DecidableEq, Inhabited, Repr

namespace Binary64

def leastExponent : Int := -1074

def greatestExponent : Int := 971

def zero : Binary64 := finite false 0 leastExponent

def signedZero (negative : Bool) : Binary64 := finite negative 0 leastExponent

/-- `n / d` rounded to an integer, a half to the even neighbour. -/
def roundHalfEven (n d : Nat) : Nat :=
  let q := n / d
  let r := n % d
  if 2 * r < d then q else if d < 2 * r then q + 1 else if q % 2 == 0 then q else q + 1

/-- `n / d` over `2 ^ e`, as a quotient of natural numbers. -/
def scaled (n d : Nat) (e : Int) : Nat × Nat :=
  if 0 ≤ e then (n, d * Nat.pow 2 e.toNat) else (n * Nat.pow 2 (-e).toNat, d)

/-- The exponent of the mantissa's last bit for the quotient `n / d`. -/
def unitExponent (n d : Nat) : Int :=
  let guess : Int := (n.log2 : Int) - (d.log2 : Int) - 52
  let (n', d') := scaled n d guess
  max leastExponent (if n' / d' < Nat.pow 2 52 then guess - 1 else guess)

/-- The number nearest to `n / d`; past the greatest number, an infinity. -/
def ofRatio (negative : Bool) (n d : Nat) : Binary64 :=
  if n = 0 then signedZero negative
  else
    let e := unitExponent n d
    let (n', d') := scaled n d e
    let q := roundHalfEven n' d'
    let (m, e) := if q = Nat.pow 2 53 then (Nat.pow 2 52, e + 1) else (q, e)
    if greatestExponent < e then infinite negative else finite negative m e

def ofInt (i : Int) : Binary64 := ofRatio (i < 0) i.natAbs 1

/-- The integers whose nearest binary64 number is finite. -/
def ofInt? (i : Int) : Option Binary64 :=
  match ofInt i with
  | x@(finite ..) => some x
  | _ => none

/-- The quotient of two integers, rounded once; none when it is too large. -/
def ofIntRatio? (i : Int) (d : Nat) : Option Binary64 :=
  match ofRatio (i < 0) i.natAbs d with
  | x@(finite ..) => some x
  | _ => none

def isNegative : Binary64 → Bool
  | finite s _ _ => s
  | infinite s => s
  | nan => false

def isZero : Binary64 → Bool
  | finite _ m _ => m == 0
  | _ => false

def isNaN : Binary64 → Bool
  | nan => true
  | _ => false

def isFinite : Binary64 → Bool
  | finite .. => true
  | _ => false

def neg : Binary64 → Binary64
  | finite s m e => finite (!s) m e
  | infinite s => infinite (!s)
  | nan => nan

def abs : Binary64 → Binary64
  | finite _ m e => finite false m e
  | infinite _ => infinite false
  | nan => nan

def signed (negative : Bool) (n : Nat) : Int := if negative then -(n : Int) else n

/-- The numerator of a finite value over `2 ^ 1074`. -/
def numerator (s : Bool) (m : Nat) (e : Int) : Int := signed s (m * Nat.pow 2 (e - leastExponent).toNat)

def denominator : Nat := Nat.pow 2 1074

/-- The number nearest to an integer over `2 ^ 1074`; an exact zero takes the given sign. -/
def ofNumerator (zeroSign : Bool) (i : Int) : Binary64 :=
  if i = 0 then signedZero zeroSign else ofRatio (i < 0) i.natAbs denominator

def add : Binary64 → Binary64 → Binary64
  | nan, _ => nan
  | _, nan => nan
  | infinite s, infinite t => if s == t then infinite s else nan
  | infinite s, _ => infinite s
  | _, infinite t => infinite t
  | finite s m e, finite t k f => ofNumerator (s && t) (numerator s m e + numerator t k f)

def sub (x y : Binary64) : Binary64 := add x (neg y)

def mul : Binary64 → Binary64 → Binary64
  | nan, _ => nan
  | _, nan => nan
  | infinite s, infinite t => infinite (s != t)
  | infinite s, finite t k _ => if k == 0 then nan else infinite (s != t)
  | finite s m _, infinite t => if m == 0 then nan else infinite (s != t)
  | finite s m e, finite t k f =>
    let (n, d) := scaled (m * k) 1 (-(e + f))
    ofRatio (s != t) n d

/-- Division by a divisor other than zero. -/
def div : Binary64 → Binary64 → Binary64
  | nan, _ => nan
  | _, nan => nan
  | infinite _, infinite _ => nan
  | infinite s, finite t _ _ => infinite (s != t)
  | finite s _ _, infinite t => signedZero (s != t)
  | finite s m e, finite t k f =>
    let (n, d) := scaled m k (f - e)
    ofRatio (s != t) n d

/-- Exact order: none when either is no number. -/
def cmp? : Binary64 → Binary64 → Option Ordering
  | nan, _ => none
  | _, nan => none
  | infinite s, infinite t => some (if s == t then .eq else if s then .lt else .gt)
  | infinite s, _ => some (if s then .lt else .gt)
  | _, infinite t => some (if t then .gt else .lt)
  | finite s m e, finite t k f => some (compare (numerator s m e) (numerator t k f))

/-- Exact order of a binary64 number and an integer. -/
def compareInt? (x : Binary64) (i : Int) : Option Ordering :=
  match x with
  | nan => none
  | infinite s => some (if s then .lt else .gt)
  | finite s m e => some (compare (numerator s m e) (i * (denominator : Int)))

def eqv (x y : Binary64) : Bool := x.cmp? y == some .eq

/-- Whether a number is another one or lies below it. -/
def isAtMost (x y : Binary64) : Bool := x.cmp? y == some .lt || x.cmp? y == some .eq

/-- The integer part, toward zero. -/
def truncate? : Binary64 → Option Int
  | finite s m e => some (Int.tdiv (numerator s m e) (denominator : Int))
  | _ => none

def floor? : Binary64 → Option Int
  | finite s m e => some (Int.fdiv (numerator s m e) (denominator : Int))
  | _ => none

/-- Whether a finite value has no fraction. -/
def isInteger : Binary64 → Bool
  | finite s m e => Int.tmod (numerator s m e) (denominator : Int) == 0
  | _ => false

/-- The remainder with the sign of the dividend, exact. -/
def remainder : Binary64 → Binary64 → Binary64
  | finite s m e, finite t k f => ofNumerator s (Int.tmod (numerator s m e) (numerator t k f))
  | x@(finite ..), infinite _ => x
  | _, _ => nan

/-- The remainder with the sign of the divisor, for a divisor other than zero. -/
def floorMod (x y : Binary64) : Binary64 :=
  let r := remainder x y
  if r.isNaN then r
  else if r.isZero then signedZero y.isNegative
  else if r.isNegative != y.isNegative then add r y
  else r

/-- The greatest whole number at most the quotient, computed from the rounded remainder, for a divisor other
than zero. -/
def floorDiv (x y : Binary64) : Binary64 :=
  let r := remainder x y
  let q := div (sub x r) y
  let q := if !r.isZero && r.isNegative != y.isNegative then sub q (ofInt 1) else q
  if q.isZero then signedZero (div x y).isNegative
  else match q.floor? with
    | some i =>
      let w := ofInt i
      if (sub q w).cmp? (ofRatio false 1 2) == some .gt then add w (ofInt 1) else w
    | none => q

/-- The 64 bits of the interchange format. -/
def toBits : Binary64 → UInt64
  | finite s m e =>
    let magnitude := if m < Nat.pow 2 52 then m else (e + 1075).toNat * Nat.pow 2 52 + (m - Nat.pow 2 52)
    UInt64.ofNat ((if s then Nat.pow 2 63 else 0) + magnitude)
  | infinite s => UInt64.ofNat ((if s then Nat.pow 2 63 else 0) + 2047 * Nat.pow 2 52)
  | nan => UInt64.ofNat (4095 * Nat.pow 2 51)

def ofBits (b : UInt64) : Binary64 :=
  let n := b.toNat
  let s : Bool := Nat.pow 2 63 ≤ n
  let field : Nat := n / Nat.pow 2 52 % 2048
  let m := n % Nat.pow 2 52
  if field = 2047 then (if m = 0 then infinite s else nan)
  else if field = 0 then finite s m leastExponent
  else finite s (m + Nat.pow 2 52) ((field : Int) - 1075)

/-- The largest exponent for which a power is computed exactly before it is rounded. -/
def exactPowerLimit : Nat := 2048

/-- `x ^ n` for a finite `x` of the given parts, rounded once. -/
def powerNat (s : Bool) (m : Nat) (e : Int) (n : Nat) : Binary64 :=
  let (num, den) := scaled (Nat.pow m n) 1 (-(e * n))
  ofRatio (s && n % 2 == 1) num den

/-- `1 / x ^ n` for a finite `x` of the given parts, rounded once. -/
def inversePowerNat (s : Bool) (m : Nat) (e : Int) (n : Nat) : Binary64 :=
  let (num, den) := scaled 1 (Nat.pow m n) (e * n)
  ofRatio (s && n % 2 == 1) num den

/-- Powers. Small whole exponents are exact up to the one rounding; the rest is left to the machine. -/
def power (x y : Binary64) : Binary64 :=
  let machine := ofBits (Float.pow (Float.ofBits x.toBits) (Float.ofBits y.toBits)).toBits
  match x, y.isInteger, y.truncate? with
  | finite s m e, true, some i =>
    if exactPowerLimit < i.natAbs then machine
    else if 0 ≤ i then powerNat s m e i.natAbs
    else if m = 0 then machine
    else inversePowerNat s m e i.natAbs
  | _, _, _ => machine

/-- The integer written with the digits of `x` rounded at `places` decimals, a tie to the even neighbour. -/
def roundPlaces (x : Binary64) (places : Int) : Binary64 :=
  match x with
  | finite s m e =>
    if 400 < places then x
    else if places < -400 then signedZero s
    else
      let (n, d) := scaled m 1 (-e)
      if 0 ≤ places then
        let p := Nat.pow 10 places.toNat
        ofRatio s (roundHalfEven (n * p) d) p
      else
        let p := Nat.pow 10 (-places).toNat
        ofRatio s (roundHalfEven n (d * p) * p) 1
  | _ => x

end Binary64

end Letterpress
