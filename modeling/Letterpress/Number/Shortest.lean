import Letterpress.Number.Binary64

/-!
# The shortest text of a binary64 number

* `Binary64.shortest`: the fewest decimal digits that read back as the number, and of those the nearest.
* `Binary64.text`: positional from `1e-4` up to `1e16`, with an exponent of at least two digits outside.
-/

namespace Letterpress.Binary64

/-- Decimal digits of a natural number. -/
def digits (n : Nat) : List Char := Nat.toDigits 10 n

/-- `⌊log₁₀ (n / d)⌋` for a positive quotient. -/
def decimalExponent (n d : Nat) : Int :=
  let a : Int := (digits n).length
  let b : Int := (digits d).length
  let guess := a - b
  let (n', d') := if 0 ≤ guess then (n, d * Nat.pow 10 guess.toNat) else (n * Nat.pow 10 (-guess).toNat, d)
  if n' < d' then guess - 1 else guess

/-- The neighbours of `n / d` on the grid of `count` decimal digits that read back as `x`, nearest first. -/
def candidates (x : Binary64) (n d : Nat) (exponent : Int) (count : Nat) : List (Nat × Int) :=
  let unit := exponent - count + 1
  let (n', d') := if 0 ≤ unit then (n, d * Nat.pow 10 unit.toNat) else (n * Nat.pow 10 (-unit).toNat, d)
  let low := n' / d'
  let near := roundHalfEven n' d'
  let readsBack (c : Nat) : Bool :=
    (if 0 ≤ unit then ofRatio x.isNegative (c * Nat.pow 10 unit.toNat) 1
     else ofRatio x.isNegative c (Nat.pow 10 (-unit).toNat)) == x
  ([near, if near = low then low + 1 else low].filter readsBack).map fun c => (c, unit)

/-- The first grid with a candidate, from `count` digits on. -/
def searchShortest (x : Binary64) (n d : Nat) (exponent : Int) (count : Nat) : Nat → Nat × Int
  | 0 => (0, 0)
  | fuel + 1 =>
    match candidates x n d exponent count with
    | c :: _ => c
    | [] => searchShortest x n d exponent (count + 1) fuel

/-- Digits and the power of ten of the last one. -/
def shortest (x : Binary64) : Nat × Int :=
  match x with
  | finite _ m e =>
    if m = 0 then (0, 0)
    else
      let (n, d) := scaled m 1 (-e)
      searchShortest x n d (decimalExponent n d) 1 17
  | _ => (0, 0)

/-- Without the zeros at the end, which move into the exponent. -/
def dropZeros (ds : List Char) (unit : Int) : List Char × Int :=
  let kept := (ds.reverse.dropWhile (· == '0')).reverse
  (kept, unit + (ds.length - kept.length))

/-- Digits with the decimal point at `point` places from the left. -/
def positional (ds : List Char) (point : Int) : List Char :=
  if point ≤ 0 then ['0', '.'] ++ List.replicate (-point).toNat '0' ++ ds
  else if (ds.length : Int) ≤ point then
    ds ++ List.replicate (point - ds.length).toNat '0' ++ ['.', '0']
  else ds.take point.toNat ++ '.' :: ds.drop point.toNat

def exponentText (e : Int) : List Char :=
  let ds := digits e.natAbs
  'e' :: (if e < 0 then '-' else '+') :: (if ds.length < 2 then '0' :: ds else ds)

def scientific (ds : List Char) (point : Int) : List Char :=
  match ds with
  | [] => ['0']
  | c :: rest => c :: ((if rest.isEmpty then [] else '.' :: rest) ++ exponentText (point - 1))

def text (x : Binary64) : List Char :=
  match x with
  | nan => ['n', 'a', 'n']
  | infinite s => (if s then ['-'] else []) ++ ['i', 'n', 'f']
  | finite s m _ =>
    let body :=
      if m = 0 then ['0', '.', '0']
      else
        let (c, unit) := shortest x
        let (ds, unit) := dropZeros (digits c) unit
        let point := unit + ds.length
        if -4 < point && point ≤ 16 then positional ds point else scientific ds point
    (if s then ['-'] else []) ++ body

end Letterpress.Binary64
