import Letterpress.Fault
import Letterpress.Locale.NumberSymbols
import Letterpress.Number.Decimal
import Letterpress.Text.Trim

/-!
# Amounts

Numbers in the signs of a locale. A number is rounded to its places, a half to the even neighbour; the minus
sign stands in front of everything, also of an amount that rounds to zero.

* `Amount.plain`, `Amount.percent`, `Amount.money`: a number, a number of hundredths, a sum of money.
-/

namespace Letterpress.Locale

open Text

/-- What surrounds the digits of an amount, and how the digits are grouped. -/
structure AmountLayout where
  before : List Char
  after : List Char
  laterGroups : Nat

/-- Groups from the right: the first of `size` digits, the others of `later`. -/
def groupDigits (sign : List Char) (size later : Nat) (ds : List Char) : Nat → List Char
  | 0 => ds
  | fuel + 1 =>
    if ds.length ≤ size || size = 0 then ds
    else
      let cut := ds.length - size
      groupDigits sign later later (ds.take cut) fuel ++ sign ++ ds.drop cut

def grouped (symbols : NumberSymbols) (later : Nat) (ds : List Char) : List Char :=
  groupDigits symbols.group.toList 3 later ds ds.length

/-- The digits of the absolute value with `places` decimals. -/
def digitsText (symbols : NumberSymbols) (later places : Nat) : Decimal → Except Fault (List Char)
  | .infinite _ => .ok ['∞']
  | .nan =>
    .ok (['N', 'a', 'N'] ++ if places = 0 then [] else symbols.decimal.toList ++ List.replicate places '0')
  | x =>
    match x.quantize? places with
    | some (.finite _ c _) =>
      let (whole, fraction) := Decimal.splitPlaces c places
      .ok (grouped symbols later whole ++ if places = 0 then [] else symbols.decimal.toList ++ fraction)
    | _ => .error Fault.imprecise

/-- The amount `x * 10 ^ scale`. -/
def amountText (symbols : NumberSymbols) (layout : AmountLayout) (places : Nat) (scale : Int) (x : Decimal) :
    Except Fault (List Char) := do
  let x := x.shift scale
  let ds ← digitsText symbols layout.laterGroups places x.abs.normalize
  .ok ((if x.isNegative then ['-'] else []) ++ layout.before ++ ds ++ layout.after)

namespace Amount

def plain (locale : String) (places : Nat) (x : Decimal) : Except Fault (List Char) :=
  amountText (numberSymbols locale) ⟨[], [], 3⟩ places 0 x

def percent (locale : String) (places : Nat) (x : Decimal) : Except Fault (List Char) :=
  amountText (numberSymbols locale) ⟨[], ['%'], 3⟩ places 2 x

/-- Text without the single quotes around parts of it; two of them in a row are one. -/
def unquote (cs : List Char) : Nat → List Char
  | 0 => cs
  | fuel + 1 =>
    match cs with
    | [] => []
    | '\'' :: rest =>
      if rest.contains '\'' then
        let inside := rest.takeWhile (· != '\'')
        (if inside.isEmpty then ['\''] else inside) ++ unquote (rest.drop (inside.length + 1)) fuel
      else '\'' :: rest
    | c :: rest => c :: unquote rest fuel

/-- The sign of a currency, or its code where the locale has none. -/
def currencySign (symbols : NumberSymbols) (code : String) : List Char :=
  ((symbols.signs.lookup code).getD code).toList

/-- A sum of money; without a currency the mark stays. -/
def money (locale : String) (currency : Option String) (places : Nat) (x : Decimal) :
    Except Fault (List Char) := do
  let symbols := numberSymbols locale
  let text ← amountText symbols ⟨symbols.before.toList, symbols.after.toList, symbols.laterGroups⟩ places 0 x
  let signed := match currency with
    | some code => replaceAll ['¤'] (currencySign symbols code) text
    | none => text
  .ok (unquote signed signed.length)

end Amount

end Letterpress.Locale
