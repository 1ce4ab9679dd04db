import Letterpress.Value
import Mathlib.Algebra.Order.Field.Power
import Mathlib.Algebra.Order.Ring.Rat
import Mathlib.Data.Rat.Cast.Order
import Mathlib.Order.WithBot
import Mathlib.Tactic.Linarith
import Mathlib.Tactic.Positivity

/-!
# The values of numbers

A number of the binary64 format stands for a rational number, or for one of the two ends of the line. Numbers are
compared by what they stand for.

* `Binary64.IsProper`: a number that the format has.
* `Binary64.ratio`: what a finite one stands for.
* `Value.Numeral.quantity?`, `Value.Numeral.value`: what a number of either kind stands for.
* `Value.Numeral.cmp?_lt_iff`: the order of two numbers is that of their values.
-/

namespace Letterpress

namespace Binary64

variable {s t : Bool} {m k : Nat} {e f : Int}

/-- A number that the format has: the mantissa fills 53 bits, fewer only with the least exponent. -/
def IsProper : Binary64 → Prop
  | finite _ m e => m < 2 ^ 53 ∧ leastExponent ≤ e ∧ e ≤ greatestExponent ∧ (e = leastExponent ∨ 2 ^ 52 ≤ m)
  | _ => True

instance : DecidablePred IsProper
  | finite _ m e =>
    inferInstanceAs (Decidable (m < 2 ^ 53 ∧ leastExponent ≤ e ∧ e ≤ greatestExponent ∧ (e = leastExponent ∨ 2 ^ 52 ≤ m)))
  | infinite _ => isTrue trivial
  | nan => isTrue trivial

/-- What the finite number of the given parts stands for. -/
def ratio (s : Bool) (m : Nat) (e : Int) : ℚ := signed s m * 2 ^ e

theorem cast_pow_two (n : Nat) : ((Nat.pow 2 n : Nat) : ℚ) = 2 ^ (n : Int) := by
  rw [Nat.pow_eq, Nat.cast_pow, zpow_natCast]
  rfl

theorem cast_denominator : (denominator : ℚ) = 2 ^ (-leastExponent) := by
  have exponent : 1074 = (-leastExponent).toNat := by decide
  unfold denominator
  rw [exponent, cast_pow_two, Int.toNat_of_nonneg (by decide)]

theorem denominator_pos : (0 : ℚ) < denominator := by
  rw [cast_denominator]
  positivity

theorem signed_mul (s : Bool) (m k : Nat) : signed s (m * k) = signed s m * k := by
  cases s <;> simp [signed]

/-- The numerator counts multiples of the least number. -/
theorem cast_numerator (least : leastExponent ≤ e) : (numerator s m e : ℚ) = ratio s m e * denominator := by
  have power : ((Nat.pow 2 (e - leastExponent).toNat : Nat) : ℚ) = 2 ^ e * denominator := by
    rw [cast_pow_two, cast_denominator, ← zpow_add₀ two_ne_zero, Int.toNat_of_nonneg (by omega), Int.sub_eq_add_neg]
  rw [numerator, signed_mul, ratio, Int.cast_mul, Int.cast_natCast, power, mul_assoc]

theorem numerator_lt_iff (here : leastExponent ≤ e) (there : leastExponent ≤ f) :
    numerator s m e < numerator t k f ↔ ratio s m e < ratio t k f := by
  rw [← Int.cast_lt (R := ℚ), cast_numerator here, cast_numerator there, mul_lt_mul_iff_left₀ denominator_pos]

theorem numerator_lt_int_iff (here : leastExponent ≤ e) (i : Int) :
    numerator s m e < i * denominator ↔ ratio s m e < i := by
  rw [← Int.cast_lt (R := ℚ), cast_numerator here, Int.cast_mul, Int.cast_natCast, mul_lt_mul_iff_left₀ denominator_pos]

theorem int_lt_numerator_iff (here : leastExponent ≤ e) (i : Int) :
    i * denominator < numerator s m e ↔ (i : ℚ) < ratio s m e := by
  rw [← Int.cast_lt (R := ℚ), cast_numerator here, Int.cast_mul, Int.cast_natCast, mul_lt_mul_iff_left₀ denominator_pos]

end Binary64

namespace Value.Numeral

open Binary64

/-- A number of the format, or a whole one. -/
def IsProper : Numeral → Prop
  | int _ => True
  | float x => x.IsProper

/-- What a number stands for, if it is finite. -/
def quantity? : Numeral → Option ℚ
  | int i => some i
  | float (.finite s m e) => some (ratio s m e)
  | float _ => Option.none

/-- A finite number that is at least as large as a limit, on either side of zero. -/
def Reaches (n : Numeral) (limit : ℚ) : Prop := ∃ q, n.quantity? = some q ∧ limit ≤ |q|

/-- What a number stands for, with an infinity at each end. What is no number stands for nothing and counts as zero. -/
def value : Numeral → WithBot (WithTop ℚ)
  | int i => ((i : ℚ) : WithTop ℚ)
  | float (.finite s m e) => (ratio s m e : WithTop ℚ)
  | float (.infinite s) => if s then ⊥ else ((⊤ : WithTop ℚ) : WithBot (WithTop ℚ))
  | float .nan => 0

theorem cmp?_lt_iff {a b : Numeral} (here : a.IsProper) (there : b.IsProper) (number : a ≠ float .nan)
    (number' : b ≠ float .nan) : a.cmp? b = some .lt ↔ a.value < b.value := by
  have finite (q : ℚ) : ((q : WithTop ℚ) : WithBot (WithTop ℚ)) < (⊤ : WithTop ℚ) :=
    WithBot.coe_lt_coe.mpr (WithTop.coe_lt_top q)
  rcases a with i | (⟨s, m, e⟩ | (_ | _) | _) <;> rcases b with j | (⟨t, k, f⟩ | (_ | _) | _)
  case int.int => simp [cmp?, value, Int.compare_eq_lt]
  case int.float.finite =>
    simp only [cmp?, compareInt?, Option.map_some, Option.some.injEq, Ordering.swap_eq_lt, Int.compare_eq_gt,
      int_lt_numerator_iff there.2.1, value, WithBot.coe_lt_coe, WithTop.coe_lt_coe]
  case float.finite.int =>
    simp only [cmp?, compareInt?, Option.some.injEq, Int.compare_eq_lt, numerator_lt_int_iff here.2.1, value,
      WithBot.coe_lt_coe, WithTop.coe_lt_coe]
  case float.finite.float.finite =>
    simp [cmp?, Binary64.cmp?, value, Int.compare_eq_lt, numerator_lt_iff here.2.1 there.2.1]
  all_goals simp_all [cmp?, Binary64.cmp?, compareInt?, value]

end Value.Numeral

end Letterpress
