import Letterpress.Proofs.Number.Value
import Mathlib.Data.Nat.Log
import Mathlib.Tactic.FieldSimp
import Mathlib.Tactic.NormNum
import Mathlib.Tactic.Ring

/-!
# Rounding to the nearest number

The quotient of two whole numbers is rounded to a number of the format that is as near as the format allows, and to an
infinity only from half a unit above the greatest number on.

* `Binary64.Nearest`: how far a rounded value is off, and that rounding passes no number of the format.
* `Binary64.ofRatio_spec`: what a quotient is rounded to.
-/

namespace Letterpress.Binary64

variable {n d : Nat}

/-! ## Whole numbers -/

/-- A quotient is at most a half away from what it is rounded to, and less if that is odd. -/
theorem roundHalfEven_bounds (positive : 0 < d) :
    2 * n ≤ 2 * (roundHalfEven n d * d) + d ∧ 2 * (roundHalfEven n d * d) ≤ 2 * n + d ∧
      (roundHalfEven n d % 2 = 1 → 2 * n < 2 * (roundHalfEven n d * d) + d) := by
  have whole := Nat.div_add_mod' n d
  have rest := Nat.mod_lt n positive
  have next : (n / d + 1) * d = n / d * d + d := Nat.succ_mul _ _
  unfold roundHalfEven
  dsimp only
  split
  · exact ⟨by omega, by omega, fun _ => by omega⟩
  · split
    · rw [next]
      exact ⟨by omega, by omega, fun _ => by omega⟩
    · split
      · rename_i even
        refine ⟨by omega, by omega, fun odd => ?_⟩
        simp only [beq_iff_eq] at even
        omega
      · rw [next]
        exact ⟨by omega, by omega, fun _ => by omega⟩

theorem roundHalfEven_near (positive : 0 < d) : |(roundHalfEven n d : ℚ) - n / d| ≤ 1 / 2 := by
  obtain ⟨above, below, -⟩ := roundHalfEven_bounds (n := n) positive
  have positive' : (0 : ℚ) < d := by exact_mod_cast positive
  have above' : (2 * n : ℚ) ≤ 2 * (roundHalfEven n d * d) + d := by exact_mod_cast above
  have below' : (2 * (roundHalfEven n d * d) : ℚ) ≤ 2 * n + d := by exact_mod_cast below
  have above'' : (n : ℚ) / d ≤ roundHalfEven n d + 1 / 2 := (div_le_iff₀ positive').mpr (by linarith)
  have below'' : (roundHalfEven n d : ℚ) - 1 / 2 ≤ n / d := (le_div_iff₀ positive').mpr (by linarith)
  exact abs_le.mpr ⟨by linarith, by linarith⟩

theorem roundHalfEven_odd (positive : 0 < d) (odd : roundHalfEven n d % 2 = 1) :
    (n : ℚ) / d < roundHalfEven n d + 1 / 2 := by
  have above := (roundHalfEven_bounds positive).2.2 odd
  have positive' : (0 : ℚ) < d := by exact_mod_cast positive
  have above' : (2 * n : ℚ) < 2 * (roundHalfEven n d * d) + d := by exact_mod_cast above
  rw [div_lt_iff₀ positive']
  linarith

/-! ## The exponent -/

theorem scaled_pos (positive : 0 < d) (e : Int) : 0 < (scaled n d e).2 := by
  unfold scaled
  split
  · exact Nat.mul_pos positive (Nat.two_pow_pos _)
  · exact positive

theorem cast_scaled (n d : Nat) (e : Int) : ((scaled n d e).1 : ℚ) / (scaled n d e).2 = n / d / 2 ^ e := by
  unfold scaled
  split
  · rw [Nat.cast_mul, cast_pow_two, Int.toNat_of_nonneg (by omega), div_div]
  · rw [Nat.cast_mul, cast_pow_two, Int.toNat_of_nonneg (by omega), zpow_neg]
    field_simp

theorem two_zpow_le {i j : Int} (le : i ≤ j) : (2 : ℚ) ^ i ≤ 2 ^ j := zpow_le_zpow_right₀ one_le_two le

theorem two_zpow_add (i j : Int) : (2 : ℚ) ^ (i + j) = 2 ^ i * 2 ^ j := zpow_add₀ two_ne_zero i j

theorem two_zpow_pos (i : Int) : (0 : ℚ) < 2 ^ i := zpow_pos two_pos i

/-- A quotient by the logarithms of its parts. -/
theorem quotient_bounds (filled : n ≠ 0) (positive : 0 < d) :
    (2 : ℚ) ^ ((n.log2 : Int) - d.log2 - 1) ≤ n / d ∧ (n : ℚ) / d < 2 ^ ((n.log2 : Int) - d.log2 + 1) := by
  have positive' : (0 : ℚ) < d := by exact_mod_cast positive
  have low : (2 : ℚ) ^ (n.log2 : Int) ≤ n := by
    rw [zpow_natCast]
    exact_mod_cast Nat.log2_self_le filled
  have high : (n : ℚ) < 2 ^ ((n.log2 : Int) + 1) := by
    have bound : (n : ℚ) < 2 ^ (n.log2 + 1) := by exact_mod_cast Nat.lt_log2_self (n := n)
    exact_mod_cast bound
  have low' : (2 : ℚ) ^ (d.log2 : Int) ≤ d := by
    rw [zpow_natCast]
    exact_mod_cast Nat.log2_self_le positive.ne'
  have high' : (d : ℚ) < 2 ^ ((d.log2 : Int) + 1) := by
    have bound : (d : ℚ) < 2 ^ (d.log2 + 1) := by exact_mod_cast Nat.lt_log2_self (n := d)
    exact_mod_cast bound
  constructor
  · rw [le_div_iff₀ positive']
    calc (2 : ℚ) ^ ((n.log2 : Int) - d.log2 - 1) * d
        ≤ 2 ^ ((n.log2 : Int) - d.log2 - 1) * 2 ^ ((d.log2 : Int) + 1) :=
          mul_le_mul_of_nonneg_left high'.le (two_zpow_pos _).le
      _ = 2 ^ (n.log2 : Int) := by rw [← two_zpow_add]; congr 1; omega
      _ ≤ n := low
  · rw [div_lt_iff₀ positive']
    calc (n : ℚ) < 2 ^ ((n.log2 : Int) + 1) := high
      _ = 2 ^ ((n.log2 : Int) - d.log2 + 1) * 2 ^ (d.log2 : Int) := by rw [← two_zpow_add]; congr 1; omega
      _ ≤ 2 ^ ((n.log2 : Int) - d.log2 + 1) * d := mul_le_mul_of_nonneg_left low' (two_zpow_pos _).le

theorem two_pow_mul_zpow (k : Nat) (e : Int) : (2 : ℚ) ^ k * 2 ^ e = 2 ^ (k + e) := by
  rw [two_zpow_add, zpow_natCast]

/-- What fits into 53 bits with an exponent has 52 bits at most with a greater one. -/
theorem bits_le {i j : Int} (less : i < j) : (2 ^ 53 * 2 ^ i : ℚ) ≤ 2 ^ 52 * 2 ^ j := by
  rw [two_pow_mul_zpow, two_pow_mul_zpow]
  exact two_zpow_le (by push_cast; omega)

theorem exponent_le {i j : Int} (less : (2 ^ 52 * 2 ^ i : ℚ) < 2 ^ 53 * 2 ^ j) : i ≤ j := by
  by_contra more
  exact absurd (bits_le (not_le.mp more)) (not_le.mpr less)

/-- The mantissa of a quotient has 53 bits in front of the point, fewer only with the least exponent. -/
theorem unitExponent_spec (filled : n ≠ 0) (positive : 0 < d) :
    leastExponent ≤ unitExponent n d ∧ (n : ℚ) / d < 2 ^ 53 * 2 ^ unitExponent n d ∧
      (unitExponent n d = leastExponent ∨ 2 ^ 52 * 2 ^ unitExponent n d ≤ (n : ℚ) / d) := by
  obtain ⟨low, high⟩ := quotient_bounds filled positive
  have test (e : Int) : (scaled n d e).1 / (scaled n d e).2 < Nat.pow 2 52 ↔ (n : ℚ) / d < 2 ^ 52 * 2 ^ e := by
    have positive' : (0 : ℚ) < (scaled n d e).2 := by exact_mod_cast scaled_pos positive e
    rw [Nat.div_lt_iff_lt_mul (scaled_pos positive e), ← Nat.cast_lt (α := ℚ), Nat.cast_mul, ← div_lt_iff₀ positive',
      cast_scaled, div_lt_iff₀ (two_zpow_pos e), Nat.pow_eq, Nat.cast_pow, Nat.cast_ofNat]
  simp only [unitExponent, test]
  generalize guessed : (n.log2 : Int) - d.log2 - 52 = guess
  have exponents : (n.log2 : Int) - d.log2 - 1 = 52 + (guess - 1) ∧ (n.log2 : Int) - d.log2 + 1 = 53 + guess := by
    omega
  rw [exponents.1] at low
  rw [exponents.2] at high
  simp only [two_pow_mul_zpow, Nat.cast_ofNat] at low high ⊢
  split
  · rename_i short
    refine ⟨le_max_left _ _, short.trans_le (two_zpow_le (by omega)), ?_⟩
    rcases max_choice leastExponent (guess - 1) with least | here
    · exact .inl least
    · rw [here]
      exact .inr low
  · rename_i long
    refine ⟨le_max_left _ _, high.trans_le (two_zpow_le (by omega)), ?_⟩
    rcases max_choice leastExponent guess with least | here
    · exact .inl least
    · rw [here]
      exact .inr (not_lt.mp long)

/-! ## Nearest numbers -/

/-- What a value `q` is rounded to: on the same side of every number of the format, and at most half a unit away. From
half a unit below an even number on, it is that number at least. -/
structure Nearest (q x : ℚ) : Prop where
  above : ∀ z j : Int, |z| ≤ 2 ^ 53 → leastExponent ≤ j → (z * 2 ^ j : ℚ) ≤ q → (z * 2 ^ j : ℚ) ≤ x
  below : ∀ z j : Int, |z| ≤ 2 ^ 53 → leastExponent ≤ j → q ≤ (z * 2 ^ j : ℚ) → x ≤ (z * 2 ^ j : ℚ)
  close : ∀ j : Int, leastExponent ≤ j → |q| < 2 ^ 53 * 2 ^ j → |x - q| ≤ 2 ^ j / 2
  even : ∀ (k : Nat) (j : Int), k % 2 = 0 → 2 ^ 52 < k → k ≤ 2 ^ 53 → leastExponent ≤ j →
    ((k - 1 / 2) * 2 ^ j : ℚ) ≤ |q| → (k * 2 ^ j : ℚ) ≤ |x|

namespace Nearest

variable {q x : ℚ}

theorem neg (nearest : Nearest q x) : Nearest (-q) (-x) where
  above z j small least le := by
    have other := nearest.below (-z) j (by rwa [abs_neg]) least (by push_cast; linarith)
    push_cast at other
    linarith
  below z j small least le := by
    have other := nearest.above (-z) j (by rwa [abs_neg]) least (by push_cast; linarith)
    push_cast at other
    linarith
  close j least small := by
    rw [neg_sub_neg, abs_sub_comm]
    exact nearest.close j least (by rwa [abs_neg] at small)
  even k j even full small least le := by
    rw [abs_neg] at le ⊢
    exact nearest.even k j even full small least le

/-- A number of the format is its own rounding. -/
theorem eq_of_grid (nearest : Nearest q x) {z j : Int} (small : |z| ≤ 2 ^ 53) (least : leastExponent ≤ j)
    (grid : q = z * 2 ^ j) : x = q := by
  have above := nearest.above z j small least grid.ge
  have below := nearest.below z j small least grid.le
  rw [grid]
  exact le_antisymm below above

theorem int_le (nearest : Nearest q x) {z : Int} (small : |z| ≤ 2 ^ 53) (le : z ≤ q) : z ≤ x := by
  have bound := nearest.above z 0 small (by decide) (by simpa using le)
  simpa using bound

theorem le_int (nearest : Nearest q x) {z : Int} (small : |z| ≤ 2 ^ 53) (le : q ≤ z) : x ≤ z := by
  have bound := nearest.below z 0 small (by decide) (by simpa using le)
  simpa using bound

/-- An even number is reached from half a unit below it on. -/
theorem le_abs_iff (nearest : Nearest q x) {k : Nat} {j : Int} (even : k % 2 = 0) (full : 2 ^ 52 < k)
    (small : k ≤ 2 ^ 53) (least : leastExponent ≤ j) : (k * 2 ^ j : ℚ) ≤ |x| ↔ ((k - 1 / 2) * 2 ^ j : ℚ) ≤ |q| := by
  refine ⟨fun le => ?_, nearest.even k j even full small least⟩
  by_contra less
  rw [not_le] at less
  have scale : (0 : ℚ) < 2 ^ j := two_zpow_pos j
  have top : ((k - 1 / 2) * 2 ^ j : ℚ) ≤ 2 ^ 53 * 2 ^ j := by
    have small' : (k : ℚ) ≤ 2 ^ 53 := by exact_mod_cast small
    exact mul_le_mul_of_nonneg_right (by linarith) scale.le
  have error := (abs_sub_abs_le_abs_sub x q).trans (nearest.close j least (less.trans_le top))
  linarith

end Nearest

theorem le_of_near {k z : Int} {q : ℚ} (near : |(k : ℚ) - q| ≤ 1 / 2) (le : z ≤ q) : z ≤ k := by
  have less : (z : ℚ) < k + 1 := by linarith [(abs_le.mp near).1]
  exact Int.lt_add_one_iff.mp (by exact_mod_cast less)

theorem near_le {k z : Int} {q : ℚ} (near : |(k : ℚ) - q| ≤ 1 / 2) (le : q ≤ z) : k ≤ z := by
  have less : (k : ℚ) < z + 1 := by linarith [(abs_le.mp near).2]
  exact Int.lt_add_one_iff.mp (by exact_mod_cast less)

/-- A value `q` rounded to `k` units of `2 ^ e`, of which there are 53 bits, fewer only with the least exponent. -/
structure Mantissa (q : ℚ) (k : Nat) (e : Int) : Prop where
  least : leastExponent ≤ e
  nonneg : 0 ≤ q
  small : q < 2 ^ 53 * 2 ^ e
  unit : e = leastExponent ∨ 2 ^ 52 * 2 ^ e ≤ q
  near : |((k : Int) : ℚ) - q / 2 ^ e| ≤ 1 / 2
  odd : k % 2 = 1 → q / 2 ^ e < k + 1 / 2

namespace Mantissa

variable {k : Nat} {e : Int} {q : ℚ} (mantissa : Mantissa q k e)

include mantissa

theorem le_mul {z : Int} (le : (z * 2 ^ e : ℚ) ≤ q) : (z * 2 ^ e : ℚ) ≤ k * 2 ^ e := by
  have scale : (0 : ℚ) < 2 ^ e := two_zpow_pos e
  have whole : z ≤ k := le_of_near mantissa.near (by rwa [le_div_iff₀ scale])
  exact mul_le_mul_of_nonneg_right (by exact_mod_cast whole) scale.le

theorem mul_le {z : Int} (le : q ≤ (z * 2 ^ e : ℚ)) : (k * 2 ^ e : ℚ) ≤ z * 2 ^ e := by
  have scale : (0 : ℚ) < 2 ^ e := two_zpow_pos e
  have whole : (k : Int) ≤ z := near_le mantissa.near (by rwa [div_le_iff₀ scale])
  exact mul_le_mul_of_nonneg_right (by exact_mod_cast whole) scale.le

theorem le_pow : k ≤ 2 ^ 53 := by
  have bound : (k : Int) ≤ 2 ^ 53 :=
    near_le mantissa.near (by rw [div_le_iff₀ (two_zpow_pos e)]; exact_mod_cast mantissa.small.le)
  exact_mod_cast bound

theorem pow_le (long : e ≠ leastExponent) : 2 ^ 52 ≤ k := by
  have bound : (2 ^ 52 : Int) ≤ k :=
    le_of_near mantissa.near (by rw [le_div_iff₀ (two_zpow_pos e)]; exact_mod_cast mantissa.unit.resolve_left long)
  exact_mod_cast bound

/-- A value half a unit below an even number is not rounded down. -/
theorem even_le {c : Nat} {j : Int} (even : c % 2 = 0) (full : 2 ^ 52 < c) (most : c ≤ 2 ^ 53)
    (least : leastExponent ≤ j) (le : ((c - 1 / 2) * 2 ^ j : ℚ) ≤ q) : (c * 2 ^ j : ℚ) ≤ k * 2 ^ e := by
  have bottom : (2 ^ 52 * 2 ^ j : ℚ) ≤ q := by
    have more : (2 ^ 52 + 1 : ℚ) ≤ c := by exact_mod_cast full
    exact (mul_le_mul_of_nonneg_right (by linarith) (two_zpow_pos j).le).trans le
  have fits : j ≤ e := exponent_le (bottom.trans_lt mantissa.small)
  rcases eq_or_lt_of_le fits with rfl | coarser
  · refine mul_le_mul_of_nonneg_right ?_ (two_zpow_pos j).le
    have reached : (c : ℚ) - 1 / 2 ≤ q / 2 ^ j := (le_div_iff₀ (two_zpow_pos j)).mpr le
    by_contra short
    have last : k + 1 = c := by
      have near := (abs_le.mp mantissa.near).1
      rw [Int.cast_natCast] at near
      have bound : (c : ℚ) ≤ k + 1 := by linarith
      have whole : c ≤ k + 1 := by exact_mod_cast bound
      have less : k < c := by exact_mod_cast not_le.mp short
      omega
    have below := mantissa.odd (by omega)
    rw [← last] at reached
    push_cast at reached
    linarith
  · have filled : (2 ^ 52 : ℚ) ≤ k := by exact_mod_cast mantissa.pow_le (by omega)
    calc (c * 2 ^ j : ℚ) ≤ 2 ^ 53 * 2 ^ j := mul_le_mul_of_nonneg_right (by exact_mod_cast most) (two_zpow_pos j).le
      _ ≤ 2 ^ 52 * 2 ^ e := bits_le coarser
      _ ≤ k * 2 ^ e := mul_le_mul_of_nonneg_right filled (two_zpow_pos e).le

theorem nearest : Nearest q (k * 2 ^ e) := by
  -- A number of a coarser grid is a whole number of units, and one of a finer grid has at most 52 bits of them.
  have coarser {z j : Int} (le : e ≤ j) : (z * 2 ^ j : ℚ) = (z * 2 ^ (j - e).toNat : Int) * 2 ^ e := by
    rw [Int.cast_mul, Int.cast_pow, Int.cast_ofNat, mul_assoc, two_pow_mul_zpow]
    congr 2
    omega
  have finer {z j : Int} (small : |z| ≤ 2 ^ 53) (less : j < e) : (z * 2 ^ j : ℚ) ≤ (2 ^ 52 : Int) * 2 ^ e := by
    have bound : (z : ℚ) ≤ 2 ^ 53 := by exact_mod_cast (abs_le.mp small).2
    calc (z * 2 ^ j : ℚ) ≤ 2 ^ 53 * 2 ^ j := mul_le_mul_of_nonneg_right bound (two_zpow_pos j).le
      _ ≤ 2 ^ 52 * 2 ^ e := bits_le less
      _ = (2 ^ 52 : Int) * 2 ^ e := by norm_cast
  have full {j : Int} (least : leastExponent ≤ j) (less : j < e) : ((2 ^ 52 : Int) * 2 ^ e : ℚ) ≤ q := by
    exact_mod_cast mantissa.unit.resolve_left (by omega)
  refine ⟨fun z j small least le => ?_, fun z j small least le => ?_, fun j least small => ?_,
    fun c j even full most least le => ?_⟩
  · rcases lt_or_ge j e with less | ge
    · exact (finer small less).trans (mantissa.le_mul (full least less))
    · rw [coarser ge] at le ⊢
      exact mantissa.le_mul le
  · rcases lt_or_ge j e with less | ge
    · exact ((mantissa.mul_le (le.trans (finer small less))).trans (full least less)).trans le
    · rw [coarser ge] at le ⊢
      exact mantissa.mul_le le
  · have fits : e ≤ j := by
      rcases mantissa.unit with same | full
      · omega
      · rw [abs_of_nonneg mantissa.nonneg] at small
        exact exponent_le (full.trans_lt small)
    have error : (k * 2 ^ e : ℚ) - q = ((k : Int) - q / 2 ^ e) * 2 ^ e := by
      rw [sub_mul, div_mul_cancel₀ q (two_zpow_pos e).ne', Int.cast_natCast]
    calc |(k * 2 ^ e : ℚ) - q| = |((k : Int) : ℚ) - q / 2 ^ e| * 2 ^ e := by
          rw [error, abs_mul, abs_of_pos (two_zpow_pos e)]
      _ ≤ 1 / 2 * 2 ^ e := mul_le_mul_of_nonneg_right mantissa.near (two_zpow_pos e).le
      _ ≤ 2 ^ j / 2 := by linarith [two_zpow_le fits]
  · rw [abs_of_nonneg mantissa.nonneg] at le
    rw [abs_of_nonneg (mul_nonneg (Nat.cast_nonneg k) (two_zpow_pos e).le)]
    exact mantissa.even_le even full most least le

end Mantissa

/-! ## Quotients -/

/-- From here on a value is rounded to an infinity: half a unit above the greatest number. -/
def roundingLimit : ℚ := (2 ^ 53 - 1 / 2) * 2 ^ greatestExponent

theorem lt_roundingLimit : (2 : ℚ) ^ 53 < roundingLimit := by
  have scale : (2 : ℚ) ^ (2 : Int) ≤ 2 ^ greatestExponent := two_zpow_le (by decide)
  unfold roundingLimit
  linarith

theorem Mantissa.roundingLimit_le_iff {k : Nat} {e : Int} {q : ℚ} (mantissa : Mantissa q k e) :
    roundingLimit ≤ q ↔ greatestExponent < e ∨ e = greatestExponent ∧ k = 2 ^ 53 := by
  have scale : (0 : ℚ) < 2 ^ e := two_zpow_pos e
  have top : (0 : ℚ) < 2 ^ greatestExponent := two_zpow_pos _
  rcases lt_trichotomy e greatestExponent with less | same | more
  · have below : q < roundingLimit := by
      calc q < 2 ^ 53 * 2 ^ e := mantissa.small
        _ ≤ 2 ^ 52 * 2 ^ greatestExponent := bits_le less
        _ ≤ roundingLimit := mul_le_mul_of_nonneg_right (by norm_num) top.le
    exact iff_of_false (not_le.mpr below) (by omega)
  · subst same
    simp only [lt_irrefl, true_and, false_or]
    rw [roundingLimit, ← le_div_iff₀ top]
    constructor
    · intro large
      by_contra other
      have most := mantissa.le_pow
      rcases Nat.lt_or_ge k (2 ^ 53 - 1) with less | ge
      · have below : (k : ℚ) ≤ 2 ^ 53 - 2 := by
          have whole : (k : Int) ≤ 2 ^ 53 - 2 := by omega
          exact_mod_cast whole
        have near := (abs_le.mp mantissa.near).1
        rw [Int.cast_natCast] at near
        linarith
      · have last : k = 2 ^ 53 - 1 := by omega
        have below := mantissa.odd (by rw [last]; decide)
        rw [last] at below
        norm_num at below large
        linarith
    · rintro rfl
      have near := (abs_le.mp mantissa.near).2
      push_cast at near
      linarith
  · have above : roundingLimit ≤ q := by
      calc roundingLimit ≤ 2 ^ 53 * 2 ^ greatestExponent := mul_le_mul_of_nonneg_right (by norm_num) top.le
        _ ≤ 2 ^ 52 * 2 ^ e := bits_le more
        _ ≤ q := mantissa.unit.resolve_left (by unfold greatestExponent leastExponent at *; omega)
    exact iff_of_true above (.inl more)

theorem mantissa_scaled (filled : n ≠ 0) (positive : 0 < d) :
    Mantissa (n / d) (roundHalfEven (scaled n d (unitExponent n d)).1 (scaled n d (unitExponent n d)).2)
      (unitExponent n d) := by
  obtain ⟨least, small, unit⟩ := unitExponent_spec filled positive
  have positive' := scaled_pos (n := n) positive (unitExponent n d)
  have near := roundHalfEven_near (n := (scaled n d (unitExponent n d)).1) positive'
  have odd := roundHalfEven_odd (n := (scaled n d (unitExponent n d)).1) positive'
  rw [cast_scaled] at near odd
  exact ⟨least, by positivity, small, unit, near, odd⟩

/-- A quotient is rounded to the nearest number of the format, or to an infinity if it is too large. -/
theorem ofRatio_spec (s : Bool) (n : Nat) (positive : 0 < d) :
    (roundingLimit ≤ (n : ℚ) / d ∧ ofRatio s n d = infinite s) ∨
      ((n : ℚ) / d < roundingLimit ∧ ∃ m e, ofRatio s n d = finite s m e ∧ (finite s m e).IsProper ∧
        Nearest (n / d) (m * 2 ^ e)) := by
  by_cases empty : n = 0
  · subst empty
    have zero : Mantissa ((0 : Nat) / d) 0 leastExponent :=
      ⟨le_rfl, by simp, by simp [two_zpow_pos], .inl rfl, by simp, by simp⟩
    refine .inr ⟨?_, 0, leastExponent, rfl, ⟨by decide, by decide, by decide, .inl rfl⟩, zero.nearest⟩
    rw [← not_le, zero.roundingLimit_le_iff]
    decide
  have mantissa := mantissa_scaled empty positive
  have limit := mantissa.roundingLimit_le_iff
  simp only [ofRatio, empty, if_false]
  generalize unitExponent n d = e at *
  generalize roundHalfEven (scaled n d e).1 (scaled n d e).2 = k at *
  have least := mantissa.least
  by_cases carries : k = Nat.pow 2 53
  · simp only [carries, if_true]
    split
    · rename_i large
      refine .inl ⟨limit.mpr ?_, rfl⟩
      have power : k = 2 ^ 53 := carries
      omega
    · rename_i fits
      refine .inr ⟨not_le.mp (mt limit.mp (by omega)), _, _, rfl, ?_, ?_⟩
      · exact ⟨by decide, by omega, by omega, .inr (by decide)⟩
      · have nearest := mantissa.nearest
        rw [carries, cast_pow_two, ← two_zpow_add] at nearest
        rw [cast_pow_two, ← two_zpow_add]
        rwa [show ((52 : Nat) : Int) + (e + 1) = (53 : Nat) + e by omega]
  · simp only [carries, if_false]
    have power : k ≠ 2 ^ 53 := carries
    have most := mantissa.le_pow
    split
    · exact .inl ⟨limit.mpr (.inl ‹_›), rfl⟩
    · rename_i fits
      refine .inr ⟨not_le.mp (mt limit.mp (by omega)), _, _, rfl, ?_, mantissa.nearest⟩
      refine ⟨by omega, least, by omega, ?_⟩
      by_cases same : e = leastExponent
      · exact .inl same
      · exact .inr (mantissa.pow_le same)

theorem isProper_ofRatio (s : Bool) (n : Nat) (positive : 0 < d) : (ofRatio s n d).IsProper := by
  obtain ⟨-, same⟩ | ⟨-, m, e, same, proper, -⟩ := ofRatio_spec s n positive
  · rw [same]
    trivial
  · rwa [same]

end Letterpress.Binary64
