import Letterpress.Number.Decimal
import Letterpress.Proofs.Number.Shortest

/-!
# Decimals of limited precision

A decimal is rounded to a number of places unless the result needs more digits than there are. That depends on its value
alone, if it has no more digits than there are itself, or none behind the places.

* `Decimal.quantize?_cases`: rounding to a number of places.
* `Decimal.fix_cases`: rounding to the digits that there are.
-/

namespace Letterpress.Decimal

open Binary64

variable {s : Bool} {c places : Nat} {e : Int}

/-! ## Digits -/

theorem digitCount_le_iff {k : Nat} (positive : 0 < k) : digitCount c ≤ k ↔ c < 10 ^ k :=
  Nat.length_toDigits_le_iff (by decide) positive

theorem digitCount_pos (c : Nat) : 0 < digitCount c := Nat.length_toDigits_pos

/-- How many digits a number has, also against counts that are not positive. -/
theorem digitCount_le_iff_zpow (filled : c ≠ 0) (k : Int) : digitCount c ≤ k ↔ (c : ℚ) < 10 ^ k := by
  rcases Int.lt_or_le 0 k with positive | other
  · obtain ⟨n, rfl⟩ := Int.eq_ofNat_of_zero_le positive.le
    rw [Int.ofNat_le, digitCount_le_iff (by omega), zpow_natCast, ← Nat.cast_ofNat (R := ℚ) (n := 10), ← Nat.cast_pow,
      Nat.cast_lt]
  · have least : (1 : ℚ) ≤ c := by exact_mod_cast Nat.pos_of_ne_zero filled
    have most : (10 : ℚ) ^ k ≤ 1 := zpow_le_one_of_nonpos₀ (by norm_num) other
    have digit := digitCount_pos c
    exact iff_of_false (by omega) (by linarith)

/-- Zeros at the end move into the exponent. By induction on the digits that are left. -/
theorem stripZeros_spec (fuel : Nat) :
    ((stripZeros c e fuel).1 : ℚ) * 10 ^ (stripZeros c e fuel).2 = c * 10 ^ e ∧ (stripZeros c e fuel).1 ≤ c ∧
      (c ≠ 0 → (stripZeros c e fuel).1 ≠ 0) := by
  induction fuel generalizing c e with
  | zero => exact ⟨rfl, le_rfl, id⟩
  | succ fuel ih =>
    rw [stripZeros]
    split
    · rename_i zero
      obtain ⟨value, le, filled⟩ := ih (c := c / 10) (e := e + 1)
      have whole : c = c / 10 * 10 := by omega
      refine ⟨?_, by omega, fun some_ => filled (by omega)⟩
      have whole' : (c : ℚ) = (c / 10 : Nat) * 10 := by exact_mod_cast whole
      rw [value, ten_zpow_add, whole', zpow_one]
      ring
    · exact ⟨rfl, le_rfl, id⟩

theorem normalize_finite (s : Bool) (c : Nat) (e : Int) :
    ∃ c' e', normalize (finite s c e) = finite s c' e' ∧ (c' * 10 ^ e' : ℚ) = c * 10 ^ e ∧ c' ≤ c := by
  by_cases zero : c = 0
  · exact ⟨0, 0, by simp [normalize, zero], by simp [zero], Nat.zero_le c⟩
  · obtain ⟨value, le, -⟩ := stripZeros_spec (c := c) (e := e) (digitCount c)
    exact ⟨_, _, by simp [normalize, zero], value, le⟩

/-! ## Rounding -/

theorem quantizedCoefficient_lt (fits : c < 10 ^ precision) (small : (c : ℚ) * 10 ^ (e + places) < 10 ^ precision) :
    quantizedCoefficient c e places < 10 ^ precision := by
  simp only [quantizedCoefficient]
  split
  · rename_i nonneg
    have value : ((c * Nat.pow 10 (e + places).toNat : Nat) : ℚ) < (10 ^ precision : Nat) := by
      rw [Nat.cast_mul, cast_pow_ten nonneg]
      exact_mod_cast small
    exact_mod_cast value
  · rename_i negative
    have most := roundHalfEven_le c (Nat.pow 10 (-(e + places)).toNat)
    have divisor : 10 ^ 1 ≤ Nat.pow 10 (-(e + places)).toNat := Nat.pow_le_pow_right (by decide) (by omega)
    have quotient : c / Nat.pow 10 (-(e + places)).toNat ≤ c / 10 := Nat.div_le_div_left divisor (by decide)
    unfold precision at *
    omega

/-- A decimal that has no more digits than there are is rounded unless its value is too large. -/
theorem quantize?_cases (s : Bool) (places : Nat) (fits : c < 10 ^ precision) :
    ((10 : ℚ) ^ (precision - places : Int) ≤ c * 10 ^ e ∧ quantize? (finite s c e) places = none) ∨
      ((c * 10 ^ e : ℚ) < 10 ^ (precision - places : Int) ∧
        ∃ q, quantize? (finite s c e) places = some (finite s q (-(places : Int)))) := by
  by_cases zero : c = 0
  · exact .inr ⟨by simp [zero, ten_zpow_pos], 0, by simp [quantize?, zero]⟩
  have test : (precision : Int) < digitCount c + (e + places) ↔ (10 : ℚ) ^ (precision - places : Int) ≤ c * 10 ^ e := by
    have power : (10 : ℚ) ^ (precision - places : Int) = 10 ^ (precision - (e + places) : Int) * 10 ^ e := by
      rw [← ten_zpow_add]
      congr 1
      omega
    rw [power, mul_le_mul_iff_left₀ (ten_zpow_pos e), ← not_lt, ← digitCount_le_iff_zpow zero]
    omega
  simp only [quantize?, zero, if_false, test]
  split
  · rename_i large
    exact .inl ⟨large, rfl⟩
  · rename_i small
    rw [not_le] at small
    have few : quantizedCoefficient c e places < 10 ^ precision := by
      refine quantizedCoefficient_lt fits ?_
      rw [ten_zpow_add, ← mul_assoc]
      calc (c * 10 ^ e * 10 ^ (places : Int) : ℚ) < 10 ^ (precision - places : Int) * 10 ^ (places : Int) :=
            mul_lt_mul_of_pos_right small (ten_zpow_pos _)
        _ = 10 ^ precision := by rw [← ten_zpow_add, sub_add_cancel, zpow_natCast]
    have short := (digitCount_le_iff (k := precision) (by decide)).mpr few
    refine .inr ⟨small, quantizedCoefficient c e places, ?_⟩
    rw [if_neg (by omega)]

/-- A decimal is rounded to the digits that there are. If it has more, it stays as large as they allow. -/
theorem fix_cases (s : Bool) (c : Nat) (e : Int) :
    ∃ c' e', fix (finite s c e) = finite s c' e' ∧ c' < 10 ^ precision ∧
      (c < 10 ^ precision ∧ c' = c ∧ e' = e ∨
        10 ^ precision ≤ c ∧ (10 : ℚ) ^ (precision + e : Int) ≤ c' * 10 ^ e') := by
  have test := digitCount_le_iff (c := c) (k := precision) (by decide)
  simp only [fix]
  split
  · rename_i few
    exact ⟨c, e, rfl, test.mp few, .inl ⟨test.mp few, rfl, rfl⟩⟩
  · rename_i many
    have large : 10 ^ precision ≤ c := not_lt.mp (mt test.mpr many)
    obtain ⟨drop, total⟩ : ∃ drop, digitCount c = precision + (drop + 1) := ⟨digitCount c - precision - 1, by omega⟩
    rw [show digitCount c - precision = drop + 1 by omega]
    have most : c < 10 ^ precision * Nat.pow 10 (drop + 1) := by
      rw [Nat.pow_eq, ← pow_add, ← total]
      exact lt_pow_length c
    have least : 10 ^ (precision - 1) * Nat.pow 10 (drop + 1) ≤ c := by
      have filled : c ≠ 0 := by
        rintro rfl
        exact absurd large (by decide)
      have digits : (Binary64.digits c).length - 1 = precision - 1 + (drop + 1) := by
        unfold digitCount precision at *
        omega
      rw [Nat.pow_eq, ← pow_add, ← digits]
      exact pow_length_le filled
    have positive : 0 < Nat.pow 10 (drop + 1) := Nat.pow_pos (by decide)
    have high := (roundHalfEven_le c (Nat.pow 10 (drop + 1))).trans ((Nat.div_lt_iff_lt_mul positive).mpr most)
    have low := ((Nat.le_div_iff_mul_le positive).mpr least).trans (le_roundHalfEven c (Nat.pow 10 (drop + 1)))
    -- Either way the value is at least a power of ten with the digits that were dropped behind it.
    have value {q : Nat} {i : Int} (le : 10 ^ (precision - 1) ≤ q) (exponent : e + 1 ≤ i) :
        (10 : ℚ) ^ (precision + e : Int) ≤ q * 10 ^ i := by
      have le' : (10 : ℚ) ^ ((precision - 1 : Nat) : Int) ≤ q := by
        rw [zpow_natCast]
        exact_mod_cast le
      calc (10 : ℚ) ^ (precision + e : Int) ≤ 10 ^ (((precision - 1 : Nat) : Int) + i) :=
            zpow_le_zpow_right₀ (by norm_num) (by unfold precision; omega)
        _ = 10 ^ ((precision - 1 : Nat) : Int) * 10 ^ i := ten_zpow_add _ _
        _ ≤ q * 10 ^ i := mul_le_mul_of_nonneg_right le' (ten_zpow_pos i).le
    split
    · exact ⟨_, _, rfl, by decide, .inr ⟨large, value le_rfl (by omega)⟩⟩
    · rename_i other
      have fits : roundHalfEven c (Nat.pow 10 (drop + 1)) ≠ 10 ^ precision := other
      exact ⟨_, _, rfl, by omega, .inr ⟨large, value low (by omega)⟩⟩

end Letterpress.Decimal
