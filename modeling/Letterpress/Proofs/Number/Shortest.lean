import Letterpress.Number.Shortest
import Letterpress.Proofs.Number.Arithmetic
import Letterpress.Proofs.Number.Rounding

/-!
# The shortest text of a number

A number is written with the fewest digits that are read back as the number. They are at most 17, and the text of a
large number reaches a power of ten exactly if the number reaches what the power is rounded to.

* `Binary64.decimalExponent_spec`: the power of ten below a quotient.
* `Binary64.shortest_spec`: the digits of a number are read back as the number.
-/

namespace Letterpress.Binary64

variable {n d count : Nat} {E : Int} {x : Binary64}

/-! ## Powers of ten -/

theorem ten_zpow_pos (i : Int) : (0 : ℚ) < 10 ^ i := zpow_pos (by norm_num) i

theorem ten_zpow_add (i j : Int) : (10 : ℚ) ^ (i + j) = 10 ^ i * 10 ^ j := zpow_add₀ (by norm_num) i j

theorem cast_pow_ten {i : Int} (nonneg : 0 ≤ i) : ((Nat.pow 10 i.toNat : Nat) : ℚ) = 10 ^ i := by
  rw [Nat.pow_eq, Nat.cast_pow, Nat.cast_ofNat, ← zpow_natCast, Int.toNat_of_nonneg nonneg]

/-- `n / d` over `10 ^ k`, as a quotient of natural numbers. -/
def tenScaled (n d : Nat) (k : Int) : Nat × Nat :=
  if 0 ≤ k then (n, d * Nat.pow 10 k.toNat) else (n * Nat.pow 10 (-k).toNat, d)

theorem tenScaled_pos (positive : 0 < d) (k : Int) : 0 < (tenScaled n d k).2 := by
  unfold tenScaled
  split
  · exact Nat.mul_pos positive (Nat.pow_pos (by decide))
  · exact positive

theorem cast_tenScaled (n d : Nat) (k : Int) : ((tenScaled n d k).1 : ℚ) / (tenScaled n d k).2 = n / d / 10 ^ k := by
  unfold tenScaled
  split
  · rw [Nat.cast_mul, cast_pow_ten (by omega), div_div]
  · rw [Nat.cast_mul, cast_pow_ten (by omega), zpow_neg]
    field_simp

theorem lt_pow_length (n : Nat) : n < 10 ^ (digits n).length :=
  (Nat.length_toDigits_le_iff (by decide) (Nat.length_toDigits_pos)).mp le_rfl

theorem pow_length_le (filled : n ≠ 0) : 10 ^ ((digits n).length - 1) ≤ n := by
  by_contra less
  rcases Nat.eq_zero_or_pos ((digits n).length - 1) with one | more
  · rw [one] at less
    omega
  · have shorter := (Nat.length_toDigits_le_iff (by decide) more).mpr (not_le.mp less)
    unfold digits at *
    omega

/-- A quotient by the numbers of digits of its parts. -/
theorem quotient_digits (filled : n ≠ 0) (positive : 0 < d) :
    (10 : ℚ) ^ ((digits n).length - (digits d).length - 1 : Int) ≤ n / d ∧
      (n : ℚ) / d < 10 ^ ((digits n).length - (digits d).length + 1 : Int) := by
  have positive' : (0 : ℚ) < d := by exact_mod_cast positive
  have length (k : Nat) : 0 < (digits k).length := Nat.length_toDigits_pos
  have low : (10 : ℚ) ^ ((digits n).length - 1 : Int) ≤ n := by
    have bound : ((10 ^ ((digits n).length - 1) : Nat) : ℚ) ≤ n := by exact_mod_cast pow_length_le filled
    rw [Nat.cast_pow, ← zpow_natCast] at bound
    rwa [Nat.cast_sub (length n)] at bound
  have low' : (10 : ℚ) ^ ((digits d).length - 1 : Int) ≤ d := by
    have bound : ((10 ^ ((digits d).length - 1) : Nat) : ℚ) ≤ d := by exact_mod_cast pow_length_le positive.ne'
    rw [Nat.cast_pow, ← zpow_natCast] at bound
    rwa [Nat.cast_sub (length d)] at bound
  have high (k : Nat) : (k : ℚ) < 10 ^ ((digits k).length : Int) := by
    rw [zpow_natCast]
    exact_mod_cast lt_pow_length k
  constructor
  · rw [le_div_iff₀ positive']
    calc (10 : ℚ) ^ ((digits n).length - (digits d).length - 1 : Int) * d
        ≤ 10 ^ ((digits n).length - (digits d).length - 1 : Int) * 10 ^ ((digits d).length : Int) :=
          mul_le_mul_of_nonneg_left (high d).le (ten_zpow_pos _).le
      _ = 10 ^ ((digits n).length - 1 : Int) := by rw [← ten_zpow_add]; congr 1; omega
      _ ≤ n := low
  · rw [div_lt_iff₀ positive']
    calc (n : ℚ) < 10 ^ ((digits n).length : Int) := high n
      _ = 10 ^ ((digits n).length - (digits d).length + 1 : Int) * 10 ^ ((digits d).length - 1 : Int) := by
        rw [← ten_zpow_add]; congr 1; omega
      _ ≤ 10 ^ ((digits n).length - (digits d).length + 1 : Int) * d :=
        mul_le_mul_of_nonneg_left low' (ten_zpow_pos _).le

theorem tenScaled_div_lt (positive : 0 < d) (less : (n : ℚ) / d < 10 ^ (E + 1)) (k : Nat) :
    (tenScaled n d (E - k + 1)).1 / (tenScaled n d (E - k + 1)).2 < 10 ^ k := by
  have positive' : (0 : ℚ) < (tenScaled n d (E - k + 1)).2 := by exact_mod_cast tenScaled_pos positive _
  rw [Nat.div_lt_iff_lt_mul (tenScaled_pos positive _), ← Nat.cast_lt (α := ℚ), Nat.cast_mul, ← div_lt_iff₀ positive',
    cast_tenScaled, div_lt_iff₀ (ten_zpow_pos _), Nat.cast_pow, Nat.cast_ofNat, ← zpow_natCast, ← ten_zpow_add]
  rwa [show (k : Int) + (E - k + 1) = E + 1 by omega]

/-- The power of ten that a quotient lies above, with the next one above it. -/
theorem decimalExponent_spec (filled : n ≠ 0) (positive : 0 < d) :
    (10 : ℚ) ^ decimalExponent n d ≤ n / d ∧ (n : ℚ) / d < 10 ^ (decimalExponent n d + 1) := by
  obtain ⟨low, high⟩ := quotient_digits filled positive
  have exponent : decimalExponent n d =
      if (tenScaled n d ((digits n).length - (digits d).length)).1 <
          (tenScaled n d ((digits n).length - (digits d).length)).2 then
        ((digits n).length - (digits d).length : Int) - 1
      else (digits n).length - (digits d).length := rfl
  generalize ((digits n).length - (digits d).length : Int) = guess at *
  have test : (tenScaled n d guess).1 < (tenScaled n d guess).2 ↔ (n : ℚ) / d < 10 ^ guess := by
    have positive' : (0 : ℚ) < (tenScaled n d guess).2 := by exact_mod_cast tenScaled_pos positive guess
    rw [← Nat.cast_lt (α := ℚ), ← div_lt_one positive', cast_tenScaled, div_lt_one (ten_zpow_pos guess)]
  simp only [test] at exponent
  rw [exponent]
  split
  · rename_i less
    exact ⟨low, by rwa [sub_add_cancel]⟩
  · rename_i less
    exact ⟨not_lt.mp less, high⟩

/-! ## Candidates -/

/-- Digits with a power of ten for the last one are read back as a number. -/
def ReadsBack (x : Binary64) (c : Nat) (u : Int) : Prop :=
  (if 0 ≤ u then ofRatio x.isNegative (c * Nat.pow 10 u.toNat) 1
    else ofRatio x.isNegative c (Nat.pow 10 (-u).toNat)) = x

theorem readsBack_iff {c : Nat} {u : Int} :
    ∃ n d : Nat, 0 < d ∧ (n : ℚ) / d = c * 10 ^ u ∧ (ReadsBack x c u ↔ ofRatio x.isNegative n d = x) := by
  unfold ReadsBack
  split
  · rename_i nonneg
    exact ⟨_, 1, one_pos, by rw [Nat.cast_mul, cast_pow_ten nonneg, Nat.cast_one, div_one], Iff.rfl⟩
  · rename_i negative
    refine ⟨c, Nat.pow 10 (-u).toNat, Nat.pow_pos (by decide), ?_, Iff.rfl⟩
    rw [cast_pow_ten (by omega), zpow_neg, div_inv_eq_mul]

theorem mem_candidates {c : Nat} {u : Int} (mem : (c, u) ∈ candidates x n d E count) :
    u = E - count + 1 ∧ c ≤ (tenScaled n d u).1 / (tenScaled n d u).2 + 1 ∧ ReadsBack x c u := by
  simp only [candidates, List.mem_map, List.mem_filter, Prod.mk.injEq, beq_iff_eq] at mem
  obtain ⟨c', ⟨near, back⟩, rfl, rfl⟩ := mem
  refine ⟨rfl, ?_, back⟩
  have most := roundHalfEven_le (tenScaled n d (E - count + 1)).1 (tenScaled n d (E - count + 1)).2
  change c' ∈ [roundHalfEven (tenScaled n d (E - count + 1)).1 (tenScaled n d (E - count + 1)).2,
    if roundHalfEven (tenScaled n d (E - count + 1)).1 (tenScaled n d (E - count + 1)).2 =
        (tenScaled n d (E - count + 1)).1 / (tenScaled n d (E - count + 1)).2 then
      (tenScaled n d (E - count + 1)).1 / (tenScaled n d (E - count + 1)).2 + 1
    else (tenScaled n d (E - count + 1)).1 / (tenScaled n d (E - count + 1)).2] at near
  rcases List.mem_cons.mp near with rfl | other
  · exact most
  · rw [List.mem_singleton.mp other]
    split <;> omega

/-- The nearest digits are a candidate if they are read back. -/
theorem candidates_ne_nil
    (back : ReadsBack x (roundHalfEven (tenScaled n d (E - count + 1)).1 (tenScaled n d (E - count + 1)).2)
      (E - count + 1)) : candidates x n d E count ≠ [] := by
  intro none_
  simp only [candidates, List.map_eq_nil_iff, List.filter_eq_nil_iff] at none_
  exact none_ _ (List.mem_cons_self ..) (beq_iff_eq.mpr back)

/-- By induction on the grids that are left. -/
theorem searchShortest_cases (count fuel : Nat) :
    ((∀ k, count ≤ k → k < count + fuel → candidates x n d E k = []) ∧ searchShortest x n d E count fuel = (0, 0)) ∨
      ∃ k, count ≤ k ∧ k < count + fuel ∧ searchShortest x n d E count fuel ∈ candidates x n d E k := by
  induction fuel generalizing count with
  | zero => exact .inl ⟨fun k _ _ => by omega, rfl⟩
  | succ fuel ih =>
    rw [searchShortest]
    split
    · rename_i c rest found
      exact .inr ⟨count, le_rfl, by omega, by rw [found]; exact List.mem_cons_self ..⟩
    · rename_i none_
      obtain ⟨empty, same⟩ | ⟨k, least, most, mem⟩ := ih (count + 1)
      · refine .inl ⟨fun k least most => ?_, same⟩
        rcases Nat.eq_or_lt_of_le least with rfl | less
        · exact none_
        · exact empty k less (by omega)
      · exact .inr ⟨k, by omega, by omega, mem⟩

/-! ## Reading back -/

section

variable {s : Bool} {m k : Nat} {e f : Int}

theorem eq_of_multiples {a b u : ℚ} {y z : Int} (scale : 0 < u) (here : a = y * u) (there : b = z * u)
    (near : |a - b| < u) : a = b := by
  rw [here, there, ← sub_mul, abs_mul, abs_of_pos scale] at near
  have less : |y - z| < 1 := by
    have less' : |((y - z : Int) : ℚ)| < 1 := by
      push_cast
      exact (mul_lt_iff_lt_one_left scale).mp near
    exact_mod_cast less'
  have same : y - z = 0 := Int.abs_lt_one_iff.mp less
  rw [here, there, show y = z by omega]

/-- A number of the format is written in one way. -/
theorem finite_eq_of_value (proper : (finite s m e).IsProper) (proper' : (finite s k f).IsProper) (full : 2 ^ 52 ≤ m)
    (same : (m * 2 ^ e : ℚ) = k * 2 ^ f) : finite s m e = finite s k f := by
  have shift {a b : Nat} {i j : Int} (less : i < j) (same : (a * 2 ^ i : ℚ) = b * 2 ^ j) (full : 2 ^ 52 ≤ b) :
      2 ^ 53 ≤ a := by
    have power : (2 : ℚ) ^ j = 2 ^ (j - i).toNat * 2 ^ i := by
      rw [two_pow_mul_zpow, Int.toNat_of_nonneg (by omega), sub_add_cancel]
    rw [power, ← mul_assoc, mul_right_cancel_iff_of_pos (two_zpow_pos i)] at same
    have whole : a = b * 2 ^ (j - i).toNat := by exact_mod_cast same
    have two : 2 ^ 1 ≤ 2 ^ (j - i).toNat := Nat.pow_le_pow_right (by decide) (by omega)
    calc 2 ^ 53 = 2 ^ 52 * 2 ^ 1 := by norm_num
      _ ≤ b * 2 ^ (j - i).toNat := Nat.mul_le_mul full two
      _ = a := whole.symm
  obtain ⟨bits, least, -, -⟩ := proper
  obtain ⟨bits', least', -, unit'⟩ := proper'
  rcases lt_trichotomy e f with less | rfl | more
  · exact absurd (shift less same (unit'.resolve_left (by omega))) (not_le.mpr bits)
  · rw [mul_right_cancel_iff_of_pos (two_zpow_pos e)] at same
    rw [show m = k by exact_mod_cast same]
  · exact absurd (shift more same.symm full) (not_le.mpr bits')

/-- A number of at least 53 bits of some unit is a whole number of units. -/
theorem exists_mul_of_full (proper : (finite s k f).IsProper) {j : Int} (large : (2 ^ 52 * 2 ^ j : ℚ) ≤ k * 2 ^ f) :
    ∃ z : Int, (k * 2 ^ f : ℚ) = z * 2 ^ j := by
  have magnitude : ratio false k f = k * 2 ^ f := by simp [ratio, signed]
  rw [← magnitude]
  refine exists_mul_of_le proper.1 ?_
  rw [magnitude, abs_of_nonneg (by positivity), two_zpow_add, mul_comm]
  exact_mod_cast large

/-- A number above a whole number of units reaches the next one. -/
theorem mul_le_of_lt (proper : (finite s m e).IsProper) {j y : Int} (large : (2 ^ 52 * 2 ^ j : ℚ) ≤ m * 2 ^ e)
    (less : ((y - 1 : Int) * 2 ^ j : ℚ) < m * 2 ^ e) : (y * 2 ^ j : ℚ) ≤ m * 2 ^ e := by
  obtain ⟨z, grid⟩ := exists_mul_of_full proper large
  rw [grid, mul_lt_mul_iff_left₀ (two_zpow_pos j)] at less
  rw [grid, mul_le_mul_iff_left₀ (two_zpow_pos j)]
  have less' : y - 1 < z := by exact_mod_cast less
  exact_mod_cast (by omega : y ≤ z)

theorem full_of_le (proper : (finite s m e).IsProper) {j : Int} (least : leastExponent < j)
    (large : (2 ^ 52 * 2 ^ j : ℚ) ≤ m * 2 ^ e) : 2 ^ 52 ≤ m ∧ leastExponent < e := by
  have bits : (m : ℚ) < 2 ^ 53 := by exact_mod_cast proper.1
  have exponents : j ≤ e := exponent_le (large.trans_lt (mul_lt_mul_of_pos_right bits (two_zpow_pos e)))
  exact ⟨proper.2.2.2.resolve_left (by omega), by omega⟩

theorem le_last (proper : (finite s m e).IsProper) : (m : ℚ) ≤ 2 ^ 53 - 1 := by
  have whole : (m : Int) ≤ 2 ^ 53 - 1 := by
    have bits : m < 2 ^ 53 := proper.1
    omega
  exact_mod_cast whole

/-- A value that is closer to a number than half of its last bit has no other number nearest to it. -/
theorem Nearest.eq_of_close {q : ℚ} (proper : (finite s m e).IsProper) (full : 2 ^ 52 ≤ m) (least : leastExponent < e)
    (proper' : (finite s k f).IsProper) (nonneg : 0 ≤ q) (nearest : Nearest q (k * 2 ^ f))
    (close : |q - m * 2 ^ e| < m * 2 ^ e / 2 ^ 54) : (m * 2 ^ e : ℚ) = k * 2 ^ f := by
  have scale : (0 : ℚ) < 2 ^ e := two_zpow_pos e
  have bounds := abs_lt.mp close
  have full' : (2 ^ 52 : ℚ) ≤ m := by exact_mod_cast full
  have top : (m * 2 ^ e : ℚ) ≤ (2 ^ 53 - 1) * 2 ^ e := mul_le_mul_of_nonneg_right (le_last proper) scale.le
  have own : (m * 2 ^ e : ℚ) = (m : Int) * 2 ^ e := by rw [Int.cast_natCast]
  have small : |(m : Int)| ≤ 2 ^ 53 := by
    rw [Nat.abs_cast]
    exact_mod_cast proper.1.le
  have multiple {j : Int} (le : (2 ^ 52 * 2 ^ j : ℚ) ≤ k * 2 ^ f) : ∃ z : Int, (k * 2 ^ f : ℚ) = z * 2 ^ j :=
    exists_mul_of_full proper' le
  have error (j : Int) (fits : leastExponent ≤ j) (less : q < 2 ^ 53 * 2 ^ j) :=
    abs_le.mp (nearest.close j fits (by rwa [abs_of_nonneg nonneg]))
  rcases lt_or_ge q (m * 2 ^ e) with below | above
  · have le := nearest.below m e small proper.2.1 (own ▸ below.le)
    rw [Int.cast_natCast] at le
    rcases Nat.eq_or_lt_of_le full with boundary | more
    · -- Below a power of two the numbers of the format are twice as close.
      have finer : (2 : ℚ) ^ e = 2 * 2 ^ (e - 1) := by
        rw [← zpow_one_add₀ two_ne_zero]
        congr 1
        omega
      have scale' : (0 : ℚ) < 2 ^ (e - 1) := two_zpow_pos _
      have value : (m * 2 ^ e : ℚ) = (2 ^ 53 : Int) * 2 ^ (e - 1) := by
        rw [finer, ← boundary]
        push_cast
        ring
      rw [value] at below bounds le ⊢
      push_cast at below bounds le
      have low := nearest.above (2 ^ 52) (e - 1) (by decide) (by omega) (by push_cast; linarith)
      push_cast at low
      obtain ⟨z, grid⟩ := multiple low
      have near := error (e - 1) (by omega) below
      exact eq_of_multiples scale' rfl grid (abs_lt.mpr ⟨by push_cast; linarith, by push_cast; linarith⟩)
    · have more' : (2 ^ 52 + 1 : ℚ) ≤ m := by exact_mod_cast more
      have apart : (2 ^ 52 + 1 : ℚ) * 2 ^ e ≤ m * 2 ^ e := mul_le_mul_of_nonneg_right more' scale.le
      have low := nearest.above (2 ^ 52) e (by decide) proper.2.1 (by push_cast; linarith)
      push_cast at low
      obtain ⟨z, grid⟩ := multiple low
      have near := error e proper.2.1 (by linarith)
      exact eq_of_multiples scale own grid (abs_lt.mpr ⟨by linarith, by linarith⟩)
  · have ge := nearest.above m e small proper.2.1 (own ▸ above)
    rw [Int.cast_natCast] at ge
    have low : (2 ^ 52 * 2 ^ e : ℚ) ≤ m * 2 ^ e := mul_le_mul_of_nonneg_right full' scale.le
    obtain ⟨z, grid⟩ := multiple (low.trans ge)
    have near := error e proper.2.1 (by linarith)
    exact eq_of_multiples scale own grid (abs_lt.mpr ⟨by linarith, by linarith⟩)

theorem ofRatio_of_close (proper : (finite s m e).IsProper) (full : 2 ^ 52 ≤ m) (least : leastExponent < e)
    (positive : 0 < d) (close : |(n : ℚ) / d - m * 2 ^ e| < m * 2 ^ e / 2 ^ 54) : ofRatio s n d = finite s m e := by
  have room : (n : ℚ) / d < roundingLimit := by
    have bounds := abs_lt.mp close
    have top : (0 : ℚ) < 2 ^ greatestExponent := two_zpow_pos _
    have most : (m * 2 ^ e : ℚ) ≤ (2 ^ 53 - 1) * 2 ^ greatestExponent :=
      mul_le_mul (le_last proper) (two_zpow_le proper.2.2.1) (two_zpow_pos e).le (by norm_num)
    unfold roundingLimit
    linarith
  obtain ⟨large, -⟩ | ⟨-, k, f, same, proper', nearest⟩ := ofRatio_spec s n positive
  · exact absurd room (not_lt.mpr large)
  · rw [same]
    exact (finite_eq_of_value proper proper' full
      (nearest.eq_of_close proper full least proper' (by positivity) close)).symm

/-! ## The shortest text -/

theorem shortest_eq (filled : m ≠ 0) : shortest (finite s m e) =
    searchShortest (finite s m e) (scaled m 1 (-e)).1 (scaled m 1 (-e)).2
      (decimalExponent (scaled m 1 (-e)).1 (scaled m 1 (-e)).2) 1 17 := by
  simp only [shortest, filled, if_false]

theorem cast_scaled_neg (m : Nat) (e : Int) : ((scaled m 1 (-e)).1 : ℚ) / (scaled m 1 (-e)).2 = m * 2 ^ e := by
  rw [cast_scaled, Nat.cast_one, div_one, zpow_neg, div_inv_eq_mul]

theorem scaled_ne_zero (filled : m ≠ 0) : (scaled m 1 (-e)).1 ≠ 0 := by
  unfold scaled
  split
  · exact filled
  · exact Nat.mul_ne_zero filled (Nat.two_pow_pos _).ne'

/-- A number is written with at most 17 digits, which are read back as the number if there are any. -/
theorem shortest_spec (filled : m ≠ 0) :
    (shortest (finite s m e)).1 ≤ 10 ^ 17 ∧
      (shortest (finite s m e) = (0, 0) ∨
        ReadsBack (finite s m e) (shortest (finite s m e)).1 (shortest (finite s m e)).2) := by
  have positive := scaled_pos (n := m) one_pos (-e)
  have bounds := decimalExponent_spec (scaled_ne_zero (e := e) filled) positive
  rw [shortest_eq filled]
  generalize (scaled m 1 (-e)).1 = n at *
  generalize (scaled m 1 (-e)).2 = d at *
  generalize decimalExponent n d = E at *
  obtain ⟨-, same⟩ | ⟨k, least, most, mem⟩ :=
    searchShortest_cases (x := finite s m e) (n := n) (d := d) (E := E) 1 17
  · rw [same]
    exact ⟨Nat.zero_le _, .inl rfl⟩
  · obtain ⟨unit, fits, back⟩ := mem_candidates mem
    refine ⟨fits.trans ?_, .inr back⟩
    have few : 10 ^ k ≤ 10 ^ 17 := Nat.pow_le_pow_right (by decide) (by omega)
    have less := tenScaled_div_lt positive bounds.2 k
    rw [← unit] at less
    omega

/-- What is read back is nearest to the digits. -/
theorem ReadsBack.nearest {c : Nat} {u : Int} (back : ReadsBack (finite s m e) c u) :
    Nearest (c * 10 ^ u) (m * 2 ^ e) := by
  obtain ⟨n, d, positive, same, reads⟩ := readsBack_iff (x := finite s m e) (c := c) (u := u)
  have rounded := reads.mp back
  rw [← same]
  obtain ⟨-, other⟩ | ⟨-, k, f, other, -, nearest⟩ := ofRatio_spec (finite s m e).isNegative n positive
  · cases rounded.symm.trans other
  · cases rounded.symm.trans other
    exact nearest

/-- Seventeen digits suffice for a number that uses all of its bits. -/
theorem shortest_readsBack (proper : (finite s m e).IsProper) (full : 2 ^ 52 ≤ m) (least : leastExponent < e) :
    ReadsBack (finite s m e) (shortest (finite s m e)).1 (shortest (finite s m e)).2 := by
  have filled : m ≠ 0 := by omega
  have positive := scaled_pos (n := m) one_pos (-e)
  have bounds := decimalExponent_spec (scaled_ne_zero (e := e) filled) positive
  have value := cast_scaled_neg m e
  rw [shortest_eq filled]
  generalize (scaled m 1 (-e)).1 = n at *
  generalize (scaled m 1 (-e)).2 = d at *
  generalize decimalExponent n d = E at *
  obtain ⟨none_, -⟩ | ⟨k, -, -, mem⟩ :=
    searchShortest_cases (x := finite s m e) (n := n) (d := d) (E := E) 1 17
  · refine absurd (none_ 17 (by decide) (by decide)) (candidates_ne_nil ?_)
    generalize unit : E - (17 : Nat) + 1 = u
    have exponent : E = u + 16 := by omega
    have scale : (0 : ℚ) < 10 ^ u := ten_zpow_pos u
    have near := roundHalfEven_near (n := (tenScaled n d u).1) (tenScaled_pos (n := n) positive u)
    generalize roundHalfEven (tenScaled n d u).1 (tenScaled n d u).2 = c at near ⊢
    rw [cast_tenScaled, value] at near
    -- The error is half a unit, which is less than half of the number's last bit.
    have large : (10 : ℚ) ^ u * 10 ^ 16 ≤ m * 2 ^ e := by
      rw [← value, ← zpow_natCast (10 : ℚ) 16, ← ten_zpow_add]
      exact exponent ▸ bounds.1
    have error : |(c * 10 ^ u : ℚ) - m * 2 ^ e| ≤ 1 / 2 * 10 ^ u := by
      have scaled : (c * 10 ^ u : ℚ) - m * 2 ^ e = (c - m * 2 ^ e / 10 ^ u) * 10 ^ u := by
        rw [sub_mul, div_mul_cancel₀ _ scale.ne']
      rw [scaled, abs_mul, abs_of_pos scale]
      exact mul_le_mul_of_nonneg_right near scale.le
    obtain ⟨n', d', positive', same, back⟩ := readsBack_iff (x := finite s m e) (c := c) (u := u)
    exact back.mpr (ofRatio_of_close proper full least positive' (by rw [same]; linarith))
  · exact (mem_candidates mem).2.2

/-! ## Powers of ten among the numbers -/

/-- The number that a power of ten is rounded to, well inside of the numbers that use all of their bits. -/
structure IsPowerOfTen (i : Nat) (m : Nat) (e : Int) : Prop where
  proper (s : Bool) : (finite s m e).IsProper
  least : leastExponent < e
  full : 2 ^ 52 < m
  near : |(10 ^ i : ℚ) - m * 2 ^ e| < 2 ^ e / 2
  written (s : Bool) : ((shortest (finite s m e)).1 : ℚ) * 10 ^ (shortest (finite s m e)).2 = 10 ^ i

/-- The text of a number reaches a power of ten if the number reaches what the power is rounded to. -/
theorem IsPowerOfTen.le_shortest_iff {i : Nat} (power : IsPowerOfTen i k f) (proper : (finite s m e).IsProper)
    (filled : m ≠ 0) :
    (10 ^ i : ℚ) ≤ (shortest (finite s m e)).1 * 10 ^ (shortest (finite s m e)).2 ↔ (k * 2 ^ f : ℚ) ≤ m * 2 ^ e := by
  have scale : (0 : ℚ) < 2 ^ f := two_zpow_pos f
  have bounds := abs_lt.mp power.near
  have own : (k * 2 ^ f : ℚ) = (k : Int) * 2 ^ f := by rw [Int.cast_natCast]
  have small : |(k : Int)| ≤ 2 ^ 53 := by
    rw [Nat.abs_cast]
    exact_mod_cast (power.proper s).1.le
  have top : (k * 2 ^ f : ℚ) ≤ (2 ^ 53 - 1) * 2 ^ f := mul_le_mul_of_nonneg_right (le_last (power.proper s)) scale.le
  have bottom : (2 ^ 52 * 2 ^ f : ℚ) ≤ (k - 1) * 2 ^ f := by
    have more : (2 ^ 52 + 1 : ℚ) ≤ k := by exact_mod_cast power.full
    exact mul_le_mul_of_nonneg_right (by linarith) scale.le
  constructor
  · intro le
    obtain none_ | back := (shortest_spec (s := s) (e := e) filled).2
    · have positive : (0 : ℚ) < 10 ^ i := by positivity
      rw [none_] at le
      norm_num at le
      linarith
    · have nearest := back.nearest
      generalize ((shortest (finite s m e)).1 * 10 ^ (shortest (finite s m e)).2 : ℚ) = q at *
      rcases lt_or_ge q (k * 2 ^ f) with below | above
      · have error := abs_le.mp (nearest.close f power.least.le (abs_lt.mpr ⟨by linarith, by linarith⟩))
        have less : (((k : Int) - 1 : Int) * 2 ^ f : ℚ) < m * 2 ^ e := by
          push_cast
          linarith
        have reached := mul_le_of_lt proper (by linarith) less
        rwa [Int.cast_natCast] at reached
      · have reached := nearest.above k f small power.least.le (own ▸ above)
        rwa [Int.cast_natCast] at reached
  · intro le
    obtain ⟨full, least⟩ := full_of_le proper power.least (by linarith)
    rcases eq_or_lt_of_le le with same | less
    · rw [← finite_eq_of_value (power.proper s) proper power.full.le same, power.written s]
    · have nearest := (shortest_readsBack (s := s) proper full least).nearest
      generalize ((shortest (finite s m e)).1 * 10 ^ (shortest (finite s m e)).2 : ℚ) = q at *
      by_contra short
      rw [not_le] at short
      rcases le_or_gt q (k * 2 ^ f) with below | above
      · have most := nearest.below k f small power.least.le (own ▸ below)
        rw [Int.cast_natCast] at most
        linarith
      · have error := abs_le.mp (nearest.close f power.least.le (abs_lt.mpr ⟨by linarith, by linarith⟩))
        have more : (((k : Int) + 1 - 1 : Int) * 2 ^ f : ℚ) < m * 2 ^ e := by
          rw [add_sub_cancel_right, Int.cast_natCast]
          exact less
        have next := mul_le_of_lt proper (by linarith) more
        push_cast at next
        linarith

/-- A number reaches a power of ten if it reaches what the power is rounded up to. -/
theorem IsPowerOfTen.le_iff {i : Nat} (power : IsPowerOfTen i k f) (up : (10 ^ i : ℚ) ≤ k * 2 ^ f)
    (proper : (finite s m e).IsProper) : (10 ^ i : ℚ) ≤ m * 2 ^ e ↔ (k * 2 ^ f : ℚ) ≤ m * 2 ^ e := by
  refine ⟨fun le => ?_, up.trans⟩
  have scale : (0 : ℚ) < 2 ^ f := two_zpow_pos f
  have bounds := abs_lt.mp power.near
  have more : (2 ^ 52 + 1 : ℚ) ≤ k := by exact_mod_cast power.full
  have bottom : (2 ^ 52 * 2 ^ f : ℚ) ≤ (k - 1) * 2 ^ f := mul_le_mul_of_nonneg_right (by linarith) scale.le
  have less : (((k : Int) - 1 : Int) * 2 ^ f : ℚ) < m * 2 ^ e := by
    push_cast
    linarith
  have reached := mul_le_of_lt proper (by linarith) less
  rwa [Int.cast_natCast] at reached

theorem isPowerOfTen_24 : IsPowerOfTen 24 7450580596923828 27 where
  proper s := by cases s <;> decide
  least := by decide
  full := by decide
  near := by norm_num [abs_lt]
  written s := by
    have digits : shortest (finite s 7450580596923828 27) = (10, 23) := by cases s <;> decide
    rw [digits]
    norm_num

theorem isPowerOfTen_26 : IsPowerOfTen 26 5820766091346741 34 where
  proper s := by cases s <;> decide
  least := by decide
  full := by decide
  near := by norm_num [abs_lt]
  written s := by
    have digits : shortest (finite s 5820766091346741 34) = (1, 26) := by cases s <;> decide
    rw [digits]
    norm_num

end

end Letterpress.Binary64
