import Letterpress.Proofs.Number.Nearest

/-!
# Arithmetic and rounding

Sums, products and quotients are the exact ones, rounded. What the format has room for is computed exactly.

* `Binary64.rounds_add`, `rounds_mul`, `rounds_div`: arithmetic.
* `Binary64.ofIntRatio?_cases`, `Value.Numeral.quotient?_cases`: quotients of numbers.
* `Binary64.truncate?_spec`: whole parts.
-/

namespace Letterpress

namespace Binary64

variable {n d : Nat}

/-! ## Rounded values -/

/-- The finite number that a value is rounded to. -/
def Rounds (q : ℚ) (x : Binary64) : Prop :=
  ∃ s m e, x = finite s m e ∧ x.IsProper ∧ Nearest q (ratio s m e)

/-- A value with a sign. -/
def oriented (s : Bool) (q : ℚ) : ℚ := if s then -q else q

theorem ratio_eq_oriented (s : Bool) (m : Nat) (e : Int) : ratio s m e = oriented s (m * 2 ^ e) := by
  cases s <;> simp [ratio, signed, oriented]

theorem abs_oriented (s : Bool) (q : ℚ) : |oriented s q| = |q| := by
  cases s <;> simp [oriented]

theorem abs_ratio (s : Bool) (m : Nat) (e : Int) : |ratio s m e| = m * 2 ^ e := by
  rw [ratio_eq_oriented, abs_oriented, abs_of_nonneg (by positivity)]

theorem nearest_oriented {q x : ℚ} (nearest : Nearest q x) (s : Bool) : Nearest (oriented s q) (oriented s x) := by
  cases s
  case false => exact nearest
  case true => exact nearest.neg

theorem oriented_natAbs_div (i : Int) (c : ℚ) : oriented (i < 0) (i.natAbs / c) = i / c := by
  rcases lt_or_ge i 0 with negative | nonneg
  · have abs : ((i.natAbs : Int) : ℚ) = ((-i : Int) : ℚ) := congrArg _ (Int.ofNat_natAbs_of_nonpos negative.le)
    rw [Int.cast_natCast] at abs
    simp [oriented, negative, abs, neg_div]
  · have abs : ((i.natAbs : Int) : ℚ) = (i : ℚ) := congrArg _ (Int.natAbs_of_nonneg nonneg)
    rw [Int.cast_natCast] at abs
    simp [oriented, not_lt.mpr nonneg, abs]

/-- A quotient is rounded, or it is too large and gives an infinity. -/
theorem ofRatio_cases (s : Bool) (n : Nat) (positive : 0 < d) :
    (roundingLimit ≤ (n : ℚ) / d ∧ ofRatio s n d = infinite s) ∨
      ((n : ℚ) / d < roundingLimit ∧ Rounds (oriented s (n / d)) (ofRatio s n d)) := by
  obtain large | ⟨small, m, e, same, proper, nearest⟩ := ofRatio_spec s n positive
  · exact .inl large
  · refine .inr ⟨small, s, m, e, same, same ▸ proper, ?_⟩
    rw [ratio_eq_oriented]
    exact nearest_oriented nearest s

theorem rounds_ofRatio (s : Bool) (positive : 0 < d) (small : (n : ℚ) / d < roundingLimit) :
    Rounds (oriented s (n / d)) (ofRatio s n d) := by
  obtain ⟨large, -⟩ | ⟨-, rounds⟩ := ofRatio_cases s n positive
  · exact absurd small (not_lt.mpr large)
  · exact rounds

theorem Rounds.exact {q : ℚ} {x : Binary64} (rounds : Rounds q x) {z j : Int} (small : |z| ≤ 2 ^ 53)
    (least : leastExponent ≤ j) (grid : q = z * 2 ^ j) :
    ∃ s m e, x = finite s m e ∧ x.IsProper ∧ ratio s m e = q := by
  obtain ⟨s, m, e, same, proper, nearest⟩ := rounds
  exact ⟨s, m, e, same, proper, nearest.eq_of_grid small least grid⟩

theorem rounds_ofInt {i : Int} (small : |(i : ℚ)| < roundingLimit) : Rounds i (ofInt i) := by
  have magnitude : (i.natAbs : ℚ) / (1 : Nat) = |(i : ℚ)| := by
    rw [Nat.cast_one, div_one, Nat.cast_natAbs, Int.cast_abs]
  have rounds := rounds_ofRatio (i < 0) one_pos (magnitude ▸ small)
  rwa [oriented_natAbs_div, Nat.cast_one, div_one] at rounds

/-- Whole numbers of up to 53 bits are numbers of the format. -/
theorem ofInt_exact {i : Int} (small : |i| ≤ 2 ^ 53) :
    ∃ s m e, ofInt i = finite s m e ∧ (finite s m e).IsProper ∧ ratio s m e = i := by
  have small' : |(i : ℚ)| ≤ 2 ^ 53 := by exact_mod_cast small
  obtain ⟨s, m, e, same, proper, exact⟩ := (rounds_ofInt (small'.trans_lt lt_roundingLimit)).exact
    (z := i) (j := 0) small (by decide) (by rw [zpow_zero, mul_one])
  exact ⟨s, m, e, same, same ▸ proper, exact⟩

/-- The quotient of two whole numbers is rounded once, unless it is too large. -/
theorem ofIntRatio?_cases (i : Int) (positive : 0 < d) :
    (roundingLimit ≤ |(i : ℚ)| / d ∧ ofIntRatio? i d = none) ∨
      (|(i : ℚ)| / d < roundingLimit ∧ ∃ x, ofIntRatio? i d = some x ∧ Rounds (i / d) x) := by
  have magnitude : (i.natAbs : ℚ) = |(i : ℚ)| := by rw [Nat.cast_natAbs, Int.cast_abs]
  obtain ⟨large, same⟩ | ⟨small, m, e, same, -⟩ := ofRatio_spec (i < 0) i.natAbs positive
  · rw [magnitude] at large
    exact .inl ⟨large, by rw [ofIntRatio?, same]⟩
  · have rounds := rounds_ofRatio (i < 0) positive small
    rw [magnitude] at small
    refine .inr ⟨small, finite (i < 0) m e, by rw [ofIntRatio?, same], ?_⟩
    rwa [oriented_natAbs_div, same] at rounds

section

variable {s t : Bool} {m k : Nat} {e f : Int}

/-! ## Arithmetic -/

theorem ratio_neg : ratio (!s) m e = -ratio s m e := by
  cases s <;> simp [ratio, signed]

theorem oriented_mul (p q : ℚ) : oriented s p * oriented t q = oriented (s != t) (p * q) := by
  cases s <;> cases t <;> simp [oriented]

theorem oriented_div (p q : ℚ) : oriented s p / oriented t q = oriented (s != t) (p / q) := by
  cases s <;> cases t <;> simp [oriented, neg_div, div_neg]

/-- A product is rounded, or it is too large and gives an infinity. -/
theorem mul_cases (s t : Bool) (m k : Nat) (e f : Int) :
    (roundingLimit ≤ |ratio s m e * ratio t k f| ∧ mul (finite s m e) (finite t k f) = infinite (s != t)) ∨
      (|ratio s m e * ratio t k f| < roundingLimit ∧
        Rounds (ratio s m e * ratio t k f) (mul (finite s m e) (finite t k f))) := by
  have quotient : (m * 2 ^ e : ℚ) * (k * 2 ^ f) = (m * k : Nat) / (1 : Nat) / 2 ^ (-(e + f)) := by
    rw [zpow_neg, div_inv_eq_mul, two_zpow_add]
    push_cast
    ring
  rw [ratio_eq_oriented, ratio_eq_oriented, oriented_mul, quotient, ← cast_scaled, abs_oriented,
    abs_of_nonneg (by positivity)]
  exact ofRatio_cases (s != t) _ (scaled_pos one_pos _)

theorem rounds_mul (small : |ratio s m e * ratio t k f| < roundingLimit) :
    Rounds (ratio s m e * ratio t k f) (mul (finite s m e) (finite t k f)) := by
  obtain ⟨large, -⟩ | ⟨-, rounds⟩ := mul_cases s t m k e f
  · exact absurd small (not_lt.mpr large)
  · exact rounds

theorem rounds_div (filled : k ≠ 0) (small : |ratio s m e / ratio t k f| < roundingLimit) :
    Rounds (ratio s m e / ratio t k f) (div (finite s m e) (finite t k f)) := by
  have quotient : (m * 2 ^ e : ℚ) / (k * 2 ^ f) = m / k / 2 ^ (f - e) := by
    have scale := (two_zpow_pos e).ne'
    have scale' := (two_zpow_pos f).ne'
    rw [zpow_sub₀ two_ne_zero]
    field_simp
  rw [ratio_eq_oriented, ratio_eq_oriented, oriented_div, quotient, ← cast_scaled] at small ⊢
  rw [abs_oriented, abs_of_nonneg (by positivity)] at small
  exact rounds_ofRatio (s != t) (scaled_pos (Nat.pos_of_ne_zero filled) _) small

theorem rounds_ofNumerator (zeroSign : Bool) {i : Int} (small : |(i : ℚ) / denominator| < roundingLimit) :
    Rounds (i / denominator) (ofNumerator zeroSign i) := by
  have positive : 0 < denominator := by exact_mod_cast denominator_pos
  unfold ofNumerator
  split
  · rename_i zero
    subst zero
    have zero : ((0 : Int) / denominator : ℚ) = 0 := by rw [Int.cast_zero, zero_div]
    have zero' : ((0 : Nat) / denominator : ℚ) = 0 := by rw [Nat.cast_zero, zero_div]
    rw [zero, abs_zero] at small
    have rounds := rounds_ofRatio (n := 0) zeroSign positive (zero'.trans_lt small)
    have unsigned : oriented zeroSign 0 = 0 := by cases zeroSign <;> simp [oriented]
    rw [zero', unsigned, ofRatio, if_pos rfl] at rounds
    rwa [zero]
  · have magnitude : |(i : ℚ) / denominator| = i.natAbs / denominator := by
      rw [abs_div, abs_of_pos denominator_pos, Nat.cast_natAbs, Int.cast_abs]
    rw [← oriented_natAbs_div]
    exact rounds_ofRatio (i < 0) positive (magnitude ▸ small)

theorem rounds_add (here : leastExponent ≤ e) (there : leastExponent ≤ f)
    (small : |ratio s m e + ratio t k f| < roundingLimit) :
    Rounds (ratio s m e + ratio t k f) (add (finite s m e) (finite t k f)) := by
  have value : ratio s m e + ratio t k f = ((numerator s m e + numerator t k f : Int) : ℚ) / denominator := by
    rw [Int.cast_add, cast_numerator here, cast_numerator there, ← add_mul, mul_div_cancel_right₀ _ denominator_pos.ne']
  rw [value] at small ⊢
  exact rounds_ofNumerator (s && t) small

/-! ## Whole parts -/

/-- The whole part is less than one away from a number, and not farther than zero is. -/
theorem truncate?_spec (least : leastExponent ≤ e) :
    ∃ w, truncate? (finite s m e) = some w ∧ |ratio s m e - w| < 1 ∧ |ratio s m e - w| ≤ |ratio s m e| := by
  refine ⟨_, rfl, ?_⟩
  have positive : 0 < denominator := by exact_mod_cast denominator_pos
  have value : ratio s m e = numerator s m e / denominator := by
    rw [cast_numerator least, mul_div_cancel_right₀ _ denominator_pos.ne']
  rw [value]
  generalize numerator s m e = i
  have difference : (i / denominator : ℚ) - Int.tdiv i denominator = Int.tmod i denominator / denominator := by
    have parts : (i : ℚ) = Int.tmod i denominator + denominator * Int.tdiv i denominator := by
      exact_mod_cast (Int.tmod_add_mul_tdiv i denominator).symm
    rw [eq_div_iff denominator_pos.ne', sub_mul, div_mul_cancel₀ _ denominator_pos.ne']
    linarith
  have magnitude : |((Int.tmod i denominator : Int) : ℚ)| = (i.natAbs % denominator : Nat) := by
    rw [← Int.cast_abs, Int.abs_eq_natAbs, Int.natAbs_tmod, Int.natAbs_natCast, Int.cast_natCast]
  have magnitude' : |(i : ℚ)| = i.natAbs := by rw [← Int.cast_abs, Int.abs_eq_natAbs, Int.cast_natCast]
  rw [difference, abs_div, abs_div, abs_of_pos denominator_pos, magnitude, magnitude']
  constructor
  · rw [div_lt_one denominator_pos]
    exact_mod_cast Nat.mod_lt _ positive
  · rw [div_le_div_iff_of_pos_right denominator_pos]
    exact_mod_cast Nat.mod_le _ _

theorem truncate?_of_int (least : leastExponent ≤ e) {z : Int} (whole : ratio s m e = z) :
    truncate? (finite s m e) = some z := by
  have value := cast_numerator (s := s) (m := m) least
  rw [whole] at value
  have exact : numerator s m e = z * denominator := by exact_mod_cast value
  have positive : (denominator : Int) ≠ 0 := by exact_mod_cast denominator_pos.ne'
  rw [truncate?, exact, Int.mul_tdiv_cancel _ positive]

/-- A number between powers of two is a whole multiple of what the format has room for there. -/
theorem exists_mul_of_le (small : m < 2 ^ 53) {j : Int} (large : 2 ^ (j + 52) ≤ |ratio s m e|) :
    ∃ z : Int, ratio s m e = z * 2 ^ j := by
  rw [abs_ratio] at large
  have bound : (m * 2 ^ e : ℚ) < 2 ^ (53 + e) := by
    rw [two_zpow_add]
    exact mul_lt_mul_of_pos_right (by exact_mod_cast small) (two_zpow_pos e)
  have exponents : j + 52 < 53 + e := (zpow_lt_zpow_iff_right₀ one_lt_two).mp (large.trans_lt bound)
  refine ⟨signed s m * 2 ^ (e - j).toNat, ?_⟩
  rw [ratio, Int.cast_mul, Int.cast_pow, Int.cast_ofNat, mul_assoc, ← zpow_natCast, ← two_zpow_add,
    Int.toNat_of_nonneg (by omega)]
  congr 2
  omega

/-- A number below a whole one stays a unit of its size away from it. -/
theorem add_le_of_lt (small : m < 2 ^ 53) {j z : Int} (large : 2 ^ (j + 52) ≤ |ratio s m e|) (fraction : j ≤ 0)
    (less : ratio s m e < z) : ratio s m e + 2 ^ j ≤ z := by
  obtain ⟨y, multiple⟩ := exists_mul_of_le small large
  have scale : (0 : ℚ) < 2 ^ j := two_zpow_pos j
  have units : (z : ℚ) = (z * 2 ^ (-j).toNat : Int) * 2 ^ j := by
    rw [Int.cast_mul, Int.cast_pow, Int.cast_ofNat, mul_assoc, two_pow_mul_zpow, Int.toNat_of_nonneg (by omega),
      neg_add_cancel, zpow_zero, mul_one]
  rw [multiple, units] at less ⊢
  have next : y + 1 ≤ z * 2 ^ (-j).toNat := by exact_mod_cast (mul_lt_mul_iff_left₀ scale).mp less
  calc (y * 2 ^ j + 2 ^ j : ℚ) = (y + 1 : Int) * 2 ^ j := by push_cast; ring
    _ ≤ (z * 2 ^ (-j).toNat : Int) * 2 ^ j := mul_le_mul_of_nonneg_right (by exact_mod_cast next) scale.le

/-- The numbers of the format end before the values that are rounded to infinities. -/
theorem abs_ratio_lt (proper : (finite s m e).IsProper) : |ratio s m e| < roundingLimit := by
  have most : (m : ℚ) ≤ 2 ^ 53 - 1 := by
    have whole : (m : Int) ≤ 2 ^ 53 - 1 := by
      have bits : m < 2 ^ 53 := proper.1
      omega
    exact_mod_cast whole
  calc |ratio s m e| = m * 2 ^ e := abs_ratio s m e
    _ ≤ (2 ^ 53 - 1) * 2 ^ greatestExponent :=
      mul_le_mul most (two_zpow_le proper.2.2.1) (two_zpow_pos e).le (by norm_num)
    _ < roundingLimit := mul_lt_mul_of_pos_right (by norm_num) (two_zpow_pos _)

end

end Binary64

namespace Value.Numeral

open Binary64

/-! ## Limits -/

theorem reaches_iff {n : Numeral} {q limit : ℚ} (finite_ : n.quantity? = some q) : n.Reaches limit ↔ limit ≤ |q| :=
  ⟨fun ⟨_, same, le⟩ => Option.some.inj (finite_.symm.trans same) ▸ le, fun le => ⟨q, finite_, le⟩⟩

theorem reaches_int_iff {i : Int} {limit : ℚ} : (int i).Reaches limit ↔ limit ≤ i.natAbs := by
  rw [reaches_iff rfl, Nat.cast_natAbs, Int.cast_abs]

theorem reaches_finite_iff {s : Bool} {m : Nat} {e : Int} {limit : ℚ} :
    (float (.finite s m e)).Reaches limit ↔ limit ≤ m * 2 ^ e := by
  rw [reaches_iff rfl, abs_ratio]

theorem not_reaches {n : Numeral} (none_ : n.quantity? = Option.none) (limit : ℚ) : ¬n.Reaches limit := by
  rintro ⟨q, same, -⟩
  cases none_.symm.trans same

/-! ## Quotients of numbers -/

/-- The quotient by a whole number, rounded once; none when it is too large. -/
def quotient? (n : Numeral) (c : Nat) : Option Binary64 :=
  match n with
  | int i => ofIntRatio? i c
  | float x => some (div x (ofInt c))

/-- The quotient of a finite number is rounded, unless it is far too large. -/
theorem quotient?_cases {n : Numeral} (proper : n.IsProper) {q : ℚ} (finite_ : n.quantity? = some q) {c : Nat}
    (positive : 0 < c) (small : c ≤ 2 ^ 53) :
    (roundingLimit ≤ |q / c| ∧ n.quotient? c = Option.none ∧ ∃ i, n = int i) ∨
      (|q / c| < roundingLimit ∧ ∃ x, n.quotient? c = some x ∧ Rounds (q / c) x) := by
  have positive' : (0 : ℚ) < c := by exact_mod_cast positive
  rcases n with i | ⟨s, m, e⟩ | _ | _ <;> cases finite_
  · rw [abs_div, abs_of_pos positive']
    obtain ⟨large, none_⟩ | fits := ofIntRatio?_cases i positive
    · exact .inl ⟨large, none_, i, rfl⟩
    · exact .inr fits
  · obtain ⟨t, k, f, same, -, value⟩ := ofInt_exact (i := c) (by rw [Nat.abs_cast]; exact_mod_cast small)
    rw [Int.cast_natCast] at value
    have filled : k ≠ 0 := by
      rintro rfl
      rw [ratio_eq_oriented] at value
      cases t <;> simp [oriented] at value <;> linarith
    have less : |ratio s m e / c| < roundingLimit := by
      rw [abs_div, abs_of_pos positive']
      refine lt_of_le_of_lt (div_le_self (abs_nonneg _) ?_) (abs_ratio_lt proper)
      exact_mod_cast positive
    refine .inr ⟨less, _, rfl, ?_⟩
    rw [same, ← value]
    exact rounds_div filled (value ▸ less)

end Value.Numeral

end Letterpress
