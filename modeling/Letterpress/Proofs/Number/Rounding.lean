import Letterpress.Number.Binary64
import Mathlib.Data.Nat.Log
import Mathlib.Tactic.Ring

/-!
# Rounding keeps the order

A sum is the exact sum, rounded. Exact sums are whole multiples of the least number there is, so rounding is a function
on whole numbers, and it keeps their order.

* `roundHalfEven_mono`: rounding to a whole number.
* `Binary64.rounded`: what a multiple of the least number is rounded to.
* `Binary64.ofNumerator_lt_iff`: a rounded number compared with another one.
* `Binary64.sub_lt_of_le`: if a later time is within a span, so is an earlier one.
-/

namespace Letterpress.Binary64

variable {m n d k : Nat}

/-! ## Whole numbers -/

theorem le_roundHalfEven (n d : Nat) : n / d ≤ roundHalfEven n d := by
  simp only [roundHalfEven]
  split_ifs <;> omega

theorem roundHalfEven_le (n d : Nat) : roundHalfEven n d ≤ n / d + 1 := by
  simp only [roundHalfEven]
  split_ifs <;> omega

theorem roundHalfEven_mono (le : m ≤ n) : roundHalfEven m d ≤ roundHalfEven n d := by
  have quotients : m / d ≤ n / d := Nat.div_le_div_right le
  rcases Nat.lt_or_eq_of_le quotients with less | same
  · exact (roundHalfEven_le m d).trans ((Nat.succ_le_of_lt less).trans (le_roundHalfEven n d))
  · have remainders : m % d ≤ n % d := by
      have h₁ := Nat.div_add_mod m d
      have h₂ := Nat.div_add_mod n d
      rw [← same] at h₂
      omega
    simp only [roundHalfEven, ← same, beq_iff_eq]
    split_ifs <;> omega

/-- Only the quotient matters. -/
theorem roundHalfEven_mul {c : Nat} (positive : 0 < c) : roundHalfEven (n * c) (d * c) = roundHalfEven n d := by
  have double : 2 * (n % d * c) = 2 * (n % d) * c := (Nat.mul_assoc _ _ _).symm
  simp only [roundHalfEven, Nat.mul_div_mul_right n d positive, Nat.mul_mod_mul_right, double,
    Nat.mul_lt_mul_right positive]

/-! ## Multiples of the least number -/

/-- How many bits of a whole number there is no room for. -/
def excess (n : Nat) : Nat := n.log2 - 52

/-- What a multiple of the least number is rounded to, as such a multiple. -/
def rounded (n : Nat) : Nat := roundHalfEven n (2 ^ excess n) * 2 ^ excess n

theorem excess_mono (le : m ≤ n) : excess m ≤ excess n := by
  have logs : m.log2 ≤ n.log2 := by
    rw [Nat.log2_eq_log_two, Nat.log2_eq_log_two]
    exact Nat.log_mono_right le
  unfold excess
  omega

theorem div_excess_lt (n : Nat) : n / 2 ^ excess n < 2 ^ 53 := by
  rw [Nat.div_lt_iff_lt_mul (Nat.two_pow_pos _), ← Nat.pow_add]
  refine Nat.lt_log2_self.trans_le (Nat.pow_le_pow_right (by decide) ?_)
  unfold excess
  omega

theorem le_div_excess (large : 0 < excess n) : 2 ^ 52 ≤ n / 2 ^ excess n := by
  have filled : n ≠ 0 := by
    rintro rfl
    simp [excess] at large
  rw [Nat.le_div_iff_mul_le (Nat.two_pow_pos _), ← Nat.pow_add]
  refine le_trans (Nat.pow_le_pow_right (by decide) ?_) (Nat.log2_self_le filled)
  unfold excess at large ⊢
  omega

theorem mantissa_le (n : Nat) : roundHalfEven n (2 ^ excess n) ≤ 2 ^ 53 :=
  (roundHalfEven_le n _).trans (div_excess_lt n)

/-- A mantissa that has become too large by one is half as large with one bit more below it. -/
theorem carry (k : Nat) : 2 ^ 53 * 2 ^ k = 2 ^ 52 * 2 ^ (k + 1) := by
  rw [Nat.pow_succ 2 k, Nat.pow_succ 2 52]
  ring

/-- Rounding keeps the order: where there is room for fewer bits, numbers are larger. -/
theorem rounded_mono (le : m ≤ n) : rounded m ≤ rounded n := by
  rcases Nat.lt_or_eq_of_le (excess_mono le) with fewer | same
  · calc rounded m ≤ 2 ^ 53 * 2 ^ excess m := Nat.mul_le_mul_right _ (mantissa_le m)
      _ = 2 ^ 52 * 2 ^ (excess m + 1) := carry _
      _ ≤ 2 ^ 52 * 2 ^ excess n := Nat.mul_le_mul_left _ (Nat.pow_le_pow_right (by decide) fewer)
      _ ≤ roundHalfEven n (2 ^ excess n) * 2 ^ excess n :=
        Nat.mul_le_mul_right _ ((le_div_excess (by omega)).trans (le_roundHalfEven n _))
  · unfold rounded
    rw [same]
    exact Nat.mul_le_mul_right _ (roundHalfEven_mono le)

/-- The most bits for which there is no room, but which a number can have. -/
@[irreducible]
def greatestExcess : Nat := (greatestExponent - leastExponent).toNat

theorem natCast_greatestExcess : (greatestExcess : Int) = greatestExponent - leastExponent := by
  rw [greatestExcess]
  rfl

/-- Past the greatest number. -/
def limit : Nat := 2 ^ 53 * 2 ^ greatestExcess

theorem pow_mul_pow {a b c : Nat} (sum : a + b = c) : Nat.pow 2 a * Nat.pow 2 b = Nat.pow 2 c := by
  rw [Nat.pow_eq, Nat.pow_eq, Nat.pow_eq, ← Nat.pow_add, sum]

/-- A power of two as denominator makes the guess exact: the quotient has 53 bits at least. -/
theorem le_scaled (filled : n ≠ 0) {guess : Int} (exact : guess = n.log2 - 1126) :
    Nat.pow 2 52 ≤ (scaled n denominator guess).1 / (scaled n denominator guess).2 := by
  have bits : Nat.pow 2 n.log2 ≤ n := Nat.log2_self_le filled
  unfold scaled denominator
  split
  · have power : Nat.pow 2 52 * (Nat.pow 2 1074 * Nat.pow 2 guess.toNat) = Nat.pow 2 n.log2 := by
      rw [pow_mul_pow (c := 1074 + guess.toNat) rfl, pow_mul_pow (c := n.log2) (by omega)]
    exact (Nat.le_div_iff_mul_le (Nat.mul_pos (Nat.two_pow_pos _) (Nat.two_pow_pos _))).mpr (power.trans_le bits)
  · have power : Nat.pow 2 52 * Nat.pow 2 1074 = Nat.pow 2 n.log2 * Nat.pow 2 (-guess).toNat := by
      rw [pow_mul_pow (c := 1126) rfl, pow_mul_pow (c := 1126) (by omega)]
    have positive : 0 < Nat.pow 2 1074 := Nat.two_pow_pos 1074
    generalize Nat.pow 2 1074 = least at power positive ⊢
    exact (Nat.le_div_iff_mul_le positive).mpr (power.trans_le (Nat.mul_le_mul_right _ bits))

theorem unitExponent_denominator (filled : n ≠ 0) : unitExponent n denominator = leastExponent + excess n := by
  have log : denominator.log2 = 1074 := Nat.log2_two_pow
  have exact : (n.log2 : Int) - (denominator.log2 : Int) - 52 = n.log2 - 1126 := by
    rw [log]
    omega
  have room := le_scaled filled exact
  rw [exact] at room
  simp only [unitExponent, exact]
  rw [if_neg (Nat.not_lt.mpr room)]
  unfold leastExponent excess
  omega

/-- The quotient that is rounded is that of the number and the power of two for which there is no room. -/
theorem roundHalfEven_scaled (n k : Nat) :
    roundHalfEven (scaled n denominator (leastExponent + k)).1 (scaled n denominator (leastExponent + k)).2 =
      roundHalfEven n (2 ^ k) := by
  unfold scaled denominator
  split
  · rename_i above
    rw [pow_mul_pow (show 1074 + (leastExponent + k).toNat = k by unfold leastExponent at above ⊢; omega)]
    rfl
  · rename_i below
    rw [← pow_mul_pow (show k + (-(leastExponent + k)).toNat = 1074 by unfold leastExponent at below ⊢; omega)]
    exact roundHalfEven_mul (Nat.two_pow_pos _)

/-- What a multiple of the least number is rounded to, by its mantissa and the bits for which there is no room. -/
theorem ofRatio_eq (negative : Bool) (filled : n ≠ 0) {q k : Nat} (mantissa : roundHalfEven n (2 ^ excess n) = q)
    (bits : excess n = k) :
    ofRatio negative n denominator =
      if q = Nat.pow 2 53 then
        if greatestExponent < leastExponent + k + 1 then infinite negative
        else finite negative (Nat.pow 2 52) (leastExponent + k + 1)
      else if greatestExponent < leastExponent + k then infinite negative
      else finite negative q (leastExponent + k) := by
  have exponent := unitExponent_denominator filled
  have quotient := roundHalfEven_scaled n (excess n)
  rw [mantissa] at quotient
  rw [bits] at exponent quotient
  simp only [ofRatio, filled, if_false, exponent, quotient]
  split <;> rfl

/-- A multiple of the least number is rounded to an infinity, or to a number. -/
theorem ofRatio_denominator (negative : Bool) (filled : n ≠ 0) :
    (limit ≤ rounded n ∧ ofRatio negative n denominator = infinite negative) ∨
    (rounded n < limit ∧ ∃ m e, ofRatio negative n denominator = finite negative m e ∧
      numerator negative m e = signed negative (rounded n)) := by
  have most := mantissa_le n
  have least : 0 < excess n → 2 ^ 52 ≤ roundHalfEven n (2 ^ excess n) := fun large =>
    (le_div_excess large).trans (le_roundHalfEven n _)
  unfold rounded
  have whole := ofRatio_eq negative filled rfl rfl
  generalize roundHalfEven n (2 ^ excess n) = q at most least whole ⊢
  generalize excess n = k at *
  have size (m k : Nat) : numerator negative m (leastExponent + k) = signed negative (m * 2 ^ k) := by
    rw [numerator, show (leastExponent + k - leastExponent).toNat = k by omega]
    rfl
  have top := natCast_greatestExcess
  have powers (a b : Nat) (le : a ≤ b) : (2 : Nat) ^ a ≤ 2 ^ b := Nat.pow_le_pow_right (by decide) le
  rw [whole]
  by_cases carries : q = Nat.pow 2 53
  · rw [if_pos carries, carries]
    by_cases large : greatestExcess ≤ k
    · rw [if_pos (by omega)]
      exact .inl ⟨Nat.mul_le_mul_left _ (powers _ _ large), rfl⟩
    · rw [if_neg (by omega)]
      refine .inr ⟨?_, _, _, rfl, ?_⟩
      · exact Nat.mul_lt_mul_of_pos_left (Nat.pow_lt_pow_right (by decide) (by omega)) (Nat.two_pow_pos 53)
      · have next := size (Nat.pow 2 52) (k + 1)
        rw [show Nat.pow 2 52 * 2 ^ (k + 1) = Nat.pow 2 53 * 2 ^ k from (carry k).symm] at next
        rw [← next, Nat.cast_succ, ← Int.add_assoc]
  · have below : q < 2 ^ 53 := lt_of_le_of_ne most carries
    rw [if_neg carries]
    by_cases large : greatestExcess < k
    · rw [if_pos (by omega)]
      refine .inl ⟨?_, rfl⟩
      calc limit = 2 ^ 52 * 2 ^ (greatestExcess + 1) := carry greatestExcess
        _ ≤ q * 2 ^ k := Nat.mul_le_mul (least (by omega)) (powers _ _ large)
    · rw [if_neg (by omega)]
      refine .inr ⟨?_, _, _, rfl, size q k⟩
      calc q * 2 ^ k < 2 ^ 53 * 2 ^ k := Nat.mul_lt_mul_of_pos_right below (Nat.two_pow_pos k)
        _ ≤ limit := Nat.mul_le_mul_left _ (powers _ _ (by omega))

/-! ## Whole multiples with a sign -/

/-- What a multiple of the least number with a sign is rounded to. -/
def roundedInt (i : Int) : Int := signed (i < 0) (rounded i.natAbs)

theorem roundedInt_mono {i j : Int} (le : i ≤ j) : roundedInt i ≤ roundedInt j := by
  unfold roundedInt signed
  rcases lt_or_ge j 0 with negative | positive
  · have magnitudes := rounded_mono (show j.natAbs ≤ i.natAbs by omega)
    simp only [decide_eq_true_eq, if_pos negative, if_pos (show i < 0 by omega)]
    omega
  · simp only [decide_eq_true_eq, if_neg (show ¬ j < 0 by omega)]
    rcases lt_or_ge i 0 with below | above
    · rw [if_pos below]
      omega
    · have magnitudes := rounded_mono (show i.natAbs ≤ j.natAbs by omega)
      rw [if_neg (by omega)]
      omega

/-- Whether what a whole multiple is rounded to lies below a number. -/
def LiesBelow (v : Int) : Binary64 → Prop
  | nan => False
  | infinite s => s = false ∧ v < limit
  | finite t k f => v ≤ -(limit : Int) ∨ (v < limit ∧ v < numerator t k f)

theorem LiesBelow.of_le {v u : Int} {w : Binary64} (le : v ≤ u) (below : LiesBelow u w) : LiesBelow v w := by
  cases w with
  | nan => exact below
  | infinite s => exact ⟨below.1, by have := below.2; omega⟩
  | finite t k f =>
    obtain least | ⟨room, less⟩ := below
    · exact .inl (by omega)
    · exact .inr ⟨by omega, by omega⟩

theorem limit_pos : 0 < limit := Nat.mul_pos (Nat.two_pow_pos 53) (Nat.two_pow_pos _)

/-- A whole multiple is rounded to an infinity on its side, or to a number. -/
theorem ofNumerator_cases (zeroSign : Bool) (i : Int) :
    (roundedInt i ≤ -(limit : Int) ∧ ofNumerator zeroSign i = infinite true) ∨
    (limit ≤ roundedInt i ∧ ofNumerator zeroSign i = infinite false) ∨
    (-(limit : Int) < roundedInt i ∧ roundedInt i < limit ∧ ∃ s m e, ofNumerator zeroSign i = finite s m e ∧
      numerator s m e = roundedInt i) := by
  have positive := limit_pos
  unfold ofNumerator
  by_cases zero : i = 0
  · subst zero
    have nothing : roundedInt 0 = 0 := by simp [roundedInt, signed, rounded, roundHalfEven, excess]
    rw [nothing, if_pos rfl]
    refine .inr (.inr ⟨by omega, by omega, zeroSign, 0, leastExponent, rfl, ?_⟩)
    cases zeroSign <;> simp [numerator, signed]
  · rw [if_neg zero]
    obtain ⟨large, same⟩ | ⟨small, m, e, same, size⟩ := ofRatio_denominator (i < 0) (show i.natAbs ≠ 0 by omega)
    · rw [same]
      rcases lt_or_ge i 0 with negative | above
      · refine .inl ⟨?_, by simp [negative]⟩
        simp only [roundedInt, signed, negative, decide_true, if_true]
        omega
      · refine .inr (.inl ⟨?_, by simp [above]⟩)
        simp only [roundedInt, signed, decide_eq_true_eq, if_neg (show ¬ i < 0 by omega)]
        omega
    · refine .inr (.inr ⟨?_, ?_, _, m, e, same, size⟩)
      all_goals
        simp only [roundedInt, signed]
        split <;> omega

theorem ofNumerator_lt_iff (zeroSign : Bool) (i : Int) (w : Binary64) :
    (ofNumerator zeroSign i).cmp? w = some .lt ↔ LiesBelow (roundedInt i) w := by
  have positive := limit_pos
  obtain ⟨least, same⟩ | ⟨most, same⟩ | ⟨above, below, s, m, e, same, size⟩ := ofNumerator_cases zeroSign i
  · rw [same]
    rcases w with ⟨t, k, f⟩ | t | _
    · simp [cmp?, LiesBelow, least]
    · cases t <;> simp [cmp?, LiesBelow]
      omega
    · simp [cmp?, LiesBelow]
  · rw [same]
    rcases w with ⟨t, k, f⟩ | t | _
    · simp only [cmp?, LiesBelow]
      simp
      omega
    · cases t <;> simp [cmp?, LiesBelow, most]
    · simp [cmp?, LiesBelow]
  · rw [same]
    rcases w with ⟨t, k, f⟩ | t | _
    · simp only [cmp?, LiesBelow, size, Option.some.injEq, Int.compare_eq_lt]
      omega
    · cases t <;> simp [cmp?, LiesBelow, below]
    · simp [cmp?, LiesBelow]

/-! ## Spans -/

/-- Nothing lies above an infinity. -/
theorem infinite_sub_not_lt (z w : Binary64) : ((infinite false).sub z).cmp? w ≠ some .lt := by
  rcases z with ⟨u, l, g⟩ | (_ | _) | _ <;> rcases w with ⟨v, o, h⟩ | (_ | _) | _ <;> simp [sub, neg, add, cmp?]

/-- A span from the beginning of all time is the shortest there is. -/
theorem infinite_sub_lt {y z w : Binary64} (later : (y.sub z).cmp? w = some .lt) :
    ((infinite true).sub z).cmp? w = some .lt := by
  have room : (infinite true).cmp? w = some .lt := by
    rcases w with ⟨v, o, h⟩ | (_ | _) | _
    · rfl
    · rfl
    · cases span : y.sub z with
      | infinite s => cases s <;> simp [span, cmp?] at later
      | finite | nan => simp [span, cmp?] at later
    · cases span : y.sub z <;> simp [span, cmp?] at later
  rcases z with ⟨u, l, g⟩ | (_ | _) | _
  · exact room
  · exact room
  · rcases y with ⟨t, k, f⟩ | (_ | _) | _ <;> rcases w with ⟨v, o, h⟩ | (_ | _) | _ <;>
      simp [sub, neg, add, cmp?] at later
  · rcases y with ⟨t, k, f⟩ | (_ | _) | _ <;> simp [sub, neg, add, cmp?] at later

/-- The time from a moment on is shorter at an earlier time than at a later one. -/
theorem sub_lt_of_le {x y z w : Binary64} (le : x.isAtMost y = true) (later : (y.sub z).cmp? w = some .lt) :
    (x.sub z).cmp? w = some .lt := by
  simp only [isAtMost, Bool.or_eq_true, beq_iff_eq] at le
  rcases x with ⟨s, m, e⟩ | (_ | _) | _
  · rcases y with ⟨t, k, f⟩ | (_ | _) | _
    · rcases z with ⟨u, l, g⟩ | u | _
      · -- Only here anything is rounded.
        simp only [cmp?, Option.some.injEq, Int.compare_eq_lt, Int.compare_eq_eq] at le
        simp only [sub, neg, add, ofNumerator_lt_iff] at later ⊢
        exact later.of_le (roundedInt_mono (by omega))
      · exact later
      · exact later
    · exact absurd later (infinite_sub_not_lt z w)
    · simp [cmp?] at le
    · simp [cmp?] at le
  · rcases y with ⟨t, k, f⟩ | (_ | _) | _
    · simp [cmp?] at le
    · exact later
    · simp [cmp?] at le
    · simp [cmp?] at le
  · exact infinite_sub_lt later
  · simp [cmp?] at le

end Letterpress.Binary64
