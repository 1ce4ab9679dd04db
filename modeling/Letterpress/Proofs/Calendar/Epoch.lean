import Letterpress.Calendar.Moment
import Letterpress.Proofs.Calendar.Date
import Letterpress.Proofs.Number.Arithmetic

/-!
# Moments as seconds

A number of seconds since 1970 is split into whole seconds and microseconds. It belongs to a moment if it lies within
the years 1 to 9999, and the moment is less than a microsecond away from it.

* `Moment.splitSeconds_spec`: the whole seconds and the microseconds of a number.
* `Moment.ofEpochSeconds_cases`: the moment of a number of seconds.
-/

namespace Letterpress.Moment

open Binary64

variable {s : Bool} {m : Nat} {e : Int}

/-! ## Splitting seconds -/

theorem roundToInt_near (small : |ratio s m e| ≤ 2 ^ 52) :
    |(roundToInt (finite s m e) : ℚ) - ratio s m e| ≤ 1 / 2 := by
  have near := roundHalfEven_near (n := (scaled m 1 (-e)).1) (scaled_pos (n := m) one_pos (-e))
  have value : (m : ℚ) / (1 : Nat) / 2 ^ (-e) = m * 2 ^ e := by rw [zpow_neg, div_inv_eq_mul, Nat.cast_one, div_one]
  rw [cast_scaled, value] at near
  have rounding : roundPlaces (finite s m e) 0 =
      ofRatio s (roundHalfEven (scaled m 1 (-e)).1 (scaled m 1 (-e)).2) 1 := by
    simp [roundPlaces]
  rw [roundToInt, rounding]
  generalize roundHalfEven (scaled m 1 (-e)).1 (scaled m 1 (-e)).2 = n at *
  rw [ratio_eq_oriented] at small ⊢
  rw [abs_oriented, abs_of_nonneg (by positivity)] at small
  have most : n ≤ 2 ^ 53 := by
    have bound : (n : ℚ) ≤ 2 ^ 53 := by linarith [(abs_le.mp near).2]
    exact_mod_cast bound
  have whole : oriented s (n / (1 : Nat)) = (signed s n : ℚ) := by
    cases s <;> simp [oriented, signed]
  have room : (n : ℚ) / (1 : Nat) < roundingLimit := by
    have bound : (n : ℚ) ≤ 2 ^ 53 := by exact_mod_cast most
    rw [Nat.cast_one, div_one]
    exact bound.trans_lt lt_roundingLimit
  -- The rounded number is whole, so nothing is lost when it is rounded again and cut.
  have rounds := rounds_ofRatio (n := n) s one_pos room
  obtain ⟨t, k, f, same, proper, exact⟩ := rounds.exact (z := signed s n) (j := 0) (by cases s <;> simp [signed] <;> omega)
    (by decide) (by rw [whole, zpow_zero, mul_one])
  rw [same] at proper
  rw [same, truncate?_of_int (z := signed s n) proper.2.1 (exact.trans whole), Option.getD_some]
  cases s
  · simpa [oriented, signed] using near
  · simpa [oriented, signed, abs_sub_comm, neg_add_eq_sub] using near

/-- What is left of a number without its whole part is computed exactly: it needs no more bits than the number. -/
theorem sub_truncate (proper : (finite s m e).IsProper) {w : Int} (near : |ratio s m e - w| < 1)
    (less : |ratio s m e - w| ≤ |ratio s m e|) (small : |w| ≤ 2 ^ 53) :
    ∃ t k f, sub (finite s m e) (ofInt w) = finite t k f ∧ (finite t k f).IsProper ∧
      ratio t k f = ratio s m e - w := by
  obtain ⟨t, k, f, same, proper', exact⟩ := ofInt_exact small
  have value : ratio s m e + ratio (!t) k f = ratio s m e - w := by rw [ratio_neg, exact, sub_eq_add_neg]
  have rounds := rounds_add (s := s) (m := m) (t := !t) (k := k) proper.2.1 proper'.2.1
    (by rw [value]; linarith [lt_roundingLimit])
  rw [value] at rounds
  have grid : ∃ z j : Int, |z| ≤ 2 ^ 53 ∧ leastExponent ≤ j ∧ ratio s m e - w = z * 2 ^ j := by
    rcases lt_or_ge e 0 with fraction | whole
    · -- The difference is a multiple of the number's own unit.
      have scale : (0 : ℚ) < 2 ^ e := two_zpow_pos e
      have units : (2 : ℚ) ^ (-e).toNat * 2 ^ e = 1 := by
        rw [two_pow_mul_zpow, Int.toNat_of_nonneg (by omega), neg_add_cancel, zpow_zero]
      have difference : ratio s m e - w = (signed s m - w * 2 ^ (-e).toNat : Int) * 2 ^ e := by
        rw [Int.cast_sub, Int.cast_mul, Int.cast_pow, Int.cast_ofNat, sub_mul, mul_assoc, units, mul_one, ratio]
      refine ⟨_, e, ?_, proper.2.1, difference⟩
      rw [difference, ratio, abs_mul, abs_mul, mul_le_mul_iff_left₀ (abs_pos.mpr scale.ne')] at less
      have fewer : |signed s m - w * 2 ^ (-e).toNat| ≤ |signed s m| := by exact_mod_cast less
      have mantissa : |signed s m| = m := by cases s <;> simp [signed]
      have bits : m < 2 ^ 53 := proper.1
      omega
    · have value : ratio s m e = (signed s m * 2 ^ e.toNat : Int) := by
        rw [ratio, Int.cast_mul, Int.cast_pow, Int.cast_ofNat, ← zpow_natCast, Int.toNat_of_nonneg whole]
      rw [value, ← Int.cast_sub] at near ⊢
      have same : signed s m * 2 ^ e.toNat - w = 0 := Int.abs_lt_one_iff.mp (by exact_mod_cast near)
      exact ⟨0, 0, by decide, by decide, by rw [same, zpow_zero, mul_one]⟩
  obtain ⟨z, j, fits, least, same'⟩ := grid
  rw [sub, same, neg]
  obtain ⟨t', k', f', same'', proper'', exact'⟩ := rounds.exact fits least same'
  exact ⟨t', k', f', same'', same'' ▸ proper'', exact'⟩

theorem splitSeconds_far (least : leastExponent ≤ e) :
    |((splitSeconds (finite s m e)).1 : ℚ) - ratio s m e| < 2 := by
  obtain ⟨w, cut, near, -⟩ := truncate?_spec (s := s) (m := m) least
  have bounds := abs_lt.mp near
  simp only [splitSeconds, cut, Option.getD_some, abs_lt]
  split
  · push_cast
    constructor <;> linarith
  · split
    · push_cast
      constructor <;> linarith
    · constructor <;> linarith

/-- Whole seconds and microseconds, together less than a microsecond away from a number that is not too large. -/
theorem splitSeconds_spec (proper : (finite s m e).IsProper) (small : |ratio s m e| < 2 ^ 40) :
    0 ≤ (splitSeconds (finite s m e)).2 ∧ (splitSeconds (finite s m e)).2 < 1000000 ∧
      |(((splitSeconds (finite s m e)).1 * 1000000 + (splitSeconds (finite s m e)).2 : Int) : ℚ) -
        ratio s m e * 1000000| ≤ 3 / 5 := by
  obtain ⟨w, cut, near, less⟩ := truncate?_spec (s := s) (m := m) proper.2.1
  have fits : |w| ≤ 2 ^ 53 := by
    have magnitude : |(w : ℚ)| ≤ 2 ^ 53 := by
      have bounds := abs_lt.mp near
      have bounds' := abs_lt.mp small
      exact abs_le.mpr ⟨by linarith, by linarith⟩
    exact_mod_cast magnitude
  obtain ⟨t, k, f, fraction, -, exact⟩ := sub_truncate proper near less fits
  obtain ⟨t', k', f', same, -, value⟩ := ofInt_exact (i := 1000000) (by decide)
  -- The fraction of a second is scaled with a small error, and then rounded to a whole number.
  have part := abs_lt.mp near
  have size : |ratio t k f * ratio t' k' f'| ≤ 1000000 := by
    rw [exact, value, abs_mul]
    push_cast
    rw [abs_of_nonneg (by norm_num : (0 : ℚ) ≤ 1000000)]
    linarith
  have room : (2 : ℚ) ^ 53 * 2 ^ (-33 : Int) = 1048576 := by norm_num
  obtain ⟨t'', k'', f'', scaled, -, nearest⟩ := rounds_mul (by linarith [lt_roundingLimit])
  have error := nearest.close (-33) (by decide) (by linarith)
  rw [exact, value] at nearest error
  have most : ratio t'' k'' f'' ≤ (1000000 : Int) := nearest.le_int (by decide) (by push_cast; linarith)
  have least : ((-1000000 : Int) : ℚ) ≤ ratio t'' k'' f'' := nearest.int_le (by decide) (by push_cast; linarith)
  have size' : |ratio t'' k'' f''| ≤ 1000000 := by
    push_cast at most least
    exact abs_le.mpr ⟨least, most⟩
  have whole := roundToInt_near (s := t'') (m := k'') (e := f'') (by linarith)
  simp only [splitSeconds, cut, Option.getD_some, fraction, same, scaled]
  generalize roundToInt (finite t'' k'' f'') = us at *
  have top : us ≤ 1000000 := near_le whole most
  have bottom : -1000000 ≤ us := le_of_near whole least
  have sum : |((w * 1000000 + us : Int) : ℚ) - ratio s m e * 1000000| ≤ 3 / 5 := by
    have unit : (2 : ℚ) ^ (-33 : Int) / 2 ≤ 1 / 10 := by norm_num
    have bounds := abs_le.mp whole
    have bounds' := abs_le.mp error
    push_cast at bounds' ⊢
    exact abs_le.mpr ⟨by linarith, by linarith⟩
  split
  · exact ⟨by omega, by omega, by rw [show (w + 1) * 1000000 + (us - 1000000) = w * 1000000 + us by ring]; exact sum⟩
  · split
    · exact ⟨by omega, by omega, by rw [show (w - 1) * 1000000 + (us + 1000000) = w * 1000000 + us by ring]; exact sum⟩
    · exact ⟨by omega, by omega, sum⟩

/-! ## Moments -/

/-- The first second of the year 1, counted from 1970. -/
def firstSecond : Int := -62135596800

/-- The first second after the year 9999, counted from 1970. -/
def endSecond : Int := 253402300800

/-- The seconds from midnight of day 0 up to 1970, from where moments count. -/
def epochSecond : Int := epochOrdinal * 86400

/-- The whole seconds of the years 1 to 9999 belong to a moment each, and no others do. -/
theorem ofEpochParts?_cases (seconds : Int) :
    (firstSecond ≤ seconds ∧ seconds < endSecond ∧ ∀ us < 1000000, ∃ t, ofEpochParts? seconds us = some t ∧
        t.offset = some 0 ∧ t.instant = (epochSecond + seconds) * 1000000 + us) ∨
      ((seconds < firstSecond ∨ endSecond ≤ seconds) ∧ ∀ us, ofEpochParts? seconds us = none) := by
  have day := Int.mul_fdiv_add_fmod seconds 86400
  have clock := Int.fmod_nonneg_of_pos seconds (by decide : (0 : Int) < 86400)
  have clock' := Int.fmod_lt_of_pos seconds (by decide : (0 : Int) < 86400)
  simp only [ofEpochParts?, firstSecond, endSecond, epochSecond, epochOrdinal]
  generalize Int.fdiv seconds 86400 = d at *
  generalize Int.fmod seconds 86400 = c at *
  obtain ⟨n, rfl⟩ := Int.eq_ofNat_of_zero_le clock
  by_cases early : d + 719163 < 1
  · exact .inr ⟨by omega, fun us => if_pos early⟩
  · obtain ⟨k, same⟩ := Int.eq_ofNat_of_zero_le (a := d + 719163) (by omega)
    simp only [early, if_false]
    rw [same, Int.toNat_natCast, Int.toNat_natCast]
    obtain ⟨most, date, found, number⟩ | ⟨more, none⟩ := Date.ofOrdinal?_cases (n := k) (by omega)
    · have hour : n / 3600 < 24 := by omega
      have minute : n / 60 % 60 < 60 := Nat.mod_lt _ (by decide)
      have second : n % 60 < 60 := Nat.mod_lt _ (by decide)
      unfold Date.lastOrdinal at most
      refine .inl ⟨by omega, by omega, fun us small =>
        ⟨⟨date, ⟨_, hour⟩, ⟨_, minute⟩, ⟨_, second⟩, ⟨us, small⟩, some 0⟩, ?_, rfl, ?_⟩⟩
      · simp [found, of?, hour, minute, second, small]
      · simp only [instant, number, Option.getD_some]
        push_cast
        omega
    · unfold Date.lastOrdinal at more
      exact .inr ⟨by omega, fun us => by rw [none]; rfl⟩

/-- The whole seconds of a number lie in the years 1 to 9999 if the number does. -/
theorem splitSeconds_range (proper : (finite s m e).IsProper) :
    (firstSecond ≤ (splitSeconds (finite s m e)).1 ↔ (firstSecond : ℚ) ≤ ratio s m e) ∧
      ((splitSeconds (finite s m e)).1 < endSecond ↔ ratio s m e < (endSecond : ℚ)) := by
  rcases lt_or_ge |ratio s m e| (2 ^ 40) with small | large
  · obtain ⟨nonneg, less, near⟩ := splitSeconds_spec proper small
    generalize (splitSeconds (finite s m e)).1 = seconds at *
    generalize (splitSeconds (finite s m e)).2 = us at *
    have bounds := abs_le.mp near
    have whole (i : Int) : i ≤ seconds ↔ i * 1000000 ≤ seconds * 1000000 + us := by omega
    have reach (i : Int) (le : (i : ℚ) ≤ ratio s m e) : i ≤ seconds := by
      rw [whole, ← Int.lt_add_one_iff, ← Int.cast_lt (R := ℚ)]
      push_cast at bounds ⊢
      linarith
    -- A number of this size that is less than a whole one is less by more than what rounding may add.
    have stay (i : Int) (large : 2 ^ (35 : Int) ≤ |ratio s m e|) (less : ratio s m e < i) : seconds < i := by
      have gap := add_le_of_lt (j := -17) proper.1 large (by decide) less
      have step : (1 : ℚ) ≤ 2 ^ (-17 : Int) * 1000000 := by norm_num
      rw [← not_le, whole, ← Int.cast_le (R := ℚ), not_le]
      push_cast at bounds ⊢
      linarith
    refine ⟨⟨fun le => ?_, reach firstSecond⟩, ⟨fun less => ?_, fun less => ?_⟩⟩
    · by_contra early
      rw [not_le] at early
      have size : (2 : ℚ) ^ (35 : Int) ≤ |ratio s m e| := by
        refine le_trans ?_ (neg_le_abs _)
        norm_num [firstSecond] at early ⊢
        linarith
      exact absurd le (not_le.mpr (stay firstSecond size early))
    · by_contra late
      exact absurd less (not_lt.mpr (reach endSecond (not_lt.mp late)))
    · rcases lt_or_ge (ratio s m e) (2 ^ (35 : Int)) with early | late
      · rw [← Int.cast_lt (R := ℚ)]
        norm_num [endSecond] at early ⊢
        push_cast at bounds
        have nonneg' : (0 : ℚ) ≤ us := by exact_mod_cast nonneg
        linarith
      · exact stay endSecond (late.trans (le_abs_self _)) less
  · have bounds := abs_lt.mp (splitSeconds_far (s := s) (m := m) proper.2.1)
    generalize (splitSeconds (finite s m e)).1 = seconds at *
    rw [← Int.cast_le (R := ℚ), ← Int.cast_lt (R := ℚ)]
    norm_num [firstSecond, endSecond]
    rcases le_abs.mp large with right | left
    · exact ⟨iff_of_true (by linarith) (by linarith), iff_of_false (by linarith) (by linarith)⟩
    · exact ⟨iff_of_false (by linarith) (by linarith), iff_of_true (by linarith) (by linarith)⟩

/-- A number of seconds since 1970 that lies within the years 1 to 9999. -/
def WithinYears (q : ℚ) : Prop := firstSecond ≤ q ∧ q < endSecond

/-- A number of seconds within the years 1 to 9999 belongs to a moment in UTC less than a microsecond away from it, and
any other number of seconds belongs to none. -/
theorem ofEpochSeconds_cases (proper : (finite s m e).IsProper) :
    (WithinYears (ratio s m e) ∧ ∃ t, ofEpochSeconds (finite s m e) = .ok t ∧ t.offset = some 0 ∧
        |(t.instant : ℚ) - (epochSecond + ratio s m e) * 1000000| ≤ 3 / 5) ∨
      (¬WithinYears (ratio s m e) ∧ ∃ f, ofEpochSeconds (finite s m e) = .error f) := by
  obtain ⟨first, last⟩ := splitSeconds_range proper
  have spec := splitSeconds_spec proper
  have within : WithinYears (ratio s m e) ↔
      firstSecond ≤ (splitSeconds (finite s m e)).1 ∧ (splitSeconds (finite s m e)).1 < endSecond := by
    rw [first, last, WithinYears]
  unfold ofEpochSeconds
  dsimp only
  generalize (splitSeconds (finite s m e)).1 = seconds at *
  generalize (splitSeconds (finite s m e)).2 = us at *
  by_cases inside : WithinYears (ratio s m e)
  · have size : |ratio s m e| < 2 ^ 40 := by
      obtain ⟨low, high⟩ := inside
      norm_num [firstSecond, endSecond] at low high
      exact abs_lt.mpr ⟨by linarith, by linarith⟩
    obtain ⟨nonneg, less, near⟩ := spec size
    obtain ⟨n, rfl⟩ := Int.eq_ofNat_of_zero_le nonneg
    obtain ⟨low, high, all⟩ | ⟨outside, -⟩ := ofEpochParts?_cases seconds
    · obtain ⟨t, found, zone, instant⟩ := all n (by omega)
      have counted : ¬(seconds < -secondsLimit ∨ secondsLimit ≤ seconds) := by
        unfold firstSecond endSecond secondsLimit at *
        omega
      have named : ¬(seconds < systemRange.1 ∨ systemRange.2 < seconds) := by
        unfold firstSecond endSecond systemRange at *
        omega
      refine .inl ⟨inside, t, ?_, zone, ?_⟩
      · simp only [Bool.or_eq_true, decide_eq_true_eq, counted, named, if_false, Int.toNat_natCast, found]
      rw [instant]
      have same : (((epochSecond + seconds) * 1000000 + n : Int) : ℚ) - (epochSecond + ratio s m e) * 1000000 =
          ((seconds * 1000000 + n : Int) : ℚ) - ratio s m e * 1000000 := by
        push_cast
        ring
      rw [same]
      exact near
    · have both := within.mp inside
      omega
  · refine .inr ⟨inside, ?_⟩
    split
    · exact ⟨_, rfl⟩
    · split
      · exact ⟨_, rfl⟩
      · obtain ⟨low, high, -⟩ | ⟨-, none⟩ := ofEpochParts?_cases seconds
        · exact absurd (within.mpr ⟨low, high⟩) inside
        · rw [none]
          exact ⟨_, rfl⟩

end Letterpress.Moment
