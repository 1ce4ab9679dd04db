import Letterpress.Calendar.Date
import Mathlib.Tactic.NormNum

/-!
# Days and their numbers

The days of the years 1 to 9999 are numbered without gaps: each number from 1 to 3652059 belongs to one day, and the day
that is found for a number has that number.

* `Date.yearOfOrdinal_spec`: the year that holds a day.
* `Date.monthAndDay_spec`: the month that holds a day of the year.
* `Date.ofOrdinal?_cases`: the day of a number.
-/

namespace Letterpress.Date

variable {y m n : Nat}

/-! ## Years -/

def yearLength (year : Nat) : Nat := if isLeapYear year then 366 else 365

theorem daysBeforeYear_succ (positive : 1 ≤ y) : daysBeforeYear (y + 1) = daysBeforeYear y + yearLength y := by
  obtain ⟨k, rfl⟩ := Nat.exists_eq_add_of_le' positive
  have fewer : k / 100 ≤ k := Nat.div_le_self k 100
  have fourth : 100 ∣ k + 1 → 4 ∣ k + 1 := fun century => Nat.dvd_trans (by decide) century
  have century : 400 ∣ k + 1 → 100 ∣ k + 1 := fun fourth => Nat.dvd_trans (by decide) fourth
  simp only [daysBeforeYear, yearLength, isLeapYear, Bool.and_eq_true, Bool.or_eq_true, beq_iff_eq, bne_iff_ne,
    Nat.add_sub_cancel, Nat.succ_div, ← Nat.dvd_iff_mod_eq_zero, ne_eq]
  generalize k / 4 = a, k / 100 = b, k / 400 = c at *
  by_cases long : 400 ∣ k + 1
  · simp only [long, century long, fourth (century long), if_true, true_and, or_true]
    omega
  · by_cases hundred : 100 ∣ k + 1
    · simp only [long, hundred, fourth hundred, if_true, if_false, true_and, not_true, false_or]
      omega
    · by_cases four : 4 ∣ k + 1
      · simp only [long, hundred, four, if_true, if_false, true_and, not_false_iff, true_or]
        omega
      · simp only [long, hundred, four, if_false, false_and]
        omega

theorem daysBeforeYear_mono {x : Nat} (le : x ≤ y) : daysBeforeYear x ≤ daysBeforeYear y := by
  induction le with
  | refl => exact le_rfl
  | @step z _ ih =>
    refine ih.trans ?_
    rcases Nat.eq_zero_or_pos z with rfl | positive
    · decide
    · rw [daysBeforeYear_succ positive]
      exact Nat.le_add_right _ _

/-- The days of some years, against their mean length: 400 years have 146097 days. -/
theorem daysBeforeYear_bounds (k : Nat) :
    146097 * k ≤ 400 * daysBeforeYear (k + 1) + 699 ∧ 400 * daysBeforeYear (k + 1) ≤ 146097 * k + 396 := by
  have fourth := Nat.div_add_mod k 4
  have century := Nat.div_add_mod k 100
  have cycle := Nat.div_add_mod k 400
  have rest : k % 4 < 4 ∧ k % 100 < 100 ∧ k % 400 < 400 := ⟨Nat.mod_lt _ (by decide), Nat.mod_lt _ (by decide),
    Nat.mod_lt _ (by decide)⟩
  simp only [daysBeforeYear, Nat.add_sub_cancel]
  generalize k / 4 = a, k / 100 = b, k / 400 = c, k % 4 = x, k % 100 = y, k % 400 = z at *
  omega

/-- The mean length of a year is a good enough guess: it is wrong by one year at most. -/
theorem yearOfOrdinal_spec (positive : 1 ≤ n) :
    1 ≤ yearOfOrdinal n ∧ daysBeforeYear (yearOfOrdinal n) < n ∧ n ≤ daysBeforeYear (yearOfOrdinal n + 1) := by
  have low : 146097 * ((n - 1) * 400 / 146097) ≤ (n - 1) * 400 := Nat.mul_div_le _ _
  have high : (n - 1) * 400 < 146097 * ((n - 1) * 400 / 146097 + 1) := Nat.lt_mul_div_succ _ (by decide)
  simp only [yearOfOrdinal]
  generalize (n - 1) * 400 / 146097 = k at *
  split
  · rename_i before
    have first : daysBeforeYear (0 + 1) = 0 := rfl
    obtain ⟨j, rfl⟩ : ∃ j, k = j + 1 := Nat.exists_eq_succ_of_ne_zero (by rintro rfl; omega)
    have year := (daysBeforeYear_bounds j).2
    simp only [Nat.add_sub_cancel]
    exact ⟨by omega, by omega, before⟩
  · split
    · rename_i after
      have year := (daysBeforeYear_bounds (k + 1 + 1)).1
      exact ⟨by omega, after, by omega⟩
    · exact ⟨by omega, by omega, by omega⟩

/-! ## Months -/

theorem daysBeforeMonth_succ (positive : 1 ≤ m) :
    daysBeforeMonth y (m + 1) = daysBeforeMonth y m + daysInMonth y m := by
  obtain ⟨k, rfl⟩ := Nat.exists_eq_add_of_le' positive
  rw [daysBeforeMonth, daysBeforeMonth, Nat.add_sub_cancel, Nat.add_sub_cancel, List.range_succ, List.foldl_append]
  rfl

theorem daysBeforeMonth_year (y : Nat) : daysBeforeMonth y 13 = yearLength y := by
  cases leap : isLeapYear y <;> simp [daysBeforeMonth, List.range_succ, daysInMonth, yearLength, leap]

/-- The month that holds a day of the year. By induction on the months that are left. -/
theorem monthAndDay_spec (fuel month day : Nat) (all : month + fuel = 13) (first : 1 ≤ month) (positive : 1 ≤ day)
    (within : daysBeforeMonth y month + day ≤ yearLength y) :
    1 ≤ (monthAndDay y month day fuel).2 ∧
      (monthAndDay y month day fuel).2 ≤ daysInMonth y (monthAndDay y month day fuel).1 ∧
      daysBeforeMonth y (monthAndDay y month day fuel).1 + (monthAndDay y month day fuel).2 =
        daysBeforeMonth y month + day := by
  induction fuel generalizing month day with
  | zero =>
    have last : month = 13 := by omega
    rw [last, daysBeforeMonth_year] at within
    omega
  | succ fuel ih =>
    rw [monthAndDay]
    split
    · rename_i here
      exact ⟨positive, here, rfl⟩
    · rename_i later
      have next := daysBeforeMonth_succ (y := y) first
      have found := ih (month + 1) (day - daysInMonth y month) (by omega) (by omega) (by omega) (by omega)
      exact ⟨found.1, found.2.1, by omega⟩

/-! ## Days -/

/-- The number of the last day of the year 9999. -/
def lastOrdinal : Nat := 3652059

/-- The numbers from 1 to that of the last day belong to a day, and no others do. -/
theorem ofOrdinal?_cases (positive : 1 ≤ n) :
    (n ≤ lastOrdinal ∧ ∃ d, ofOrdinal? n = some d ∧ d.ordinal = n) ∨ (lastOrdinal < n ∧ ofOrdinal? n = none) := by
  obtain ⟨first, above, below⟩ := yearOfOrdinal_spec positive
  simp only [ofOrdinal?]
  generalize yearOfOrdinal n = y at *
  rw [daysBeforeYear_succ first] at below
  have start : daysBeforeMonth y 1 = 0 := rfl
  obtain ⟨day, last, same⟩ := monthAndDay_spec (y := y) 12 1 (n - daysBeforeYear y) rfl le_rfl (by omega) (by omega)
  generalize monthAndDay y 1 (n - daysBeforeYear y) 12 = found at *
  have years : daysBeforeYear 9999 + yearLength 9999 = lastOrdinal := by decide
  rcases Nat.lt_or_ge 9999 y with late | early
  · have later := daysBeforeYear_mono late
    rw [daysBeforeYear_succ (by decide)] at later
    refine .inr ⟨by omega, ?_⟩
    have outside : isCalendarDay y found.1 found.2 = false := by simp [isCalendarDay, late]
    simp [of?, outside]
  · have earlier := daysBeforeYear_mono (Nat.succ_le_succ early)
    rw [daysBeforeYear_succ first, daysBeforeYear_succ (by decide)] at earlier
    have inside : isCalendarDay y found.1 found.2 = true := by simp [isCalendarDay, first, early, day, last]
    refine .inl ⟨by omega, ⟨y, found.1, found.2, inside⟩, by simp [of?, inside], ?_⟩
    simp only [ordinal, dayOfYear]
    omega

end Letterpress.Date
