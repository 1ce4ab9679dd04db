import Letterpress.Helper
import Letterpress.Proofs.Calendar.Epoch
import Letterpress.Proofs.Calendar.Iso
import Letterpress.Proofs.Value

/-!
# Values that name a moment

Moments, dates, texts and numbers of milliseconds since 1970 can be read as moments. Milliseconds are read by their
thousandth, which is rounded; that moves a moment by a few microseconds, and never over the bounds of the years 1 to
9999.

* `Helper.IsTimely`: a number that names a moment.
* `Helper.Names`: a value names a moment.
* `Helper.moment?_cases`: what a value is read as.
-/

namespace Letterpress.Helper

open Binary64 Moment

variable {v : Value} {n : Value.Numeral} {q x : ℚ}

/-! ## Thousandths -/

theorem moment?_numeral (counts : v.numeral? = some n) :
    moment? v = match n.quotient? 1000 with
      | some x => some <$> ofEpochSeconds x
      | none => .error .overflow := by
  cases v <;> cases counts
  case bool b => cases b <;> rfl
  case int i =>
    simp only [moment?, Value.refusal?, Value.Numeral.quotient?]
    cases ofIntRatio? i 1000 <;> rfl
  case float x => rfl

/-- How far apart from the bounds a number of seconds is that lies outside of them, or just before the end. -/
structure IsApart (q : ℚ) : Prop where
  first : q < firstSecond → q + 2 ^ (-17 : Int) ≤ firstSecond
  last : q < endSecond → q + 2 ^ (-15 : Int) ≤ endSecond

/-- Rounding moves no number of seconds over the bounds. -/
theorem withinYears_iff (nearest : Nearest q x) (apart : IsApart q) : WithinYears x ↔ WithinYears q := by
  have low : (firstSecond : ℚ) ≤ x ↔ firstSecond ≤ q := by
    refine ⟨fun le => ?_, nearest.int_le (by decide)⟩
    by_contra early
    have below := nearest.below (firstSecond * 2 ^ 17 - 1) (-17) (by decide) (by decide)
      (by have gap := apart.first (not_le.mp early); norm_num [firstSecond] at gap ⊢; linarith)
    norm_num [firstSecond] at below le
    linarith
  have high : x < endSecond ↔ q < endSecond := by
    constructor
    · intro less
      by_contra late
      exact absurd less (not_lt.mpr (nearest.int_le (by decide) (not_lt.mp late)))
    · intro less
      have below := nearest.below (endSecond * 2 ^ 15 - 1) (-15) (by decide) (by decide)
        (by have gap := apart.last less; norm_num [endSecond] at gap ⊢; linarith)
      norm_num [endSecond] at below ⊢
      linarith
  rw [WithinYears, WithinYears, low, high]

/-- A thousandth of a whole number that is less than a whole number is less by a thousandth. -/
theorem isApart_int (i : Int) : IsApart (i / 1000) := by
  have step {z : Int} (less : (i / 1000 : ℚ) < z) : (i / 1000 + 1 / 1000 : ℚ) ≤ z := by
    have whole : i + 1 ≤ z * 1000 := by
      rw [div_lt_iff₀ (by norm_num)] at less
      exact_mod_cast less
    have whole' : (i + 1 : ℚ) ≤ z * 1000 := by exact_mod_cast whole
    linarith
  exact ⟨fun less => by norm_num; linarith [step less], fun less => by norm_num; linarith [step less]⟩

theorem isApart_ratio {s : Bool} {m : Nat} {e : Int} (proper : (finite s m e).IsProper) :
    IsApart (ratio s m e / 1000) := by
  have scaled {z : Int} (less : ratio s m e / 1000 < z) : ratio s m e < (z * 1000 : Int) := by
    rw [div_lt_iff₀ (by norm_num)] at less
    exact_mod_cast less
  refine ⟨fun less => ?_, fun less => ?_⟩
  · have size : (2 : ℚ) ^ (-7 + 52 : Int) ≤ |ratio s m e| := by
      refine le_trans ?_ (neg_le_abs _)
      have early := scaled less
      norm_num [firstSecond] at early ⊢
      linarith
    have gap := add_le_of_lt proper.1 size (by decide) (scaled less)
    norm_num [firstSecond] at gap ⊢
    linarith
  · rcases lt_or_ge (ratio s m e) (2 ^ (-5 + 52 : Int)) with early | late
    · norm_num [endSecond] at early ⊢
      linarith
    · have gap := add_le_of_lt proper.1 (late.trans (le_abs_self _)) (by decide) (scaled less)
      norm_num [endSecond] at gap ⊢
      linarith

theorem isApart_thousandth (proper : n.IsProper) (finite_ : n.quantity? = some q) : IsApart (q / 1000) := by
  rcases n with i | ⟨s, m, e⟩ | _ | _ <;> cases finite_
  · exact isApart_int i
  · exact isApart_ratio proper

/-! ## Milliseconds -/

/-- A moment in UTC that is as far from 1970 as a number of milliseconds, up to a few microseconds. For a whole number
of milliseconds its clock shows the very second. -/
structure Counts (q : ℚ) (t : Moment) : Prop where
  zone : t.offset = some 0
  near : |(t.instant : ℚ) - (epochSecond * 1000000 + q * 1000)| < 16
  second : ∀ i : Int, q = i → t.instant / 1000000 = epochSecond + i / 1000

theorem counts_of_nearest {t : Moment} (nearest : Nearest (q / 1000) x) (within : WithinYears (q / 1000))
    (zone : t.offset = some 0) (near : |(t.instant : ℚ) - (epochSecond + x) * 1000000| ≤ 3 / 5) : Counts q t := by
  have size : |q / 1000| < 2 ^ 53 * 2 ^ (-15 : Int) := by
    obtain ⟨low, high⟩ := within
    norm_num [firstSecond, endSecond] at low high ⊢
    exact abs_lt.mpr ⟨by linarith, by linarith⟩
  have error := abs_le.mp (nearest.close (-15) (by decide) size)
  have bounds := abs_le.mp near
  norm_num at error
  have less : |(t.instant : ℚ) - (epochSecond * 1000000 + q * 1000)| < 16 := abs_lt.mpr ⟨by linarith, by linarith⟩
  refine ⟨zone, less, ?_⟩
  rintro i rfl
  have parts := Int.mul_ediv_add_emod i 1000
  have rest := Int.emod_nonneg i (by decide : (1000 : Int) ≠ 0)
  have rest' := Int.emod_lt_of_pos i (by decide : (0 : Int) < 1000)
  generalize i / 1000 = j at *
  by_cases whole : i % 1000 = 0
  · -- Whole seconds are not rounded at all.
    have value : (i / 1000 : ℚ) = j * 2 ^ (0 : Int) := by
      rw [← parts, whole]
      push_cast
      ring
    have fits : |j| ≤ 2 ^ 53 := by
      rw [value, zpow_zero, mul_one] at size
      norm_num at size
      have size' : |j| < 274877906944 := by exact_mod_cast size
      omega
    have exact := nearest.eq_of_grid fits (by decide) value
    rw [exact, value, zpow_zero, mul_one] at near
    have same : |t.instant - (epochSecond + j) * 1000000| < 1 := by
      have small : |((t.instant - (epochSecond + j) * 1000000 : Int) : ℚ)| < 1 := by
        push_cast
        linarith
      exact_mod_cast small
    have same' := Int.abs_lt_one_iff.mp same
    omega
  · have apart : |t.instant - (epochSecond * 1000000 + i * 1000)| < 16 := by exact_mod_cast less
    have bounds := abs_lt.mp apart
    omega

/-- A number of milliseconds since 1970 that lies within the years 1 to 9999. -/
def IsTimely (n : Value.Numeral) : Prop := ∃ q, n.quantity? = some q ∧ WithinYears (q / 1000)

/-- Exactly the timely numbers are read as moments, and as the moments that they count. -/
theorem moment?_numeral_cases (proper : n.IsProper) (counts : v.numeral? = some n) :
    (∃ q t, n.quantity? = some q ∧ WithinYears (q / 1000) ∧ moment? v = .ok (some t) ∧ Counts q t) ∨
      (¬IsTimely n ∧ ∃ f, moment? v = .error f) := by
  rw [moment?_numeral counts]
  cases finite_ : n.quantity? with
  | none =>
    refine .inr ⟨?_, ?_⟩
    · rintro ⟨q, same, -⟩
      rw [finite_] at same
      cases same
    · obtain ⟨t, k, f, same, -⟩ := ofInt_exact (i := 1000) (by decide)
      rcases n with i | ⟨s, m, e⟩ | s | _ <;> cases finite_
      · exact ⟨.overflow, by rw [Value.Numeral.quotient?, Nat.cast_ofNat, same]; rfl⟩
      · exact ⟨.badValue, by rw [Value.Numeral.quotient?, Nat.cast_ofNat, same]; rfl⟩
  | some q =>
    have apart := isApart_thousandth proper finite_
    have rounding := Value.Numeral.quotient?_cases proper finite_ (c := 1000) (by decide) (by decide)
    rw [Nat.cast_ofNat] at rounding
    obtain ⟨large, none_, -⟩ | ⟨-, x, some_, s, m, e, rfl, proper', nearest⟩ := rounding
    · refine .inr ⟨?_, .overflow, by rw [none_]⟩
      rintro ⟨q', same, low, high⟩
      cases finite_.symm.trans same
      have limit := lt_roundingLimit
      norm_num [firstSecond, endSecond] at low high
      have bounds := le_abs.mp large
      norm_num at bounds limit
      rcases bounds with bound | bound <;> linarith
    · have within := withinYears_iff nearest apart
      rw [some_]
      dsimp only
      obtain ⟨inside, t, read, zone, near⟩ | ⟨outside, f, refused⟩ := ofEpochSeconds_cases proper'
      · refine .inl ⟨q, t, rfl, within.mp inside, by rw [read]; rfl, ?_⟩
        exact counts_of_nearest nearest (within.mp inside) zone near
      · refine .inr ⟨?_, f, by rw [refused]; rfl⟩
        rintro ⟨q', same, inside⟩
        cases finite_.symm.trans same
        exact outside (within.mpr inside)

/-! ## Values -/

/-- The moment that a value names: its own clock for a moment and for text, midnight for a date, and UTC for
milliseconds since 1970. -/
inductive Names : Value → Moment → Prop
  | moment (t : Moment) : Names (.moment t) t
  | date (d : Date) : Names (.date d) (midnight d)
  | text {v : Value} {s : String} {t : Moment} (text : v.string? = some s)
      (read : Iso.readMoment? (Text.trim s.toList) = some t) : Names v t
  | number {v : Value} {n : Value.Numeral} {q : ℚ} {t : Moment} (counts : v.numeral? = some n)
      (finite : n.quantity? = some q) (within : WithinYears (q / 1000)) (counted : Counts q t) : Names v t

theorem Names.refusal? {t : Moment} (named : Names v t) : v.refusal? = none := by
  cases named with
  | moment => rfl
  | date => rfl
  | text text => cases v <;> cases text <;> rfl
  | number counts => cases v <;> cases counts <;> rfl

theorem Names.isTimely {t : Moment} (named : Names v t) (counts : v.numeral? = some n) : IsTimely n := by
  cases named with
  | moment => cases counts
  | date => cases counts
  | text text => cases v <;> cases text <;> cases counts
  | number counts' finite within =>
    cases counts.symm.trans counts'
    exact ⟨_, finite, within⟩

/-- The text of a date names its midnight and nothing else, and the text of a moment names that moment. -/
theorem names_text_iff {cs : List Char} {t : Moment} (read : Iso.readMoment? (Text.trim cs) = some t) (u : Moment) :
    Names (text cs) u ↔ u = t := by
  constructor
  · intro named
    cases named with
    | text text read' =>
      cases text
      rw [String.toList_ofList, read] at read'
      exact (Option.some_inj.mp read').symm
    | number counts => cases counts
  · rintro rfl
    exact .text rfl (by rwa [String.toList_ofList])

theorem moment?_text {s : String} (text : v.string? = some s) :
    moment? v = .ok (Iso.readMoment? (Text.trim s.toList)) := by
  have reading : moment? v = .ok (if s.isEmpty then none else Iso.readMoment? (Text.trim s.toList)) := by
    cases v <;> cases text <;> rfl
  rw [reading]
  split
  · rename_i empty
    rw [String.isEmpty_iff.mp empty]
    rfl
  · rfl

/-- Values of other kinds name nothing. -/
theorem moment?_other (defined : v.refusal? = none) (text : v.string? = none) (number : v.numeral? = none)
    (moment : ¬∃ t, v = .moment t) (date : ¬∃ d, v = .date d) : moment? v = .ok none ∧ ∀ t, ¬Names v t := by
  constructor
  · cases v
    case bool => cases number
    case int => cases number
    case float => cases number
    case text => cases text
    case markup => cases text
    case moment t => exact absurd ⟨t, rfl⟩ moment
    case date d => exact absurd ⟨d, rfl⟩ date
    case undefined lenient _ =>
      cases lenient
      · cases defined
      · rfl
    all_goals rfl
  · intro t named
    cases named with
    | moment => exact moment ⟨t, rfl⟩
    | date d => exact date ⟨d, rfl⟩
    | text text' => cases text.symm.trans text'
    | number counts => cases number.symm.trans counts

/-- A value is read as a moment that it names, or it names none; only numbers that are not timely fail. -/
theorem moment?_cases (defined : v.refusal? = none) (proper : ∀ n, v.numeral? = some n → n.IsProper) :
    (∃ t, moment? v = .ok (some t) ∧ Names v t) ∨
      (moment? v = .ok none ∧ v.numeral? = none ∧ ∀ t, ¬Names v t) ∨
      ∃ n f, v.numeral? = some n ∧ ¬IsTimely n ∧ moment? v = .error f := by
  cases counts : v.numeral? with
  | some n =>
    obtain ⟨q, t, finite, within, read, counted⟩ | ⟨untimely, f, refused⟩ :=
      moment?_numeral_cases (proper n counts) counts
    · exact .inl ⟨t, read, .number counts finite within counted⟩
    · exact .inr (.inr ⟨n, f, rfl, untimely, refused⟩)
  | none =>
    cases text : v.string? with
    | some s =>
      rw [moment?_text text]
      cases read : Iso.readMoment? (Text.trim s.toList) with
      | some t => exact .inl ⟨t, rfl, .text text read⟩
      | none =>
        refine .inr (.inl ⟨rfl, rfl, fun t named => ?_⟩)
        cases named with
        | text text' read' =>
          cases text.symm.trans text'
          cases read.symm.trans read'
        | number counts' => cases counts.symm.trans counts'
        | moment => cases text
        | date => cases text
    | none =>
      by_cases moment : ∃ t, v = .moment t
      · obtain ⟨t, rfl⟩ := moment
        exact .inl ⟨t, rfl, .moment t⟩
      · by_cases date : ∃ d, v = .date d
        · obtain ⟨d, rfl⟩ := date
          exact .inl ⟨_, rfl, .date d⟩
        · obtain ⟨read, nothing⟩ := moment?_other defined text counts moment date
          exact .inr (.inl ⟨read, rfl, nothing⟩)

end Letterpress.Helper
