import Letterpress.Helper
import Letterpress.Proofs.Number.Decimal
import Letterpress.Proofs.Value

/-!
# The amount helpers

Numbers, sums of money and hundredths are written with two decimals and at most 28 digits, so a finite number is refused
if it is too large for that, and only then. A binary64 number is written by its shortest digits, and a hundredth is
rounded before it is written.

* `Locale.amountText_cases`: which decimals are written.
* `Helper.counted`: the number that a value counts as.
* `Helper.hundredth_cases`: which numbers have hundredths that can be written.
* `Helper.call_amount`: what becomes of JSON values.
-/

namespace Letterpress

namespace Number

open Binary64

theorem isProper_ofScientific (negative : Bool) (ds : List Char) (exponent : Int) :
    (ofScientific negative ds exponent).IsProper := by
  have zero : (signedZero negative).IsProper := isProper_ofRatio (d := 1) negative 0 one_pos
  simp only [ofScientific]
  split
  · exact zero
  · split
    · trivial
    · split
      · exact zero
      · split
        · exact isProper_ofRatio _ _ one_pos
        · exact isProper_ofRatio _ _ (Nat.pow_pos (by decide))

theorem isProper_readUnsigned? {negative : Bool} {cs : List Char} {x : Binary64}
    (read : readUnsigned? negative cs = some x) : x.IsProper := by
  simp only [readUnsigned?] at read
  split at read
  all_goals
    split at read
    · cases read
    · obtain ⟨e, -, rfl⟩ := Option.map_eq_some_iff.mp read
      exact isProper_ofScientific _ _ _

/-- What is read is a number of the format. -/
theorem isProper_readBinary64? {cs : List Char} {x : Binary64} (read : readBinary64? cs = some x) : x.IsProper := by
  simp only [readBinary64?] at read
  split at read
  · cases read
  · split at read
    · cases read
      trivial
    · split at read
      · cases read
        trivial
      · exact isProper_readUnsigned? read

end Number

namespace Locale

open Binary64 Decimal

variable (symbols : NumberSymbols) (layout : AmountLayout) (places : Nat) (scale : Int)

/-- An amount is written unless its value is too large for the digits that there are. -/
theorem amountText_cases (s : Bool) {c : Nat} {e : Int} (few : c < 10 ^ precision ∨ -(places : Int) ≤ e + scale) :
    ((10 : ℚ) ^ (precision - places : Int) ≤ c * 10 ^ (e + scale) ∧
        amountText symbols layout places scale (.finite s c e) = .error .imprecise) ∨
      ((c * 10 ^ (e + scale) : ℚ) < 10 ^ (precision - places : Int) ∧
        ∃ cs, amountText symbols layout places scale (.finite s c e) = .ok cs) := by
  obtain ⟨c₁, e₁, fixed, fits, kept⟩ := fix_cases s c (e + scale)
  obtain ⟨c₂, e₂, normal, value, le⟩ := normalize_finite false c₁ e₁
  have rounding := quantize?_cases (e := e₂) false places (Nat.lt_of_le_of_lt le fits)
  rw [value] at rounding
  -- Digits that are dropped stand before the places, so the value is too large already.
  have high (many : 10 ^ precision ≤ c) :
      (10 : ℚ) ^ (precision - places : Int) ≤ 10 ^ (precision + (e + scale) : Int) := by
    have exponent := few.resolve_left (not_lt.mpr many)
    exact zpow_le_zpow_right₀ (by norm_num) (by omega)
  simp only [amountText, shift, fixed, Decimal.abs, normal, digitsText]
  obtain ⟨large, none_⟩ | ⟨small, q, some_⟩ := rounding
  · rw [none_]
    refine .inl ⟨?_, rfl⟩
    rcases kept with ⟨-, rfl, rfl⟩ | ⟨many, -⟩
    · exact large
    · refine (high many).trans ?_
      rw [ten_zpow_add, zpow_natCast]
      exact mul_le_mul_of_nonneg_right (by exact_mod_cast many) (ten_zpow_pos _).le
  · rw [some_]
    rcases kept with ⟨-, rfl, rfl⟩ | ⟨many, reached⟩
    · exact .inr ⟨small, _, rfl⟩
    · exact absurd ((high many).trans reached) (not_le.mpr small)

/-- A binary64 number is written unless it reaches what the power of ten is rounded to. -/
theorem amountText_float {x : Binary64} (proper : x.IsProper) {i k : Nat} {f : Int} (power : IsPowerOfTen i k f)
    (places_ : (precision : Int) - places = i + scale) :
    ((Value.Numeral.float x).Reaches (k * 2 ^ f) ∧
        amountText symbols layout places scale (.ofBinary64 x) = .error .imprecise) ∨
      (¬(Value.Numeral.float x).Reaches (k * 2 ^ f) ∧
        ∃ cs, amountText symbols layout places scale (.ofBinary64 x) = .ok cs) := by
  rcases x with ⟨s, m, e⟩ | _ | _
  · rw [Value.Numeral.reaches_finite_iff]
    by_cases zero : m = 0
    · have filled : (0 : ℚ) < k := by exact_mod_cast (by decide : 0 < 2 ^ 52).trans power.full
      have less : (m * 2 ^ e : ℚ) < k * 2 ^ f := by
        rw [zero, Nat.cast_zero, zero_mul]
        exact mul_pos filled (two_zpow_pos f)
      rw [ofBinary64, if_pos zero]
      obtain ⟨large, -⟩ | ⟨-, written⟩ :=
        amountText_cases symbols layout places scale s (c := 0) (e := -1) (.inl (by decide))
      · rw [Nat.cast_zero, zero_mul] at large
        exact absurd large (not_le.mpr (ten_zpow_pos _))
      · exact .inr ⟨not_le.mpr less, written⟩
    · have digits := (shortest_spec (s := s) (e := e) zero).1
      have reached := power.le_shortest_iff (s := s) proper zero
      rw [ofBinary64, if_neg zero]
      dsimp only
      generalize (shortest (.finite s m e)).1 = c at *
      generalize (shortest (.finite s m e)).2 = u at *
      have value : (10 : ℚ) ^ (precision - places : Int) ≤ c * 10 ^ (u + scale) ↔ (10 ^ i : ℚ) ≤ c * 10 ^ u := by
        rw [places_, ten_zpow_add, ten_zpow_add, ← mul_assoc, mul_le_mul_iff_left₀ (ten_zpow_pos scale), zpow_natCast]
      have fits : c < 10 ^ precision := Nat.lt_of_le_of_lt digits (by decide)
      obtain ⟨large, refused⟩ | ⟨small, written⟩ := amountText_cases symbols layout places scale s (e := u) (.inl fits)
      · exact .inl ⟨reached.mp (value.mp large), refused⟩
      · exact .inr ⟨fun le => absurd (value.mpr (reached.mpr le)) (not_le.mpr small), written⟩
  · exact .inr ⟨Value.Numeral.not_reaches rfl _, _, rfl⟩
  · exact .inr ⟨Value.Numeral.not_reaches rfl _, _, rfl⟩

end Locale

namespace Helper

open Binary64 Letterpress.Locale

variable {v : Value} {n : Value.Numeral}

/-! ## Numbers -/

/-- A number with two decimals is written unless it has more than 26 digits in front of the point. -/
theorem amountText_numeral (symbols : NumberSymbols) (layout : AmountLayout) (proper : n.IsProper) :
    (n.Reaches (10 ^ 26) ∧ amountText symbols layout 2 0 (toDecimal n) = .error .imprecise) ∨
      (¬n.Reaches (10 ^ 26) ∧ ∃ cs, amountText symbols layout 2 0 (toDecimal n) = .ok cs) := by
  cases n with
  | int i =>
    have written := amountText_cases symbols layout 2 0 (i < 0) (c := i.natAbs) (e := 0) (.inr (by decide))
    rw [add_zero, zpow_zero, mul_one] at written
    rw [Value.Numeral.reaches_int_iff, not_le]
    exact written
  | float x =>
    have written := amountText_float symbols layout 2 0 proper isPowerOfTen_26 rfl
    have reaches : (Value.Numeral.float x).Reaches (10 ^ 26) ↔
        (Value.Numeral.float x).Reaches ((5820766091346741 : Nat) * 2 ^ (34 : Int)) := by
      rcases x with ⟨s, m, e⟩ | _ | _
      · rw [Value.Numeral.reaches_finite_iff, Value.Numeral.reaches_finite_iff]
        exact isPowerOfTen_26.le_iff (s := s) (by norm_num) proper
      · exact iff_of_false (Value.Numeral.not_reaches rfl _) (Value.Numeral.not_reaches rfl _)
      · exact iff_of_false (Value.Numeral.not_reaches rfl _) (Value.Numeral.not_reaches rfl _)
    rw [reaches]
    exact written

/-- The number that `10 ^ 24` is rounded to, from which on a hundredth has too many digits. -/
def hundredthLimit : ℚ := (7450580596923828 : Nat) * 2 ^ (27 : Int)

/-- A hundredth is written as a percentage unless it has more than 24 digits in front of the point. -/
theorem percent_cases (locale : String) {x : Binary64} (proper : x.IsProper) :
    ((Value.Numeral.float x).Reaches hundredthLimit ∧ Amount.percent locale 2 (.ofBinary64 x) = .error .imprecise) ∨
      (¬(Value.Numeral.float x).Reaches hundredthLimit ∧ ∃ cs, Amount.percent locale 2 (.ofBinary64 x) = .ok cs) :=
  amountText_float (numberSymbols locale) ⟨[], ['%'], 3⟩ 2 2 proper isPowerOfTen_24 rfl

theorem hundredth_eq (n : Value.Numeral) :
    hundredth n = match n.quotient? 100 with
      | some x => .ok x
      | none => .error .overflow := by
  cases n with
  | int i =>
    unfold hundredth Value.Numeral.quotient?
    cases ofIntRatio? i 100 <;> rfl
  | float x => rfl

/-- From half a unit below the limit on, hundredths are rounded to numbers with too many digits. -/
theorem hundredth_cases (proper : n.IsProper) :
    (n.Reaches 99999999999999991611392000 ∧ (hundredth n = .error .overflow ∨
        ∃ x, hundredth n = .ok x ∧ x.IsProper ∧ (Value.Numeral.float x).Reaches hundredthLimit)) ∨
      (¬n.Reaches 99999999999999991611392000 ∧
        ∃ x, hundredth n = .ok x ∧ x.IsProper ∧ ¬(Value.Numeral.float x).Reaches hundredthLimit) := by
  rw [hundredth_eq]
  cases counts : n.quantity? with
  | none =>
    refine .inr ⟨Value.Numeral.not_reaches counts _, ?_⟩
    rcases n with i | ⟨s, m, e⟩ | t | _ <;> cases counts
    · exact ⟨_, rfl, trivial, Value.Numeral.not_reaches rfl _⟩
    · exact ⟨_, rfl, trivial, Value.Numeral.not_reaches rfl _⟩
  | some q =>
    have reaches : n.Reaches 99999999999999991611392000 ↔
        (((7450580596923828 : Nat) : ℚ) - 1 / 2) * 2 ^ (27 : Int) ≤ |q / 100| := by
      have value : (((7450580596923828 : Nat) : ℚ) - 1 / 2) * 2 ^ (27 : Int) = 99999999999999991611392000 / 100 := by
        norm_num
      have positive : (0 : ℚ) < 100 := by norm_num
      rw [Value.Numeral.reaches_iff counts, value, abs_div, abs_of_pos positive, div_le_div_iff_of_pos_right positive]
    rw [reaches]
    obtain ⟨large, none_, -⟩ | ⟨-, _, some_, s, m, e, rfl, proper', nearest⟩ :=
      Value.Numeral.quotient?_cases (c := 100) proper counts (by decide) (by decide)
    · have top : (2 : ℚ) ^ (27 : Int) ≤ 2 ^ greatestExponent := two_zpow_le (by decide)
      have below : (((7450580596923828 : Nat) : ℚ) - 1 / 2) * 2 ^ (27 : Int) ≤ roundingLimit :=
        mul_le_mul (by norm_num) top (by positivity) (by norm_num)
      refine .inl ⟨below.trans large, .inl ?_⟩
      rw [none_]
    · have rounded : (Value.Numeral.float (.finite s m e)).Reaches hundredthLimit ↔ _ :=
        (Value.Numeral.reaches_iff rfl).trans
          (nearest.le_abs_iff (k := 7450580596923828) (j := 27) (by decide) (by decide) (by decide) (by decide))
      rw [some_]
      by_cases large : (((7450580596923828 : Nat) : ℚ) - 1 / 2) * 2 ^ (27 : Int) ≤ |q / 100|
      · exact .inl ⟨large, .inr ⟨_, rfl, proper', rounded.mpr large⟩⟩
      · exact .inr ⟨large, _, rfl, proper', mt rounded.mp large⟩

/-- A value that counts as missing. -/
def IsBlank (v : Value) : Prop := v = .none ∨ v = .text ""

theorem isBlankValue_cases (json : v.IsJson) :
    (IsBlank v ∧ isBlankValue v = .ok true) ∨ (¬IsBlank v ∧ isBlankValue v = .ok false) := by
  cases json with
  | none => exact .inl ⟨.inl rfl, rfl⟩
  | text s =>
    have compared : isBlankValue (.text s) = .ok (s == "") := rfl
    by_cases empty : s = ""
    · exact .inl ⟨.inr (by rw [empty]), by rw [compared, beq_iff_eq.mpr empty]⟩
    · exact .inr ⟨by simp [IsBlank, empty], by rw [compared, beq_eq_false_iff_ne.mpr empty]⟩
  | bool b => exact .inr ⟨by simp [IsBlank], rfl⟩
  | int i => exact .inr ⟨by simp [IsBlank], rfl⟩
  | float proper => exact .inr ⟨by simp [IsBlank], rfl⟩
  | list items => exact .inr ⟨by simp [IsBlank], rfl⟩
  | record values => exact .inr ⟨by simp [IsBlank], rfl⟩

/-- The number that a value counts as. -/
def counted (v : Value) : Value.Numeral :=
  match number v with
  | .ok n => n
  | .error _ => .int 0

/-- A JSON value counts as a number in any case. -/
theorem number_eq (json : v.IsJson) : number v = .ok (counted v) := by
  have counts : ∃ n, number v = .ok n := by
    cases json with
    | text s =>
      simp only [number]
      split <;> exact ⟨_, rfl⟩
    | _ => exact ⟨_, rfl⟩
  obtain ⟨n, counts⟩ := counts
  rw [counted, counts]

theorem isProper_counted (json : v.IsJson) : (counted v).IsProper := by
  have counts := number_eq json
  cases json with
  | text s =>
    simp only [number] at counts
    split at counts
    · rename_i x read
      rw [← Except.ok.inj counts]
      exact Number.isProper_readBinary64? read
    · rw [← Except.ok.inj counts]
      trivial
  | none => trivial
  | bool b => exact isProper_ofRatio _ _ one_pos
  | int i => trivial
  | float proper => exact proper
  | list items => trivial
  | record values => trivial

/-! ## Calls -/

/-- The helpers that show an amount. -/
def amountHelpers : List Helper := [formatNumber, formatCurrency, formatPercent]

section

variable (s : Setting) (blank : isBlankValue v = .ok true)

include blank

theorem call_blank {h : Helper} (mem : h ∈ amountHelpers) : call s h [v] [] = .ok (.text "") := by
  simp only [amountHelpers, List.mem_cons, List.not_mem_nil, or_false] at mem
  rcases mem with rfl | rfl | rfl
  · show callNumber s v (.int 2) .none = _
    rw [callNumber, blank]
    rfl
  · show callCurrency s v .none (.text "EUR") (.int 2) = _
    rw [callCurrency, blank]
    rfl
  · show callPercent s v (.int 2) .none = _
    rw [callPercent, blank]
    rfl

end

section

variable (s : Setting) (shown : isBlankValue v = .ok false) (counts : number v = .ok n)

include shown counts

theorem call_formatNumber :
    call s formatNumber [v] [] = text <$> Amount.plain s.locale 2 (toDecimal n) := by
  show callNumber s v (.int 2) .none = _
  rw [callNumber, shown, counts]
  rfl

theorem call_formatCurrency :
    call s formatCurrency [v] [] = text <$> Amount.money s.locale (some "EUR") 2 (toDecimal n) := by
  show callCurrency s v .none (.text "EUR") (.int 2) = _
  rw [callCurrency, shown, counts]
  rfl

theorem call_formatPercent :
    call s formatPercent [v] [] =
      (hundredth n).bind fun x => text <$> Amount.percent s.locale 2 (.ofBinary64 x) := by
  show callPercent s v (.int 2) .none = _
  rw [callPercent, shown, counts]
  rfl

end

/-- From here on, on either side of zero, an amount has too many digits. -/
def amountLimit : Helper → ℚ
  | formatPercent => 99999999999999991611392000
  | _ => 10 ^ 26

/-- An amount is shown unless it has too many digits. -/
theorem call_amount (s : Setting) {h : Helper} (mem : h ∈ amountHelpers) (json : v.IsJson) :
    ((¬IsBlank v ∧ (counted v).Reaches (amountLimit h)) ∧ ∃ f, call s h [v] [] = .error f) ∨
      ((IsBlank v ∨ ¬(counted v).Reaches (amountLimit h)) ∧ ∃ t, call s h [v] [] = .ok (.text t)) := by
  obtain ⟨blank, missing⟩ | ⟨blank, shown⟩ := isBlankValue_cases json
  · exact .inr ⟨.inl blank, "", call_blank s missing mem⟩
  have counts := number_eq json
  have proper := isProper_counted json
  simp only [amountHelpers, List.mem_cons, List.not_mem_nil, or_false] at mem
  rcases mem with rfl | rfl | rfl
  · rw [call_formatNumber s shown counts]
    obtain ⟨large, refused⟩ | ⟨small, cs, written⟩ := amountText_numeral (numberSymbols s.locale) ⟨[], [], 3⟩ proper
    · exact .inl ⟨⟨blank, large⟩, .imprecise, by rw [Amount.plain, refused]; rfl⟩
    · exact .inr ⟨.inr small, String.ofList cs, by rw [Amount.plain, written]; rfl⟩
  · rw [call_formatCurrency s shown counts]
    have cases_ := amountText_numeral (numberSymbols s.locale) ⟨(numberSymbols s.locale).before.toList,
      (numberSymbols s.locale).after.toList, (numberSymbols s.locale).laterGroups⟩ proper
    obtain ⟨large, refused⟩ | ⟨small, cs, written⟩ := cases_
    · exact .inl ⟨⟨blank, large⟩, .imprecise, by rw [Amount.money, refused]; rfl⟩
    · exact .inr ⟨.inr small, _, by rw [Amount.money, written]; rfl⟩
  · rw [call_formatPercent s shown counts]
    obtain ⟨large, refused | ⟨x, some_, proper', reached⟩⟩ | ⟨small, x, some_, proper', less⟩ := hundredth_cases proper
    · exact .inl ⟨⟨blank, large⟩, .overflow, by rw [refused]; rfl⟩
    · obtain ⟨-, refused⟩ | ⟨other, -⟩ := percent_cases s.locale proper'
      · exact .inl ⟨⟨blank, large⟩, .imprecise, by rw [some_, Except.bind, refused]; rfl⟩
      · exact absurd reached other
    · obtain ⟨other, -⟩ | ⟨-, cs, written⟩ := percent_cases s.locale proper'
      · exact absurd other less
      · exact .inr ⟨.inr small, String.ofList cs, by rw [some_, Except.bind, written]; rfl⟩

end Helper

end Letterpress
