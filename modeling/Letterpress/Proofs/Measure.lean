import Letterpress.Document.WordFile
import Letterpress.Proofs.Number.Reading

/-!
# Lengths in text

Text is a length if it is digits and points and behind them a unit or nothing, with blanks around both. With at most one
point the digits are a number, and that many units make a length unless they are far too many. A length with more points,
with no digits or with too large a number is a failure; all text that is no length gives the default.

* `Measure.UnitSize`, `Measure.IsLength`: units, and text that is a length.
* `Measure.ofCss_of_isLength`, `Measure.ofCss_of_not_isLength`: the numeral and the unit that are found in text.
* `Measure.Makes`: what so many units make.
* `Measure.makes_times`: the length of a number that was read.
* `Measure.lengths_made`: the length of every text, and the pages that have margins.
-/

namespace Letterpress

namespace Text

variable {cs front back : List Char}

/-! ## Blanks around text -/

/-- What trimming takes off is blank. -/
theorem exists_trim (cs : List Char) :
    ∃ front back, cs = front ++ trim cs ++ back ∧ (∀ c ∈ front, isBlank c = true) ∧ ∀ c ∈ back, isBlank c = true := by
  have left : cs.takeWhile isBlank ++ trimLeft cs = cs := List.takeWhile_append_dropWhile
  have right (ds : List Char) : trimRight ds ++ (ds.reverse.takeWhile isBlank).reverse = ds := by
    rw [trimRight, trimRightBy, ← List.reverse_append, List.takeWhile_append_dropWhile, List.reverse_reverse]
  have whole : cs = cs.takeWhile isBlank ++ trim cs ++ ((trimLeft cs).reverse.takeWhile isBlank).reverse := by
    rw [List.append_assoc, show trim cs = trimRight (trimLeft cs) from rfl, right, left]
  exact ⟨_, _, whole, fun c mem => List.mem_takeWhile_imp mem,
    fun c mem => List.mem_takeWhile_imp (List.mem_reverse.mp mem)⟩

/-- Blanks around text that starts and ends with ink. -/
theorem trim_surrounded (before : ∀ c ∈ front, isBlank c = true) (behind : ∀ c ∈ back, isBlank c = true)
    (filled : cs ≠ []) (first : ∀ c ∈ cs.head?, isBlank c = false) (last : ∀ c ∈ cs.getLast?, isBlank c = false) :
    trim (front ++ cs ++ back) = cs := by
  have left : (front ++ cs ++ back).dropWhile isBlank = cs ++ back := by
    obtain ⟨c, rest, rfl⟩ := List.exists_cons_of_ne_nil filled
    rw [List.append_assoc, List.dropWhile_append_of_pos before, List.cons_append,
      List.dropWhile_cons_of_neg (by simp [first c rfl])]
  have right : (cs ++ back).reverse.dropWhile isBlank = cs.reverse := by
    obtain ⟨rest, c, rfl⟩ := (List.eq_nil_or_concat' cs).resolve_left filled
    have ink : isBlank c = false := last c (by simp)
    rw [List.reverse_append, List.dropWhile_append_of_pos fun d mem => behind d (List.mem_reverse.mp mem),
      List.reverse_append, List.reverse_singleton, List.singleton_append, List.dropWhile_cons_of_neg (by simp [ink])]
  rw [trim, trimBy, trimLeftBy, left, trimRightBy, right, List.reverse_reverse]

end Text

namespace Measure

open Text Number Binary64

variable {cs numeral name : List Char} {size : Nat}

/-! ## Units -/

/-- The name of a unit in any case, and its size. No name stands for pixels, and so does the name of inches with a letter
i of Turkish. -/
inductive UnitSize : List Char → Nat → Prop
  | none : UnitSize [] perPixel
  | named {cs : List Char} {name : String} {size : Nat} (mem : (name, size) ∈ units)
    (same : cs.map lowerAscii = name.toList) : UnitSize cs size
  | turkish {i n : Char} (letter : i = 'İ' ∨ i = 'ı') (same : lowerAscii n = 'n') : UnitSize [i, n] perPixel

theorem lookup_units_iff {name : String} : units.lookup name = some size ↔ (name, size) ∈ units := by
  have found : ∀ u ∈ units, units.lookup u.1 = some u.2 := by
    simp only [units, List.forall_mem_cons]
    decide
  refine ⟨fun same => ?_, fun mem => found _ mem⟩
  obtain ⟨before, behind, whole, -⟩ := List.lookup_eq_some_iff.mp same
  rw [whole]
  simp

theorem unitOf?_iff : unitOf? cs = some size ↔ UnitSize cs size := by
  have plain : ∀ u ∈ units, ∀ c ∈ u.1.toList, c ≠ 'İ' ∧ c ≠ 'ı' := by simp [units]
  have filled : ∀ u ∈ units, u.1.toList ≠ [] := by decide
  have wide : lowerAscii 'İ' = 'İ' ∧ lowerAscii 'ı' = 'ı' := by decide
  constructor
  · intro found
    simp only [unitOf?] at found
    split at found
    · rename_i empty
      obtain rfl := List.isEmpty_iff.mp empty
      cases found
      exact .none
    · split at found
      · split at found
        · rename_i same
          cases found
          exact .turkish (.inl rfl) (eq_of_beq same)
        · cases found
      · split at found
        · rename_i same
          cases found
          exact .turkish (.inr rfl) (eq_of_beq same)
        · cases found
      · exact .named (lookup_units_iff.mp found) (String.toList_ofList ..).symm
  · intro unit
    cases unit with
    | none => rfl
    | @named _ name _ mem same =>
      have letters {i : Char} (first : i ∈ cs.map lowerAscii) : i ≠ 'İ' ∧ i ≠ 'ı' := plain _ mem i (same ▸ first)
      have some_ : cs.isEmpty = false := by
        cases cs with
        | nil => exact absurd same.symm (filled _ mem)
        | cons c cs => rfl
      simp only [unitOf?, some_, Bool.false_eq_true, if_false]
      split
      · exact absurd wide.1 (letters (List.mem_cons_self ..)).1
      · exact absurd wide.2 (letters (List.mem_cons_self ..)).2
      · rw [same, String.ofList_toList]
        exact lookup_units_iff.mpr mem
    | turkish letter same => rcases letter with rfl | rfl <;> simp [unitOf?, same]

theorem UnitSize.bounds (unit : UnitSize name size) : 0 < size ∧ size ≤ 914400 := by
  have all : ∀ u ∈ units, 0 < u.2 ∧ u.2 ≤ 914400 := by decide
  cases unit with
  | none | turkish => decide
  | named mem => exact all _ mem

theorem not_isNumeral_of_isBlank {c : Char} (blank : isBlank c = true) : isNumeral c = false := by
  refine Bool.eq_false_iff.mpr fun numeral => ?_
  simp only [isNumeral, Bool.or_eq_true, beq_iff_eq] at numeral
  rcases numeral with decimal | rfl
  · rw [not_isBlank_of_isDigit (isDigit_of_isDecimal decimal)] at blank
    cases blank
  · cases blank

theorem not_isBlank_of_isNumeral {c : Char} (numeral : isNumeral c = true) : isBlank c = false := by
  refine Bool.eq_false_iff.mpr fun blank => ?_
  rw [not_isNumeral_of_isBlank blank] at numeral
  cases numeral

/-- The letters of units are neither white space nor digits nor points. -/
theorem UnitSize.letters (unit : UnitSize name size) : ∀ c ∈ name, isBlank c = false ∧ isNumeral c = false := by
  have plain : ∀ u ∈ units, ∀ c ∈ u.1.toList, isAsciiLower c = true := by simp [units, isAsciiLower]
  have letter {c : Char} (lower : isAsciiLower (lowerAscii c) = true) : isBlank c = false ∧ isNumeral c = false := by
    have alnum : isAsciiAlnum c = true := by
      unfold lowerAscii at lower
      split at lower
      · rename_i upper
        simp [isAsciiAlnum, isAsciiLetter, upper]
      · simp [isAsciiAlnum, isAsciiLetter, lower]
    revert lower
    exact ascii_induction (p := fun c => isAsciiLower (lowerAscii c) = true → isBlank c = false ∧ isNumeral c = false)
      (by decide) (lt_of_isAsciiAlnum alnum)
  intro c mem
  cases unit with
  | none => cases mem
  | named found same => exact letter (plain _ found _ (same ▸ List.mem_map_of_mem mem))
  | @turkish i n wide same =>
    rcases List.mem_cons.mp mem with rfl | mem
    · rcases wide with rfl | rfl <;> decide
    · obtain rfl := List.mem_singleton.mp mem
      exact letter (same ▸ by decide)

/-! ## The parts of a length -/

/-- Text that is a length: digits and points, then a unit or nothing, with blanks around both. -/
def IsLength (cs numeral : List Char) (size : Nat) : Prop :=
  ∃ front gap name back, cs = front ++ (numeral ++ gap ++ name) ++ back ∧
    (∀ c ∈ front ++ gap ++ back, isBlank c = true) ∧ numeral ≠ [] ∧ (∀ c ∈ numeral, isNumeral c = true) ∧
    UnitSize name size

/-- A length without the blanks around it. Without a unit, the blanks behind the numeral are at the end of the text. -/
theorem IsLength.trimmed (isLength : IsLength cs numeral size) :
    ∃ gap name, trim cs = numeral ++ (gap ++ name) ∧ (∀ c ∈ gap, isBlank c = true) ∧ numeral ≠ [] ∧
      (∀ c ∈ numeral, isNumeral c = true) ∧ UnitSize name size := by
  obtain ⟨front, gap, name, back, rfl, blank, filled, numerals, unit⟩ := isLength
  simp only [List.forall_mem_append] at blank
  obtain ⟨⟨before, between⟩, behind⟩ := blank
  have first (rest : List Char) : ∀ c ∈ (numeral ++ rest).head?, isBlank c = false := by
    obtain ⟨d, ds, rfl⟩ := List.exists_cons_of_ne_nil filled
    rintro c ⟨⟩
    exact not_isBlank_of_isNumeral (numerals d (List.mem_cons_self ..))
  by_cases named : name = []
  · subst named
    have last : ∀ c ∈ numeral.getLast?, isBlank c = false := fun c mem =>
      not_isBlank_of_isNumeral (numerals c (List.mem_of_getLast? mem))
    have all := trim_surrounded before (List.forall_mem_append.mpr ⟨between, behind⟩) filled
      (by simpa using first []) last
    exact ⟨[], [], by simpa using all, by simp, filled, numerals, unit⟩
  · have last : ∀ c ∈ (numeral ++ gap ++ name).getLast?, isBlank c = false := by
      rw [List.getLast?_append_of_ne_nil _ named]
      exact fun c mem => (unit.letters c (List.mem_of_getLast? mem)).1
    have first' : ∀ c ∈ (numeral ++ gap ++ name).head?, isBlank c = false := by
      rw [List.append_assoc]
      exact first _
    have all := trim_surrounded before behind (by simp [filled]) first' last
    exact ⟨gap, name, by rw [all, List.append_assoc], between, filled, numerals, unit⟩

/-- The numeral of a length and its unit are the ones that are found. -/
theorem IsLength.parts (isLength : IsLength cs numeral size) :
    (trim cs).takeWhile isNumeral = numeral ∧ unitOf? (trimLeft ((trim cs).dropWhile isNumeral)) = some size := by
  obtain ⟨gap, name, whole, blank, -, numerals, unit⟩ := isLength.trimmed
  have stops : ∀ c ∈ gap ++ name, isNumeral c = false :=
    List.forall_mem_append.mpr ⟨fun c mem => not_isNumeral_of_isBlank (blank c mem), fun c mem => (unit.letters c mem).2⟩
  have rest : (gap ++ name).takeWhile isNumeral = [] ∧ (gap ++ name).dropWhile isNumeral = gap ++ name := by
    cases same : gap ++ name with
    | nil => exact ⟨rfl, rfl⟩
    | cons c ds => simp [stops c (same ▸ List.mem_cons_self ..)]
  have ink : name.dropWhile isBlank = name := by
    cases name with
    | nil => rfl
    | cons c ds => simp [(unit.letters c (List.mem_cons_self ..)).1]
  rw [whole, List.takeWhile_append_of_pos numerals, List.dropWhile_append_of_pos numerals, rest.1, rest.2, trimLeft,
    trimLeftBy, List.dropWhile_append_of_pos blank, ink]
  exact ⟨List.append_nil _, unitOf?_iff.mpr unit⟩

theorem ofCss_of_isLength (isLength : IsLength cs numeral size) :
    ofCss cs = (readBinary64? numeral).elim (.error .badValue) (times · size) := by
  obtain ⟨taken, found⟩ := isLength.parts
  obtain ⟨_, _, -, -, filled, -, -⟩ := isLength.trimmed
  have some_ : numeral.isEmpty = false := by simpa using filled
  simp only [ofCss, taken, found, some_, Bool.false_eq_true, if_false]
  cases readBinary64? numeral <;> rfl

/-- Text that is no length gives the default. -/
theorem ofCss_of_not_isLength (other : ¬∃ numeral size, IsLength cs numeral size) : ofCss cs = .ok standard := by
  simp only [ofCss]
  split
  · rename_i size found
    split
    · rfl
    · rename_i filled
      refine absurd ⟨(trim cs).takeWhile isNumeral, size, ?_⟩ other
      obtain ⟨front, back, whole, before, behind⟩ := exists_trim cs
      refine ⟨front, ((trim cs).dropWhile isNumeral).takeWhile isBlank, _, back, ?_, ?_, by simpa using filled,
        fun c mem => List.mem_takeWhile_imp mem, unitOf?_iff.mp found⟩
      · rw [trimLeft, trimLeftBy, List.append_assoc (List.takeWhile isNumeral _), List.takeWhile_append_dropWhile,
          List.takeWhile_append_dropWhile]
        exact whole
      · exact List.forall_mem_append.mpr
          ⟨List.forall_mem_append.mpr ⟨before, fun c mem => List.mem_takeWhile_imp mem⟩, behind⟩
  · rfl

/-! ## Numbers of units -/

/-- What a number of units makes, of which `k` digits are behind the point: the number and its product with the size of
the unit are rounded, and the fraction is dropped. What is rounded to an infinity makes no length. -/
inductive Makes (n k size : Nat) : Except Fault Int → Prop
  | length {m : Nat} {e i : Int} (amount : ofRatio false n (10 ^ k) = finite false m e)
    (near : Nearest (n / 10 ^ k) (m * 2 ^ e)) (fits : (m * 2 ^ e * size : ℚ) < roundingLimit)
    (rounded : Rounds (m * 2 ^ e * size) (mul (finite false m e) (ofInt size)))
    (whole : truncate? (mul (finite false m e) (ofInt size)) = some i) : Makes n k size (.ok i)
  | large (large : roundingLimit ≤ (n : ℚ) / 10 ^ k) : Makes n k size (.error .overflow)
  | largeProduct {m : Nat} {e : Int} (amount : ofRatio false n (10 ^ k) = finite false m e)
    (near : Nearest (n / 10 ^ k) (m * 2 ^ e)) (large : roundingLimit ≤ (m * 2 ^ e * size : ℚ)) :
    Makes n k size (.error .overflow)

theorem times_infinite (s : Bool) (size : Nat) : times (infinite s) size = .error .overflow := by
  have none_ (y : Binary64) : ((infinite s).mul y).truncate? = none := by
    cases y with
    | finite t k f =>
      rw [mul]
      split <;> rfl
    | infinite t | nan => rfl
  rw [times, none_]

/-- The product of a number that was read and the size of a unit. -/
theorem makes_times (n k : Nat) (few : size ≤ 914400) : Makes n k size (times (ofRatio false n (10 ^ k)) size) := by
  have few' : |(size : Int)| ≤ 2 ^ 53 := by
    rw [Nat.abs_cast]
    exact_mod_cast few.trans (by decide)
  have positive : 0 < 10 ^ k := Nat.pow_pos (by decide)
  have power : ((10 ^ k : Nat) : ℚ) = 10 ^ k := by norm_cast
  obtain ⟨large, inf⟩ | ⟨-, m, e, amount, -, near⟩ := ofRatio_spec false n positive
  · rw [inf, times_infinite]
    exact .large (power ▸ large)
  obtain ⟨t, l, f, same, -, value⟩ := ofInt_exact few'
  have product := mul_cases false t m l e f
  rw [value, Int.cast_natCast, ratio_eq_oriented, oriented, if_neg Bool.false_ne_true, abs_of_nonneg (by positivity),
    ← same] at product
  rw [amount, times]
  obtain ⟨large, inf⟩ | ⟨fits, rounded⟩ := product
  · rw [inf]
    exact .largeProduct amount (power ▸ near) large
  · obtain ⟨s', m', e', parts, -, -⟩ := id rounded
    have whole : truncate? (mul (finite false m e) (ofInt size)) = some _ := congrArg truncate? parts
    rw [whole]
    exact .length amount (power ▸ near) fits rounded whole

namespace Makes

variable {n k : Nat} {r : Except Fault Int}

/-- Whole numbers of units are exact. -/
theorem of_whole (makes : Makes n 0 size r) (positive : 0 < size) (small : n * size ≤ 2 ^ 53) : r = .ok (n * size) := by
  have bits : n ≤ 2 ^ 53 := (Nat.le_mul_of_pos_right n positive).trans small
  have whole : (n : ℚ) / 10 ^ 0 = n := by rw [pow_zero, div_one]
  have product : (n : ℚ) * size = (n * size : Nat) := (Nat.cast_mul n size).symm
  have room {z : Nat} (bits : z ≤ 2 ^ 53) : (z : ℚ) < roundingLimit := by
    have bits' : (z : ℚ) ≤ 2 ^ 53 := by exact_mod_cast bits
    exact bits'.trans_lt lt_roundingLimit
  have grid {z : Nat} (bits : z ≤ 2 ^ 53) : |(z : Int)| ≤ 2 ^ 53 := by
    rw [Nat.abs_cast]
    exact_mod_cast bits
  have amount_eq {m : Nat} {e : Int} (near : Nearest (n / 10 ^ 0) (m * 2 ^ e)) : (m * 2 ^ e : ℚ) = n :=
    (near.eq_of_grid (grid bits) (j := 0) (by decide) (by rw [whole, zpow_zero, mul_one, Int.cast_natCast])).trans whole
  cases makes with
  | length _ near _ rounded found =>
    rw [amount_eq near, product] at rounded
    obtain ⟨s, m, e, same, proper, total⟩ :=
      rounded.exact (grid small) (j := 0) (by decide) (by rw [zpow_zero, mul_one, Int.cast_natCast])
    rw [same] at proper found
    have exact := truncate?_of_int proper.2.1 (z := (n * size : Nat)) (by rw [total, Int.cast_natCast])
    rw [Option.some.inj (found.symm.trans exact), Nat.cast_mul]
  | large large => exact absurd (whole ▸ large) (not_le.mpr (room bits))
  | largeProduct _ near large =>
    rw [amount_eq near, product] at large
    exact absurd large (not_le.mpr (room small))

/-- Numbers that are not far too large make a length. -/
theorem of_le (makes : Makes n k size r) (few : size ≤ 914400) (small : (n : ℚ) / 10 ^ k ≤ 10 ^ 300) :
    ∃ i, r = .ok i := by
  have binary : (n : ℚ) / 10 ^ k ≤ (1 : Int) * 2 ^ (1000 : Int) := by
    have root : (10 : ℚ) ^ 3 ≤ 2 ^ 10 := by norm_num
    calc (n : ℚ) / 10 ^ k ≤ 10 ^ 300 := small
      _ = (10 ^ 3) ^ 100 := by rw [← pow_mul]
      _ ≤ (2 ^ 10) ^ 100 := pow_le_pow_left₀ (by positivity) root 100
      _ = 2 ^ 1000 := by rw [← pow_mul]
      _ = (1 : Int) * 2 ^ (1000 : Int) := by rw [Int.cast_one, one_mul, zpow_ofNat]
  have room : ((1 : Int) * 2 ^ (1000 : Int) : ℚ) * 2 ^ 20 < roundingLimit := by
    calc ((1 : Int) * 2 ^ (1000 : Int) : ℚ) * 2 ^ 20 = 2 ^ 20 * 2 ^ (1000 : Int) := by
          rw [Int.cast_one, one_mul, mul_comm]
      _ = 2 ^ 49 * 2 ^ greatestExponent := by rw [two_pow_mul_zpow, two_pow_mul_zpow]; rfl
      _ < roundingLimit := mul_lt_mul_of_pos_right (by norm_num) (two_zpow_pos _)
  have power : (0 : ℚ) ≤ (1 : Int) * 2 ^ (1000 : Int) := by positivity
  cases makes with
  | length => exact ⟨_, rfl⟩
  | large large =>
    have more := le_mul_of_one_le_right power (by norm_num : (1 : ℚ) ≤ 2 ^ 20)
    exact absurd (large.trans (binary.trans more)) (not_le.mpr room)
  | largeProduct _ near large =>
    have few' : (size : ℚ) ≤ 2 ^ 20 := by exact_mod_cast few.trans (by decide)
    have amount := near.below 1 1000 (by decide) (by decide) binary
    exact absurd (large.trans (mul_le_mul amount few' (Nat.cast_nonneg _) power)) (not_le.mpr room)

/-- A number of units makes one length, or one failure. -/
theorem unique {r' : Except Fault Int} (makes : Makes n k size r) (again : Makes n k size r') : r = r' := by
  have finite_ {m : Nat} {e : Int} (amount : ofRatio false n (10 ^ k) = finite false m e)
      (large : roundingLimit ≤ (n : ℚ) / 10 ^ k) : False := by
    have power : ((10 ^ k : Nat) : ℚ) = 10 ^ k := by norm_cast
    rw [ofRatio_of_large false (Nat.pow_pos (by decide)) (power ▸ large)] at amount
    cases amount
  cases makes with
  | length amount _ fits _ whole =>
    cases again with
    | length amount' _ _ _ whole' =>
      obtain ⟨-, rfl, rfl⟩ := finite.inj (amount.symm.trans amount')
      rw [Option.some.inj (whole.symm.trans whole')]
    | large large => exact (finite_ amount large).elim
    | largeProduct amount' _ large =>
      obtain ⟨-, rfl, rfl⟩ := finite.inj (amount.symm.trans amount')
      exact absurd large (not_le.mpr fits)
  | large large =>
    cases again with
    | length amount => exact (finite_ amount large).elim
    | large | largeProduct => rfl
  | largeProduct amount _ large =>
    cases again with
    | length amount' _ fits =>
      obtain ⟨-, rfl, rfl⟩ := finite.inj (amount.symm.trans amount')
      exact absurd large (not_le.mpr fits)
    | large | largeProduct => rfl

end Makes

/-! ## Text and pages -/

/-- The numbers of digits and points that are none are failures, and the others make what so many units make. -/
theorem ofCss_numeral (isLength : IsLength cs numeral size) :
    ((¬∃ n k, IsDecimal numeral n k) → ofCss cs = .error .badValue) ∧
      ∀ n k, IsDecimal numeral n k → Makes n k size (ofCss cs) := by
  rw [ofCss_of_isLength isLength]
  obtain ⟨gap, name, -, -, filled, numerals, unit⟩ := isLength.trimmed
  have numerals' : ∀ c ∈ numeral, isDecimal c = true ∨ c = '.' := by simpa [isNumeral] using numerals
  refine ⟨fun other => ?_, fun n k decimal => ?_⟩
  · rw [readBinary64?_of_not_isDecimal numerals' filled other]
    rfl
  · rw [decimal.read]
    exact makes_times n k unit.bounds.2

theorem ofCss_ok_iff : (∃ i, ofCss cs = .ok i) ↔
    ∀ numeral size, IsLength cs numeral size → ∃ n k i, IsDecimal numeral n k ∧ Makes n k size (.ok i) := by
  constructor
  · rintro ⟨i, made⟩ numeral size isLength
    obtain ⟨none_, makes⟩ := ofCss_numeral isLength
    by_cases number : ∃ n k, IsDecimal numeral n k
    · obtain ⟨n, k, decimal⟩ := number
      exact ⟨n, k, i, decimal, made ▸ makes n k decimal⟩
    · cases (none_ number).symm.trans made
  · intro all
    by_cases isLength : ∃ numeral size, IsLength cs numeral size
    · obtain ⟨numeral, size, isLength⟩ := isLength
      obtain ⟨n, k, i, decimal, makes⟩ := all numeral size isLength
      exact ⟨i, ((ofCss_numeral isLength).2 n k decimal).unique makes⟩
    · exact ⟨standard, ofCss_of_not_isLength isLength⟩

theorem margin_ok_iff {limit : Int} {css : String} :
    (∃ t, Word.Page.margin limit css = .ok t) ↔ ∃ i ≤ limit, ofCss css.toList = .ok i := by
  unfold Word.Page.margin
  cases ofCss css.toList with
  | error e => simp [Except.bind]
  | ok n =>
    simp only [Except.bind, Except.ok.injEq]
    split <;> simp_all

theorem page_ok_iff {p : Page} : (∃ w, WordFile.page p = .ok w) ↔
    (∃ t, Word.Page.margin Word.Page.signedLimit p.margins.top = .ok t) ∧
      (∃ t, Word.Page.margin Word.Page.unsignedLimit p.margins.right = .ok t) ∧
      (∃ t, Word.Page.margin Word.Page.signedLimit p.margins.bottom = .ok t) ∧
      ∃ t, Word.Page.margin Word.Page.unsignedLimit p.margins.left = .ok t := by
  rw [WordFile.page]
  cases Word.Page.margin Word.Page.signedLimit p.margins.top <;>
    cases Word.Page.margin Word.Page.unsignedLimit p.margins.right <;>
    cases Word.Page.margin Word.Page.signedLimit p.margins.bottom <;>
    cases Word.Page.margin Word.Page.unsignedLimit p.margins.left <;>
    simp [bind, Except.bind, pure, Except.pure]

/-- Text that is no length gives the default. A length whose numeral is no number is a failure, and any other makes what so
many units make: a length if there are at most `10 ^ 300` of them, and exactly so many if they are whole and few. So text
fails exactly if it is a length that makes none. A page is made exactly if the texts of its margins give lengths within
the limits of documents. -/
theorem lengths_made (cs : List Char) (p : Page) :
    ((¬∃ numeral size, IsLength cs numeral size) → ofCss cs = .ok standard) ∧
      (∀ numeral size, IsLength cs numeral size →
        ((¬∃ n k, IsDecimal numeral n k) → ofCss cs = .error .badValue) ∧
          ∀ n k, IsDecimal numeral n k → Makes n k size (ofCss cs) ∧
            ((n : ℚ) / 10 ^ k ≤ 10 ^ 300 → ∃ i, ofCss cs = .ok i) ∧
            (k = 0 → n * size ≤ 2 ^ 53 → ofCss cs = .ok (n * size))) ∧
      ((∃ i, ofCss cs = .ok i) ↔
        ∀ numeral size, IsLength cs numeral size → ∃ n k i, IsDecimal numeral n k ∧ Makes n k size (.ok i)) ∧
      ((∃ w, WordFile.page p = .ok w) ↔
        (∃ i ≤ Word.Page.signedLimit, ofCss p.margins.top.toList = .ok i) ∧
          (∃ i ≤ Word.Page.unsignedLimit, ofCss p.margins.right.toList = .ok i) ∧
          (∃ i ≤ Word.Page.signedLimit, ofCss p.margins.bottom.toList = .ok i) ∧
          ∃ i ≤ Word.Page.unsignedLimit, ofCss p.margins.left.toList = .ok i) := by
  refine ⟨ofCss_of_not_isLength, fun numeral size isLength => ?_, ofCss_ok_iff, ?_⟩
  · obtain ⟨none_, all⟩ := ofCss_numeral isLength
    obtain ⟨_, _, -, -, -, -, unit⟩ := isLength.trimmed
    refine ⟨none_, fun n k decimal => ?_⟩
    have makes := all n k decimal
    refine ⟨makes, makes.of_le unit.bounds.2, ?_⟩
    rintro rfl few
    exact makes.of_whole unit.bounds.1 few
  · rw [page_ok_iff]
    simp only [margin_ok_iff]

/-- A length with a number, text that is no length, and a length without a number; the first two as margins of a page. -/
theorem lengths_made_centimetres :
    ofCss " 2 CM".toList = .ok 720000 ∧ ofCss "2em".toList = .ok standard ∧ ofCss "1.2.3cm".toList = .error .badValue ∧
      ∃ w, WordFile.page { margins := { top := "2em", right := " 2 CM" } } = .ok w := by
  have cm : UnitSize "cm".toList 360000 := .named (show ("cm", 360000) ∈ units by decide) (by decide)
  have capitals : UnitSize "CM".toList 360000 := .named (show ("cm", 360000) ∈ units by decide) (by decide)
  have isLength : IsLength " 2 CM".toList ['2'] 360000 :=
    ⟨[' '], [' '], "CM".toList, [], rfl, by simp; decide, by simp, by simp; decide, capitals⟩
  have decimal : IsDecimal ['2'] 2 0 := .whole (by decide) (by decide)
  have noLength : ¬∃ numeral size, IsLength "2em".toList numeral size := by
    rintro ⟨numeral, size, isLength⟩
    have unit : unitOf? "em".toList = some size := isLength.parts.2
    cases unit
  have points : IsLength "1.2.3cm".toList "1.2.3".toList 360000 :=
    ⟨[], [], "cm".toList, [], rfl, by simp, by simp, by simp; decide, cm⟩
  have noDecimal : ¬∃ n k, IsDecimal "1.2.3".toList n k := by
    rintro ⟨n, k, decimal⟩
    have unread : readBinary64? "1.2.3".toList = none := by decide
    cases unread.symm.trans decimal.read
  obtain ⟨-, lengths, -, page⟩ := lengths_made " 2 CM".toList { margins := { top := "2em", right := " 2 CM" } }
  obtain ⟨-, -, exact⟩ := (lengths _ _ isLength).2 2 0 decimal
  have two : ofCss " 2 CM".toList = .ok 720000 := exact rfl (by decide)
  have none_ : ofCss "2em".toList = .ok standard := (lengths_made _ default).1 noLength
  have failed : ofCss "1.2.3cm".toList = .error .badValue := ((lengths_made _ default).2.1 _ _ points).1 noDecimal
  have plain : ofCss "2cm".toList = .ok 720000 := by decide +kernel
  have fits : (720000 : Int) ≤ Word.Page.signedLimit ∧ (720000 : Int) ≤ Word.Page.unsignedLimit := by decide
  exact ⟨two, none_, failed,
    page.mpr ⟨⟨_, fits.1, none_⟩, ⟨_, fits.2, two⟩, ⟨_, fits.1, plain⟩, ⟨_, fits.2, plain⟩⟩⟩

/-- Two points in the numeral of a margin, or 400 digits, and there is no document. -/
theorem points_fail :
    ofCss "1.2.3cm".toList = .error .badValue ∧ ofCss (List.replicate 400 '9') = .error .overflow ∧
      ∀ w, WordFile.page { margins := { top := "1.2.3cm" } } ≠ .ok w := by
  refine ⟨by decide +kernel, by decide +kernel, fun w made => ?_⟩
  have failed : WordFile.page { margins := { top := "1.2.3cm" } } = .error .badValue := by decide +kernel
  cases failed.symm.trans made

end Measure

end Letterpress
