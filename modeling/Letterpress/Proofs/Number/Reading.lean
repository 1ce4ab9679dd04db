import Letterpress.Proofs.Number.Digits
import Letterpress.Proofs.Number.Shortest
import Letterpress.Proofs.Number.Whole
import Letterpress.Proofs.Text.Ascii
import Mathlib.Data.List.TakeWhile

/-!
# Decimal numbers in text

Digits of any script with at most one point among them are read as the nearest number of the format, or as an infinity if
what they stand for is too large. However many there are, they are read. Digits with more than one point are not read, and
neither are points without digits.

* `Number.eq_of_digitsValue`: as many digits that make the same number are the same digits.
* `Number.digitsValue_bounds`: a number by how many digits it has.
* `Number.ofScientific_neg`: digits, of which some are behind the point.
* `Number.IsDecimal`: what digits with at most one point stand for.
* `Number.IsDecimal.read`, `Number.readBinary64?_of_not_isDecimal`: how digits and points are read.
-/

namespace Letterpress

namespace Number

open Text Binary64

variable {cs ds ws fs rest : List Char}

/-! ## Digits -/

theorem foldl_digits (n : Nat) (ds : List Char) :
    ds.foldl (fun n c => n * 10 + (c.toNat - 48)) n = n * 10 ^ ds.length + digitsValue ds := by
  induction ds generalizing n with
  | nil => simp [digitsValue]
  | cons d ds ih =>
    rw [digitsValue, List.foldl_cons, List.foldl_cons, ih, ih (0 * 10 + _), List.length_cons, Nat.pow_succ]
    ring

theorem digitsValue_cons (d : Char) (ds : List Char) :
    digitsValue (d :: ds) = (d.toNat - 48) * 10 ^ ds.length + digitsValue ds := by
  rw [digitsValue, List.foldl_cons, foldl_digits, Nat.zero_mul, Nat.zero_add]

theorem digitsValue_append (ds es : List Char) :
    digitsValue (ds ++ es) = digitsValue ds * 10 ^ es.length + digitsValue es := by
  rw [digitsValue, List.foldl_append, foldl_digits]
  rfl

theorem digitsValue_lt (digits : ∀ d ∈ ds, isAsciiDigit d = true) : digitsValue ds < 10 ^ ds.length := by
  induction ds with
  | nil => decide
  | cons d ds ih =>
    obtain ⟨here, later⟩ := List.forall_mem_cons.mp digits
    have range := toNat_of_isAsciiDigit here
    have less := ih later
    have first : (d.toNat - 48) * 10 ^ ds.length ≤ 9 * 10 ^ ds.length := Nat.mul_le_mul_right _ (by omega)
    rw [digitsValue_cons, List.length_cons, Nat.pow_succ]
    omega

/-- Digits are known by how many they are and by the number that they make. -/
theorem eq_of_digitsValue {es : List Char} (digits : ∀ d ∈ ds, isAsciiDigit d = true)
    (digits' : ∀ d ∈ es, isAsciiDigit d = true) (length : ds.length = es.length)
    (value : digitsValue ds = digitsValue es) : ds = es := by
  induction ds generalizing es with
  | nil => exact (List.length_eq_zero_iff.mp length.symm).symm
  | cons d ds ih =>
    cases es with
    | nil => cases length
    | cons e es =>
      obtain ⟨here, later⟩ := List.forall_mem_cons.mp digits
      obtain ⟨here', later'⟩ := List.forall_mem_cons.mp digits'
      have size : ds.length = es.length := Nat.succ.inj length
      have less := digitsValue_lt later
      have less' := digitsValue_lt later'
      rw [digitsValue_cons, digitsValue_cons, size] at value
      rw [size] at less
      -- The first digit is the quotient by the power of ten, and what the others make is the remainder.
      have positive : 0 < 10 ^ es.length := Nat.pow_pos (by decide)
      have quotient := congrArg (· / 10 ^ es.length) value
      simp only [Nat.mul_comm _ (10 ^ es.length), Nat.mul_add_div positive, Nat.div_eq_of_lt less,
        Nat.div_eq_of_lt less', Nat.add_zero] at quotient
      rw [quotient] at value
      have range := toNat_of_isAsciiDigit here
      have range' := toNat_of_isAsciiDigit here'
      have codes : d.toNat = e.toNat := by omega
      have same : d = e := by rw [← Char.ofNat_toNat d, codes, Char.ofNat_toNat]
      rw [same, ih later later' size (Nat.add_left_cancel value)]

/-- Zeros before other digits count nothing. -/
theorem digitsValue_dropZeros (ds : List Char) : digitsValue (ds.dropWhile (· == '0')) = digitsValue ds := by
  induction ds with
  | nil => rfl
  | cons d ds ih =>
    by_cases zero : d = '0'
    · subst zero
      rw [List.dropWhile_cons_of_pos (by decide), ih, digitsValue_cons]
      simp
    · rw [List.dropWhile_cons_of_neg (by simpa using zero)]

/-- A number by how many digits it has behind the zeros. -/
theorem digitsValue_bounds (digits : ∀ d ∈ ds, isAsciiDigit d = true) (filled : digitsValue ds ≠ 0) :
    (10 : ℚ) ^ ((ds.dropWhile (· == '0')).length - 1 : Int) ≤ digitsValue ds ∧
      (digitsValue ds : ℚ) < 10 ^ ((ds.dropWhile (· == '0')).length : Int) := by
  rw [← digitsValue_dropZeros] at filled ⊢
  have digits' : ∀ d ∈ ds.dropWhile (· == '0'), isAsciiDigit d = true := fun d mem =>
    digits d ((List.dropWhile_sublist _).mem mem)
  cases same : ds.dropWhile (· == '0') with
  | nil =>
    rw [same] at filled
    exact absurd rfl filled
  | cons d es =>
    rw [same] at digits'
    have zero : (d == '0') = false := by
      have head := List.head?_dropWhile_not (· == '0') ds
      rw [same] at head
      exact head
    have range := toNat_of_isAsciiDigit (digits' d (List.mem_cons_self ..))
    have other : d.toNat ≠ 48 := fun code => by
      have char : d = '0' := Char.toNat_inj.mp code
      simp [char] at zero
    constructor
    · have first : 1 * 10 ^ es.length ≤ (d.toNat - 48) * 10 ^ es.length := Nat.mul_le_mul_right _ (by omega)
      have whole : 10 ^ es.length ≤ digitsValue (d :: es) := by
        rw [digitsValue_cons]
        omega
      rw [List.length_cons, Nat.cast_succ, add_sub_cancel_right, zpow_natCast]
      exact_mod_cast whole
    · rw [zpow_natCast]
      exact_mod_cast digitsValue_lt digits'

/-! ## Digits with an exponent -/

/-- What is less than half the least number is rounded to zero. -/
theorem ofRatio_of_tiny (s : Bool) {n d : Nat} (positive : 0 < d) (tiny : (n : ℚ) / d < 2 ^ leastExponent / 2) :
    ofRatio s n d = signedZero s := by
  have scale : (0 : ℚ) < 2 ^ leastExponent := two_zpow_pos _
  have nonneg : (0 : ℚ) ≤ n / d := by positivity
  obtain ⟨large, -⟩ | ⟨-, m, e, same, proper, nearest⟩ := ofRatio_spec s n positive
  · have unit : (2 : ℚ) ^ leastExponent ≤ 2 ^ (0 : Int) := two_zpow_le (by decide)
    rw [zpow_zero] at unit
    linarith [lt_roundingLimit]
  · have close := nearest.close leastExponent le_rfl (by rw [abs_of_nonneg nonneg]; linarith)
    have less : (m * 2 ^ e : ℚ) < 1 * 2 ^ e := by linarith [(abs_le.mp close).2, two_zpow_le proper.2.1]
    have zero : m < 1 := by exact_mod_cast (mul_lt_mul_iff_left₀ (two_zpow_pos e)).mp less
    obtain rfl : m = 0 := Nat.lt_one_iff.mp zero
    have least : e = leastExponent := proper.2.2.2.resolve_right (by decide)
    rw [same, least, signedZero]

theorem ofRatio_of_large (s : Bool) {n d : Nat} (positive : 0 < d) (large : roundingLimit ≤ (n : ℚ) / d) :
    ofRatio s n d = infinite s := by
  obtain ⟨-, same⟩ | ⟨small, -⟩ := ofRatio_cases s n positive
  · exact same
  · exact absurd large (not_le.mpr small)

/-- The exponents that are not computed with lie beyond all numbers of the format. -/
theorem scientific_bounds : roundingLimit ≤ 10 ^ (320 : Int) ∧ (10 : ℚ) ^ (-340 : Int) < 2 ^ leastExponent / 2 := by
  have large : (2 : ℚ) ^ 1024 ≤ 10 ^ 320 := by
    have root : (2 : ℚ) ^ 64 ≤ 10 ^ 20 := by norm_num
    calc (2 : ℚ) ^ 1024 = (2 ^ 64) ^ 16 := by rw [← pow_mul]
      _ ≤ (10 ^ 20) ^ 16 := pow_le_pow_left₀ (by positivity) root 16
      _ = 10 ^ 320 := by rw [← pow_mul]
  have small : (2 : ℚ) ^ 1075 < 10 ^ 340 := by
    have root : (2 : ℚ) ^ 215 < 10 ^ 68 := by norm_num
    calc (2 : ℚ) ^ 1075 = (2 ^ 215) ^ 5 := by rw [← pow_mul]
      _ < (10 ^ 68) ^ 5 := pow_lt_pow_left₀ root (by positivity) (by decide)
      _ = 10 ^ 340 := by rw [← pow_mul]
  constructor
  · calc roundingLimit ≤ 2 ^ 53 * 2 ^ greatestExponent :=
          mul_le_mul_of_nonneg_right (by norm_num) (two_zpow_pos _).le
      _ = 2 ^ 1024 := by rw [two_pow_mul_zpow, ← zpow_natCast]; rfl
      _ ≤ 10 ^ 320 := large
      _ = 10 ^ (320 : Int) := (zpow_ofNat 10 320).symm
  · calc (10 : ℚ) ^ (-340 : Int) = (10 ^ 340)⁻¹ := by rw [zpow_neg, zpow_ofNat]
      _ < (2 ^ 1075)⁻¹ := inv_strictAnti₀ (by positivity) small
      _ = 2 ^ leastExponent / 2 := by
        rw [leastExponent, zpow_neg, zpow_ofNat, div_eq_mul_inv, ← mul_inv, ← pow_succ]

/-- Digits with so many of them behind the point are the quotient that they stand for, rounded once. -/
theorem ofScientific_neg (s : Bool) (digits : ∀ d ∈ ds, isAsciiDigit d = true) (k : Nat) :
    ofScientific s ds (-k) = ofRatio s (digitsValue ds) (10 ^ k) := by
  obtain ⟨large, small⟩ := scientific_bounds
  have scale : (0 : ℚ) < 10 ^ (-k : Int) := ten_zpow_pos _
  have positive : 0 < 10 ^ k := Nat.pow_pos (by decide)
  have value : (digitsValue ds : ℚ) / (10 ^ k : Nat) = digitsValue ds * 10 ^ (-k : Int) := by
    rw [zpow_neg, zpow_natCast, div_eq_mul_inv, Nat.cast_pow, Nat.cast_ofNat]
  simp only [ofScientific]
  split
  · rename_i zero
    rw [zero, ofRatio, if_pos rfl]
  rename_i filled
  obtain ⟨low, high⟩ := digitsValue_bounds digits filled
  split
  · rename_i top
    refine (ofRatio_of_large s positive ?_).symm
    calc roundingLimit ≤ (10 : ℚ) ^ (320 : Int) := large
      _ ≤ 10 ^ ((ds.dropWhile (· == '0')).length - 1 + -k : Int) := zpow_le_zpow_right₀ (by norm_num) (by omega)
      _ = 10 ^ ((ds.dropWhile (· == '0')).length - 1 : Int) * 10 ^ (-k : Int) := ten_zpow_add _ _
      _ ≤ digitsValue ds * 10 ^ (-k : Int) := mul_le_mul_of_nonneg_right low scale.le
      _ = digitsValue ds / (10 ^ k : Nat) := value.symm
  split
  · rename_i top
    refine (ofRatio_of_tiny s positive ?_).symm
    calc (digitsValue ds : ℚ) / (10 ^ k : Nat) = digitsValue ds * 10 ^ (-k : Int) := value
      _ < 10 ^ ((ds.dropWhile (· == '0')).length : Int) * 10 ^ (-k : Int) := mul_lt_mul_of_pos_right high scale
      _ = 10 ^ ((ds.dropWhile (· == '0')).length + -k : Int) := (ten_zpow_add _ _).symm
      _ ≤ 10 ^ (-340 : Int) := zpow_le_zpow_right₀ (by norm_num) (by omega)
      _ < 2 ^ leastExponent / 2 := small
  split
  · obtain rfl : k = 0 := by omega
    have one : digitsValue ds * Nat.pow 10 (-((0 : Nat) : Int)).toNat = digitsValue ds := Nat.mul_one _
    rw [one, Nat.pow_zero]
  · rw [Int.neg_neg, Int.toNat_natCast]
    rfl

/-! ## Digits and points -/

/-- Digits with at most one point among them, by the number that they make and how many of them are behind the point. -/
inductive IsDecimal : List Char → Nat → Nat → Prop
  | whole {ws : List Char} {n : Nat} (filled : ws ≠ []) (value : decimal? ws = some n) : IsDecimal ws n 0
  | point {ws fs : List Char} {n : Nat} (filled : ws ++ fs ≠ []) (value : decimal? (ws ++ fs) = some n) :
    IsDecimal (ws ++ '.' :: fs) n fs.length

theorem readUnsigned?_whole (s : Bool) (digits : ∀ d ∈ ds, isAsciiDigit d = true) (filled : ds ≠ []) :
    readUnsigned? s ds = some (ofScientific s ds 0) := by
  have taken : ds.takeWhile isAsciiDigit = ds := List.takeWhile_eq_self_iff.mpr digits
  have left : ds.dropWhile isAsciiDigit = [] := List.dropWhile_eq_nil_iff.mpr digits
  simp [readUnsigned?, readExponent?, taken, left, filled]

/-- A number with a point, where its digits end with the text or at another point. -/
theorem readUnsigned?_point (s : Bool) (whole : ∀ d ∈ ws, isAsciiDigit d = true)
    (fraction : ∀ d ∈ fs, isAsciiDigit d = true) (ends : rest = [] ∨ ∃ more, rest = '.' :: more) :
    readUnsigned? s (ws ++ '.' :: (fs ++ rest)) =
      if ws ++ fs = [] then none
      else (readExponent? rest).map fun e => ofScientific s (ws ++ fs) (e - fs.length) := by
  have stops : isAsciiDigit '.' = false := by decide
  have none_ : rest.takeWhile isAsciiDigit = [] ∧ rest.dropWhile isAsciiDigit = rest := by
    rcases ends with rfl | ⟨more, rfl⟩ <;> simp [stops]
  have taken : (fs ++ rest).takeWhile isAsciiDigit = fs := by
    rw [List.takeWhile_append_of_pos fraction, none_.1, List.append_nil]
  have left : (fs ++ rest).dropWhile isAsciiDigit = rest := by
    rw [List.dropWhile_append_of_pos fraction, none_.2]
  have taken' : (ws ++ '.' :: (fs ++ rest)).takeWhile isAsciiDigit = ws := by
    simp [List.takeWhile_append_of_pos whole, stops]
  have left' : (ws ++ '.' :: (fs ++ rest)).dropWhile isAsciiDigit = '.' :: (fs ++ rest) := by
    simp [List.dropWhile_append_of_pos whole, stops]
  simp only [readUnsigned?, taken', left', taken, left, Bool.and_eq_true, List.isEmpty_iff, List.append_eq_nil_iff]

theorem plainDigits_append (cs ds : List Char) : plainDigits (cs ++ ds) = plainDigits cs ++ plainDigits ds :=
  List.map_append

theorem plainDigits_of_isDecimal (decimals : ∀ c ∈ cs, isDecimal c = true) :
    plainDigits cs = cs.map plainDigit ∧ ∀ d ∈ cs.map plainDigit, isAsciiDigit d = true := by
  refine ⟨plainDigits_eq fun c mem => isDigit_of_isDecimal (decimals c mem), fun d mem => ?_⟩
  obtain ⟨c, within, rfl⟩ := List.mem_map.mp mem
  have counts : (decimalValue? c).isSome = true := isSome_decimalValue?.trans (decimals c within)
  obtain ⟨v, same⟩ := Option.isSome_iff_exists.mp counts
  exact (plainDigit_of_some same).1

/-- A plain digit or a point is neither white space nor a letter of a word, and it has no meaning of its own. -/
theorem plain_of_numeral {d : Char} (plain : isAsciiDigit d = true ∨ d = '.') :
    isGap d = false ∧ isAsciiUpper d = false ∧ d ≠ '_' ∧ (d ≠ '-' ∧ d ≠ '+') ∧ d ≠ 'i' ∧ d ≠ 'n' := by
  have ascii : d.toNat < 128 := by
    rcases plain with digit | rfl
    · have range := toNat_of_isAsciiDigit digit
      omega
    · decide
  revert plain
  exact ascii_induction (p := fun d => isAsciiDigit d = true ∨ d = '.' →
    isGap d = false ∧ isAsciiUpper d = false ∧ d ≠ '_' ∧ (d ≠ '-' ∧ d ≠ '+') ∧ d ≠ 'i' ∧ d ≠ 'n') (by decide) ascii

/-- Digits and points are read as a number without a sign and without an exponent. -/
theorem readBinary64?_of_numerals (numerals : ∀ c ∈ cs, isDecimal c = true ∨ c = '.') :
    readBinary64? cs = readUnsigned? false (plainDigits cs) := by
  have plain : ∀ d ∈ plainDigits cs, isAsciiDigit d = true ∨ d = '.' := by
    intro d mem
    obtain ⟨c, within, same⟩ := List.mem_map.mp mem
    rcases numerals c within with decimal | rfl
    · have decimals : ∀ e ∈ [c], isDecimal e = true := by simpa using decimal
      have single := plainDigits_of_isDecimal decimals
      have here : d ∈ plainDigits [c] := List.mem_singleton.mpr same.symm
      exact .inl (single.2 d (single.1 ▸ here))
    · exact .inr same.symm
  rw [readBinary64?]
  generalize plainDigits cs = ds at plain
  have lower : (ds.map fun c => if isAsciiUpper c then Char.ofNat (c.toNat + 32) else c) = ds :=
    (List.map_congr_left fun d mem => by simp [(plain_of_numeral (plain d mem)).2.1]).trans (List.map_id ds)
  have noWord {c : Char} (letter : c = 'i' ∨ c = 'n') (word : List Char) : (ds == c :: word) = false := by
    refine Bool.eq_false_iff.mpr fun same => ?_
    rw [beq_iff_eq] at same
    obtain ⟨-, -, -, -, noI, noN⟩ := plain_of_numeral (plain c (same ▸ List.mem_cons_self ..))
    exact letter.elim noI noN
  rw [trimBy_of_none fun d mem => (plain_of_numeral (plain d mem)).1,
    dropLowLines?_of_none (by decide) fun d mem => (plain_of_numeral (plain d mem)).2.2.1]
  simp only [splitSign_of_none fun d mem => (plain_of_numeral (plain d mem)).2.2.2.1, lower, noWord (.inl rfl),
    noWord (.inr rfl), Bool.or_self, Bool.false_eq_true, if_false]

theorem plainDigits_point (ws fs : List Char) : plainDigits (ws ++ '.' :: fs) = plainDigits ws ++ '.' :: plainDigits fs :=
  plainDigits_append ws ('.' :: fs)

theorem numerals_point (whole : ∀ c ∈ ws, isDecimal c = true) (rest : ∀ c ∈ fs, isDecimal c = true ∨ c = '.') :
    ∀ c ∈ ws ++ '.' :: fs, isDecimal c = true ∨ c = '.' :=
  List.forall_mem_append.mpr ⟨fun c mem => .inl (whole c mem), List.forall_mem_cons.mpr ⟨.inr rfl, rest⟩⟩

/-- Every number with at most one point is read, rounded once. -/
theorem IsDecimal.read {n k : Nat} (decimal : IsDecimal cs n k) :
    readBinary64? cs = some (ofRatio false n (10 ^ k)) := by
  have digits {ds : List Char} {n : Nat} (value : decimal? ds = some n) :
      (∀ c ∈ ds, isDecimal c = true) ∧ digitsValue (ds.map plainDigit) = n := by
    refine ⟨isSome_decimal?.mp (by rw [value]; rfl), ?_⟩
    rw [decimal?_eq] at value
    split at value
    · exact Option.some.inj value
    · cases value
  cases decimal with
  | whole filled value =>
    obtain ⟨decimals, total⟩ := digits value
    obtain ⟨plain, ascii⟩ := plainDigits_of_isDecimal decimals
    rw [readBinary64?_of_numerals fun c mem => .inl (decimals c mem), plain,
      readUnsigned?_whole false ascii (by simpa using filled), ← total]
    exact congrArg some (ofScientific_neg false ascii 0)
  | @point ws fs _ filled value =>
    obtain ⟨decimals, total⟩ := digits value
    obtain ⟨wholes, fractions⟩ := List.forall_mem_append.mp decimals
    obtain ⟨plainWs, asciiWs⟩ := plainDigits_of_isDecimal wholes
    obtain ⟨plainFs, asciiFs⟩ := plainDigits_of_isDecimal fractions
    have filled' : ws.map plainDigit ++ fs.map plainDigit ≠ [] := by simpa using filled
    have read := readUnsigned?_point false asciiWs asciiFs (.inl rfl)
    have value := ofScientific_neg false (List.forall_mem_append.mpr ⟨asciiWs, asciiFs⟩) fs.length
    rw [List.append_nil, if_neg filled', readExponent?, Option.map_some, zero_sub, List.length_map, value,
      ← List.map_append, total] at read
    rw [readBinary64?_of_numerals (numerals_point wholes fun c mem => .inl (fractions c mem)), plainDigits_point, plainWs,
      plainFs, read]

/-- Digits and points, cut at the first point. -/
theorem exists_cut (numerals : ∀ c ∈ cs, isDecimal c = true ∨ c = '.') :
    ∃ ws rest, cs = ws ++ rest ∧ (∀ c ∈ ws, isDecimal c = true) ∧ (rest = [] ∨ ∃ more, rest = '.' :: more) := by
  induction cs with
  | nil => exact ⟨[], [], rfl, by simp, .inl rfl⟩
  | cons c cs ih =>
    obtain ⟨decimal | rfl, later⟩ := List.forall_mem_cons.mp numerals
    · obtain ⟨ws, rest, rfl, decimals, ends⟩ := ih later
      exact ⟨c :: ws, rest, rfl, List.forall_mem_cons.mpr ⟨decimal, decimals⟩, ends⟩
    · exact ⟨[], '.' :: cs, rfl, by simp, .inr ⟨cs, rfl⟩⟩

/-- Nothing else of digits and points is read. -/
theorem readBinary64?_of_not_isDecimal (numerals : ∀ c ∈ cs, isDecimal c = true ∨ c = '.') (filled : cs ≠ [])
    (other : ¬∃ n k, IsDecimal cs n k) : readBinary64? cs = none := by
  have counts {ds : List Char} (decimals : ∀ c ∈ ds, isDecimal c = true) : ∃ n, decimal? ds = some n :=
    Option.isSome_iff_exists.mp (isSome_decimal?.mpr decimals)
  obtain ⟨ws, rest, rfl, wholes, rfl | ⟨more, rfl⟩⟩ := exists_cut numerals
  · rw [List.append_nil] at filled other
    obtain ⟨n, value⟩ := counts wholes
    exact absurd ⟨n, 0, .whole filled value⟩ other
  have numerals' : ∀ c ∈ more, isDecimal c = true ∨ c = '.' := fun c mem =>
    numerals c (List.mem_append_right _ (List.mem_cons_of_mem _ mem))
  obtain ⟨fs, rest, rfl, fractions, ends⟩ := exists_cut numerals'
  obtain ⟨plainWs, asciiWs⟩ := plainDigits_of_isDecimal wholes
  obtain ⟨plainFs, asciiFs⟩ := plainDigits_of_isDecimal fractions
  have ends' : plainDigits rest = [] ∨ ∃ more, plainDigits rest = '.' :: more := by
    rcases ends with rfl | ⟨more, rfl⟩
    · exact .inl rfl
    · exact .inr ⟨plainDigits more, rfl⟩
  rw [readBinary64?_of_numerals numerals, plainDigits_point, plainDigits_append, plainWs, plainFs,
    readUnsigned?_point false asciiWs asciiFs ends']
  split
  · rfl
  · rename_i filled'
    rcases ends with rfl | ⟨more, rfl⟩
    · obtain ⟨n, value⟩ := counts (List.forall_mem_append.mpr ⟨wholes, fractions⟩)
      rw [List.append_nil] at other
      exact absurd ⟨n, _, .point (by simpa using filled') value⟩ other
    · rfl

end Number

end Letterpress
