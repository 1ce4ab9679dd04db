import Letterpress.Number.Reading

/-!
# Whole numbers in digits

Text of digits of any script is read as the number that the digits make. Superscripts and enclosed digits are digits in
a wider sense only: text with one of them is not read, and text that is too long is not read either.

* `Number.decimal?`: the number that decimal digits make.
* `Number.readInt?_of_digits`: how text of digits is read.
-/

namespace Letterpress

namespace Text

variable {c : Char} {cs : List Char} {v : Nat}

theorem inRanges_iff {ranges : List (Nat × Nat)} {n : Nat} :
    inRanges ranges n = true ↔ ∃ r ∈ ranges, r.1 ≤ n ∧ n ≤ r.2 := by
  simp [inRanges]

theorem toNat_of_isAsciiDigit (digit : isAsciiDigit c = true) : 48 ≤ c.toNat ∧ c.toNat ≤ 57 := by
  simpa [isAsciiDigit, Char.le_def, UInt32.le_iff_toNat_le] using digit

/-- Every decimal digit is a digit in the wider sense. -/
theorem isDigit_of_isDecimal (decimal : isDecimal c = true) : isDigit c = true := by
  have inside : (decimalRanges.all fun r => digitRanges.any fun s => s.1 ≤ r.1 && r.2 ≤ s.2) = true := by rfl
  simp only [List.all_eq_true, List.any_eq_true, Bool.and_eq_true, decide_eq_true_eq] at inside
  unfold isDecimal at decimal
  unfold isDigit
  split at decimal
  · rename_i ascii
    rw [if_pos ascii]
    exact decimal
  · rename_i wide
    rw [if_neg wide, inRanges_iff]
    obtain ⟨r, mem, low, high⟩ := inRanges_iff.mp decimal
    obtain ⟨s, mem', low', high'⟩ := inside r mem
    exact ⟨s, mem', by omega, by omega⟩

/-- The decimal digits are those that count something. -/
theorem isSome_decimalValue? : (decimalValue? c).isSome = isDecimal c := by
  unfold decimalValue? isDecimal
  split
  · split <;> simp_all
  · rw [Option.isSome_map, inRanges, Bool.eq_iff_iff, List.find?_isSome, List.any_eq_true]

theorem decimalValue?_lt (counts : decimalValue? c = some v) : v < 10 := by
  unfold decimalValue? at counts
  split at counts
  · split at counts
    · rename_i digit
      have bounds := toNat_of_isAsciiDigit digit
      cases counts
      omega
    · cases counts
  · obtain ⟨r, -, rfl⟩ := Option.map_eq_some_iff.mp counts
    exact Nat.mod_lt _ (by omega)

/-- The white space beyond ASCII. -/
def wideBlanks : List Nat :=
  [0x85, 0xA0, 0x1680, 0x2000, 0x2001, 0x2002, 0x2003, 0x2004, 0x2005, 0x2006, 0x2007, 0x2008, 0x2009, 0x200A, 0x2028,
    0x2029, 0x202F, 0x205F, 0x3000]

/-- No digit is white space. -/
theorem not_isBlank_of_isDigit (digit : isDigit c = true) : isBlank c = false := by
  have apart : ∀ n ∈ wideBlanks, inRanges digitRanges n = false := by decide
  refine Bool.eq_false_iff.mpr fun blank => ?_
  have codes : c.toNat ≤ 32 ∨ c.toNat ∈ wideBlanks := by
    simp only [isBlank, Bool.or_eq_true, Bool.and_eq_true, decide_eq_true_eq, beq_iff_eq] at blank
    simp only [wideBlanks, List.mem_cons, List.not_mem_nil]
    omega
  have wide : ∀ n ∈ wideBlanks, 128 ≤ n := by decide
  unfold isDigit at digit
  split at digit
  · have bounds := toNat_of_isAsciiDigit digit
    rcases codes with control | mem
    · omega
    · have beyond := wide _ mem
      omega
  · rcases codes with control | mem
    · omega
    · rw [apart _ mem] at digit
      cases digit

theorem isDecimal_of_isAsciiDigit (digit : isAsciiDigit c = true) : isDecimal c = true := by
  have range := toNat_of_isAsciiDigit digit
  have ascii : c.toNat < 128 := by omega
  rw [isDecimal, if_pos ascii, digit]

theorem not_isBlank_of_isAsciiDigit (digit : isAsciiDigit c = true) : isBlank c = false :=
  not_isBlank_of_isDigit (isDigit_of_isDecimal (isDecimal_of_isAsciiDigit digit))

theorem trimBy_of_none {p : Char → Bool} (none_ : ∀ c ∈ cs, p c = false) : trimBy p cs = cs := by
  have left {ds : List Char} (none_ : ∀ c ∈ ds, p c = false) : ds.dropWhile p = ds := by
    cases ds with
    | nil => rfl
    | cons d ds => rw [List.dropWhile_cons_of_neg (by simp [none_ d])]
  rw [trimBy, trimLeftBy, left none_, trimRightBy, left fun c mem => none_ c (List.mem_reverse.mp mem),
    List.reverse_reverse]

theorem trim_of_shown (shown : ∀ c ∈ cs, isBlank c = false) : trim cs = cs := trimBy_of_none shown

end Text

namespace Number

open Text

variable {c : Char} {cs : List Char}

/-- The number that decimal digits make. -/
def decimal? (cs : List Char) : Option Nat :=
  cs.foldlM (fun n c => (decimalValue? c).map (n * 10 + ·)) 0

/-- A digit as it is read: a plain one, or a mark that is none. -/
def plainDigit (c : Char) : Char := (decimalValue? c).elim '?' fun v => Char.ofNat (48 + v)

theorem plainDigit_of_some {v : Nat} (counts : decimalValue? c = some v) :
    isAsciiDigit (plainDigit c) = true ∧ (plainDigit c).toNat - 48 = v := by
  have all : ∀ v < 10, isAsciiDigit (Char.ofNat (48 + v)) = true ∧ (Char.ofNat (48 + v)).toNat - 48 = v := by decide
  rw [plainDigit, counts]
  exact all v (decimalValue?_lt counts)

theorem plainDigit_of_none (counts : decimalValue? c = none) : plainDigit c = '?' := by rw [plainDigit, counts]; rfl

/-- A plain digit can be told from all that has a meaning of its own around numbers. -/
theorem plainDigit_plain (c : Char) :
    isGap (plainDigit c) = false ∧ plainDigit c ≠ '_' ∧ plainDigit c ≠ '-' ∧ plainDigit c ≠ '+' := by
  cases counts : decimalValue? c with
  | none =>
    rw [plainDigit_of_none counts]
    decide
  | some v =>
    have all : ∀ v < 10, isGap (Char.ofNat (48 + v)) = false ∧ Char.ofNat (48 + v) ≠ '_' ∧
        Char.ofNat (48 + v) ≠ '-' ∧ Char.ofNat (48 + v) ≠ '+' := by decide
    rw [plainDigit, counts]
    exact all v (decimalValue?_lt counts)

theorem plainDigits_eq (digits : ∀ c ∈ cs, isDigit c = true) : plainDigits cs = cs.map plainDigit := by
  refine List.map_congr_left fun c mem => ?_
  have digit := digits c mem
  have shown : isBlank c = false := not_isBlank_of_isDigit digit
  by_cases ascii : c.toNat < 128
  · rw [isDigit, if_pos ascii] at digit
    have bounds := toNat_of_isAsciiDigit digit
    have back : 48 + (c.toNat - 48) = c.toNat := by omega
    simp only [ascii, if_true, plainDigit, decimalValue?, digit, Option.elim_some, back, Char.ofNat_toNat]
  · simp only [ascii, if_false, shown, plainDigit]
    cases decimalValue? c <;> rfl

theorem dropLowLines?_of_none {previous : Char} (before : previous ≠ '_') (none_ : ∀ c ∈ cs, c ≠ '_') :
    dropLowLines? previous cs = some cs := by
  induction cs generalizing previous with
  | nil => simp [dropLowLines?, before]
  | cons c cs ih =>
    obtain ⟨here, later⟩ := List.forall_mem_cons.mp none_
    rw [dropLowLines?, ih here later]
    · simp [before]
    · exact here

theorem splitSign_of_none (none_ : ∀ c ∈ cs, c ≠ '-' ∧ c ≠ '+') : splitSign cs = (false, cs) := by
  unfold splitSign
  split
  · exact absurd rfl (none_ '-' (List.mem_cons_self ..)).1
  · exact absurd rfl (none_ '+' (List.mem_cons_self ..)).2
  · rfl

/-- Digits that are read as plain ones make the same number. -/
theorem decimal?_eq : decimal? cs =
    if (cs.map plainDigit).all isAsciiDigit then some (digitsValue (cs.map plainDigit)) else none := by
  rw [decimal?, digitsValue]
  generalize 0 = n
  induction cs generalizing n with
  | nil => rfl
  | cons c cs ih =>
    rw [List.foldlM_cons, List.map_cons, List.all_cons, List.foldl_cons]
    cases counts : decimalValue? c with
    | none =>
      rw [plainDigit_of_none counts]
      rfl
    | some v =>
      obtain ⟨digit, value⟩ := plainDigit_of_some counts
      rw [digit, value, Bool.true_and]
      exact ih (n * 10 + v)

theorem isSome_decimal? : (decimal? cs).isSome ↔ ∀ c ∈ cs, isDecimal c = true := by
  have plain (c : Char) : isAsciiDigit (plainDigit c) = isDecimal c := by
    rw [← isSome_decimalValue?]
    cases counts : decimalValue? c with
    | none =>
      rw [plainDigit_of_none counts]
      rfl
    | some v => exact (plainDigit_of_some counts).1
  rw [decimal?_eq, List.all_map, ← List.all_eq_true]
  simp only [Function.comp_def, plain]
  split <;> simp_all

/-- Text of digits is read if all of them are decimal and there are not too many. -/
theorem readInt?_of_digits (filled : cs ≠ []) (digits : ∀ c ∈ cs, isDigit c = true) :
    readInt? cs = if digitLimit < cs.length then none else (decimal? cs).map Int.ofNat := by
  have plain : ∀ d ∈ cs.map plainDigit, isGap d = false ∧ d ≠ '_' ∧ d ≠ '-' ∧ d ≠ '+' := by
    intro d mem
    obtain ⟨c, -, rfl⟩ := List.mem_map.mp mem
    exact plainDigit_plain c
  have noGap := fun d mem => (plain d mem).1
  have noLow := fun d mem => (plain d mem).2.1
  have noSign := fun d mem => (plain d mem).2.2
  have filled' : (cs.map plainDigit).isEmpty = false := by simp [filled]
  rw [readInt?, plainDigits_eq digits, trimBy_of_none noGap, dropLowLines?_of_none (by decide) noLow]
  simp only [splitSign_of_none noSign, filled', List.length_map, decimal?_eq]
  by_cases long : digitLimit < cs.length <;> by_cases all : (cs.map plainDigit).all isAsciiDigit = true <;>
    simp [long, all]

end Number

end Letterpress
