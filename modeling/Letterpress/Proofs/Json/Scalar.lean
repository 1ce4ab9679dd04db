import Mathlib.Data.List.TakeWhile
import Letterpress.Json.Reader
import Letterpress.Json.Writer
import Letterpress.Proofs.Number.Digits

/-!
# Text and numbers in JSON

What is written for a text or a whole number is read as it is, whatever comes behind it, as long as that is not the rest
of a number.

* `Json.readText_writeChar`: a character is read back, with an escape or without.
* `Json.readText_written`: so is a text, up to the closing quote.
* `Json.readNumber_intText`: so is a whole number that has not too many digits.
-/

namespace Letterpress.Json

open Text Literal

variable {c : Char} {cs acc rest : List Char} {start fuel n : Nat} {ascii : Bool}

/-! ## Escapes -/

theorem hexValue_digitChar : ∀ d < 16, hexValue? (Nat.digitChar d) = some d := by decide

theorem hex4?_hex (fits : n < 0x10000) (goesOn : rest ≠ []) : hex4? (hex 4 n ++ rest) = some (n, rest) := by
  obtain ⟨next, more, rfl⟩ := List.exists_cons_of_ne_nil goesOn
  have spec := hex_spec (f := id) hexValue_digitChar (by decide : 0 < 4) fits
  rw [List.map_id] at spec
  obtain ⟨long, digits, total⟩ := spec
  generalize hex 4 n = ds at *
  match ds, long, digits, total with
  | [a, b, c, d], _, digits, total =>
    obtain ⟨x, hx⟩ := Option.isSome_iff_exists.mp (digits a (by simp))
    obtain ⟨y, hy⟩ := Option.isSome_iff_exists.mp (digits b (by simp))
    obtain ⟨z, hz⟩ := Option.isSome_iff_exists.mp (digits c (by simp))
    obtain ⟨w, hw⟩ := Option.isSome_iff_exists.mp (digits d (by simp))
    have value : ((x * 16 + y) * 16 + z) * 16 + w = n := by simpa [hexTotal, hx, hy, hz, hw] using total
    simp only [hex4?, List.cons_append, List.nil_append, hx, hy, hz, hw, value]

/-- A character is no half of a pair. -/
theorem toNat_no_unit (c : Char) : c.toNat < 0xD800 ∨ 0xDFFF < c.toNat ∧ c.toNat < 0x110000 := c.valid

theorem unicodeEscape?_unit (single : c.toNat < 0x10000) (goesOn : rest ≠ []) :
    unicodeEscape? (hex 4 c.toNat ++ rest) = some (c, rest) := by
  have high : isHighUnit c.toNat = false := by
    have no_unit := toNat_no_unit c
    rw [isHighUnit, Bool.and_eq_false_iff, decide_eq_false_iff_not, decide_eq_false_iff_not]
    omega
  have low : isLowUnit c.toNat = false := by
    have no_unit := toNat_no_unit c
    rw [isLowUnit, Bool.and_eq_false_iff, decide_eq_false_iff_not, decide_eq_false_iff_not]
    omega
  simp [unicodeEscape?, hex4?_hex single goesOn, high, low, Char.ofNat_toNat]

theorem unicodeEscape?_pair {n m : Nat} (high : isHighUnit n = true) (low : isLowUnit m = true) (goesOn : rest ≠ []) :
    unicodeEscape? (hex 4 n ++ (unitEscape m ++ rest)) =
      some (Char.ofNat (0x10000 + (n - 0xD800) * 0x400 + (m - 0xDC00)), rest) := by
  have first : n < 0x10000 := by
    simp only [isHighUnit, Bool.and_eq_true, decide_eq_true_eq] at high
    omega
  have second : m < 0x10000 := by
    simp only [isLowUnit, Bool.and_eq_true, decide_eq_true_eq] at low
    omega
  have next : nextUnit? (unitEscape m ++ rest) = some (m, rest) := hex4?_hex second goesOn
  rw [unicodeEscape?, hex4?_hex first (List.append_ne_nil_of_right_ne_nil _ goesOn)]
  simp only [Option.map_some, high, next, low, if_true]

theorem readText_charEscape (c : Char) (goesOn : rest ≠ []) :
    readText start acc (fuel + 1) (charEscape c ++ rest) = readText start (c :: acc) fuel rest := by
  have no_unit := toNat_no_unit c
  by_cases single : c.toNat < 0x10000
  · have escape : charEscape c = unitEscape c.toNat := by simp only [charEscape, single, if_true]
    rw [escape, unitEscape, List.cons_append, List.cons_append, readText, unicodeEscape?_unit single goesOn]
  · obtain ⟨k, wide⟩ := Nat.exists_eq_add_of_le (Nat.le_of_not_lt single)
    have escape : charEscape c = unitEscape (0xD800 + k / 0x400) ++ unitEscape (0xDC00 + k % 0x400) := by
      rw [charEscape, wide]
      simp only [Nat.not_lt.mpr (Nat.le_add_right 0x10000 k), if_false, Nat.add_sub_cancel_left]
    have high : isHighUnit (0xD800 + k / 0x400) = true := by
      simp only [isHighUnit, Bool.and_eq_true, decide_eq_true_eq]
      omega
    have low : isLowUnit (0xDC00 + k % 0x400) = true := by
      simp only [isLowUnit, Bool.and_eq_true, decide_eq_true_eq]
      omega
    have whole : 0x10000 + (0xD800 + k / 0x400 - 0xD800) * 0x400 + (0xDC00 + k % 0x400 - 0xDC00) = c.toNat := by omega
    rw [escape, List.append_assoc, unitEscape, List.cons_append, List.cons_append, readText,
      unicodeEscape?_pair high low goesOn, whole, Char.ofNat_toNat]

/-! ## Text -/

/-- A character is read in one step, when more text follows. -/
theorem readText_writeChar (c : Char) (goesOn : rest ≠ []) :
    readText start acc (fuel + 1) (writeChar ascii c ++ rest) = readText start (c :: acc) fuel rest := by
  -- the letter or the mark of a short escape comes first, then what has a number, then what stands for itself
  have number (n : Nat) (same : c.toNat = n) : c = Char.ofNat n := by rw [← same, Char.ofNat_toNat]
  unfold writeChar
  split
  · rename_i mark
    rcases Bool.or_eq_true_iff.mp mark with quote | slash
    · rw [eq_of_beq quote]; rfl
    · rw [eq_of_beq slash]; rfl
  split
  · rename_i same; rw [eq_of_beq same]; rfl
  split
  · rename_i same; rw [eq_of_beq same]; rfl
  split
  · rename_i same; rw [eq_of_beq same]; rfl
  split
  · rename_i same; rw [number 8 (eq_of_beq same)]; rfl
  split
  · rename_i same; rw [number 12 (eq_of_beq same)]; rfl
  split
  · exact readText_charEscape c goesOn
  split
  · exact readText_charEscape c goesOn
  · rename_i mark _ _ _ _ _ control _
    have plain : c ≠ '"' ∧ c ≠ '\\' := by simpa using mark
    rw [List.singleton_append, readText, if_neg control]
    · exact plain.1
    · exact fun slash _ => plain.2 slash
    · exact fun _ slash _ => plain.2 slash
    · exact fun _ _ slash _ => plain.2 slash

/-- A text is read up to the closing quote. -/
theorem readText_written (enough : cs.length < fuel) :
    readText start acc fuel (cs.flatMap (writeChar ascii) ++ '"' :: rest) = .ok (acc.reverse ++ cs, rest) := by
  induction cs generalizing acc fuel with
  | nil =>
    obtain ⟨fuel, rfl⟩ := Nat.exists_eq_succ_of_ne_zero (Nat.ne_of_gt enough)
    rw [List.flatMap_nil, List.nil_append, readText, List.append_nil]
  | cons c cs ih =>
    obtain ⟨fuel, rfl⟩ := Nat.exists_eq_succ_of_ne_zero (Nat.ne_of_gt (Nat.zero_lt_of_lt enough))
    rw [List.flatMap_cons, List.append_assoc, readText_writeChar c (by simp), ih (Nat.lt_of_succ_lt_succ enough)]
    simp

/-! ## Numbers -/

/-- What stands behind a number: neither another digit nor the start of a fraction or of an exponent. -/
def Ends (rest : List Char) : Prop :=
  ∀ x ds, rest = x :: ds → isAsciiDigit x = false ∧ x ≠ '.' ∧ x ≠ 'e' ∧ x ≠ 'E'

theorem Ends.nil : Ends [] := fun _ _ same => nomatch same

theorem Ends.cons {x : Char} (digit : isAsciiDigit x = false) (letter : x ≠ '.' ∧ x ≠ 'e' ∧ x ≠ 'E') :
    Ends (x :: rest) := by
  intro y ds same
  obtain ⟨rfl, -⟩ := List.cons.inj same
  exact ⟨digit, letter⟩

theorem takeWhile_digits (digits : ∀ d ∈ cs, isAsciiDigit d = true) (ends : Ends rest) :
    (cs ++ rest).takeWhile isAsciiDigit = cs ∧ (cs ++ rest).dropWhile isAsciiDigit = rest := by
  rw [List.takeWhile_append_of_pos digits, List.dropWhile_append_of_pos digits]
  cases rest with
  | nil => simp
  | cons x ds => simp [(ends x ds rfl).1]

theorem takeWhole?_natText (ends : Ends rest) (n : Nat) : takeWhole? (natText n ++ rest) = some (natText n, rest) := by
  have digits : ∀ d ∈ natText n, isAsciiDigit d = true := fun d => isAsciiDigit_of_mem_natText
  obtain ⟨before, after⟩ := takeWhile_digits digits ends
  rcases natText_zero_or n with zero | first
  · rw [zero]
    rfl
  · obtain ⟨d, ds, same, digit⟩ := natText_eq_cons n
    rw [same] at first before after ⊢
    have notZero : d ≠ '0' := fun zero => first (congrArg some zero)
    rw [List.cons_append] at before after ⊢
    rw [takeWhole?, if_pos digit, before, after]
    exact notZero

theorem takeFraction_of_ends (ends : Ends rest) : takeFraction rest = ([], rest) := by
  unfold takeFraction
  split
  · exact absurd rfl (ends _ _ rfl).2.1
  · rfl

theorem takeExponent_of_ends (ends : Ends rest) : takeExponent rest = ([], rest) := by
  unfold takeExponent
  split
  · obtain ⟨-, -, small, capital⟩ := ends _ _ rfl
    rw [if_neg (by simp [small, capital])]
  · rfl

/-- A whole number is read up to its end, unless it has too many digits. -/
theorem readNumber_intText {i : Int} (fits : (natText i.natAbs).length ≤ Number.digitLimit) (ends : Ends rest) :
    readNumber (intText i ++ rest) = .ok (.int i, rest) := by
  have whole := takeWhole?_natText ends i.natAbs
  have short : ¬Number.digitLimit < (natText i.natAbs).length := Nat.not_lt.mpr fits
  unfold intText
  split
  · unfold readNumber
    simp only [List.cons_append, whole, takeFraction_of_ends ends, takeExponent_of_ends ends, List.isEmpty_nil,
      Bool.and_self, if_true, short, if_false, digitsValue_natText]
    exact congrArg (fun n => Except.ok (Value.int n, rest)) (by omega)
  · have unsigned (ds : List Char) : natText i.natAbs ++ rest ≠ '-' :: ds := by
      obtain ⟨d, digits, first, digit⟩ := natText_eq_cons i.natAbs
      intro same
      rw [first, List.cons_append] at same
      rw [(List.cons.inj same).1] at digit
      cases digit
    unfold readNumber
    split
    rename_i negative body head
    split at head
    · exact absurd ‹_› (unsigned _)
    · cases head
      simp only [whole, takeFraction_of_ends ends, takeExponent_of_ends ends, List.isEmpty_nil, Bool.and_self, if_true,
        short, if_false, digitsValue_natText, Bool.false_eq_true]
      exact congrArg (fun n => Except.ok (Value.int n, rest)) (by omega)

end Letterpress.Json
