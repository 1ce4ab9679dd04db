import Mathlib.Algebra.Group.Nat.Defs
import Letterpress.Number.Reading
import Letterpress.Value.Literal

/-!
# Numbers in digits

A number is written in decimal digits without zeros before them, or in as many hexadecimal digits as are asked for, and
the digits make up the number again.

* `Literal.digitsValue_natText`: the decimal digits of a number.
* `Literal.hex_spec`: its hexadecimal digits, in small letters or in capitals.
-/

namespace Letterpress.Literal

open Text Number

/-! ## Decimal digits -/

theorem isAsciiDigit_of_mem_natText {n : Nat} {d : Char} (mem : d ∈ natText n) : isAsciiDigit d = true := by
  have digit : d.isDigit = true := Nat.isDigit_of_mem_toDigits (by decide) (by decide) mem
  simpa [isAsciiDigit, Char.isDigit, Char.le_def, UInt32.le_iff_toNat_le] using digit

theorem mem_intText {i : Int} {c : Char} (mem : c ∈ intText i) : c = '-' ∨ isAsciiDigit c = true := by
  unfold intText at mem
  split at mem
  · rcases List.mem_cons.mp mem with sign | digit
    · exact .inl sign
    · exact .inr (isAsciiDigit_of_mem_natText digit)
  · exact .inr (isAsciiDigit_of_mem_natText mem)

theorem natText_ne_nil (n : Nat) : natText n ≠ [] := Nat.toDigits_ne_nil

theorem natText_eq_cons (n : Nat) : ∃ d ds, natText n = d :: ds ∧ isAsciiDigit d = true := by
  obtain ⟨d, ds, same⟩ := List.exists_cons_of_ne_nil (natText_ne_nil n)
  exact ⟨d, ds, same, isAsciiDigit_of_mem_natText (same ▸ List.mem_cons_self ..)⟩

/-- No zero stands before other digits. By induction on the number, of which the last digit is taken off. -/
theorem head_natText {n : Nat} (positive : 0 < n) : (natText n).head? ≠ some '0' := by
  change (Nat.toDigits 10 n).head? ≠ some '0'
  induction n using Nat.strongRecOn with
  | _ n ih =>
    rw [Nat.toDigits_eq_if (by decide)]
    split
    · rename_i small
      have digits : ∀ d : Fin 10, 0 < d.val → some d.val.digitChar ≠ some '0' := by decide
      exact digits ⟨n, small⟩ positive
    · have earlier := ih (n / 10) (by omega) (by omega)
      cases same : Nat.toDigits 10 (n / 10) with
      | nil => exact absurd same Nat.toDigits_ne_nil
      | cons d ds => rwa [same] at earlier

theorem natText_zero_or (n : Nat) : natText n = ['0'] ∨ (natText n).head? ≠ some '0' := by
  rcases Nat.eq_zero_or_pos n with rfl | positive
  · exact .inl rfl
  · exact .inr (head_natText positive)

theorem digitsValue_natText (n : Nat) : digitsValue (natText n) = n := by
  have value : digitsValue (natText n) = Nat.ofDigitChars 10 (natText n) 0 := by
    simp only [digitsValue, Nat.ofDigitChars, Nat.mul_comm]
    rfl
  exact value.trans (Nat.ofDigitChars_toDigits (by decide) (by decide))

/-! ## Hexadecimal digits -/

/-- The number that hexadecimal digits make behind others. -/
def hexTotal (value : Nat) (ds : List Char) : Nat := ds.foldl (fun v d => v * 16 + (hexValue? d).getD 0) value

theorem hexTotal_append {value : Nat} {ds es : List Char} :
    hexTotal value (ds ++ es) = hexTotal (hexTotal value ds) es := List.foldl_append

section

variable {f : Char → Char} (reads : ∀ d < 16, hexValue? (f (Nat.digitChar d)) = some d)

include reads

/-- By induction on the number, of which the last digit is taken off. -/
theorem hexTotal_toDigits (n : Nat) :
    (∀ d ∈ (Nat.toDigits 16 n).map f, (hexValue? d).isSome = true) ∧ hexTotal 0 ((Nat.toDigits 16 n).map f) = n := by
  induction n using Nat.strongRecOn with
  | _ n ih =>
    rw [Nat.toDigits_eq_if (by decide)]
    split
    · rename_i small
      simp [hexTotal, reads n small]
    · obtain ⟨hex, total⟩ := ih (n / 16) (by omega)
      have last : hexValue? (f (n % 16).digitChar) = some (n % 16) := reads _ (by omega)
      rw [List.map_append, hexTotal_append, total]
      refine ⟨fun d mem => ?_, ?_⟩
      · rcases List.mem_append.mp mem with earlier | here
        · exact hex d earlier
        · rw [List.mem_singleton.mp here, last]
          rfl
      · simp only [hexTotal, List.map_cons, List.map_nil, List.foldl_cons, List.foldl_nil, last, Option.getD_some]
        omega

/-- A number as hexadecimal digits, of which there are as many as are asked for. -/
theorem hex_spec {width n : Nat} (some_ : 0 < width) (fits : n < 16 ^ width) :
    ((hex width n).map f).length = width ∧ (∀ d ∈ (hex width n).map f, (hexValue? d).isSome = true) ∧
      hexTotal 0 ((hex width n).map f) = n := by
  obtain ⟨digits, total⟩ := hexTotal_toDigits reads n
  have short : (Nat.toDigits 16 n).length ≤ width := (Nat.length_toDigits_le_iff (by decide) some_).mpr fits
  have zero : hexValue? (f '0') = some 0 := reads 0 (by decide)
  have zeros (k : Nat) : hexTotal 0 (List.replicate k (f '0')) = 0 := by
    induction k with
    | zero => rfl
    | succ k ih => rwa [List.replicate_succ, hexTotal, List.foldl_cons, zero]
  rw [hex, List.map_append, List.map_replicate]
  refine ⟨?_, fun d mem => ?_, ?_⟩
  · rw [List.length_append, List.length_replicate, List.length_map]
    omega
  · rcases List.mem_append.mp mem with padding | mem
    · rw [List.eq_of_mem_replicate padding, zero]
      rfl
    · exact digits d mem
  · rw [hexTotal_append, zeros]
    exact total

end

end Letterpress.Literal
