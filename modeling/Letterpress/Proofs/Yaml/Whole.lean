import Letterpress.Proofs.Number.Digits
import Letterpress.Proofs.Text.Splitting
import Letterpress.Proofs.Yaml.Plain

/-!
# Whole numbers

A number is written in decimal digits without zeros before them, and read as a number again.

* `Reader.value?_intText`: what is read.
-/

namespace Letterpress.Yaml

open Text Scalar

variable {rest : List Char}

namespace Scalar

/-- The digits of a natural number, as they are or behind a sign, count as a whole number. -/
theorem isWhole_of_dropSign {cs : List Char} {n : Nat} (unsigned : dropSign cs = Literal.natText n) :
    isWhole cs = true := by
  have digits : ∀ d ∈ Literal.natText n, isAsciiDigit d = true := fun d => Literal.isAsciiDigit_of_mem_natText
  have first := Literal.natText_zero_or n
  have single : splitBy (· == ':') (Literal.natText n) = [Literal.natText n] := splitBy_of_none fun d mem => by
    rw [beq_eq_false_iff_ne]
    rintro rfl
    cases digits _ mem
  rw [isWhole, unsigned]
  cases same : Literal.natText n with
  | nil => exact absurd same (Literal.natText_ne_nil n)
  | cons d ds =>
    rw [same] at digits first single
    by_cases zero : d = '0'
    · subst zero
      cases first.resolve_right (by simp)
      rfl
    · have decimal : isDecimal (d :: ds) = true := by
        have all : (d :: ds).all (orLowLine isAsciiDigit) = true :=
          List.all_eq_true.mpr fun e mem => by rw [orLowLine, digits e mem, Bool.true_or]
        simp [isDecimal, isDigits, all, zero, digits d (by simp)]
      split <;> simp_all

theorem dropSign_natText (n : Nat) : dropSign (Literal.natText n) = Literal.natText n := by
  have digits : ∀ d ∈ Literal.natText n, isAsciiDigit d = true := fun d => Literal.isAsciiDigit_of_mem_natText
  unfold dropSign
  split
  · rename_i same
    cases digits '-' (by rw [same]; simp)
  · rename_i same
    cases digits '+' (by rw [same]; simp)
  · rfl

theorem dropSign_intText (i : Int) : dropSign (Literal.intText i) = Literal.natText i.natAbs := by
  unfold Literal.intText
  split
  · rfl
  · exact dropSign_natText i.natAbs

end Scalar

namespace Reader

theorem whole?_intText (i : Int) : whole? (Literal.intText i) = some i := by
  have digits : allOf isAsciiDigit (Literal.natText i.natAbs) = true := by
    rw [allOf, Bool.and_eq_true, List.all_eq_true]
    exact ⟨by simpa using Literal.natText_ne_nil i.natAbs, fun d => Literal.isAsciiDigit_of_mem_natText⟩
  have first : ((Literal.natText i.natAbs).head? != some '0' || (Literal.natText i.natAbs).length == 1) = true := by
    rcases Literal.natText_zero_or i.natAbs with zero | other
    · rw [zero]
      decide
    · simp [other]
  have counts : Nat.ofDigitChars 10 (Literal.natText i.natAbs) 0 = i.natAbs :=
    Nat.ofDigitChars_toDigits (by decide) (by decide)
  have signed : ((Literal.intText i).head? == some '-') = decide (i < 0) := by
    unfold Literal.intText
    split
    · rename_i negative
      simp [negative]
    · rename_i natural
      have noSign : (Literal.natText i.natAbs).head? ≠ some '-' := fun sign => by
        cases Literal.isAsciiDigit_of_mem_natText (List.mem_of_mem_head? sign)
      simp [natural, noSign]
  simp only [whole?, dropSign_intText, digits, first, counts, signed, Bool.and_self, if_true, decide_eq_true_eq]
  split
  · exact congrArg some (by omega)
  · exact congrArg some (by omega)

theorem value?_intText (i : Int) : value? (Literal.intText i) = some (.int i) := by
  have ambiguous : isAmbiguous (Literal.intText i) = true := by
    simp [isAmbiguous, isWhole_of_dropSign (dropSign_intText i)]
  rw [value?, if_pos ambiguous, whole?_intText]
  rfl

end Reader

end Letterpress.Yaml
