import Letterpress.Yaml.Reader

/-!
# Breaks

The characters that break lines, what they are not, and the lines behind them that end no document.

* `Scalar.isBreak_iff`: the four of them.
* `Reader.isSeparator_of_ne`: a line that begins neither with a hyphen nor with a point goes on.
-/

namespace Letterpress.Yaml

open Text Scalar

variable {c d : Char} {cs : List Char}

/-- A character of a class is not one outside of it. -/
theorem ne_of_class {p : Char → Bool} (inside : p c = true) (outside : p d = false) : c ≠ d :=
  ne_of_apply_ne p (by simp [inside, outside])

namespace Scalar

theorem isBreak_iff : isBreak c = true ↔ c = '\n' ∨ c = '\u0085' ∨ c = '\u2028' ∨ c = '\u2029' := by
  simp [isBreak]

theorem isBlankOrTab_of_isBreak (break_ : isBreak c = true) : Reader.isBlankOrTab c = false := by
  rcases isBreak_iff.mp break_ with rfl | rfl | rfl | rfl <;> decide

theorem isGap_of_isBreak (break_ : isBreak c = true) : isGap c = true := by
  rw [isGap, break_, Bool.or_true]

theorem isBreak_of_isGap (gap : isGap c = true) (blank : c ≠ ' ') (plain : isSpecial c = false) : isBreak c = true := by
  cases noBreak : isBreak c with
  | true => rfl
  | false =>
    have control : c.toNat = 0 ∨ c = '\t' ∨ c = '\r' := by simpa [isGap, noBreak, blank] using gap
    rcases control with nothing | rfl | rfl
    · simp [isSpecial, nothing, show c ≠ '\n' by rintro rfl; cases nothing] at plain
    · cases plain
    · cases plain

/-- A pair of characters is there at the beginning or later. -/
theorem hasPair_cons {p q : Char → Bool} :
    hasPair p q (c :: cs) = ((p c && (cs.head?.map q).getD false) || hasPair p q cs) := by
  cases cs <;> simp [hasPair]

end Scalar

theorem Reader.isSeparator_of_ne (hyphen : c ≠ '-') (point : c ≠ '.') (cs : List Char) :
    isSeparator (c :: cs) = false := by
  have first : startsWith ['-', '-', '-'] (c :: cs) = false := by simp [startsWith, dropPrefix?, hyphen.symm]
  have second : startsWith ['.', '.', '.'] (c :: cs) = false := by simp [startsWith, dropPrefix?, point.symm]
  rw [isSeparator, first, second, Bool.or_false, Bool.false_and]

theorem Reader.isSeparator_break (break_ : isBreak c = true) (cs : List Char) : isSeparator (c :: cs) = false := by
  rcases isBreak_iff.mp break_ with rfl | rfl | rfl | rfl <;> exact isSeparator_of_ne (by decide) (by decide) cs

theorem Reader.isSeparator_indented {n : Nat} (indented : 0 < n) (cs : List Char) :
    isSeparator (List.replicate n ' ' ++ cs) = false := by
  cases n with
  | zero => cases indented
  | succ n => exact isSeparator_of_ne (by decide) (by decide) _

end Letterpress.Yaml
