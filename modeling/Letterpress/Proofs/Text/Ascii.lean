import Letterpress.Text.Class

/-!
# ASCII

What holds of the first 128 characters, and the classes whose characters are among them.

* `ascii_induction`: a property of all characters of ASCII, from the numbers below 128.
* `lt_of_isAsciiAlnum`, `lt_of_isHex`: letters and digits of ASCII are.
-/

namespace Letterpress.Text

variable {c : Char}

theorem ascii_induction {p : Char → Prop} (all : ∀ n < 128, p (.ofNat n)) (range : c.toNat < 128) : p c := by
  have here := all c.toNat range
  rwa [Char.ofNat_toNat] at here

theorem toNat_lt_of_le {d : Char} {n : Nat} (up : c ≤ d) (bound : d.toNat < n) : c.toNat < n :=
  Nat.lt_of_le_of_lt (UInt32.le_iff_toNat_le.mp up) bound

theorem lt_of_isAsciiAlnum (plain : isAsciiAlnum c = true) : c.toNat < 128 := by
  simp only [isAsciiAlnum, isAsciiLetter, isAsciiUpper, isAsciiLower, isAsciiDigit, Bool.or_eq_true, Bool.and_eq_true,
    decide_eq_true_eq] at plain
  rcases plain with (range | range) | range
  · exact toNat_lt_of_le range.2 (by decide)
  · exact toNat_lt_of_le range.2 (by decide)
  · exact toNat_lt_of_le range.2 (by decide)

theorem lt_of_isHex (digit : isHex c = true) : c.toNat < 128 := by
  simp only [isHex, hexValue?, isAsciiDigit, Bool.and_eq_true, decide_eq_true_eq] at digit
  split at digit
  · rename_i range
    exact toNat_lt_of_le range.2 (by decide)
  · split at digit
    · rename_i range
      exact toNat_lt_of_le range.2 (by decide)
    · split at digit
      · rename_i range
        exact toNat_lt_of_le range.2 (by decide)
      · cases digit

end Letterpress.Text
