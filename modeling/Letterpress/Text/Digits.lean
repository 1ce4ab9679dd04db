import Letterpress.Text.Class
import Letterpress.Text.Utf8

/-!
# Bytes as digits

Bytes written with the characters of a text: two hexadecimal digits for each byte, or four digits of base 64 for
three of them.

* `Text.ofHex`: the bytes of hexadecimal digits.
* `Text.ofBase64`: the bytes of digits of base 64, up to the filling at the end.
-/

namespace Letterpress.Text

/-- The bytes of pairs of hexadecimal digits. All other characters count as zero. -/
def ofHex : List Char → Bytes
  | a :: b :: rest => UInt8.ofNat ((hexValue? a).getD 0 * 16 + (hexValue? b).getD 0) :: ofHex rest
  | _ => []

/-- What a digit of base 64 counts: capitals, small letters, decimal digits, plus and slash. -/
def sextet (c : Char) : Nat :=
  if 'A' ≤ c && c ≤ 'Z' then c.toNat - 65
  else if 'a' ≤ c && c ≤ 'z' then c.toNat - 71
  else if isAsciiDigit c then c.toNat + 4
  else if c == '+' then 62 else 63

/-- The first bytes of a number of 24 bits. -/
def threeBytes (n count : Nat) : Bytes := ([n / 65536, n / 256 % 256, n % 256].take count).map UInt8.ofNat

/-- The bytes of groups of four digits; a last group of fewer digits has fewer bytes. -/
def ofSextets : List Nat → Bytes
  | a :: b :: c :: d :: rest => threeBytes (a * 262144 + b * 4096 + c * 64 + d) 3 ++ ofSextets rest
  | [a, b, c] => threeBytes (a * 262144 + b * 4096 + c * 64) 2
  | [a, b] => threeBytes (a * 262144 + b * 4096) 1
  | _ => []

def ofBase64 (cs : List Char) : Bytes := ofSextets ((cs.takeWhile (· != '=')).map sextet)

end Letterpress.Text
