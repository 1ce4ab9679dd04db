/-!
# UTF-8

Text as bytes, and bytes as text.

* `Text.utf8`: the bytes of a text.
* `Text.pieces`: the characters that bytes stand for, with a gap for each stretch that stands for none.
* `Text.ofUtf8?`, `Text.ofUtf8`: the text of bytes without gaps, and with a sign in place of each gap.
-/

namespace Letterpress

abbrev Bytes := List UInt8

namespace Text

def utf8 (cs : List Char) : Bytes := cs.flatMap String.utf8EncodeChar

/-- A character of several bytes of which some are read. -/
structure Begun where
  /-- how many bytes are to come -/
  left : Nat
  bits : Nat
  /-- the range of the next byte -/
  low : Nat
  high : Nat

namespace Begun

/-- What the first byte of a character of several bytes begins. Overlong forms and halves of pairs are kept out
by the range of the second byte. -/
def ofByte? (b : Nat) : Option Begun :=
  if 0xC2 ≤ b && b ≤ 0xDF then some ⟨1, b - 0xC0, 0x80, 0xBF⟩
  else if b == 0xE0 then some ⟨2, 0, 0xA0, 0xBF⟩
  else if b == 0xED then some ⟨2, 13, 0x80, 0x9F⟩
  else if 0xE1 ≤ b && b ≤ 0xEF then some ⟨2, b - 0xE0, 0x80, 0xBF⟩
  else if b == 0xF0 then some ⟨3, 0, 0x90, 0xBF⟩
  else if b == 0xF4 then some ⟨3, 4, 0x80, 0x8F⟩
  else if 0xF1 ≤ b && b ≤ 0xF3 then some ⟨3, b - 0xF0, 0x80, 0xBF⟩
  else none

def accepts (s : Begun) (b : Nat) : Bool := s.low ≤ b && b ≤ s.high

/-- The bits with those of one more byte. -/
def extend (s : Begun) (b : Nat) : Nat := s.bits * 64 + (b - 0x80)

end Begun

/-- The characters of bytes behind a character that may be begun. A gap is the longest start of a character that
the next byte does not continue, or a single byte that starts none. -/
def piecesFrom (begun : Option Begun) : Bytes → List (Option Char)
  | [] => if begun.isSome then [none] else []
  | byte :: bs =>
    let b := byte.toNat
    match begun.filter (·.accepts b) with
    | some s =>
      if s.left ≤ 1 then some (Char.ofNat (s.extend b)) :: piecesFrom none bs
      else piecesFrom (some ⟨s.left - 1, s.extend b, 0x80, 0xBF⟩) bs
    | none =>
      let gap := if begun.isSome then [none] else []
      if b < 0x80 then gap ++ some (Char.ofNat b) :: piecesFrom none bs
      else
        match Begun.ofByte? b with
        | some s => gap ++ piecesFrom (some s) bs
        | none => gap ++ none :: piecesFrom none bs

def pieces (bs : Bytes) : List (Option Char) := piecesFrom none bs

def ofUtf8? (bs : Bytes) : Option (List Char) := (pieces bs).mapM id

def ofUtf8 (bs : Bytes) : List Char := (pieces bs).map (·.getD '\uFFFD')

end Text

end Letterpress
