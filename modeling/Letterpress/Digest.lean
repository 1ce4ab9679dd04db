import Letterpress.Text.Utf8
import Letterpress.Value.Literal

/-!
# Digests

The SHA-256 digest of bytes, which tells whether a document is still the one that was made.

* `Digest.ofBytes`: the digest, as eight words.
* `Digest.hex`: the digest as 64 hexadecimal digits.
-/

namespace Letterpress.Digest

/-- The chaining value: eight words. -/
structure State where
  a : UInt32
  b : UInt32
  c : UInt32
  d : UInt32
  e : UInt32
  f : UInt32
  g : UInt32
  h : UInt32
  deriving DecidableEq, Repr, Inhabited

def State.add (s t : State) : State :=
  ⟨s.a + t.a, s.b + t.b, s.c + t.c, s.d + t.d, s.e + t.e, s.f + t.f, s.g + t.g, s.h + t.h⟩

def State.words (s : State) : List UInt32 := [s.a, s.b, s.c, s.d, s.e, s.f, s.g, s.h]

/-- The fractional parts of the square roots of the first eight primes. -/
def initial : State :=
  ⟨0x6a09e667, 0xbb67ae85, 0x3c6ef372, 0xa54ff53a, 0x510e527f, 0x9b05688c, 0x1f83d9ab, 0x5be0cd19⟩

/-- The fractional parts of the cube roots of the first 64 primes. -/
def constants : List UInt32 :=
  [0x428a2f98, 0x71374491, 0xb5c0fbcf, 0xe9b5dba5, 0x3956c25b, 0x59f111f1, 0x923f82a4, 0xab1c5ed5,
    0xd807aa98, 0x12835b01, 0x243185be, 0x550c7dc3, 0x72be5d74, 0x80deb1fe, 0x9bdc06a7, 0xc19bf174,
    0xe49b69c1, 0xefbe4786, 0x0fc19dc6, 0x240ca1cc, 0x2de92c6f, 0x4a7484aa, 0x5cb0a9dc, 0x76f988da,
    0x983e5152, 0xa831c66d, 0xb00327c8, 0xbf597fc7, 0xc6e00bf3, 0xd5a79147, 0x06ca6351, 0x14292967,
    0x27b70a85, 0x2e1b2138, 0x4d2c6dfc, 0x53380d13, 0x650a7354, 0x766a0abb, 0x81c2c92e, 0x92722c85,
    0xa2bfe8a1, 0xa81a664b, 0xc24b8b70, 0xc76c51a3, 0xd192e819, 0xd6990624, 0xf40e3585, 0x106aa070,
    0x19a4c116, 0x1e376c08, 0x2748774c, 0x34b0bcb5, 0x391c0cb3, 0x4ed8aa4a, 0x5b9cca4f, 0x682e6ff3,
    0x748f82ee, 0x78a5636f, 0x84c87814, 0x8cc70208, 0x90befffa, 0xa4506ceb, 0xbef9a3f7, 0xc67178f2]

def rotate (x : UInt32) (n : Nat) : UInt32 := (x >>> n.toUInt32) ||| (x <<< (32 - n).toUInt32)

def smallSigma0 (x : UInt32) : UInt32 := rotate x 7 ^^^ rotate x 18 ^^^ (x >>> 3)

def smallSigma1 (x : UInt32) : UInt32 := rotate x 17 ^^^ rotate x 19 ^^^ (x >>> 10)

def bigSigma0 (x : UInt32) : UInt32 := rotate x 2 ^^^ rotate x 13 ^^^ rotate x 22

def bigSigma1 (x : UInt32) : UInt32 := rotate x 6 ^^^ rotate x 11 ^^^ rotate x 25

def choice (x y z : UInt32) : UInt32 := (x &&& y) ^^^ (~~~ x &&& z)

def majority (x y z : UInt32) : UInt32 := (x &&& y) ^^^ (x &&& z) ^^^ (y &&& z)

/-- One round with its constant and its word of the schedule. -/
def round (s : State) (k w : UInt32) : State :=
  let t := s.h + bigSigma1 s.e + choice s.e s.f s.g + k + w
  ⟨t + bigSigma0 s.a + majority s.a s.b s.c, s.a, s.b, s.c, s.d + t, s.e, s.f, s.g⟩

/-- Sixteen words of the schedule moved on by one. -/
def advance (ws : List UInt32) : List UInt32 :=
  let word (i : Nat) : UInt32 := ws.getD i 0
  ws.tail ++ [smallSigma1 (word 14) + word 9 + smallSigma0 (word 1) + word 0]

def rounds (s : State) (ws : List UInt32) : List UInt32 → State
  | [] => s
  | k :: ks => rounds (round s k (ws.headD 0)) (advance ws) ks

/-- The chaining value after one more block of sixteen words. -/
def compress (s : State) (block : List UInt32) : State := s.add (rounds s block constants)

def compressAll (s : State) (ws : List UInt32) : Nat → State
  | 0 => s
  | n + 1 => compressAll (compress s (ws.take 16)) (ws.drop 16) n

/-- The bytes of a number, the most significant first. -/
def bigEndian (width n : Nat) : Bytes :=
  match width with
  | 0 => []
  | w + 1 => UInt8.ofNat (n / Nat.pow 256 w) :: bigEndian w n

/-- Bytes filled up to whole blocks: a one, zeros, and the length in bits. -/
def padded (bs : Bytes) : Bytes :=
  let n := bs.length
  bs ++ 0x80 :: List.replicate ((119 - n % 64) % 64) 0 ++ bigEndian 8 (8 * n)

def words : Bytes → List UInt32
  | b :: c :: d :: e :: rest =>
    ((b.toUInt32 <<< 24) ||| (c.toUInt32 <<< 16) ||| (d.toUInt32 <<< 8) ||| e.toUInt32) :: words rest
  | _ => []

def ofBytes (bs : Bytes) : State :=
  let ws := words (padded bs)
  compressAll initial ws (ws.length / 16)

def hex (bs : Bytes) : List Char := (ofBytes bs).words.flatMap fun w => Literal.hex 8 w.toNat

end Letterpress.Digest
