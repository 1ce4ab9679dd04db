import Letterpress.Hypertext.CharacterNames
import Letterpress.Text.Class
import Letterpress.Text.Trim

/-!
# Character references

References such as `&eacute;`, `&#233;` and `&#xE9;` as the characters that they stand for. A name may lack its
semicolon if it is one of the open names; of a longer run of characters the longest open name at its start
counts. What is no reference stays as it is.

* `unescape`: text with its references replaced.
-/

namespace Letterpress.Hypertext

open Text

/-- The characters of the control range from 128 on, in the order of their numbers. -/
def controlRange : List Char :=
  "€\x81‚ƒ„…†‡ˆ‰Š‹Œ\x8dŽ\x8f\x90‘’“”•–—˜™š›œ\x9džŸ".toList

/-- Numbers that stand for no character. -/
def isNoncharacter (n : Nat) : Bool :=
  (1 ≤ n && n ≤ 8) || n == 11 || (14 ≤ n && n ≤ 31) || (127 ≤ n && n ≤ 159) ||
    (0xFDD0 ≤ n && n ≤ 0xFDEF) || n % 0x10000 == 0xFFFE || n % 0x10000 == 0xFFFF

/-- The text of a numeric reference. -/
def numberText (n : Nat) : List Char :=
  if n = 0 then [Char.ofNat 0xFFFD]
  else if n = 13 then ['\r']
  else if 128 ≤ n && n ≤ 159 then controlRange[n - 128]?.toList
  else if (0xD800 ≤ n && n ≤ 0xDFFF) || 0x10FFFF < n then [Char.ofNat 0xFFFD]
  else if isNoncharacter n then []
  else [Char.ofNat n]

/-- The text that a name stands for when a semicolon closes it. -/
def namedText? (name : List Char) : Option (List Char) :=
  name.head?.bind fun c => ((namesFrom c).lookup (String.ofList name)).map String.toList

/-- The text that a name stands for without a semicolon. -/
def openText? (name : List Char) : Option (List Char) :=
  if openNames.contains (String.ofList name) then namedText? name else none

/-- The longest open name at the start of a run, no longer than a length: its text and the rest of the run. -/
def longestOpen? (run : List Char) : Nat → Option (List Char × List Char)
  | 0 | 1 => none
  | n + 2 =>
    match openText? (run.take (n + 2)) with
    | some t => some (t, run.drop (n + 2))
    | none => longestOpen? run (n + 1)

/-- Characters that a name may consist of. -/
def isNameChar (c : Char) : Bool := !"\t\n\x0c <&#;".toList.contains c

def isSemicolonNext : List Char → Bool
  | ';' :: _ => true
  | _ => false

def dropSemicolon : List Char → List Char
  | ';' :: rest => rest
  | rest => rest

/-- The text of a reference by name, and what follows it. -/
def namedReference? (cs : List Char) : Option (List Char × List Char) :=
  let name := (cs.take 32).takeWhile isNameChar
  let rest := cs.drop name.length
  if name.isEmpty then none
  else
    match (if isSemicolonNext rest then namedText? name else none) with
    | some t => some (t, dropSemicolon rest)
    | none =>
      match (if isSemicolonNext rest then none else openText? name) with
      | some t => some (t, rest)
      | none =>
        let longest := if isSemicolonNext rest then name.length else name.length - 1
        (longestOpen? name longest).map fun (t, left) => (t ++ left, rest)

def digitsNumber (base : Nat) (ds : List Char) : Nat :=
  ds.foldl (fun n c => n * base + (hexValue? c).getD 0) 0

/-- The text of a numeric reference in a base, and what follows it. -/
def numericReference? (base : Nat) (isDigit : Char → Bool) (cs : List Char) : Option (List Char × List Char) :=
  let ds := cs.takeWhile isDigit
  if ds.isEmpty then none
  else some (numberText (digitsNumber base ds), dropSemicolon (cs.drop ds.length))

/-- The text of the reference that follows an ampersand, and what follows the reference. -/
def reference? : List Char → Option (List Char × List Char)
  | '#' :: 'x' :: cs => numericReference? 16 isHex cs
  | '#' :: 'X' :: cs => numericReference? 16 isHex cs
  | '#' :: cs => numericReference? 10 isAsciiDigit cs
  | cs => namedReference? cs

def unescapeWithin : Nat → List Char → List Char
  | 0, cs => cs
  | _, [] => []
  | fuel + 1, '&' :: cs =>
    match reference? cs with
    | some (t, rest) => t ++ unescapeWithin fuel rest
    | none => '&' :: unescapeWithin fuel cs
  | fuel + 1, c :: cs => c :: unescapeWithin fuel cs

def unescape (cs : List Char) : List Char := unescapeWithin cs.length cs

end Letterpress.Hypertext
