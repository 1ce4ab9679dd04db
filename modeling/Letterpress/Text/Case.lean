import Letterpress.Text.CaseMaps
import Letterpress.Text.Class

/-!
# Changing case

Case maps on text. One character may become several, and a capital sigma that ends a word becomes the final
small sigma.

* `upper`, `lower`: all capitals, all small letters.
* `capitalize`: the first character in its title form and the rest in small letters.
* `titlecase`: each run of letters capitalised.
* `isLower`, `isUpper`: whether all that is cased is small, or capital, and something is.
-/

namespace Letterpress.Text

/-- Where a run sends a code point. -/
def applyRun (runs : List (Nat × Nat × Nat × Nat)) (n : Nat) : Option Nat :=
  (runs.find? fun (lo, hi, step, _) => lo ≤ n && n ≤ hi && (n - lo) % step == 0).map
    fun (lo, _, _, first) => first + (n - lo)

/-- One character under runs and expansions. -/
def mapCase (runs : List (Nat × Nat × Nat × Nat)) (expansions : List (Nat × List Nat)) (c : Char) : List Char :=
  match expansions.lookup c.toNat with
  | some cs => cs.map Char.ofNat
  | none => [((applyRun runs c.toNat).map Char.ofNat).getD c]

def upperChar (c : Char) : List Char :=
  if c.toNat < 128 then [if isAsciiLower c then Char.ofNat (c.toNat - 32) else c]
  else mapCase upperRuns upperExpansions c

def lowerChar (c : Char) : List Char :=
  if c.toNat < 128 then [if isAsciiUpper c then Char.ofNat (c.toNat + 32) else c]
  else mapCase lowerRuns [(0x130, [0x69, 0x307])] c

def titleChar (c : Char) : List Char :=
  if c.toNat < 128 then upperChar c else mapCase titleRuns titleExpansions c

def inRuns (runs : List (Nat × Nat × Nat)) (n : Nat) : Bool :=
  runs.any fun (lo, hi, step) => lo ≤ n && n ≤ hi && (n - lo) % step == 0

def isSmall (c : Char) : Bool :=
  if c.toNat < 128 then isAsciiLower c else inRuns smallRuns c.toNat

def isCapital (c : Char) : Bool :=
  if c.toNat < 128 then isAsciiUpper c else inRuns capitalRuns c.toNat

/-- Whether a character is a capital and a small letter in one. -/
def isMixed (c : Char) : Bool := inRuns mixedRuns c.toNat

def isCased (c : Char) : Bool := isSmall c || isCapital c || isMixed c

def isCaseIgnorable (c : Char) : Bool :=
  if c.toNat < 128 then ['\'', '.', ':', '^', '\x60'].contains c else inRanges ignorableRanges c.toNat

/-- Whether the nearest character that counts for case is cased. -/
def nextCased (cs : List Char) : Bool :=
  match cs.dropWhile isCaseIgnorable with
  | [] => false
  | c :: _ => isCased c

/-- Small letters, given the characters that come before, nearest first. -/
def lowerAfter (before : List Char) : List Char → List Char
  | [] => []
  | c :: cs =>
    (if c == 'Σ' then [if nextCased before && !nextCased cs then 'ς' else 'σ'] else lowerChar c) ++
      lowerAfter (c :: before) cs

def upper (cs : List Char) : List Char := cs.flatMap upperChar

def lower (cs : List Char) : List Char := lowerAfter [] cs

def capitalize : List Char → List Char
  | [] => []
  | c :: cs => titleChar c ++ lowerAfter [c] cs

/-- Title case, given the characters before and whether the last of them is cased. -/
def titlecaseAfter (before : List Char) (inWord : Bool) : List Char → List Char
  | [] => []
  | c :: cs =>
    let mapped :=
      if !inWord then titleChar c
      else if c == 'Σ' then [if nextCased before && !nextCased cs then 'ς' else 'σ']
      else lowerChar c
    mapped ++ titlecaseAfter (c :: before) (isCased c) cs

def titlecase (cs : List Char) : List Char := titlecaseAfter [] false cs

def isLower (cs : List Char) : Bool := cs.any isSmall && !cs.any fun c => isCapital c || isMixed c

def isUpper (cs : List Char) : Bool := cs.any isCapital && !cs.any fun c => isSmall c || isMixed c

end Letterpress.Text
