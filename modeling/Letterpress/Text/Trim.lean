import Letterpress.Text.Class

/-!
# Trimming, splitting and joining

Operations on text as a list of characters.

* `trim`, `trimBy`: without the characters of a class at both ends.
* `collapse`: trimmed, with each run of white space replaced by one blank.
* `splitOn`, `words`, `splitLines`: the pieces between separators.
* `replaceAll`: every occurrence of a word replaced, from left to right.
-/

namespace Letterpress.Text

def trimLeftBy (p : Char → Bool) (cs : List Char) : List Char := cs.dropWhile p

def trimRightBy (p : Char → Bool) (cs : List Char) : List Char := (cs.reverse.dropWhile p).reverse

def trimBy (p : Char → Bool) (cs : List Char) : List Char := trimRightBy p (trimLeftBy p cs)

def trim (cs : List Char) : List Char := trimBy isBlank cs

def trimLeft (cs : List Char) : List Char := trimLeftBy isBlank cs

def trimRight (cs : List Char) : List Char := trimRightBy isBlank cs

/-- Each run of white space as one blank, given whether the character before is white space. -/
def squeeze (afterBlank : Bool) : List Char → List Char
  | [] => []
  | c :: cs =>
    if isBlank c then (if afterBlank then squeeze true cs else ' ' :: squeeze true cs)
    else c :: squeeze false cs

def collapse (cs : List Char) : List Char := trim (squeeze false cs)

/-- The rest after a word that the text starts with. -/
def dropPrefix? : List Char → List Char → Option (List Char)
  | [], cs => some cs
  | _ :: _, [] => none
  | w :: ws, c :: cs => if w = c then dropPrefix? ws cs else none

def startsWith (word cs : List Char) : Bool := (dropPrefix? word cs).isSome

def endsWith (word cs : List Char) : Bool := startsWith word.reverse cs.reverse

/-- The text before and after the first occurrence of a word. -/
def breakOn? (word : List Char) : List Char → Option (List Char × List Char)
  | [] => if word.isEmpty then some ([], []) else none
  | c :: cs =>
    match dropPrefix? word (c :: cs) with
    | some rest => some ([], rest)
    | none => (breakOn? word cs).map fun (before, rest) => (c :: before, rest)

def contains (word cs : List Char) : Bool := (breakOn? word cs).isSome

/-- The pieces between the characters of a class. -/
def splitBy (p : Char → Bool) : List Char → List (List Char)
  | [] => [[]]
  | c :: cs =>
    match splitBy p cs with
    | [] => [[c]]
    | piece :: rest => if p c then [] :: piece :: rest else (c :: piece) :: rest

/-- The runs of characters that are not white space. -/
def words (cs : List Char) : List (List Char) := (splitBy isBlank cs).filter (!·.isEmpty)

/-- The pieces between occurrences of a word that is not empty, at most `limit` cuts. -/
def splitWord (word : List Char) (cs : List Char) : Nat → List (List Char)
  | 0 => [cs]
  | limit + 1 =>
    match breakOn? word cs with
    | none => [cs]
    | some (before, rest) => before :: splitWord word rest limit

def splitOn (word cs : List Char) : List (List Char) := splitWord word cs cs.length

def joinWith (sep : List Char) : List (List Char) → List Char
  | [] => []
  | [x] => x
  | x :: y :: rest => x ++ sep ++ joinWith sep (y :: rest)

/-- Every occurrence of a word replaced; the empty word occurs around every character. -/
def replaceAll (word by_ cs : List Char) : List Char :=
  if word.isEmpty then by_ ++ cs.flatMap fun c => c :: by_
  else joinWith by_ (splitOn word cs)

def isLineEnd (c : Char) : Bool :=
  let n := c.toNat
  (10 ≤ n && n ≤ 13) || (28 ≤ n && n ≤ 30) || n == 0x85 || n == 0x2028 || n == 0x2029

/-- Every carriage return, and the line feed behind it, written as one line feed. -/
def normalizeNewlines : List Char → List Char
  | [] => []
  | '\r' :: '\n' :: cs => '\n' :: normalizeNewlines cs
  | '\r' :: cs => '\n' :: normalizeNewlines cs
  | c :: cs => c :: normalizeNewlines cs

/-- The lines of a text. A line end that nothing follows begins no further line. -/
def splitLines (cs : List Char) : List (List Char) :=
  let pieces := splitBy isLineEnd (normalizeNewlines cs)
  if pieces.getLast? == some [] then pieces.dropLast else pieces

end Letterpress.Text
