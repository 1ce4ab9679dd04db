import Letterpress.Value
import Letterpress.Yaml.Scalar

/-!
# Reading YAML

A document of YAML 1.1 that is a mapping in block style without indentation: on each line a word as the key and a
scalar, which may go on on indented lines. Anything beyond that is not read: comments, tags, anchors, nested and flow
collections, empty values, and plain scalars that are neither text nor whole numbers in decimal digits.

* `Gap`: white space within a scalar, of which line breaks take the place of the blanks around them.
* `Reader.single`, `Reader.double`, `Reader.plain`: the scalars of the three styles.
* `Reader.read?`: a document.
-/

namespace Letterpress.Yaml

open Text

/-- White space within a scalar. -/
inductive Gap where
  | none
  | blanks (cs : List Char)
  /-- a line break and those that follow it -/
  | lines (first : Char) (more : List Char)
  /-- a line break that does not count, and those that follow it -/
  | joined (more : List Char)
  deriving DecidableEq, Repr, Inhabited

namespace Gap

/-- Line breaks are line feeds, but for the two that stand for themselves. -/
def normalBreak (c : Char) : Char := if c == '\u2028' || c == '\u2029' then c else '\n'

/-- A blank more. Blanks around line breaks do not count. -/
def blank (c : Char) : Gap → Gap
  | none => blanks [c]
  | blanks cs => blanks (cs ++ [c])
  | g => g

def newLine (c : Char) : Gap → Gap
  | lines first more => lines first (more ++ [normalBreak c])
  | joined more => joined (more ++ [normalBreak c])
  | _ => lines (normalBreak c) []

/-- The text of a gap. A single line feed is a blank, and of several the first one does not count. -/
def text : Gap → List Char
  | none => []
  | blanks cs => cs
  | lines first more => if first != '\n' then first :: more else if more.isEmpty then [' '] else more
  | joined more => more

end Gap

namespace Reader

open Scalar

/-- Whether a line is the end of a document, or the beginning of another. -/
def isSeparator (cs : List Char) : Bool :=
  (startsWith ['-', '-', '-'] cs || startsWith ['.', '.', '.'] cs) && ((cs[3]?).map isGap).getD true

/-- What is read, and the text behind it. -/
abbrev Reading := Option (List Char × List Char)

def prepend (before : List Char) (r : Reading) : Reading := r.map fun (out, rest) => (before ++ out, rest)

def isBlankOrTab (c : Char) : Bool := c == ' ' || c == '\t'

/-- Text in single quotes behind a gap, up to the quote that is not doubled. -/
def single (g : Gap) : List Char → Reading
  | [] => none
  | c :: cs =>
    if isBlankOrTab c then single (g.blank c) cs
    else if isBreak c then if isSeparator cs then none else single (g.newLine c) cs
    else if c == '\'' then
      match cs with
      | '\'' :: rest => prepend (g.text ++ ['\'']) (single .none rest)
      | rest => some (g.text, rest)
    else prepend (g.text ++ [c]) (single .none cs)

/-- Where the text in double quotes has come to. -/
inductive Place where
  | gap (g : Gap)
  /-- behind a backslash -/
  | escape
  /-- before so many more digits of a character's number -/
  | number (left value : Nat)

/-- What letters stand for behind a backslash. -/
def letters : List (Char × Char) :=
  escapeLetters.map Prod.swap ++ [('\t', '\t'), (' ', ' '), ('/', '/'), ('_', '\u00a0')]

/-- How many digits follow a letter. -/
def numberLengths : List (Char × Nat) := [('x', 2), ('u', 4), ('U', 8)]

def double (p : Place) : List Char → Reading
  | [] => none
  | c :: cs =>
    match p with
    | .gap g =>
      if isBlankOrTab c then double (.gap (g.blank c)) cs
      else if isBreak c then if isSeparator cs then none else double (.gap (g.newLine c)) cs
      else if c == '"' then some (g.text, cs)
      else if c == '\\' then prepend g.text (double .escape cs)
      else prepend (g.text ++ [c]) (double (.gap .none) cs)
    | .escape =>
      if isBreak c then if isSeparator cs then none else double (.gap (.joined [])) cs
      else
        match letters.lookup c, numberLengths.lookup c with
        | some x, _ => prepend [x] (double (.gap .none) cs)
        | none, some n => double (.number n 0) cs
        | none, none => none
    | .number left value =>
      match hexValue? c with
      | none => none
      | some d =>
        let value := value * 16 + d
        if 1 < left then double (.number (left - 1) value) cs
        else if value.isValidChar then prepend [Char.ofNat value] (double (.gap .none) cs)
        else none

/-- Characters that plain text never starts with. -/
def indicators : List Char :=
  ['#', ',', '[', ']', '\x7b', '\x7d', '&', '*', '!', '|', '>', '\'', '"', '%', '@', '\x60']

/-- Whether plain text can start here. -/
def startsPlain (cs : List Char) : Bool :=
  match cs with
  | [] => false
  | c :: cs =>
    let gapBehind := (cs.head?.map isGap).getD true
    !(isGap c || indicators.contains c || (['?', ':', '-'].contains c && gapBehind))

/-- Plain text behind a gap, up to a line that is not indented. `isFresh` says that such a line begins here. -/
def plain (g : Gap) (isFresh : Bool) : List Char → Reading
  | [] => some ([], [])
  | c :: cs =>
    if c == ' ' then plain (g.blank c) false cs
    else if isBreak c then if isSeparator cs then none else plain (g.newLine c) true cs
    else if isFresh then some ([], c :: cs)
    else if isGap c || (c == '#' && g != .none) || (c == ':' && (cs.head?.map isGap).getD true) then none
    else prepend (g.text ++ [c]) (plain .none false cs)

/-- A whole number in decimal digits. -/
def whole? (cs : List Char) : Option Int :=
  let ds := dropSign cs
  if allOf isAsciiDigit ds && (ds.head? != some '0' || ds.length == 1) then
    let n : Int := Nat.ofDigitChars 10 ds 0
    some (if cs.head? == some '-' then -n else n)
  else none

/-- What plain text stands for. -/
def value? (cs : List Char) : Option Value :=
  if isAmbiguous cs then (whole? cs).map Value.int else some (.text (String.ofList cs))

/-- Behind the end of a line on which nothing follows. -/
def endLine? (cs : List Char) : Option (List Char) :=
  match cs.dropWhile (· == ' ') with
  | [] => some []
  | c :: rest => if isBreak c then some rest else none

def quoted? (r : Reading) : Option (Value × List Char) :=
  r.bind fun (out, rest) => (endLine? rest).map fun rest => (.text (String.ofList out), rest)

/-- A scalar, with all of its lines. -/
def scalar? (cs : List Char) : Option (Value × List Char) :=
  match cs with
  | '\'' :: cs => quoted? (single .none cs)
  | '"' :: cs => quoted? (double (.gap .none) cs)
  | cs =>
    if startsPlain cs then (plain .none false cs).bind fun (out, rest) => (value? out).map fun v => (v, rest)
    else none

def isKeyChar (c : Char) : Bool := isAsciiLetter c || c == '_'

/-- How many characters a key can have. -/
def keyLimit : Nat := 1024

def isKey (key : List Char) : Bool := !key.isEmpty && key.length ≤ keyLimit && !isAmbiguous key

/-- A key with its value. -/
def field? (cs : List Char) : Option ((String × Value) × List Char) :=
  let key := cs.takeWhile isKeyChar
  match cs.drop key.length with
  | ':' :: ' ' :: rest =>
    if isKey key then
      (scalar? (rest.dropWhile (· == ' '))).map fun (v, rest) => ((String.ofList key, v), rest)
    else none
  | _ => none

def fields? : Nat → List Char → Option Fields
  | _, [] => some []
  | 0, _ => none
  | fuel + 1, cs => (field? cs).bind fun (entry, rest) => (fields? fuel rest).map (entry :: ·)

/-- The characters that a document may have. -/
def isReadable (c : Char) : Bool :=
  let n := c.toNat
  n == 9 || n == 10 || n == 13 || (0x20 ≤ n && n ≤ 0x7E) || n == 0x85 || (0xA0 ≤ n && n ≤ 0xFFFD) || 0x10000 ≤ n

/-- The mapping of a document. A key that occurs again replaces the value. -/
def read? (cs : List Char) : Option Fields :=
  if cs.isEmpty || !cs.all isReadable then none
  else
    let cs := normalizeNewlines cs
    (fields? cs.length cs).map (Fields.overlay [])

end Reader

end Letterpress.Yaml
