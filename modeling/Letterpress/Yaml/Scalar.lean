import Letterpress.Text.Class
import Letterpress.Text.Trim
import Letterpress.Value.Literal

/-!
# YAML scalars

Text as a scalar of a YAML document in block style. Text that reads back as itself is plain; other text stands
in single quotes, or in double quotes if it has characters that need escaping. Lines are folded at blanks behind
the column of 80.

* `Scalar.isAmbiguous`: whether plain text would be read as something else than text.
* `Scalar.write`: text as a scalar.
-/

namespace Letterpress.Yaml

open Text

/-! ## Words and numbers

The plain scalars that stand for something else than text. -/

namespace Scalar

def truthWords : List String :=
  ["yes", "Yes", "YES", "no", "No", "NO", "true", "True", "TRUE", "false", "False", "FALSE", "on", "On", "ON",
    "off", "Off", "OFF"]

def nothingWords : List String := ["", "~", "null", "Null", "NULL"]

def endlessWords : List String :=
  [".inf", ".Inf", ".INF", "+.inf", "+.Inf", "+.INF", "-.inf", "-.Inf", "-.INF", ".nan", ".NaN", ".NAN"]

def isOctal (c : Char) : Bool := '0' ≤ c && c ≤ '7'

def isBinary (c : Char) : Bool := c == '0' || c == '1'

def orLowLine (p : Char → Bool) (c : Char) : Bool := p c || c == '_'

def dropSign (cs : List Char) : List Char :=
  match cs with
  | '-' :: rest => rest
  | '+' :: rest => rest
  | cs => cs

/-- At least one character, all of a class. -/
def allOf (p : Char → Bool) (cs : List Char) : Bool := !cs.isEmpty && cs.all p

/-- A digit and perhaps another before it, below sixty. -/
def isSixtieth (cs : List Char) : Bool :=
  match cs with
  | [a] => isAsciiDigit a
  | [a, b] => '0' ≤ a && a ≤ '5' && isAsciiDigit b
  | _ => false

/-- A digit, then digits and low lines. -/
def isDigits (cs : List Char) : Bool :=
  (cs.head?.map isAsciiDigit).getD false && cs.all (orLowLine isAsciiDigit)

def isDecimal (cs : List Char) : Bool := isDigits cs && cs.head? != some '0'

def isWhole (cs : List Char) : Bool :=
  match dropSign cs with
  | ['0'] => true
  | '0' :: 'b' :: rest => allOf (orLowLine isBinary) rest
  | '0' :: 'x' :: rest => allOf (orLowLine isHex) rest
  | '0' :: rest => allOf (orLowLine isOctal) rest
  | cs =>
    match splitBy (· == ':') cs with
    | first :: rest => isDecimal first && rest.all isSixtieth
    | [] => false

/-- An exponent with a sign, or nothing. -/
def isExponent (cs : List Char) : Bool :=
  match cs with
  | [] => true
  | e :: s :: digits => (e == 'e' || e == 'E') && (s == '-' || s == '+') && allOf isAsciiDigit digits
  | _ => false

/-- Digits and low lines with an exponent. -/
def isFraction (cs : List Char) : Bool := isExponent (cs.dropWhile (orLowLine isAsciiDigit))

def isBroken (cs : List Char) : Bool :=
  let unsigned := dropSign cs
  let whole := unsigned.takeWhile (· != '.')
  match unsigned.drop whole.length with
  | [] => false
  | _ :: fraction =>
    match splitBy (· == ':') whole with
    | [] => false
    | [[]] => unsigned.length = cs.length && (fraction.head?.map isAsciiDigit).getD false && isFraction fraction
    | [first] => isDigits first && isFraction fraction
    | first :: rest => isDigits first && rest.all isSixtieth && fraction.all (orLowLine isAsciiDigit)

/-- The digits at the start of a text, between two bounds in number, and what follows. -/
def digits? (least most : Nat) (cs : List Char) : Option (List Char) :=
  let n := min most (cs.takeWhile isAsciiDigit).length
  if n < least then none else some (cs.drop n)

def isZone (cs : List Char) : Bool :=
  match cs.dropWhile fun c => c == ' ' || c == '\t' with
  | [] => cs.isEmpty
  | ['Z'] => true
  | s :: rest =>
    (s == '-' || s == '+') &&
      match digits? 1 2 rest with
      | some [] => true
      | some (':' :: minutes) => digits? 2 2 minutes == some []
      | _ => false

/-- A time of day with an optional fraction of a second and an optional zone. -/
def isClock (cs : List Char) : Bool :=
  ((digits? 1 2 cs).bind (dropPrefix? [':'])
    |>.bind (digits? 2 2) |>.bind (dropPrefix? [':']) |>.bind (digits? 2 2)).any fun rest =>
      match rest with
      | '.' :: rest => isZone (rest.dropWhile isAsciiDigit)
      | rest => isZone rest

def isPoint (cs : List Char) : Bool :=
  let date? := (digits? 4 4 cs).bind (dropPrefix? ['-'])
  let strict := date?.bind (digits? 2 2) |>.bind (dropPrefix? ['-']) |>.bind (digits? 2 2)
  let lenient := date?.bind (digits? 1 2) |>.bind (dropPrefix? ['-']) |>.bind (digits? 1 2)
  strict == some [] ||
    lenient.any fun rest =>
      match rest with
      | c :: more =>
        if c == 'T' || c == 't' then isClock more
        else if c == ' ' || c == '\t' then isClock (more.dropWhile fun c => c == ' ' || c == '\t')
        else false
      | [] => false

/-- Whether plain text would be read as something else than text. -/
def isAmbiguous (cs : List Char) : Bool :=
  let word := String.ofList cs
  truthWords.contains word || nothingWords.contains word || endlessWords.contains word || word == "<<" ||
    word == "=" || isWhole cs || isBroken cs || isPoint cs

/-! ## Styles -/

inductive Style where
  | plain
  | single
  | double
  deriving DecidableEq, Repr, Inhabited

def isBreak (c : Char) : Bool := c == '\n' || "\u0085\u2028\u2029".toList.contains c

/-- Blanks, breaks and the other characters that part tokens. -/
def isGap (c : Char) : Bool := c.toNat == 0 || " \t\r".toList.contains c || isBreak c

/-- Characters that must be escaped. -/
def isSpecial (c : Char) : Bool :=
  let n := c.toNat
  !(c == '\n' || (0x20 ≤ n && n ≤ 0x7E) || n == 0x85 || (0xA0 ≤ n && n ≤ 0xFFFD && n != 0xFEFF) ||
    (0x10000 ≤ n && n < 0x10FFFF))

/-- Whether an indicator stands where plain text may have none, given the character before. -/
def hasIndicator (before : Option Char) : List Char → Bool
  | [] => false
  | c :: cs =>
    let gapBehind := (cs.head?.map isGap).getD true
    let gapBefore := (before.map isGap).getD true
    (match before with
      | none => "#,[]\x7b\x7d&*!|>'\"%@\x60".toList.contains c || ("?:-".toList.contains c && gapBehind)
      | some _ => (c == ':' && gapBehind) || (c == '#' && gapBefore)) || hasIndicator (some c) cs

/-- Whether a character of one class stands before one of another. -/
def hasPair (p q : Char → Bool) : List Char → Bool
  | a :: b :: cs => (p a && q b) || hasPair p q (b :: cs)
  | _ => false

def isSpace (c : Char) : Bool := c == ' '

def isPlainForm (cs : List Char) : Bool :=
  !(startsWith "---".toList cs || startsWith "...".toList cs || hasIndicator none cs || cs.any isBreak ||
    cs.any isSpecial || cs.head? == some ' ' || cs.getLast? == some ' ')

def isSingleForm (cs : List Char) : Bool :=
  !(cs.any isSpecial || hasPair isSpace isBreak cs || hasPair isBreak isSpace cs)

/-- The style of text as a value. -/
def style (cs : List Char) : Style :=
  if isPlainForm cs && !isAmbiguous cs then .plain
  else if isSingleForm cs then .single
  else .double

/-! ## Writing -/

/-- The column behind which lines are folded. -/
def width : Nat := 80

/-- Where a scalar is written: its indentation on further lines, and whether it may have some. -/
structure Layout where
  indent : Nat
  folds : Bool

def newLine (l : Layout) : List Char := '\n' :: List.replicate l.indent ' '

/-- Plain text from a column on. A single blank behind the width becomes a new line. -/
def writePlain (l : Layout) (column : Nat) (afterSpace : Bool) : List Char → List Char
  | [] => []
  | ' ' :: cs =>
    let isSingle := !afterSpace && cs.head? != some ' '
    if isSingle && width < column && l.folds then newLine l ++ writePlain l l.indent true cs
    else ' ' :: writePlain l (column + 1) true cs
  | c :: cs => c :: writePlain l (column + 1) false cs

/-- Text in single quotes from a column on, without the quotes. Breaks are doubled, and a quote is written
twice. -/
def writeSingle (l : Layout) (column : Nat) (before : Option Char) : List Char → List Char
  | [] => []
  | ' ' :: cs =>
    let isInside := before.isSome && !cs.isEmpty
    let isSingle := before != some ' ' && cs.head? != some ' '
    if isSingle && isInside && width < column && l.folds then newLine l ++ writeSingle l l.indent (some ' ') cs
    else ' ' :: writeSingle l (column + 1) (some ' ') cs
  | '\'' :: cs => '\'' :: '\'' :: writeSingle l (column + 2) (some '\'') cs
  | c :: cs =>
    if isBreak c then
      let first := if (before.map isBreak).getD false || c != '\n' then [] else ['\n']
      let last := if (cs.head?.map isBreak).getD false then [] else List.replicate l.indent ' '
      first ++ c :: last ++ writeSingle l l.indent (some c) cs
    else c :: writeSingle l (column + 1) (some c) cs

def hexText (digits n : Nat) : List Char := (Literal.hex digits n).map Char.toUpper

/-- Letters that stand for characters behind a backslash. -/
def escapeLetters : List (Char × Char) :=
  [(Char.ofNat 0, '0'), ('\x07', 'a'), ('\x08', 'b'), ('\t', 't'), ('\n', 'n'), ('\x0b', 'v'), ('\x0c', 'f'),
    ('\r', 'r'), ('\x1b', 'e'), ('"', '"'), ('\\', '\\'), ('\u0085', 'N'), ('\u2028', 'L'), ('\u2029', 'P')]

/-- Characters that stand in double quotes as they are. -/
def isOwn (c : Char) : Bool :=
  let n := c.toNat
  !"\"\\\u0085\u2028\u2029\ufeff".toList.contains c &&
    ((0x20 ≤ n && n ≤ 0x7E) || (0xA0 ≤ n && n ≤ 0xFFFD))

def escapeChar (c : Char) : List Char :=
  match escapeLetters.lookup c with
  | some letter => ['\\', letter]
  | none =>
    let n := c.toNat
    if n ≤ 0xFF then '\\' :: 'x' :: hexText 2 n
    else if n ≤ 0xFFFF then '\\' :: 'u' :: hexText 4 n
    else '\\' :: 'U' :: hexText 8 n

/-- A break within double quotes, which does not count; a blank behind it has a backslash before it. -/
def fold (l : Layout) (rest : List Char) : List Char :=
  '\\' :: newLine l ++ if rest.head? == some ' ' then ['\\'] else []

/-- The column behind a break. -/
def foldColumn (l : Layout) (rest : List Char) : Nat := if rest.head? == some ' ' then l.indent + 1 else l.indent

/-- Text in double quotes from a column on, without the quotes. Behind the width a line is folded at a blank or
behind an escaped character, but not next to the ends of the text. -/
def writeDouble (l : Layout) (column : Nat) (isFirst afterEscape : Bool) : List Char → List Char
  | [] => []
  | c :: cs =>
    let mayFold := !isFirst && !cs.isEmpty && l.folds
    if isOwn c then
      if (c == ' ' || afterEscape) && mayFold && width < column then
        fold l (c :: cs) ++ c :: writeDouble l (foldColumn l (c :: cs) + 1) false false cs
      else c :: writeDouble l (column + 1) false false cs
    else
      let written := escapeChar c
      let column := column + written.length
      if mayFold && width + 1 < column then
        written ++ fold l cs ++ writeDouble l (foldColumn l cs) false true cs
      else written ++ writeDouble l column false true cs

/-- Text as a scalar that starts in a column. -/
def write (l : Layout) (column : Nat) (cs : List Char) : List Char :=
  match style cs with
  | .plain => writePlain l column false cs
  | .single => '\'' :: writeSingle l (column + 1) none cs ++ ['\'']
  | .double => '"' :: writeDouble l (column + 1) true false cs ++ ['"']

end Scalar

end Letterpress.Yaml
