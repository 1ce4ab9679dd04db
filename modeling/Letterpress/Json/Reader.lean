import Letterpress.Number.Reading
import Letterpress.Value

/-!
# Reading JSON

Reads one JSON value. The order of an object's keys is kept; of a key that occurs twice the first place and
the last value count. A number with a fraction or an exponent is a binary64 number, any other an integer. The
words `NaN`, `Infinity` and `-Infinity` are numbers too.

* `Json.read`: the value, or the first place where the text is not JSON.
* `Json.Problem.message`: the text of such a problem, with line, column and position.
-/

namespace Letterpress.Json

open Text

inductive Problem where
  | expectingValue
  | expectingKey
  | expectingColon
  | expectingComma
  | extraData
  | unterminatedText
  | badEscape
  | badUnicodeEscape
  | controlCharacter
  | byteOrderMark
  /-- an integer with more digits than are converted -/
  | tooManyDigits
  deriving DecidableEq, Repr

namespace Problem

def text : Problem → String
  | expectingValue => "Expecting value"
  | expectingKey => "Expecting property name enclosed in double quotes"
  | expectingColon => "Expecting ':' delimiter"
  | expectingComma => "Expecting ',' delimiter"
  | extraData => "Extra data"
  | unterminatedText => "Unterminated string starting at"
  | badEscape => "Invalid \\escape"
  | badUnicodeEscape => "Invalid \\uXXXX escape"
  | controlCharacter => "Invalid control character at"
  | byteOrderMark => "Unexpected UTF-8 BOM (decode using utf-8-sig)"
  | tooManyDigits => "too many digits"

/-- Line and column of a position, both counted from one. -/
def lineAndColumn (source : List Char) (position : Nat) : Nat × Nat :=
  let before := source.take position
  ((before.filter (· == '\n')).length + 1, (before.reverse.takeWhile (· != '\n')).length + 1)

def message (p : Problem) (source : List Char) (position : Nat) : String :=
  let (line, column) := lineAndColumn source position
  s!"{p.text}: line {line} column {column} (char {position})"

end Problem

/-- A problem and how many characters were left when it was found. -/
abbrev Step (α : Type) := Except (Problem × Nat) α

def isJsonBlank (c : Char) : Bool := c == ' ' || c == '\t' || c == '\n' || c == '\r'

def skipBlanks (cs : List Char) : List Char := cs.dropWhile isJsonBlank

/-- The value of four hexadecimal digits, which must not be the end of the source. -/
def hex4? (cs : List Char) : Option (Nat × List Char) :=
  match cs with
  | a :: b :: c :: d :: next :: rest =>
    match hexValue? a, hexValue? b, hexValue? c, hexValue? d with
    | some a, some b, some c, some d => some (((a * 16 + b) * 16 + c) * 16 + d, next :: rest)
    | _, _, _, _ => none
  | _ => none

def isHighUnit (n : Nat) : Bool := 0xD800 ≤ n && n ≤ 0xDBFF

def isLowUnit (n : Nat) : Bool := 0xDC00 ≤ n && n ≤ 0xDFFF

/-- The unit escaped right here, without its own problem. -/
def nextUnit? (cs : List Char) : Option (Nat × List Char) :=
  match cs with
  | '\\' :: 'u' :: rest => hex4? rest
  | _ => none

/-- The character of an escape after `\u`, where two units may make one. -/
def unicodeEscape? (cs : List Char) : Option (Char × List Char) :=
  (hex4? cs).map fun (n, rest) =>
    if isHighUnit n then
      match nextUnit? rest with
      | some (m, rest') =>
        if isLowUnit m then (Char.ofNat (0x10000 + (n - 0xD800) * 0x400 + (m - 0xDC00)), rest')
        else (Char.ofNat 0xFFFD, rest)
      | none => (Char.ofNat 0xFFFD, rest)
    else if isLowUnit n then (Char.ofNat 0xFFFD, rest)
    else (Char.ofNat n, rest)

def simpleEscape? (c : Char) : Option Char :=
  match c with
  | '"' => some '"'
  | '\\' => some '\\'
  | '/' => some '/'
  | 'b' => some (Char.ofNat 8)
  | 'f' => some (Char.ofNat 12)
  | 'n' => some '\n'
  | 'r' => some '\r'
  | 't' => some '\t'
  | _ => none

/-- The text up to the closing quote; `start` is what was left at the opening one. -/
def readText (start : Nat) (acc : List Char) : Nat → List Char → Step (List Char × List Char)
  | 0, _ => .error (.unterminatedText, start)
  | fuel + 1, cs =>
    match cs with
    | [] => .error (.unterminatedText, start)
    | '"' :: rest => .ok (acc.reverse, rest)
    | '\\' :: [] => .error (.unterminatedText, start)
    | '\\' :: 'u' :: rest =>
      match unicodeEscape? rest with
      | some (c, rest') => readText start (c :: acc) fuel rest'
      | none => .error (.badUnicodeEscape, rest.length + 1)
    | '\\' :: e :: rest =>
      match simpleEscape? e with
      | some c => readText start (c :: acc) fuel rest
      | none => .error (.badEscape, rest.length + 2)
    | c :: rest =>
      if c.toNat < 32 then .error (.controlCharacter, rest.length + 1)
      else readText start (c :: acc) fuel rest

/-- The exponent of a number, if a whole one stands here. -/
def takeExponent (cs : List Char) : List Char × List Char :=
  match cs with
  | e :: rest =>
    if e == 'e' || e == 'E' then
      let (sign, digits) :=
        match rest with
        | '-' :: r => (['-'], r)
        | '+' :: r => ([], r)
        | r => ([], r)
      let ds := digits.takeWhile isAsciiDigit
      if ds.isEmpty then ([], cs) else (sign ++ ds, digits.dropWhile isAsciiDigit)
    else ([], cs)
  | [] => ([], [])

/-- The whole part of a number: a zero, or digits that do not start with one. -/
def takeWhole? (cs : List Char) : Option (List Char × List Char) :=
  match cs with
  | '0' :: rest => some (['0'], rest)
  | c :: _ => if isAsciiDigit c then some (cs.takeWhile isAsciiDigit, cs.dropWhile isAsciiDigit) else none
  | [] => none

/-- The digits after a point, none when no digit follows it. -/
def takeFraction (cs : List Char) : List Char × List Char :=
  match cs with
  | '.' :: rest =>
    let ds := rest.takeWhile isAsciiDigit
    if ds.isEmpty then ([], cs) else (ds, rest.dropWhile isAsciiDigit)
  | _ => ([], cs)

/-- The longest number that stands here. -/
def readNumber (cs : List Char) : Step (Value × List Char) :=
  let (negative, body) := match cs with
    | '-' :: rest => (true, rest)
    | _ => (false, cs)
  match takeWhole? body with
  | none => .error (.expectingValue, cs.length)
  | some (whole, rest) =>
    let (fraction, rest) := takeFraction rest
    let (exponent, rest) := takeExponent rest
    if fraction.isEmpty && exponent.isEmpty then
      if Number.digitLimit < whole.length then .error (.tooManyDigits, cs.length)
      else
        let n : Int := Number.digitsValue whole
        .ok (.int (if negative then -n else n), rest)
    else
      let (s, ds) := Number.splitSign exponent
      let e : Int := if s then -(Number.digitsValue ds : Int) else Number.digitsValue ds
      .ok (.float (Number.ofScientific negative (whole ++ fraction) (e - fraction.length)), rest)

/-- The words that stand for values. -/
def readWord? (cs : List Char) : Option (Value × List Char) :=
  [("null", Value.none), ("true", .bool true), ("false", .bool false), ("NaN", .float .nan),
    ("Infinity", .float (.infinite false)), ("-Infinity", .float (.infinite true))].findSome? fun (word, v) =>
      (dropPrefix? word.toList cs).map fun rest => (v, rest)

mutual

/-- The value that stands here. The fuel bounds the number of steps. -/
def readValue : Nat → List Char → Step (Value × List Char)
  | 0, cs => .error (.expectingValue, cs.length)
  | fuel + 1, cs =>
    match cs with
    | '"' :: rest => do
      let (t, rest) ← readText (rest.length + 1) [] (rest.length + 1) rest
      .ok (.text (String.ofList t), rest)
    | '[' :: rest =>
      match skipBlanks rest with
      | ']' :: rest => .ok (.list [], rest)
      | rest => readItems fuel [] rest
    | '\x7b' :: rest =>
      match skipBlanks rest with
      | '\x7d' :: rest => .ok (.record [], rest)
      | '"' :: rest => readMembers fuel [] rest
      | rest => .error (.expectingKey, rest.length)
    | cs =>
      match readWord? cs with
      | some r => .ok r
      | none => readNumber cs

/-- The rest of an array, at an item. -/
def readItems : Nat → List Value → List Char → Step (Value × List Char)
  | 0, _, cs => .error (.expectingValue, cs.length)
  | fuel + 1, acc, cs => do
    let (v, rest) ← readValue fuel cs
    match skipBlanks rest with
    | ']' :: rest => .ok (.list (v :: acc).reverse, rest)
    | ',' :: rest => readItems fuel (v :: acc) (skipBlanks rest)
    | rest => .error (.expectingComma, rest.length)

/-- The rest of an object, after the quote that opens a key. -/
def readMembers : Nat → Fields → List Char → Step (Value × List Char)
  | 0, _, cs => .error (.expectingValue, cs.length)
  | fuel + 1, acc, cs => do
    let (key, rest) ← readText (cs.length + 1) [] (cs.length + 1) cs
    match skipBlanks rest with
    | ':' :: rest =>
      let (v, rest) ← readValue fuel (skipBlanks rest)
      let acc := Fields.set acc (String.ofList key) v
      match skipBlanks rest with
      | '\x7d' :: rest => .ok (.record acc, rest)
      | ',' :: rest =>
        match skipBlanks rest with
        | '"' :: rest => readMembers fuel acc rest
        | rest => .error (.expectingKey, rest.length)
      | rest => .error (.expectingComma, rest.length)
    | rest => .error (.expectingColon, rest.length)

end

/-- The value that the text holds, or a problem and its position. -/
def read (source : List Char) : Except (Problem × Nat) Value :=
  let size := source.length
  let located : Step Value :=
    if source.head? == some (Char.ofNat 0xFEFF) then .error (.byteOrderMark, size)
    else do
      let (v, rest) ← readValue (2 * size + 2) (skipBlanks source)
      match skipBlanks rest with
      | [] => .ok v
      | rest => .error (.extraData, rest.length)
  located.mapError fun (p, left) => (p, size - left)

end Letterpress.Json
