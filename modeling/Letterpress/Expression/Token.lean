import Letterpress.Fault
import Letterpress.Number.Reading
import Letterpress.Text.Trim
import Letterpress.Value.Literal

/-!
# Tokens

The source of a template as tokens: literal text, the brackets of print statements and of statement blocks, and
what stands between them. Comments leave no token. A minus sign at the inner side of a bracket removes the
blanks at its outer side.

* `Token.ofSource`: the tokens of a source. Where the source cannot be read on, the last token is a failure.
-/

namespace Letterpress.Expression

open Text

inductive Token where
  | data (cs : List Char)
  | openPrint
  | closePrint
  | openBlock
  | closeBlock
  | name (s : String)
  | text (s : String)
  | int (i : Int)
  | float (x : Binary64)
  | operator (s : String)
  /-- the place from where on the source cannot be read -/
  | failure (f : Fault)
  deriving Inhabited

namespace Token

/-- The name of a token in messages. -/
def description : Token → String
  | data _ => "template data / text"
  | openPrint => "begin of print statement"
  | closePrint => "end of print statement"
  | openBlock => "begin of statement block"
  | closeBlock => "end of statement block"
  | name s => s
  | text _ => "string"
  | int _ => "integer"
  | float _ => "float"
  | operator s => s
  | failure _ => ""

def isName (s : String) : Token → Bool
  | name n => n == s
  | _ => false

def isOperator (s : String) : Token → Bool
  | operator o => o == s
  | _ => false

def quoted (s : String) : String := String.ofList (Literal.quote s.toList)

/-! ## Numbers -/

/-- Digits in groups that single low lines divide. -/
def digitGroups? (isDigit : Char → Bool) : List Char → Option (List Char × List Char)
  | [] => none
  | c :: cs =>
    if !isDigit c then none
    else
      match cs with
      | '_' :: more =>
        match digitGroups? isDigit more with
        | some (ds, rest) => some (c :: ds, rest)
        | none => some ([c], '_' :: more)
      | more =>
        match digitGroups? isDigit more with
        | some (ds, rest) => some (c :: ds, rest)
        | none => some ([c], more)

/-- The digits of an exponent with its sign, given the text behind its letter. -/
def exponent? (cs : List Char) : Option (List Char × List Char) :=
  let (sign, cs) := match cs with
    | '+' :: cs => (['+'], cs)
    | '-' :: cs => (['-'], cs)
    | cs => ([], cs)
  (digitGroups? isDecimal cs).map fun (ds, rest) => ('e' :: sign ++ ds, rest)

def isExponentSign (c : Char) : Bool := c == 'e' || c == 'E'

/-- The text of a number with a fraction or an exponent. -/
def floatText? (cs : List Char) : Option (List Char × List Char) := do
  let (whole, rest) ← digitGroups? isDecimal cs
  let withExponent (head : List Char) : List Char → Option (List Char × List Char)
    | c :: rest => if isExponentSign c then (exponent? rest).map fun (e, rest) => (head ++ e, rest) else none
    | [] => none
  match rest with
  | '.' :: behind =>
    let (fraction, rest) ← digitGroups? isDecimal behind
    let head := whole ++ '.' :: fraction
    return (withExponent head rest).getD (head, rest)
  | rest => withExponent whole rest

/-- A number in a base, with low lines before its digits. -/
def based? (isDigit : Char → Bool) (cs : List Char) : Option (List Char × List Char) :=
  match cs with
  | '_' :: cs => digitGroups? isDigit cs
  | cs => digitGroups? isDigit cs

def valueIn (base : Nat) (ds : List Char) : Nat :=
  ds.foldl (fun n c => n * base + (((hexValue? c).orElse fun _ => decimalValue? c).getD 0)) 0

def isBinaryDigit (c : Char) : Bool := c == '0' || c == '1'

def isOctalDigit (c : Char) : Bool := '0' ≤ c && c ≤ '7'

/-- Decimal digits after the first one, each with or without a low line before it. -/
def moreDigits (isDigit : Char → Bool) (cs : List Char) : List Char × List Char :=
  ((based? isDigit cs).getD ([], cs))

/-- A whole number; one in decimal digits starts with zero only if it is zero. -/
def int? (cs : List Char) : Option (Nat × List Char) :=
  let zeros (cs : List Char) : Nat × List Char := (0, (moreDigits (· == '0') cs).2)
  let inBase (base : Nat) (isDigit : Char → Bool) (start : List Char) (cs : List Char) : Nat × List Char :=
    match based? isDigit cs with
    | some (ds, rest) => (valueIn base ds, rest)
    | none => zeros start
  match cs with
  | '0' :: c :: rest =>
    if c == 'b' || c == 'B' then some (inBase 2 isBinaryDigit (c :: rest) rest)
    else if c == 'o' || c == 'O' then some (inBase 8 isOctalDigit (c :: rest) rest)
    else if c == 'x' || c == 'X' then some (inBase 16 isHex (c :: rest) rest)
    else some (zeros (c :: rest))
  | ['0'] => some (0, [])
  | c :: rest =>
    if isAsciiDigit c then
      let (ds, rest) := moreDigits isDecimal rest
      some (valueIn 10 (c :: ds), rest)
    else none
  | [] => none

/-! ## Text in quotes -/

/-- The content of a text in quotes with its escapes, and what follows it. -/
def quotedText? (q : Char) : List Char → Option (List Char × List Char)
  | [] => none
  | '\\' :: c :: cs => (quotedText? q cs).map fun (body, rest) => ('\\' :: c :: body, rest)
  | ['\\'] => none
  | c :: cs => if c == q then some ([], cs) else (quotedText? q cs).map fun (body, rest) => (c :: body, rest)

/-- The character of an escape by its number in a fixed count of hexadecimal digits. -/
def hexEscape (count : Nat) (shape : String) (cs : List Char) : Except String (Char × List Char) :=
  let ds := (cs.take count).takeWhile isHex
  if ds.length < count then .error s!"truncated \\{shape} escape"
  else
    let n := valueIn 16 ds
    if 0x10FFFF < n then .error "illegal Unicode character" else .ok (Char.ofNat n, cs.drop count)

def simpleEscape? (c : Char) : Option Char :=
  match c with
  | '\\' => some '\\'
  | '\'' => some '\''
  | '"' => some '"'
  | 'a' => some (Char.ofNat 7)
  | 'b' => some (Char.ofNat 8)
  | 'f' => some (Char.ofNat 12)
  | 'n' => some '\n'
  | 'r' => some '\r'
  | 't' => some '\t'
  | 'v' => some (Char.ofNat 11)
  | _ => none

/-- Replaces the escapes in the content of a text. An unknown escape stands for itself. -/
def unescape : Nat → List Char → Except String (List Char)
  | 0, _ => .ok []
  | _, [] => .ok []
  | fuel + 1, '\\' :: c :: cs =>
    if c == '\n' then unescape fuel cs
    else if let some x := simpleEscape? c then (unescape fuel cs).map (x :: ·)
    else if isOctalDigit c then
      let ds := c :: (cs.take 2).takeWhile isOctalDigit
      (unescape fuel (cs.drop (ds.length - 1))).map (Char.ofNat (valueIn 8 ds) :: ·)
    else if c == 'x' then do
      let (x, rest) ← hexEscape 2 "xXX" cs
      return x :: (← unescape fuel rest)
    else if c == 'u' then do
      let (x, rest) ← hexEscape 4 "uXXXX" cs
      return x :: (← unescape fuel rest)
    else if c == 'U' then do
      let (x, rest) ← hexEscape 8 "UXXXXXXXX" cs
      return x :: (← unescape fuel rest)
    else if c == 'N' then .error "malformed \\N character escape"
    else (unescape fuel cs).map fun r => '\\' :: c :: r
  | fuel + 1, c :: cs => (unescape fuel cs).map (c :: ·)

/-! ## Inside brackets -/

def operators : List String :=
  ["//", "**", "==", "!=", ">=", "<=", "+", "-", "/", "*", "%", "~", "[", "]", "(", ")", "\x7b", "\x7d", ">", "<",
    "=", ".", ":", "|", ",", ";"]

def operator? (cs : List Char) : Option (String × List Char) :=
  operators.findSome? fun o => (dropPrefix? o.toList cs).map fun rest => (o, rest)

/-- Characters of names: those of words, and marks that combine with a letter. -/
def isNamePart (c : Char) : Bool :=
  let n := c.toNat
  isWord c || n == 0xB7 || (0x300 ≤ n && n ≤ 0x36F)

/-- A name starts with a letter or a low line and goes on with letters, digits, low lines and marks. -/
def isProperName (cs : List Char) : Bool :=
  match cs with
  | [] => false
  | c :: rest =>
    (isLetter c || c == '_') && rest.all fun c =>
      isLetter c || isDecimal c || c == '_' || c.toNat == 0xB7 || (0x300 ≤ c.toNat && c.toNat ≤ 0x36F)

/-- The bracket that closes a bracket. -/
def closing? (o : String) : Option String :=
  match o with
  | "\x7b" => some "\x7d"
  | "(" => some ")"
  | "[" => some "]"
  | _ => none

def isClosing (o : String) : Bool := o == "\x7d" || o == ")" || o == "]"

/-- The brackets that are open after an operator. -/
def balance (open_ : List String) (o : String) : Except Fault (List String) :=
  match closing? o with
  | some c => .ok (c :: open_)
  | none =>
    if !isClosing o then .ok open_
    else
      match open_ with
      | [] => .error (.syntaxError s!"unexpected '{o}'")
      | expected :: rest =>
        if expected == o then .ok rest
        else .error (.syntaxError s!"unexpected '{o}', expected '{expected}'")

/-- The end of a statement: behind it, and without the blanks that a minus sign removes. -/
def closeStatement? (isPrint : Bool) (cs : List Char) : Option (List Char) :=
  let mark := if isPrint then "\x7d\x7d".toList else "%\x7d".toList
  match cs with
  | '-' :: more => (dropPrefix? mark more).map trimLeft
  | '+' :: more => if isPrint then none else dropPrefix? mark more
  | cs => dropPrefix? mark cs

/-- One token, or none for blanks, and what follows it. -/
def lexeme? (previous : Option Char) (cs : List Char) : Except Fault (Option (Option Token × List Char)) :=
  match cs with
  | [] => .ok none
  | c :: more =>
    if isBlank c then .ok (some (none, trimLeft more))
    else
      match (if previous == some '.' then none else floatText? cs) with
      | some (ds, rest) => .ok (some (some (float ((Number.readBinary64? ds).getD Binary64.zero)), rest))
      | none =>
        match int? cs with
        | some (n, rest) => .ok (some (some (int n), rest))
        | none =>
          if isNamePart c then
            let word := cs.takeWhile isNamePart
            if isProperName word then .ok (some (some (name (String.ofList word)), cs.dropWhile isNamePart))
            else .error (.syntaxError "Invalid character in identifier")
          else
            match (if c == '"' || c == '\'' then quotedText? c more else none) with
            | some (body, rest) =>
              match unescape body.length body with
              | .ok s => .ok (some (some (text (String.ofList s)), rest))
              | .error m => .error (.syntaxError m)
            | none => .ok ((operator? cs).map fun (o, rest) => (some (operator o), rest))

/-! ## Literal text -/

inductive Opening where
  | print
  | block
  | comment
  | raw
  deriving DecidableEq

/-- What a sign at the inner side of an opening bracket asks for. -/
def takeSign (cs : List Char) : Bool × List Char :=
  match cs with
  | '-' :: rest => (true, rest)
  | '+' :: rest => (false, rest)
  | rest => (false, rest)

/-- Behind the opening of raw text, given the text behind its bracket and sign. -/
def rawOpening? (cs : List Char) : Option (List Char) :=
  match (dropPrefix? "raw".toList (trimLeft cs)).map trimLeft with
  | some ('-' :: '%' :: '\x7d' :: rest) => some (trimLeft rest)
  | some ('%' :: '\x7d' :: rest) => some rest
  | _ => none

/-- The bracket at the start of a text, whether it removes the blanks before it, and what follows it. -/
def opening? (cs : List Char) : Option (Opening × Bool × List Char) :=
  match cs with
  | '\x7b' :: '%' :: rest =>
    let (strips, behind) := takeSign rest
    match rawOpening? behind with
    | some body => some (.raw, strips, body)
    | none => some (.block, strips, behind)
  | '\x7b' :: '\x7b' :: rest => some (.print, takeSign rest)
  | '\x7b' :: '#' :: rest => some (.comment, takeSign rest)
  | _ => none

/-- Literal text up to the first bracket. -/
def literal : List Char → List Char × Option (Opening × Bool × List Char)
  | [] => ([], none)
  | c :: cs =>
    match opening? (c :: cs) with
    | some o => ([], some o)
    | none =>
      let (body, o) := literal cs
      (c :: body, o)

/-- Behind the end of a comment. -/
def closeComment? : List Char → Option (List Char)
  | [] => none
  | c :: cs =>
    match c :: cs with
    | '-' :: '#' :: '\x7d' :: rest => some (trimLeft rest)
    | '#' :: '\x7d' :: rest => some rest
    | _ => closeComment? cs

/-- The end of raw text at the start of a text: whether it removes the blanks before it, and what follows it. -/
def rawClosing? (cs : List Char) : Option (Bool × List Char) :=
  match cs with
  | '\x7b' :: '%' :: rest =>
    let (strips, behind) := takeSign rest
    match (dropPrefix? "endraw".toList (trimLeft behind)).map trimLeft with
    | some ('-' :: '%' :: '\x7d' :: rest) => some (strips, trimLeft rest)
    | some ('+' :: '%' :: '\x7d' :: rest) => some (strips, rest)
    | some ('%' :: '\x7d' :: rest) => some (strips, rest)
    | _ => none
  | _ => none

def rawText? : List Char → Option (List Char × Bool × List Char)
  | [] => none
  | c :: cs =>
    match rawClosing? (c :: cs) with
    | some (strips, rest) => some ([], strips, rest)
    | none => (rawText? cs).map fun (body, strips, rest) => (c :: body, strips, rest)

def ofData (strips : Bool) (cs : List Char) : List Token :=
  let cs := if strips then trimRight cs else cs
  if cs.isEmpty then [] else [data cs]

/-! ## The whole source -/

inductive Mode where
  | outside
  | inside (isPrint : Bool) (open_ : List String) (previous : Option Char)

/-- The last character before a rest of a text. -/
def lastBefore (cs rest : List Char) : Option Char := (cs.take (cs.length - rest.length)).getLast?

def scan (total : Nat) : Nat → Mode → List Char → List Token
  | 0, _, _ => []
  | fuel + 1, .outside, cs =>
    let (body, found) := literal cs
    match found with
    | none => ofData false body
    | some (kind, strips, rest) =>
      ofData strips body ++
        match kind with
        | .print => openPrint :: scan total fuel (.inside true [] none) rest
        | .block => openBlock :: scan total fuel (.inside false [] none) rest
        | .comment =>
          match closeComment? rest with
          | some rest => scan total fuel .outside rest
          | none => if rest.isEmpty then [] else [failure (.syntaxError "Missing end of comment tag")]
        | .raw =>
          match rawText? rest with
          | some (body, strips, rest) => ofData strips body ++ scan total fuel .outside rest
          | none => if rest.isEmpty then [] else [failure (.syntaxError "Missing end of raw directive")]
  | fuel + 1, .inside isPrint open_ previous, cs =>
    match (if open_.isEmpty then closeStatement? isPrint cs else none) with
    | some rest => (if isPrint then closePrint else closeBlock) :: scan total fuel .outside rest
    | none =>
      match lexeme? previous cs with
      | .error f => [failure f]
      | .ok none =>
        match cs with
        | [] => []
        | c :: _ => [failure (.syntaxError s!"unexpected char {quoted (String.ofList [c])} at {total - cs.length}")]
      | .ok (some (none, rest)) => scan total fuel (.inside isPrint open_ (lastBefore cs rest)) rest
      | .ok (some (some t, rest)) =>
        let balanced := match t with
          | operator o => balance open_ o
          | _ => .ok open_
        match balanced with
        | .error f => [failure f]
        | .ok open_ => t :: scan total fuel (.inside isPrint open_ (lastBefore cs rest)) rest

/-- The source with plain line feeds and without its last one. -/
def prepare (source : List Char) : List Char :=
  let cs := normalizeNewlines source
  match cs.getLast? with
  | some '\n' => cs.dropLast
  | _ => cs

def ofSource (source : List Char) : List Token :=
  let cs := prepare source
  scan cs.length (2 * cs.length + 1) .outside cs

end Token

end Letterpress.Expression
