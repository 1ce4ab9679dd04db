import Letterpress.Text.Trim
import Letterpress.Value

/-!
# Values as text

Two texts of a value: the one that a reader sees in running text, and the literal that stands for it inside a
list or a mapping.

* `Literal.quote`: text in single quotes, or in double quotes when that saves escapes.
* `Value.literal`: the literal of any value.
* `Value.text?`: text and safe text as they are, everything else as its literal.
-/

namespace Letterpress

namespace Literal

/-- The lower-case hexadecimal digits of a number, padded to a width. -/
def hex (width n : Nat) : List Char :=
  let ds := Nat.toDigits 16 n
  List.replicate (width - ds.length) '0' ++ ds

/-- The escape of a character that has no visible form. -/
def numericEscape (c : Char) : List Char :=
  let n := c.toNat
  if n < 0x100 then '\\' :: 'x' :: hex 2 n
  else if n < 0x10000 then '\\' :: 'u' :: hex 4 n
  else '\\' :: 'U' :: hex 8 n

def escapeChar (quote c : Char) : List Char :=
  if c == quote || c == '\\' then ['\\', c]
  else if c == '\t' then ['\\', 't']
  else if c == '\n' then ['\\', 'n']
  else if c == '\r' then ['\\', 'r']
  else if Text.isPrintable c then [c]
  else numericEscape c

def quote (cs : List Char) : List Char :=
  let q := if cs.contains '\'' && !cs.contains '"' then '"' else '\''
  q :: cs.flatMap (escapeChar q) ++ [q]

def commaSeparated (parts : List (List Char)) : List Char := Text.joinWith [',', ' '] parts

def bracket (opening closing : String) (parts : List (List Char)) : List Char :=
  opening.toList ++ commaSeparated parts ++ closing.toList

def natText (n : Nat) : List Char := Binary64.digits n

def intText (i : Int) : List Char := if i < 0 then '-' :: natText i.natAbs else natText i.natAbs

/-- A duration in days, seconds and microseconds, of which only the days may be negative. -/
def durationText (us : Int) : List Char :=
  let days := Int.fdiv us 86400000000
  let rest := (Int.fmod us 86400000000).toNat
  let part (name : String) (i : Int) : List (List Char) := if i = 0 then [] else [name.toList ++ intText i]
  let parts := part "days=" days ++ part "seconds=" (rest / 1000000 : Nat) ++ part "microseconds=" (rest % 1000000 : Nat)
  bracket "datetime.timedelta(" ")" (if parts.isEmpty then [['0']] else parts)

def zoneText (us : Int) : List Char :=
  if us = 0 then "datetime.timezone.utc".toList else bracket "datetime.timezone(" ")" [durationText us]

def dateText (d : Date) : List Char :=
  bracket "datetime.date(" ")" [natText d.year, natText d.month, natText d.day]

def momentText (m : Moment) : List Char :=
  let clock :=
    if m.microsecond.val != 0 then [m.second.val, m.microsecond.val]
    else if m.second.val != 0 then [m.second.val] else []
  let parts := [m.date.year, m.date.month, m.date.day, m.hour.val, m.minute.val] ++ clock
  let zone := match m.offset with
    | some us => ["tzinfo=".toList ++ zoneText us]
    | none => []
  bracket "datetime.datetime(" ")" (parts.map natText ++ zone)

end Literal

namespace Value

open Literal

mutual

def literal : Value → List Char
  | none => "None".toList
  | bool b => if b then "True".toList else "False".toList
  | int i => intText i
  | float x => x.text
  | text s => quote s.toList
  | date d => dateText d
  | moment m => momentText m
  | list xs => bracket "[" "]" (literals xs)
  | tuple [x] => '(' :: literal x ++ [',', ')']
  | tuple xs => bracket "(" ")" (literals xs)
  | record fields => bracket "\x7b" "\x7d" (fieldLiterals fields)
  | markup s => "Markup(".toList ++ quote s.toList ++ [')']
  | mapping entries => bracket "\x7b" "\x7d" (entryLiterals entries)
  | range a b 1 => bracket "range(" ")" [intText a, intText b]
  | range a b c => bracket "range(" ")" [intText a, intText b, intText c]
  | sequence .keys xs => bracket "dict_keys([" "])" (literals xs)
  | sequence .values xs => bracket "dict_values([" "])" (literals xs)
  | sequence .items xs => bracket "dict_items([" "])" (literals xs)
  | sequence .stream _ => "<generator>".toList
  | function name => "<function ".toList ++ name.toList ++ ['>']
  | method _ name => "<method ".toList ++ name.toList ++ ['>']
  | loop i n => "<LoopContext ".toList ++ natText (i + 1) ++ '/' :: natText n ++ ['>']
  | undefined _ _ => "Undefined".toList

def literals : List Value → List (List Char)
  | [] => []
  | x :: xs => literal x :: literals xs

def fieldLiterals : List (String × Value) → List (List Char)
  | [] => []
  | (k, v) :: rest => (quote k.toList ++ ':' :: ' ' :: literal v) :: fieldLiterals rest

def entryLiterals : List (Value × Value) → List (List Char)
  | [] => []
  | (k, v) :: rest => (literal k ++ ':' :: ' ' :: literal v) :: entryLiterals rest

end

/-- The text of a value in running text, for values that have one. -/
def display : Value → List Char
  | text s => s.toList
  | markup s => s.toList
  | date d => Moment.dateText d
  | moment m => m.isoTextWith ' '
  | undefined _ _ => []
  | v => v.literal

/-- The text of a value; one that was never defined has none unless it is lenient. -/
def text? (v : Value) : Except Fault (List Char) :=
  match v.refusal? with
  | some f => .error f
  | Option.none => .ok v.display

/-- The kind of a value as error texts name it. -/
def kindName : Value → String
  | none => "None"
  | bool _ => "bool object"
  | int _ => "int object"
  | float _ => "float object"
  | text _ => "str object"
  | date _ => "datetime.date object"
  | moment _ => "datetime.datetime object"
  | list _ => "list object"
  | tuple _ => "tuple object"
  | record _ => "dict object"
  | markup _ => "markupsafe.Markup object"
  | mapping _ => "dict object"
  | range _ _ _ => "range object"
  | sequence .keys _ => "dict_keys object"
  | sequence .values _ => "dict_values object"
  | sequence .items _ => "dict_items object"
  | sequence .stream _ => "generator object"
  | function _ => "function object"
  | method _ _ => "builtin_function_or_method object"
  | loop _ _ => "jinja2.runtime.LoopContext object"
  | undefined _ _ => "jinja2.runtime.Undefined object"

end Value

end Letterpress
