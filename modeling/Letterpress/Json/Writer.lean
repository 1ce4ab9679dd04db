import Letterpress.Value.Literal

/-!
# Writing JSON

* `Json.compact`: items separated by a comma and a blank, all characters beyond ASCII escaped or none.
* `Json.indented`: one item a line, two blanks a level, ASCII only.
* `Json.tight`: no blanks between items.

A value that JSON has no form for is written as its text.
-/

namespace Letterpress.Json

open Literal (hex)

/-- The escape of one 16-bit unit. -/
def unitEscape (n : Nat) : List Char := '\\' :: 'u' :: hex 4 n

/-- A code point as one unit or as a pair. -/
def charEscape (c : Char) : List Char :=
  let n := c.toNat
  if n < 0x10000 then unitEscape n
  else
    let m := n - 0x10000
    unitEscape (0xD800 + m / 0x400) ++ unitEscape (0xDC00 + m % 0x400)

def writeChar (ascii : Bool) (c : Char) : List Char :=
  if c == '"' || c == '\\' then ['\\', c]
  else if c == '\n' then ['\\', 'n']
  else if c == '\r' then ['\\', 'r']
  else if c == '\t' then ['\\', 't']
  else if c.toNat == 8 then ['\\', 'b']
  else if c.toNat == 12 then ['\\', 'f']
  else if c.toNat < 32 then charEscape c
  else if ascii && 127 ≤ c.toNat then charEscape c
  else [c]

def writeText (ascii : Bool) (cs : List Char) : List Char := '"' :: cs.flatMap (writeChar ascii) ++ ['"']

def writeBinary64 : Binary64 → List Char
  | .nan => ['N', 'a', 'N']
  | .infinite false => "Infinity".toList
  | .infinite true => "-Infinity".toList
  | x => x.text

/-- A scalar value. -/
def writeScalar (ascii : Bool) : Value → List Char
  | .none => ['n', 'u', 'l', 'l']
  | .bool true => ['t', 'r', 'u', 'e']
  | .bool false => ['f', 'a', 'l', 's', 'e']
  | .int i => Literal.intText i
  | .float x => writeBinary64 x
  | v => writeText ascii v.display

/-- What stands between items at a nesting level: on one line, or on lines of their own. -/
structure Layout where
  ascii : Bool
  indent : Option Nat
  /-- whether a blank follows a colon, and a comma within a line -/
  spaced : Bool := true

namespace Layout

def newline (l : Layout) (level : Nat) : List Char :=
  match l.indent with
  | none => []
  | some n => '\n' :: List.replicate (n * level) ' '

def separator (l : Layout) (level : Nat) : List Char :=
  match l.indent with
  | none => if l.spaced then [',', ' '] else [',']
  | some _ => ',' :: l.newline level

def colon (l : Layout) : List Char := if l.spaced then [':', ' '] else [':']

def wrap (l : Layout) (level : Nat) (opening closing : Char) (items : List (List Char)) : List Char :=
  if items.isEmpty then [opening, closing]
  else opening :: l.newline (level + 1) ++ Text.joinWith (l.separator (level + 1)) items ++
    l.newline level ++ [closing]

end Layout

/-- The text of a mapping key that is not text. -/
def keyText (v : Value) : List Char :=
  match v with
  | .text s => s.toList
  | .markup s => s.toList
  | .none | .bool _ | .int _ | .float _ => writeScalar false v
  | v => v.display

mutual

def write (l : Layout) (level : Nat) : Value → List Char
  | .list xs => l.wrap level '[' ']' (writeItems l (level + 1) xs)
  | .tuple xs => l.wrap level '[' ']' (writeItems l (level + 1) xs)
  | .record fields => l.wrap level '\x7b' '\x7d' (writeFields l (level + 1) fields)
  | .mapping entries => l.wrap level '\x7b' '\x7d' (writeEntries l (level + 1) entries)
  | v => writeScalar l.ascii v

def writeItems (l : Layout) (level : Nat) : List Value → List (List Char)
  | [] => []
  | x :: xs => write l level x :: writeItems l level xs

def writeFields (l : Layout) (level : Nat) : List (String × Value) → List (List Char)
  | [] => []
  | (k, v) :: rest => (writeText l.ascii k.toList ++ l.colon ++ write l level v) :: writeFields l level rest

def writeEntries (l : Layout) (level : Nat) : List (Value × Value) → List (List Char)
  | [] => []
  | (k, v) :: rest =>
    (writeText l.ascii (keyText k) ++ l.colon ++ write l level v) :: writeEntries l level rest

end

def compact (ascii : Bool) (v : Value) : List Char := write { ascii, indent := none } 0 v

def indented (v : Value) : List Char := write { ascii := true, indent := some 2 } 0 v

def tight (ascii : Bool) (v : Value) : List Char := write { ascii, indent := none, spaced := false } 0 v

end Letterpress.Json
