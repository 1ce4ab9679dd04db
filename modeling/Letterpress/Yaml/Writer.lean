import Letterpress.Value
import Letterpress.Yaml.Scalar

/-!
# Writing YAML

Values as YAML in block style: mappings and sequences with one entry a line, in the order of their entries.

* `Yaml.write`: a mapping as a document.
-/

namespace Letterpress.Yaml

open Text

/-- A float; its exponent has a point before it. -/
def floatText (x : Binary64) : List Char :=
  match x.text.map Char.toLower with
  | ['n', 'a', 'n'] => ".nan".toList
  | ['i', 'n', 'f'] => ".inf".toList
  | ['-', 'i', 'n', 'f'] => "-.inf".toList
  | cs =>
    if cs.contains '.' then cs
    else cs.flatMap fun c => if c == 'e' then ['.', '0', 'e'] else [c]

/-- A value without parts. Its text says what it is, so that it is always plain. -/
def scalarText? : Value → Option (List Char)
  | .none => some "null".toList
  | .bool b => some (if b then "true".toList else "false".toList)
  | .int i => some (Literal.intText i)
  | .float x => some (floatText x)
  | .date d => some (Moment.dateText d)
  | .moment m => some (m.isoTextWith ' ')
  | _ => none

/-- The keys that stand on one line before their values. -/
def isSimpleKey (key : List Char) : Bool := key.length + 5 < 128 && !key.isEmpty && !key.any Scalar.isBreak

def indentStep : Nat := 2

def lineAt (indent : Nat) : List Char := '\n' :: List.replicate indent ' '

/-- Pieces on lines of their own. -/
def onLines (indent : Nat) : List (List Char) → List Char := joinWith (lineAt indent)

/-- A scalar behind an indicator that ends in a column. -/
def scalar (indent column : Nat) (v : Value) : List Char :=
  match v with
  | .text s => ' ' :: Scalar.write ⟨indent + indentStep, true⟩ (column + 1) s.toList
  | v => ' ' :: (scalarText? v).getD []

mutual

/-- A value behind the colon of a key, which ends in a column. -/
def valueText (indent column : Nat) : Value → List Char
  | .list [] => " []".toList
  | .tuple [] => " []".toList
  | .record [] => " \x7b\x7d".toList
  | .list xs => lineAt indent ++ onLines indent (itemTexts indent xs)
  | .tuple xs => lineAt indent ++ onLines indent (itemTexts indent xs)
  | .record fields =>
    lineAt (indent + indentStep) ++ onLines (indent + indentStep) (entryTexts (indent + indentStep) fields)
  | v => scalar indent column v

/-- A value behind a dash or another indicator of one character. -/
def partText (indent : Nat) : Value → List Char
  | .list [] => " []".toList
  | .tuple [] => " []".toList
  | .record [] => " \x7b\x7d".toList
  | .list xs => ' ' :: onLines (indent + indentStep) (itemTexts (indent + indentStep) xs)
  | .tuple xs => ' ' :: onLines (indent + indentStep) (itemTexts (indent + indentStep) xs)
  | .record fields => ' ' :: onLines (indent + indentStep) (entryTexts (indent + indentStep) fields)
  | v => scalar indent (indent + 1) v

def itemTexts (indent : Nat) : List Value → List (List Char)
  | [] => []
  | x :: xs => ('-' :: partText indent x) :: itemTexts indent xs

def entryTexts (indent : Nat) : List (String × Value) → List (List Char)
  | [] => []
  | (k, v) :: rest =>
    (if isSimpleKey k.toList then
      let key := Scalar.write ⟨indent + indentStep, false⟩ indent k.toList
      key ++ ':' :: valueText indent (indent + key.length + 1) v
    else
      '?' :: scalar indent (indent + 1) (.text k) ++ lineAt indent ++ ':' :: partText indent v) ::
      entryTexts indent rest

end

/-- A mapping as a document. -/
def write (fields : Fields) : List Char := onLines 0 (entryTexts 0 fields) ++ ['\n']

end Letterpress.Yaml
