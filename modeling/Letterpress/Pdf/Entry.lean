import Letterpress.Number.Decimal
import Letterpress.Value.Literal

/-!
# Entries of printed files

What an entry of a printed file says when it is read as text. A text stands for itself; any other value is shown as
it is kept, and some values cannot be kept.

* `Entry.text`: an entry, read as text.
-/

namespace Letterpress.Entry

/-- How many decimals a real number has at most. -/
def places : Nat := 6

/-- A real number without zeros at the end. Only finite numbers can be kept. -/
def real : Binary64 → Except Fault (List Char)
  | .finite negative m e =>
    let n := m * Nat.pow 2 (e - Binary64.leastExponent).toNat * Nat.pow 10 places
    let (whole, decimals) := Decimal.splitPlaces (Binary64.roundHalfEven n Binary64.denominator) places
    let decimals := (decimals.reverse.dropWhile (· == '0')).reverse
    let sign := if negative then ['-'] else []
    .ok (sign ++ whole ++ if decimals.isEmpty then [] else '.' :: decimals)
  | .infinite _ | .nan => .error .badValue

def quoted (cs : List Char) : List Char :=
  '"' :: cs.flatMap (fun c => if c == '"' || c == '\\' then ['\\', c] else [c]) ++ ['"']

def line (level : Nat) : List Char := '\n' :: List.replicate (2 * level) ' '

/-- A dictionary shown one entry a line, in the order of the names. -/
def dictionary (level : Nat) (fields : List (String × List Char)) : List Char :=
  let fields := fields.mergeSort fun a b => a.1 ≤ b.1
  let lines := fields.map fun (k, v) => line (level + 1) ++ quoted k.toList ++ ':' :: ' ' :: v
  '\x7b' :: Text.joinWith [','] lines ++ line level ++ ['\x7d']

mutual

/-- A value inside another one. -/
def inner (level : Nat) : Value → Except Fault (List Char)
  | .none => .ok "None".toList
  | .bool b => .ok (if b then "True" else "False").toList
  | .int i => .ok (Literal.intText i)
  | .float x => return "Decimal('".toList ++ (← real x) ++ "')".toList
  | .text s => .ok (quoted s.toList)
  | .list xs => return Literal.bracket "[ " " ]" (← inners level xs)
  | .tuple xs => return Literal.bracket "[ " " ]" (← inners level xs)
  | .record fields => return dictionary level (← fieldInners (level + 1) fields)
  | v => .error (.notAnEntry (String.ofList v.literal))

def inners (level : Nat) : List Value → Except Fault (List (List Char))
  | [] => .ok []
  | x :: xs => return (← inner level x) :: (← inners level xs)

/-- The fields of a dictionary. Those without a value are left out. -/
def fieldInners (level : Nat) : List (String × Value) → Except Fault (List (String × List Char))
  | [] => .ok []
  | (_, .none) :: rest => fieldInners level rest
  | (k, v) :: rest => return (k, ← inner level v) :: (← fieldInners level rest)

end

/-- An entry, read as text. -/
def text : Value → Except Fault (List Char)
  | .text s => .ok s.toList
  | .float x => real x
  | .list xs => return "pikepdf.Array(".toList ++ (← inner 0 (.list xs)) ++ [')']
  | .tuple xs => return "pikepdf.Array(".toList ++ (← inner 0 (.tuple xs)) ++ [')']
  | .record fields => return "pikepdf.Dictionary(".toList ++ (← inner 0 (.record fields)) ++ [')']
  | v => inner 0 v

end Letterpress.Entry
