import Letterpress.Context
import Letterpress.Hypertext.Escape
import Letterpress.Json.Reader
import Letterpress.Json.Writer

/-!
# Structured content

Content that is a tree of objects, arrays and scalars.

* `Structure.substitute`: replaces references `$` + `\x7bpath\x7d` in the texts of a tree by the values that they lead
  to. References that lead nowhere stay, and what is put in is not looked at again.
* `Structure.toHypertext`: a tree as headings, lists and paragraphs.
-/

namespace Letterpress.Structure

open Text

/-- The text of a value where a reference to it stood. -/
def insertText (v : Value) : List Char :=
  match v with
  | .none => []
  | .bool b => if b then "true".toList else "false".toList
  | .list _ => Json.compact false v
  | .record _ => Json.compact false v
  | v => v.display

/-- A piece of a text: itself, or the path of a reference. -/
inductive Piece where
  | literal (c : Char)
  | reference (path : List Char)
  deriving DecidableEq, Repr

/-- The body of a reference, given the text behind its opening, and what follows the reference. -/
def referenceBody? (cs : List Char) : Option (List Char × List Char) :=
  let body := cs.takeWhile (· != '\x7d')
  match cs.drop body.length with
  | _ :: rest => if body.isEmpty then none else some (body, rest)
  | [] => none

def pieces : Nat → List Char → List Piece
  | 0, _ => []
  | _, [] => []
  | fuel + 1, '$' :: '\x7b' :: cs =>
    match referenceBody? cs with
    | some (body, rest) => .reference body :: pieces fuel rest
    | none => .literal '$' :: pieces fuel ('\x7b' :: cs)
  | fuel + 1, c :: cs => .literal c :: pieces fuel cs

def ofPieces (c : Context) : List Piece → Except Fault (List Char)
  | [] => .ok []
  | .literal x :: rest => do return x :: (← ofPieces c rest)
  | .reference path :: rest => do
    let text ← match ← c.resolvePath path with
      | some v => pure (insertText v)
      | none => pure ('$' :: '\x7b' :: path ++ ['\x7d'])
    return text ++ (← ofPieces c rest)

def substituteText (c : Context) (cs : List Char) : Except Fault (List Char) := ofPieces c (pieces cs.length cs)

mutual

def substitute (c : Context) : Value → Except Fault Value
  | .text s => do return .text (String.ofList (← substituteText c s.toList))
  | .list xs => do return .list (← substituteAll c xs)
  | .record fields => do return .record (← substituteFields c fields)
  | v => .ok v

def substituteAll (c : Context) : List Value → Except Fault (List Value)
  | [] => .ok []
  | x :: xs => do
    let y ← substitute c x
    return y :: (← substituteAll c xs)

def substituteFields (c : Context) : List (String × Value) → Except Fault (List (String × Value))
  | [] => .ok []
  | (k, x) :: xs => do
    let y ← substitute c x
    return (k, y) :: (← substituteFields c xs)

end

/-! ## Headings, lists and paragraphs -/

/-- A blank between a small letter or a digit and a capital. -/
def splitCapitals : List Char → List Char
  | a :: b :: rest =>
    if (isAsciiLower a || isAsciiDigit a) && isAsciiUpper b then a :: ' ' :: splitCapitals (b :: rest)
    else a :: splitCapitals (b :: rest)
  | cs => cs

/-- A key as words: the first letter a capital, the rest small. -/
def humanize (key : List Char) : List Char :=
  let spaced := trim ((splitCapitals key).map fun c => if c == '_' || c == '-' then ' ' else c)
  upper (spaced.take 1) ++ lower (spaced.drop 1)

/-- The deepest level of headings. -/
def deepest : Int := 6

def element (tag : List Char) (content : List Char) : List Char :=
  '<' :: tag ++ '>' :: content ++ '<' :: '/' :: tag ++ ['>']

def lines (xs : List (List Char)) : List Char := joinWith ['\n'] xs

def scalarText (v : Value) : List Char := Hypertext.escape (insertText v)

mutual

def toHypertext (level : Int) : Value → List Char
  | .record fields => lines (entriesToHypertext level fields)
  | .list xs => lines ["<ul>".toList, lines (itemsToHypertext level xs), "</ul>".toList]
  | v => element ['p'] (scalarText v)

def itemsToHypertext (level : Int) : List Value → List (List Char)
  | [] => []
  | x :: xs =>
    (match x with
      | .record fields => element ['l', 'i'] (toHypertext (level + 1) (.record fields))
      | .list ys => element ['l', 'i'] (toHypertext (level + 1) (.list ys))
      | v => element ['l', 'i'] (scalarText v)) :: itemsToHypertext level xs

def entriesToHypertext (level : Int) : List (String × Value) → List (List Char)
  | [] => []
  | (k, v) :: rest =>
    element ('h' :: Literal.intText (min level deepest)) (Hypertext.escape (humanize k.toList)) ::
      toHypertext (level + 1) v :: entriesToHypertext level rest

end

/-- The tree of content: text is read as JSON. -/
def ofContent (c : Content) : Except Fault Value :=
  match c with
  | .text s =>
    match Json.read s.toList with
    | .ok v => .ok v
    | .error (.tooManyDigits, _) => .error Fault.badValue
    | .error (p, n) => .error (Fault.notJson (p.message s.toList n))
  | c => .ok c.toValue

end Letterpress.Structure
