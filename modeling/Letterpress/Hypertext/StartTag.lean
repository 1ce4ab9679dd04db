import Letterpress.Text.Class

/-!
# Start tags

How far a start tag reaches. A tag has a name and attributes; an attribute has a name and may have a value, in
quotes or bare. A tag whose quotes do not close is incomplete, and one that goes on with a character that
belongs to no attribute is not a tag but text.

* `StartTag.scan`: the tag at the start of a text.
-/

namespace Letterpress.Hypertext

open Text

/-- A place in a text: the character before it and the characters after it. -/
structure Cursor where
  before : Char
  rest : List Char

namespace Cursor

def skipFrom (p : Char → Bool) (before : Char) : List Char → Cursor
  | [] => ⟨before, []⟩
  | c :: cs => if p c then skipFrom p c cs else ⟨before, c :: cs⟩

def skipWhile (p : Char → Bool) (k : Cursor) : Cursor := skipFrom p k.before k.rest

end Cursor

/-- What a dialect of hypertext takes for the parts of a tag. -/
structure TagSyntax where
  /-- a character that no name and no bare value contains, beside the usual ones -/
  isForeign : Char → Bool
  /-- whether commas may follow a value -/
  commas : Bool

inductive StartTag where
  | incomplete
  /-- characters that look like a tag at first -/
  | text (rest : List Char)
  | tag (name : List Char) (isClosed : Bool) (rest : List Char)

namespace StartTag

def isNameEnd (c : Char) : Bool := "\t\n\r\x0c />".toList.contains c || c.toNat == 0

/-- Skips blanks, and slashes that do not end the tag. -/
def skipGapFrom (before : Char) : List Char → Cursor
  | [] => ⟨before, []⟩
  | '/' :: '>' :: cs => ⟨before, '/' :: '>' :: cs⟩
  | c :: cs => if isBlank c || c == '/' then skipGapFrom c cs else ⟨before, c :: cs⟩

def skipGap (k : Cursor) : Cursor := skipGapFrom k.before k.rest

def skipCommasFrom (fuel : Nat) (k : Cursor) : Cursor :=
  match fuel with
  | 0 => k
  | fuel + 1 =>
    let next := k.skipWhile isBlank
    match next.rest with
    | ',' :: cs => skipCommasFrom fuel ⟨',', cs⟩
    | _ => k

/-- Behind a closing quote, if there is one. -/
def closeQuote? (q : Char) (cs : List Char) : Option Cursor :=
  match cs.dropWhile (· != q) with
  | c :: rest => some ⟨c, rest⟩
  | [] => none

def bareValue (s : TagSyntax) (k : Cursor) : Cursor :=
  k.skipWhile fun c => !(c == '>' || isBlank c || s.isForeign c)

/-- Behind the value of an attribute: equals signs, then a value in quotes or a bare one. A quote that does not
close leaves an empty value before it if a blank stands between, or else the last of several equals signs starts
a bare value. -/
def value? (s : TagSyntax) (k : Cursor) : Option Cursor :=
  let signs := k.skipWhile isBlank
  let behind := signs.skipWhile (· == '=')
  let count := signs.rest.length - behind.rest.length
  let start := behind.skipWhile isBlank
  if count = 0 then none
  else
    let quoted :=
      match start.rest with
      | '"' :: cs => some (closeQuote? '"' cs)
      | '\'' :: cs => some (closeQuote? '\'' cs)
      | _ => none
    match quoted with
    | none => some (bareValue s start)
    | some (some k) => some k
    | some none =>
      if start.rest.length < behind.rest.length then some start
      else if 1 < count then some (bareValue s ⟨'=', '=' :: behind.rest⟩)
      else none

/-- Behind an attribute and the gap that follows it. An attribute starts behind a quote, a blank or a slash. -/
def attribute? (s : TagSyntax) (k : Cursor) : Option Cursor :=
  if !(k.before == '"' || k.before == '\'' || k.before == '/' || isBlank k.before) then none
  else
    match k.rest with
    | [] => none
    | c :: cs =>
      if isBlank c || c == '/' || c == '>' || s.isForeign c then none
      else
        let name : Cursor := Cursor.skipFrom (fun c => !(isBlank c || c == '/' || c == '=' || c == '>')) c cs
        match value? s name with
        | none => some (skipGap name)
        | some v =>
          let v := if s.commas then skipCommasFrom v.rest.length v else v
          some (skipGap v)

def attributes (s : TagSyntax) (k : Cursor) : Nat → Cursor × Bool
  | 0 => (k, false)
  | fuel + 1 =>
    match attribute? s k with
    | none => (k, false)
    | some next => ((attributes s next fuel).1, true)

/-- The start tag whose name starts with a letter, given the text behind its opening bracket. -/
def scan (s : TagSyntax) (cs : List Char) : StartTag :=
  let isName := fun c => !(isNameEnd c || s.isForeign c)
  let name := cs.takeWhile isName
  let gap := (Cursor.skipFrom isName '<' cs).skipWhile fun c => isBlank c || c == '/'
  let (last, some_) := attributes s gap gap.rest.length
  let last := last.skipWhile isBlank
  match last.rest with
  | [] => incomplete
  | '>' :: rest => tag name (!some_ && last.before == '/') rest
  | '/' :: '>' :: rest => tag name true rest
  | c :: _ =>
    if isAsciiLetter c || c == '=' || c == '/' then incomplete else text last.rest

end StartTag

end Letterpress.Hypertext
