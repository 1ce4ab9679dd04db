import Letterpress.Markdown.Inline

/-!
# Links and images

A link is text in brackets with an address behind it in parentheses, or with the name of a reference behind it
in brackets, or alone if it names a reference itself. With an exclamation mark before it it is an image.

* `Span.replaceLinks`: the four forms, for links or for images.
-/

namespace Letterpress.Markdown

open Text

namespace Span

/-- The spans up to the bracket that closes one, and the spans behind it. -/
def closeBracket? (depth : Nat) : List Span → Option (List Span × List Span)
  | [] => none
  | s :: ss =>
    if s.is ']' then
      if depth = 0 then some ([], ss) else (closeBracket? (depth - 1) ss).map fun (t, rest) => (s :: t, rest)
    else if s.is '[' then (closeBracket? (depth + 1) ss).map fun (t, rest) => (s :: t, rest)
    else (closeBracket? depth ss).map fun (t, rest) => (s :: t, rest)

def isSpace (s : Span) : Bool := s.isOne isBlank

def skipBlanks (ss : List Span) : List Span := ss.dropWhile isSpace

/-! ## Addresses in parentheses -/

/-- A quotation mark of an address: the mark, the place behind its first occurrence and the place behind its
latest one. -/
structure Quoted where
  mark : Char
  start : Nat
  stop : Option Nat

namespace Quoted

/-- Whether a title ends here, given the last character that is no blank. -/
def isOver (q : Option Quoted) (last : Option Char) : Bool :=
  match q with
  | some q => q.stop.isSome && some q.mark == last
  | none => false

def see (place : Nat) (q : Quoted) : Quoted := { q with stop := some (place + 1) }

end Quoted

/-- How far an address has been read. Parentheses nest; behind a quotation mark only a second count goes on,
for the case that the mark turns out to start no title. -/
structure AddressScan where
  place : Nat
  depth : Nat
  reserve : Nat
  reserveEnd : Nat
  inTitle : Bool
  first : Option Quoted
  second : Option Quoted
  last : Option Char

namespace AddressScan

def start : AddressScan := ⟨0, 1, 1, 0, false, none, none, none⟩

def countOpen (a : AddressScan) : AddressScan :=
  if a.inTitle then { a with reserve := a.reserve - 1 } else { a with depth := a.depth + 1 }

def countClose (a : AddressScan) : AddressScan :=
  if Quoted.isOver a.first a.last || Quoted.isOver a.second a.last then { a with depth := 0 }
  else if !a.inTitle then { a with depth := a.depth - 1 }
  else if a.reserve = 1 then { a with reserve := 0, reserveEnd := a.place + 1 }
  else { a with reserve := a.reserve - 1 }

def countQuote (c : Char) (a : AddressScan) : AddressScan :=
  match a.first, a.second with
  | none, _ => { a with inTitle := true, reserve := a.depth, depth := 1, first := some ⟨c, a.place + 1, none⟩ }
  | some q, second =>
    if c == q.mark then { a with first := some (q.see a.place) }
    else
      match second with
      | none => { a with second := some ⟨c, a.place + 1, none⟩ }
      | some r => if c == r.mark then { a with second := some (r.see a.place) } else a

def step (s : Span) (a : AddressScan) : AddressScan :=
  match s with
  | .char '(' => a.countOpen
  | .char ')' => a.countClose
  | .char '\'' => a.countQuote '\''
  | .char '"' => a.countQuote '"'
  | _ => a

/-- The end of an address: its length, the bounds of its title, the length with the closing parenthesis. -/
structure End where
  length : Nat
  title : Option (Nat × Nat)
  total : Nat

def closed (a : AddressScan) : End :=
  let titled (q : Quoted) : End := ⟨q.start - 1, q.stop.map fun stop => (q.start, stop - 1), a.place⟩
  match a.first, a.second with
  | some q, second =>
    if Quoted.isOver (some q) a.last then titled q
    else
      match second with
      | some r => if Quoted.isOver (some r) a.last then titled r else ⟨a.place - 1, none, a.place⟩
      | none => ⟨a.place - 1, none, a.place⟩
  | none, _ => ⟨a.place - 1, none, a.place⟩

def run (a : AddressScan) : List Span → Option End
  | [] => if a.reserve = 0 then some ⟨a.reserveEnd - 1, none, a.reserveEnd⟩ else none
  | s :: ss =>
    let b := a.step s
    let b := { b with place := b.place + 1 }
    if b.depth = 0 then some b.closed
    else run { b with last := if s.is ' ' then b.last else some (s.char?.getD '\x03') } ss

end AddressScan

/-- A text without the quotation marks at its ends. -/
def dequote (cs : List Char) : List Char :=
  let isQuoted (q : Char) : Bool := cs.head? == some q && cs.getLast? == some q
  if isQuoted '"' || isQuoted '\'' then (cs.drop 1).dropLast else cs

def titleText (ss : List Span) : List Char :=
  let blank := (trimSpans ss)
  (dequote (plainText blank)).map fun c => if isBlank c then ' ' else c
where
  trimSpans (ss : List Span) : List Span := (skipBlanks (skipBlanks ss).reverse).reverse

/-- A title in quotation marks before the closing parenthesis. -/
def quotedTitle? (ss : List Span) : Option (Option (List Span) × List Span) :=
  match ss with
  | s :: rest =>
    if s.is ')' then some (none, rest)
    else if s.is '"' || s.is '\'' then
      let isMark (t : Span) : Bool := t.char? == s.char?
      let title := rest.takeWhile (!isMark ·)
      match skipBlanks (rest.drop (title.length + 1)) with
      | t :: more => if t.is ')' && title.length < rest.length then some (some title, more) else none
      | [] => none
    else none
  | [] => none

/-- An address in angle brackets. -/
def bracketedTarget? (ss : List Span) : Option (Target × List Span) := do
  let rest ← dropWord? ['<'] ss
  let (address, rest) ← bracketed? rest
  let (title, rest) ← quotedTitle? (skipBlanks rest)
  return (⟨trim (plainText (skipBlanks (skipBlanks address.reverse).reverse)), title.map titleText⟩, rest)

/-- An address in parentheses, with a title perhaps, and what follows it. -/
def target? (ss : List Span) : Option (Target × List Span) := do
  let rest := skipBlanks (← dropWord? ['('] ss)
  match bracketedTarget? rest with
  | some found => return found
  | none =>
    let stop ← AddressScan.run .start rest
    let title := stop.title.map fun (a, b) => titleText ((rest.take b).drop a)
    return (⟨trim (plainText (rest.take stop.length)), title⟩, rest.drop stop.total)

/-! ## References -/

/-- The name in the brackets that may follow the text of a reference; none if no brackets follow. -/
def referenceName? (text ss : List Span) : Option (List Char × List Span) := do
  let ss := match ss with
    | s :: rest => if isSpace s then rest else s :: rest
    | [] => []
  let rest ← dropWord? ['['] ss
  let name := rest.takeWhile (!·.is ']')
  let rest ← dropWord? [']'] (rest.drop name.length)
  return (if name.isEmpty then nameOf text else nameOf name, rest)

/-- Each run of white space as one blank. -/
def joinLines (cs : List Char) : List Char := squeeze false cs

/-! ## The four forms -/

inductive LinkForm where
  /-- an address in parentheses -/
  | address
  /-- a name in brackets -/
  | reference
  /-- a text that is a name -/
  | short
  deriving DecidableEq

/-- What may stand at an opening bracket: text in brackets with a target, or a name that no reference has, or
nothing. -/
inductive Linked where
  | found (text : List Span) (target : Target) (rest : List Span)
  | unknown (rest : List Span)
  | nothing

def linkedAt (references : References) (form : LinkForm) (ss : List Span) : Linked :=
  match closeBracket? 0 ss with
  | none => .nothing
  | some (text, rest) =>
    let byName (name : List Char) (rest : List Span) : Linked :=
      match references.lookup (joinLines name) with
      | some t => .found text t rest
      | none => .unknown rest
    match form with
    | .address =>
      match target? rest with
      | some (t, rest) => .found text t rest
      | none => .nothing
    | .reference =>
      match referenceName? text rest with
      | some (name, rest) => byName name rest
      | none => .nothing
    | .short => byName (nameOf text) rest

/-- Replaces links or images of one form. A text whose name no reference has is passed over. -/
def replaceLinks (references : References) (form : LinkForm) (isImage : Bool) : Bool → Nat → List Span → List Span
  | _, 0, ss => ss
  | _, _, [] => []
  | afterMark, fuel + 1, s :: ss =>
    let next (afterMark : Bool) (ss : List Span) : List Span :=
      replaceLinks references form isImage afterMark fuel ss
    let opening? : Option (List Span) :=
      if isImage then dropWord? ['!', '['] (s :: ss)
      else if afterMark then none
      else dropWord? ['['] (s :: ss)
    match opening?.map fun inner => (inner, linkedAt references form inner) with
    | some (_, .found text t rest) =>
      (if isImage then image t (plainText text) else link t text) :: next false rest
    | some (_, .unknown rest) => (s :: ss).take (ss.length + 1 - rest.length) ++ next false rest
    | _ => s :: next (s.is '!') ss

end Span

end Letterpress.Markdown
