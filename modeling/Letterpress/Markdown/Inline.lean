import Letterpress.Markdown.MailAddress

/-!
# Code, escapes and hypertext in a line

The markup of a line that contains no other markup: code between grave accents, characters behind a backslash,
addresses in angle brackets, line breaks, tags and references to characters.

* `replaceCode`, `replaceEscapes`: what keeps characters from being markup.
* `replaceAddresses`, `replaceBreaks`, `replaceTags`: the rest.
-/

namespace Letterpress.Markdown

open Text

namespace Span

/-- The characters of a mark in a text. -/
def ofMarked (stash : Stash) : Nat → List Char → List Span
  | 0, cs => ofChars cs
  | _, [] => []
  | fuel + 1, c :: cs =>
    match Stash.mark? (c :: cs) with
    | some (n, rest) =>
      match stash.piece? n with
      | some piece => hypertext piece :: ofMarked stash fuel rest
      | none => char c :: ofMarked stash fuel cs
    | none => char c :: ofMarked stash fuel cs

/-! ## Code -/

def isAccent (s : Span) : Bool := s.is '\x60'

def isBackslash (s : Span) : Bool := s.is '\\'

/-- The spans up to a run of a number of accents, and the spans behind it. -/
def throughRun? (count : Nat) : Nat → List Span → Option (List Span × List Span)
  | 0, _ => none
  | _, [] => none
  | fuel + 1, s :: ss =>
    if isAccent s then
      let run := (s :: ss).takeWhile isAccent
      let rest := (s :: ss).drop run.length
      if run.length = count then some ([], rest)
      else (throughRun? count fuel rest).map fun (t, rest) => (run ++ t, rest)
    else (throughRun? count fuel ss).map fun (t, rest) => (s :: t, rest)

/-- Code that is opened by as many accents of a run as possible and closed by a run of that many. -/
def codeAt? (run : Nat) (behind : List Span) : Nat → Option (Span × List Span)
  | 0 => none
  | n + 1 =>
    match throughRun? (n + 1) (behind.length + 1) behind with
    | some (content, rest) =>
      let accents := List.replicate (run - (n + 1)) '\x60'
      some (code (trim (accents ++ plainText content)), rest)
    | none => codeAt? run behind n

/-- Code, and the backslashes before accents that stand for half as many. A backslash before an accent keeps it
from opening code. -/
def replaceCodeFrom (escaped : Bool) : Nat → List Span → List Span
  | 0, ss => ss
  | _, [] => []
  | fuel + 1, s :: ss =>
    if isBackslash s && !escaped then
      let run := (s :: ss).takeWhile isBackslash
      let rest := (s :: ss).drop run.length
      if run.length % 2 = 0 && (rest.head?.map isAccent).getD false then
        List.replicate (run.length / 2) (literal '\\') ++ replaceCodeFrom false fuel rest
      else run ++ replaceCodeFrom true fuel rest
    else if isAccent s then
      if escaped then s :: replaceCodeFrom false fuel ss
      else
        let run := (s :: ss).takeWhile isAccent
        let rest := (s :: ss).drop run.length
        match codeAt? run.length rest run.length with
        | some (c, rest) => c :: replaceCodeFrom false fuel rest
        | none => run ++ replaceCodeFrom false fuel rest
    else s :: replaceCodeFrom false fuel ss

def replaceCode (ss : List Span) : List Span := replaceCodeFrom false (ss.length + 1) ss

/-! ## Escapes -/

def escapable : List Char := "\\\x60*_\x7b\x7d[]()>#+-.!|".toList

/-- A backslash makes a sign of markup an ordinary character. -/
def replaceEscapes : List Span → List Span
  | [] => []
  | [s] => [s]
  | s :: t :: ss =>
    if !isBackslash s then s :: replaceEscapes (t :: ss)
    else
      match t with
      | char c => if escapable.contains c then literal c :: replaceEscapes ss else s :: t :: replaceEscapes ss
      | t => s :: t :: replaceEscapes ss

/-! ## Angle brackets -/

def isBracket (s : Span) : Bool := s.isOne fun c => c == '<' || c == '>'

/-- The spans between angle brackets, given what follows the first. -/
def bracketed? (ss : List Span) : Option (List Span × List Span) :=
  let inner := ss.takeWhile (!isBracket ·)
  match ss.drop inner.length with
  | s :: rest => if s.is '>' then some (inner, rest) else none
  | [] => none

/-- A scheme that an address in angle brackets may have. -/
def hasScheme (ss : List Span) : Bool :=
  let words := ["http", "https", "ftp", "ftps"]
  let start := (ss.takeWhile (!·.is ':')).map (·.char?)
  let rest := ss.drop start.length
  words.any (fun w => start.map (·.map Char.toLower) == w.toList.map some) &&
    (dropWord? "://".toList rest).isSome

/-- The link of an address in angle brackets. -/
def address? (inner : List Span) : Option Span :=
  if hasScheme inner then
    some (link ⟨plainText inner, none⟩ (inner.map fun
      | char c => literal c
      | s => s))
  else none

/-- The link of a mail address in angle brackets: no blank in it, no exclamation mark before the last sign that
parts name and host, and something on both sides of that. -/
def mailAddress? (inner : List Span) : Option Span :=
  if inner.any (·.is ' ') then none
  else
    let host := (inner.reverse.takeWhile (!·.is '@')).reverse
    let name := (inner.take (inner.length - host.length)).dropLast
    if host.isEmpty || name.isEmpty || name.any (·.is '!') then none
    else some (MailAddress.link (plainText inner))

/-- Replaces what some brackets contain. -/
def replaceBracketed (read? : List Span → Option Span) : Nat → List Span → List Span
  | 0, ss => ss
  | _, [] => []
  | fuel + 1, s :: ss =>
    if !s.is '<' then s :: replaceBracketed read? fuel ss
    else
      match bracketed? ss with
      | some (inner, rest) =>
        match read? inner with
        | some found => found :: replaceBracketed read? fuel rest
        | none => s :: replaceBracketed read? fuel ss
      | none => s :: replaceBracketed read? fuel ss

def replaceAddresses (read? : List Span → Option Span) (ss : List Span) : List Span :=
  replaceBracketed read? ss.length ss

/-- Two blanks at the end of a line break it. -/
def replaceBreaks : List Span → List Span
  | s :: t :: u :: ss =>
    if s.is ' ' && t.is ' ' && u.is '\n' then lineBreak :: replaceBreaks ss else s :: replaceBreaks (t :: u :: ss)
  | ss => ss

/-! ## Tags -/

/-- Whether the text between brackets is a tag: a name that starts with a letter and holds no at sign, and
after a blank anything. -/
def isTag (inner : List Span) : Bool :=
  let inner := (dropWord? ['/'] inner).getD inner
  (inner.head?.map (isOne isAsciiLetter)).getD false && !(inner.takeWhile (!·.is ' ')).any (·.is '@')

/-- The spans before the end of a comment in which none starts, and the spans behind it. -/
def comment? : List Span → Option (List Span × List Span)
  | [] => none
  | s :: ss =>
    match dropWord? "-->".toList (s :: ss) with
    | some rest => some ([], rest)
    | none =>
      if (dropWord? "<!--".toList (s :: ss)).isSome then none
      else (comment? ss).map fun (t, rest) => (s :: t, rest)

/-- The digits or letters of a reference to a character, and what follows its semicolon. -/
def referenceTail? (p : Char → Bool) (ss : List Span) : Option (List Char × List Span) :=
  let name := (ss.takeWhile (isOne p)).filterMap char?
  match ss.drop name.length with
  | s :: rest => if s.is ';' && !name.isEmpty then some (name, rest) else none
  | [] => none

/-- The reference to a character behind an ampersand, and what follows it. -/
def reference? (ss : List Span) : Option (List Char × List Span) :=
  match dropWord? ['#', 'x'] ss, dropWord? ['#'] ss with
  | some rest, _ => (referenceTail? isHex rest).map fun (name, rest) => ('#' :: 'x' :: name, rest)
  | none, some rest => (referenceTail? isAsciiDigit rest).map fun (name, rest) => ('#' :: name, rest)
  | none, none => referenceTail? isAsciiAlnum ss

/-- Tags and comments become hypertext. -/
def replaceTags : Nat → List Span → List Span
  | 0, ss => ss
  | _, [] => []
  | fuel + 1, s :: ss =>
    if !s.is '<' then s :: replaceTags fuel ss
    else
      let tag? := (bracketed? ss).filter fun (inner, _) => isTag inner
      match tag?, (dropWord? "!--".toList ss).bind comment? with
      | some (inner, rest), _ =>
        hypertext ('<' :: inner.flatMap tagSource ++ ['>']) :: replaceTags fuel rest
      | none, some (inner, rest) =>
        hypertext ("<!--".toList ++ inner.flatMap tagSource ++ "-->".toList) :: replaceTags fuel rest
      | none, none => s :: replaceTags fuel ss

/-- References to characters become hypertext. -/
def replaceReferences : Nat → List Span → List Span
  | 0, ss => ss
  | _, [] => []
  | fuel + 1, s :: ss =>
    if !s.is '&' then s :: replaceReferences fuel ss
    else
      match reference? ss with
      | some (name, rest) => hypertext ('&' :: name ++ [';']) :: replaceReferences fuel rest
      | none => s :: replaceReferences fuel ss

end Span

end Letterpress.Markdown
