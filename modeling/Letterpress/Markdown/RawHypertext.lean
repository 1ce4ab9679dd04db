import Letterpress.Hypertext.Event
import Letterpress.Markdown.Source

/-!
# Hypertext in Markdown

Elements that start a line of a Markdown source, or follow such an element on its line, are hypertext up to
their end tags. They are set aside with all that they contain, and so are comments and declarations.

* `setHypertextAside`: a source with its hypertext replaced by marks.
-/

namespace Letterpress.Markdown

open Text Hypertext

/-- How far a source has been searched for hypertext. -/
structure Search where
  /-- the current line so far, last character first -/
  line : List Char
  /-- whether an element is being set aside -/
  inRaw : Bool
  /-- whether such an element has ended on this line -/
  inTail : Bool
  /-- whether a number that is no character has been met -/
  isFinal : Bool
  /-- the elements that are open, innermost first -/
  stack : List String
  /-- what is being set aside -/
  raw : List Char
  /-- what stays, last piece first -/
  kept : List (List Char)
  stash : Stash

namespace Search

def start (stash : Stash) : Search := ⟨[], false, false, false, [], [], [], stash⟩

/-- A line starts behind up to three blanks. -/
def atLineStart (s : Search) : Bool := s.line.length ≤ 3 && s.line.all isBlank

/-- Goes on behind a text. -/
def advance (text : List Char) (s : Search) : Search :=
  if text.contains '\n' then { s with line := text.reverse.takeWhile (· != '\n') }
  else { s with line := text.reverse ++ s.line }

def keep (text : List Char) (s : Search) : Search := { s with kept := text :: s.kept }

def aside (text : List Char) (s : Search) : Search := { s with raw := s.raw ++ text }

def store (text : List Char) (s : Search) : Search :=
  let (mark, stash) := s.stash.store text
  { s with kept := mark :: s.kept, stash := stash }

/-- Text between markup. -/
def data (text : List Char) (s : Search) : Search :=
  if text.isEmpty then s
  else
    let s := if text.contains '\n' then { s with inTail := false } else s
    advance text (if s.inRaw then s.aside text else s.keep text)

/-- Two line ends with nothing but blanks before them. -/
def startsBlankLines (rest : List Char) : Bool :=
  match rest.dropWhile (· == ' ') with
  | '\n' :: more => (more.dropWhile (· == ' ')).head? == some '\n'
  | _ => false

/-- Markup without content, given what follows it. -/
def standalone (text : List Char) (isBlock : Bool) (rest : List Char) (s : Search) : Search :=
  let t :=
    if s.inRaw || s.inTail then s.aside text
    else if s.atLineStart && isBlock then
      let isLast := startsBlankLines rest
      let s := if isLast then s else { s with inTail := true }
      let item := s.kept.headD []
      let s := if endsWith ['\n'] item && !endsWith ['\n', '\n'] item then s.keep ['\n'] else s
      (s.store (if isLast then text ++ ['\n'] else text)).keep ['\n', '\n']
    else s.keep text
  t.advance text

def startTag (name : String) (text : List Char) (s : Search) : Search :=
  let s :=
    if isBlockElement name && (s.inTail || s.atLineStart) then { s with inRaw := true }.keep ['\n'] else s
  let s := if s.inRaw then { s with stack := name :: s.stack }.aside text else s.keep text
  s.advance text

/-- An end tag, given what follows it. -/
def endTag (name : String) (text rest : List Char) (s : Search) : Search :=
  let t :=
    if s.inRaw then
      let s := s.aside text
      let s :=
        if s.stack.contains name then { s with stack := (s.stack.dropWhile (· != name)).drop 1 } else s
      if s.stack.isEmpty then
        let s := if startsBlankLines rest then s.aside ['\n'] else { s with inTail := true }
        { (s.store s.raw).keep ['\n', '\n'] with inRaw := false, raw := [] }
      else s
    else s.keep text
  t.advance text

end Search

/-- No name and no bare value contains a grave accent, and commas may follow a value. -/
def tagSyntax : TagSyntax := ⟨(· == '\x60'), true⟩

/-- The first part of a text, up to and with a word. -/
def throughWord? (word cs : List Char) : Option (List Char × List Char) :=
  (breakOn? word cs).map fun (before, rest) => (before ++ word, rest)

/-- The name of a reference that a semicolon closes, and what follows. -/
def entityName? (cs : List Char) : Option (List Char × List Char) :=
  match cs with
  | [] => none
  | c :: _ =>
    let name := cs.takeWhile fun c => isAsciiAlnum c || c == '-' || c == '.'
    match cs.drop name.length with
    | ';' :: rest => if isAsciiLetter c then some (name, rest) else none
    | _ => none

/-- The number of a reference and what follows; the semicolon may be missing. -/
def entityNumber? (cs : List Char) : Option (List Char × List Char) :=
  let (mark, digits) :=
    match cs with
    | 'x' :: more => (['x'], more.takeWhile isHex)
    | 'X' :: more => (['X'], more.takeWhile isHex)
    | cs => ([], cs.takeWhile isAsciiDigit)
  let name := mark ++ digits
  match cs.drop name.length with
  | c :: rest =>
    if digits.isEmpty || isHex c then none else some (name, if c == ';' then rest else c :: rest)
  | [] => none

/-- What stands at an opening bracket and how the search goes on: the text taken, the new state, the element
whose content is plain text. -/
structure Found where
  search : Search
  raw : Option String
  rest : List Char

def asText (s : Search) (text rest : List Char) : Found := ⟨s.data text, none, rest⟩

/-- Markup that does not close: up to the next closing bracket, or else the next opening one. -/
def unclosed (s : Search) (cs : List Char) : Found :=
  match throughWord? ['>'] cs with
  | some (text, rest) => asText s ('<' :: text) rest
  | none =>
    if cs.contains '<' then asText s ('<' :: cs.takeWhile (· != '<')) (cs.dropWhile (· != '<'))
    else asText s ['<'] cs

/-- Markup that is passed on as it stands, up to a closing word. -/
def passOn (s : Search) (isBlock : Bool) (opening word cs : List Char) : Option Found :=
  (throughWord? word (cs.drop opening.length)).map fun (text, rest) =>
    ⟨s.standalone ('<' :: opening ++ text) isBlock rest, none, rest⟩

def startMarkup (s : Search) (cs : List Char) : Found :=
  match StartTag.scan tagSyntax cs with
  | .incomplete => asText s ['<'] cs
  | .text rest => asText s ('<' :: cs.take (cs.length - rest.length)) rest
  | .tag name isClosed rest =>
    let text := '<' :: cs.take (cs.length - rest.length)
    let name := Event.lowered name
    if isClosed || name == "hr" then ⟨s.standalone text (isBlockElement name) rest, none, rest⟩
    else
      let t := s.startTag name text
      ⟨t, if Event.rawElements.contains name && t.inRaw then some name else none, rest⟩

def endMarkup (s : Search) (cs : List Char) : Found :=
  match throughWord? ['>'] cs, cs with
  | some (text, rest), c :: _ =>
    match Event.strictEnd? cs with
    | some (name, _) => ⟨s.endTag (Event.lowered name) ('<' :: '/' :: text) rest, none, rest⟩
    | none =>
      if c == '>' then asText s "</>".toList rest
      else if isAsciiLetter c then
        let name := cs.takeWhile (!StartTag.isNameEnd ·)
        ⟨s.endTag (Event.lowered name) ('<' :: '/' :: text) rest, none, rest⟩
      else ⟨s.standalone ('<' :: '/' :: text) false rest, none, rest⟩
  | _, _ => unclosed s ('/' :: cs)

/-- A declaration; a section of plain characters ends with two brackets. -/
def declarationMarkup (s : Search) (cs : List Char) : Found :=
  if startsWith "![CDATA[".toList cs then
    (passOn s true "![".toList "]]>".toList cs).getD (unclosed s cs)
  else if startsWith "![".toList cs then (passOn s false ['!'] ['>'] cs).getD (asText s ['<'] cs)
  else
    let isDoctype := Event.lowered (cs.take 8) == "!doctype"
    (passOn s isDoctype ['!'] ['>'] cs).getD (unclosed s cs)

/-- The markup behind an opening bracket. -/
def markup (s : Search) (cs : List Char) : Found :=
  match cs with
  | '!' :: '-' :: '-' :: _ => (passOn s true "!--".toList "-->".toList cs).getD (unclosed s cs)
  | '!' :: rest =>
    if s.atLineStart || s.inTail then declarationMarkup s cs else asText s ['<', '!'] rest
  | '?' :: rest =>
    if s.atLineStart || s.inTail then (passOn s true ['?'] "?>".toList cs).getD (unclosed s cs)
    else asText s ['<', '?'] rest
  | '/' :: rest => endMarkup s rest
  | c :: _ => if isAsciiLetter c then startMarkup s cs else asText s ['<'] cs
  | [] => asText s ['<'] []

def search : Nat → Search → Option String → List Char → Search
  | 0, s, _, cs => s.data cs
  | _, s, _, [] => s
  | fuel + 1, s, some name, cs =>
    match Event.rawContent? name cs with
    | none => s.data cs
    | some (content, rest) =>
      let closing := (cs.drop content.length).take (cs.length - content.length - rest.length)
      search fuel ((s.data content).endTag name closing rest) none rest
  | fuel + 1, s, none, '<' :: cs =>
    let found := markup s cs
    search fuel found.search found.raw found.rest
  | fuel + 1, s, none, '&' :: '#' :: cs =>
    match entityNumber? cs with
    | some (number, rest) =>
      let s := s.standalone ("&#".toList ++ number ++ [';']) false rest
      search fuel s none rest
    | none =>
      let isClosed := cs.contains ';'
      if s.isFinal || !isClosed then
        s.data ('&' :: '#' :: cs)
      else search fuel { s.data ['&', '#'] with isFinal := true } none cs
  | fuel + 1, s, none, '&' :: cs =>
    match entityName? cs with
    | some (name, rest) => search fuel (s.standalone ('&' :: name ++ [';']) false rest) none rest
    | none => search fuel (s.data ['&']) none cs
  | fuel + 1, s, none, cs =>
    let isText := fun c => c != '<' && c != '&'
    search fuel (s.data (cs.takeWhile isText)) none (cs.dropWhile isText)

def setHypertextAside (stash : Stash) (ls : List Line) : List Line × Stash :=
  let source := unlines ls
  let s := search (source.length + 1) (.start stash) none source
  let s := if s.raw.isEmpty then s else s.store s.raw
  (lines s.kept.reverse.flatten, s.stash)

end Letterpress.Markdown
