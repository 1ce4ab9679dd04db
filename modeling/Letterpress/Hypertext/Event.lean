import Letterpress.Fault
import Letterpress.Hypertext.Entity
import Letterpress.Hypertext.StartTag
import Letterpress.Text.Case

/-!
# Events

Hypertext as a sequence of start tags, end tags and text. Comments, declarations and processing instructions
leave no event. The content of a script or a style sheet is text up to its end tag. Markup that never closes is
text.

* `Event.ofHypertext`: the events of a text.
-/

namespace Letterpress.Hypertext

open Text

inductive Event where
  | start (tag : String)
  | stop (tag : String)
  | text (cs : List Char)
  deriving DecidableEq, Repr, Inhabited

/-- What a piece of markup yields and what follows it; none for markup that never closes. -/
structure Markup where
  events : List Event
  /-- the element whose content is plain text from here on -/
  raw : Option String
  rest : List Char

namespace Event

def ordinary : TagSyntax := ⟨fun _ => false, false⟩

def rawElements : List String := ["script", "style"]

/-- What follows the first occurrence of a character. -/
def after? (c : Char) (cs : List Char) : Option (List Char) :=
  match cs.dropWhile (· != c) with
  | [] => none
  | _ :: rest => some rest

/-- What follows a mark, a run of blanks and a closing bracket, at their first occurrence. -/
def afterMark? (mark : List Char) : List Char → Option (List Char)
  | [] => none
  | c :: cs =>
    match (dropPrefix? mark (c :: cs)).map trimLeft with
    | some ('>' :: rest) => some rest
    | _ => afterMark? mark cs

/-- What follows a closing of two brackets with blanks between. -/
def afterSection? : List Char → Option (List Char)
  | [] => none
  | c :: cs =>
    if c == ']' then
      match trimLeft cs with
      | ']' :: more =>
        match trimLeft more with
        | '>' :: rest => some rest
        | _ => afterSection? cs
      | _ => afterSection? cs
    else afterSection? cs

def lowered (cs : List Char) : String := String.ofList (lower cs)

/-- Names in declarations. -/
def isDeclarationName (c : Char) : Bool := isAsciiAlnum c || c == '-' || c == '_' || c == '.'

/-- What follows a marked section, given the text behind its opening. -/
def skipSection? (cs : List Char) : Except Fault (Option (List Char)) :=
  match cs with
  | [] => .ok none
  | c :: _ =>
    if !isAsciiLetter c then .error .badDeclaration
    else
      let name := cs.takeWhile isDeclarationName
      if (trimLeft (cs.drop name.length)).isEmpty then .ok none
      else
        let keyword := lowered name
        if ["temp", "cdata", "ignore", "include", "rcdata"].contains keyword then .ok (afterSection? cs)
        else if ["if", "else", "endif"].contains keyword then .ok (afterMark? [']'] cs)
        else .error .badDeclaration

/-- What follows a declaration, given the text behind its opening. -/
def skipDeclaration? (cs : List Char) : Except Fault (Option (List Char)) :=
  match cs with
  | '-' :: '-' :: rest => .ok (afterMark? ['-', '-'] rest)
  | '[' :: rest => skipSection? rest
  | cs =>
    if lowered (cs.take 7) == "doctype" then .ok (after? '>' (cs.drop 7)) else .ok (after? '>' cs)

/-- Characters of the name of an end tag in its strict form. -/
def isEndName (c : Char) : Bool := isAsciiAlnum c || c == '-' || c == '.' || c == ':' || c == '_'

/-- The name of a strict end tag and what follows the tag, given the text behind its opening. -/
def strictEnd? (cs : List Char) : Option (List Char × List Char) :=
  match trimLeft cs with
  | [] => none
  | c :: more =>
    if !isAsciiLetter c then none
    else
      let name := c :: more.takeWhile isEndName
      match trimLeft (more.dropWhile isEndName) with
      | '>' :: rest => some (name, rest)
      | _ => none

/-- The end tag, given the text behind its opening. -/
def endTag? (cs : List Char) : Option Markup :=
  match after? '>' cs with
  | none => none
  | some behind =>
    match strictEnd? cs with
    | some (name, rest) => some ⟨[stop (lowered name)], none, rest⟩
    | none =>
      match cs with
      | [] => none
      | c :: _ =>
        if isAsciiLetter c then
          some ⟨[stop (lowered (cs.takeWhile (!StartTag.isNameEnd ·)))], none, behind⟩
        else some ⟨[], none, behind⟩

def startTag? (cs : List Char) : Option Markup :=
  match StartTag.scan ordinary cs with
  | .incomplete => none
  | .text rest => some ⟨[text ('<' :: cs.take (cs.length - rest.length))], none, rest⟩
  | .tag name isClosed rest =>
    let tag := lowered name
    if isClosed then some ⟨[start tag, stop tag], none, rest⟩
    else some ⟨[start tag], if rawElements.contains tag then some tag else none, rest⟩

/-- The markup that starts with a bracket, given the text behind the bracket. -/
def markup? (cs : List Char) : Except Fault (Option Markup) :=
  match cs with
  | [] => .ok none
  | '/' :: rest => .ok (endTag? rest)
  | '!' :: rest => do return (← skipDeclaration? rest).map fun rest => ⟨[], none, rest⟩
  | '?' :: rest => .ok ((after? '>' rest).map fun rest => ⟨[], none, rest⟩)
  | c :: rest =>
    if isAsciiLetter c then .ok (startTag? cs) else .ok (some ⟨[text ['<']], none, c :: rest⟩)

/-- Markup that never closes, as text: to its closing bracket, or to the next opening one, or the bracket alone.
The text is given from behind the bracket. -/
def unclosed (cs : List Char) : List Char × List Char :=
  match after? '>' cs with
  | some rest => ('<' :: cs.take (cs.length - rest.length), rest)
  | none =>
    if cs.contains '<' then ('<' :: cs.takeWhile (· != '<'), cs.dropWhile (· != '<')) else (['<'], cs)

/-- The content of a raw element up to its end tag, and what follows the tag. -/
def rawContent? (tag : String) : List Char → Option (List Char × List Char)
  | [] => none
  | c :: cs =>
    let closing := match c :: cs with
      | '<' :: '/' :: more =>
        match strictEnd? more with
        | some (name, rest) => if lowered name == tag then some rest else none
        | none => none
      | _ => none
    match closing with
    | some rest => some ([], rest)
    | none => (rawContent? tag cs).map fun (content, rest) => (c :: content, rest)

def ofText (cs : List Char) : List Event := if cs.isEmpty then [] else [text cs]

def scan : Nat → Option String → List Char → Except Fault (List Event)
  | 0, _, _ => .ok []
  | _, _, [] => .ok []
  | fuel + 1, some tag, cs =>
    match rawContent? tag cs with
    | none => .ok []
    | some (content, rest) => do
      return ofText content ++ stop tag :: (← scan fuel none rest)
  | fuel + 1, none, '<' :: cs => do
    match ← markup? cs with
    | some m => return m.events ++ (← scan fuel m.raw m.rest)
    | none =>
      let (literal, rest) := unclosed cs
      return text (unescape literal) :: (← scan fuel none rest)
  | fuel + 1, none, cs => do
    return text (unescape (cs.takeWhile (· != '<'))) :: (← scan fuel none (cs.dropWhile (· != '<')))

def ofHypertext (cs : List Char) : Except Fault (List Event) := scan (cs.length + 1) none cs

end Event

end Letterpress.Hypertext
