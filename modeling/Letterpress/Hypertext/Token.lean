import Letterpress.Hypertext.Event

/-!
# Tokens

Hypertext as events whose start tags carry their attributes, in their order. An attribute has its name in small letters
and its value without quotes and references; one without an equals sign has no value. What precedes markup that cannot
be read is read all the same.

* `StartTag.attributeList`: the attributes of a start tag.
* `Token.ofHypertext`: the tokens of a text.
-/

namespace Letterpress.Hypertext

open Text

abbrev Attribute : Type := String × Option (List Char)

namespace StartTag

/-- The value that an attribute is written with, given what stands behind the name and behind the value. -/
def writtenValue (k v : Cursor) : List Char :=
  let upToEnd (cs : List Char) := cs.take (cs.length - v.rest.length)
  let behind := (k.skipWhile isBlank).skipWhile (· == '=')
  let start := behind.skipWhile isBlank
  match start.rest with
  | [] => []
  | q :: cs =>
    if q == '"' || q == '\'' then
      if (closeQuote? q cs).isSome then cs.takeWhile (· != q)
      else if start.rest.length < behind.rest.length then []
      else upToEnd ('=' :: behind.rest)
    else upToEnd start.rest

/-- The attribute at a place where there is one. -/
def attributeAt (s : TagSyntax) (k : Cursor) : Attribute :=
  match k.rest with
  | [] => ("", none)
  | c :: cs =>
    let name : Cursor := Cursor.skipFrom (fun c => !(isBlank c || c == '/' || c == '=' || c == '>')) c cs
    (Event.lowered (k.rest.take (k.rest.length - name.rest.length)),
      (value? s name).map fun v => unescape (writtenValue name v))

def attributesFrom (s : TagSyntax) (k : Cursor) : Nat → List Attribute
  | 0 => []
  | fuel + 1 =>
    match attribute? s k with
    | none => []
    | some next => attributeAt s k :: attributesFrom s next fuel

/-- The attributes of the start tag whose name starts with a letter, given the text behind its opening bracket. -/
def attributeList (s : TagSyntax) (cs : List Char) : List Attribute :=
  let gap := skipGap (Cursor.skipFrom (fun c => !(isNameEnd c || s.isForeign c)) '<' cs)
  attributesFrom s gap gap.rest.length

end StartTag

inductive Token where
  | start (tag : String) (attributes : List Attribute)
  | stop (tag : String)
  | text (cs : List Char)
  deriving DecidableEq, Repr, Inhabited

namespace Token

/-- The event of a token. -/
def event : Token → Event
  | start tag _ => .start tag
  | stop tag => .stop tag
  | text cs => .text cs

/-- The token of an event, given the attributes of the tag that it comes from. -/
def ofEvent (attributes : List Attribute) : Event → Token
  | .start tag => start tag attributes
  | .stop tag => stop tag
  | .text cs => text cs

def ofText (cs : List Char) : List Token := if cs.isEmpty then [] else [text cs]

/-- Tokens that are read, and the fault that ended the reading early. -/
structure Reading where
  tokens : List Token
  fault : Option Fault
  deriving DecidableEq, Repr, Inhabited

namespace Reading

/-- A reading behind tokens. -/
def behind (tokens : List Token) (r : Reading) : Reading := { r with tokens := tokens ++ r.tokens }

/-- The events of a reading, if nothing ended it early. -/
def events (r : Reading) : Except Fault (List Event) :=
  match r.fault with
  | none => .ok (r.tokens.map event)
  | some fault => .error fault

end Reading

def scan : Nat → Option String → List Char → Reading
  | 0, _, _ => ⟨[], none⟩
  | _, _, [] => ⟨[], none⟩
  | fuel + 1, some tag, cs =>
    match Event.rawContent? tag cs with
    | none => ⟨[], none⟩
    | some (content, rest) => (scan fuel none rest).behind (ofText content ++ [stop tag])
  | fuel + 1, none, '<' :: cs =>
    match Event.markup? cs with
    | .error fault => ⟨[], some fault⟩
    | .ok (some m) =>
      (scan fuel m.raw m.rest).behind (m.events.map (ofEvent (StartTag.attributeList Event.ordinary cs)))
    | .ok none =>
      let (literal, rest) := Event.unclosed cs
      (scan fuel none rest).behind [text (unescape literal)]
  | fuel + 1, none, cs =>
    (scan fuel none (cs.dropWhile (· != '<'))).behind [text (unescape (cs.takeWhile (· != '<')))]

def ofHypertext (cs : List Char) : Reading := scan (cs.length + 1) none cs

end Token

end Letterpress.Hypertext
