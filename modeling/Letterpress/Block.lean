import Letterpress.Text.Case
import Letterpress.Text.Trim

/-!
# Blocks

A document's content as a sequence of text blocks, each a heading of one of three levels, a list item or a
paragraph. The kind of a block is read off its text: off a marker at its start, or off its being written in
capitals.

* `BlockKind.ofText`: the kind of a text.
* `Block.ofText`: the block of a text, without its marker.
* `Block.toMarkdown`: blocks as Markdown, one blank line apart.
-/

namespace Letterpress

inductive BlockKind where
  | heading1
  | heading2
  | heading3
  | listItem
  | paragraph
  deriving DecidableEq, Repr, Inhabited

namespace BlockKind

def name : BlockKind → String
  | heading1 => "heading_1"
  | heading2 => "heading_2"
  | heading3 => "heading_3"
  | listItem => "list_item"
  | paragraph => "paragraph"

/-- The kind with a name; all that has no other kind is a paragraph. -/
def ofName (s : String) : BlockKind :=
  ([heading1, heading2, heading3, listItem].find? fun k => k.name == s).getD paragraph

end BlockKind

structure Block where
  kind : BlockKind
  text : List Char
  deriving DecidableEq, Repr, Inhabited

open Text

/-- The level of a heading marker at the start of a text and the text behind it: up to six number signs and
a blank. -/
def headingMarker? (cs : List Char) : Option (Nat × List Char) :=
  let level := (cs.takeWhile (· == '#')).length
  match cs.drop level with
  | c :: rest => if 1 ≤ level && level ≤ 6 && isBlank c then some (level, trimLeft rest) else none
  | [] => none

def isBullet (c : Char) : Bool := c == '-' || c == '*' || c == '•'

/-- The text behind a bullet, or behind a number and its point or bracket. -/
def behindListSign? (cs : List Char) : Option (List Char) :=
  match cs with
  | [] => none
  | c :: rest =>
    if isBullet c then some rest
    else if isDecimal c then
      match rest.dropWhile isDecimal with
      | '.' :: rest => some rest
      | ')' :: rest => some rest
      | _ => none
    else none

/-- The text behind a list marker: a sign and a blank. -/
def listMarker? (cs : List Char) : Option (List Char) :=
  match behindListSign? cs with
  | some (c :: rest) => if isBlank c then some (trimLeft rest) else none
  | _ => none

/-- Text in capitals has a letter and no small one. -/
def isCapitals (cs : List Char) : Bool := cs.any isLetter && cs == upper cs

/-- Texts in capitals are headings when they are shorter than this. -/
def capitalsLimit : Nat := 100

namespace BlockKind

def ofLevel : Nat → BlockKind
  | 1 => heading1
  | 2 => heading2
  | _ => heading3

def ofTrimmed (cs : List Char) : BlockKind :=
  match headingMarker? cs with
  | some (level, _) => ofLevel level
  | none =>
    if (listMarker? cs).isSome then listItem
    else if cs.length < capitalsLimit && isCapitals cs then heading2
    else paragraph

def ofText (cs : List Char) : BlockKind := ofTrimmed (trim cs)

/-- A text without the marker of a kind. -/
def stripMarker (kind : BlockKind) (cs : List Char) : List Char :=
  let body := trim cs
  match kind with
  | heading1 | heading2 | heading3 => ((headingMarker? body).map (·.2)).getD body
  | listItem => (listMarker? body).getD body
  | paragraph => body

end BlockKind

namespace Block

def ofText (cs : List Char) : Block :=
  let kind := BlockKind.ofText cs
  ⟨kind, kind.stripMarker cs⟩

/-- The line of a block in Markdown. -/
def line (b : Block) : List Char :=
  match b.kind with
  | .heading1 => '#' :: ' ' :: b.text
  | .heading2 => '#' :: '#' :: ' ' :: b.text
  | .heading3 => '#' :: '#' :: '#' :: ' ' :: b.text
  | .listItem => '-' :: ' ' :: b.text
  | .paragraph => b.text

/-- The lines of the blocks that follow one of a kind: list items follow each other without a blank line. -/
def linesAfter (previous : BlockKind) : List Block → List (List Char)
  | [] => []
  | b :: rest =>
    if previous = .listItem ∧ b.kind = .listItem then b.line :: linesAfter b.kind rest
    else [] :: b.line :: linesAfter b.kind rest

def lines : List Block → List (List Char)
  | [] => []
  | b :: rest => b.line :: linesAfter b.kind rest

def toMarkdown (blocks : List Block) : List Char := joinWith ['\n'] (lines blocks)

end Block

end Letterpress
