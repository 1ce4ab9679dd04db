import Letterpress.Block
import Letterpress.Hypertext.Event
import Letterpress.Number.Shortest

/-!
# Flattening

Hypertext as lines of text, each with the marker of the heading or the list item that it opens. A line ends
where a block element starts or stops, and at a line break. The cells of a table row make one line. The content
of scripts, style sheets, heads and titles is hidden.

* `Flattening.step`: what an event does.
* `Flattening.lines`: the lines of a sequence of events.
* `Line.ofHypertext`, `Block.ofHypertext`: the lines and the blocks of a text.
-/

namespace Letterpress

open Text Hypertext

inductive Marker where
  | none
  | heading (level : Nat)
  | bullet
  | number (n : Nat)
  deriving DecidableEq, Repr, Inhabited

namespace Marker

def text : Marker → List Char
  | none => []
  | heading level => List.replicate level '#' ++ [' ']
  | bullet => ['-', ' ']
  | number n => Binary64.digits n ++ ['.', ' ']

end Marker

structure Line where
  marker : Marker
  body : List Char
  deriving DecidableEq, Repr, Inhabited

namespace Line

def text (l : Line) : List Char := l.marker.text ++ l.body

end Line

/-- An open list: whether its items are numbered, and how many it has so far. -/
structure OpenList where
  isOrdered : Bool
  count : Nat
  deriving DecidableEq, Repr, Inhabited

/-- The state of flattening between two events. The innermost open list comes first. -/
structure Flattening where
  lines : List Line := []
  buffer : List Char := []
  marker : Marker := .none
  hidden : Nat := 0
  lists : List OpenList := []
  cells : Option (List (List Char)) := none
  deriving DecidableEq, Repr, Inhabited

/-- What an element means for the division into lines. -/
inductive Role where
  | hidden
  | lineBreak
  | cell
  | row
  | list (isOrdered : Bool)
  | item
  | heading (level : Nat)
  | block
  | inline
  deriving DecidableEq, Repr

namespace Role

def hiddenTags : List String := ["script", "style", "head", "title"]

def plainBlockTags : List String :=
  ["p", "div", "section", "article", "header", "footer", "blockquote", "pre", "table", "dl", "dt", "dd", "hr"]

def headingTags : List String := ["h1", "h2", "h3", "h4", "h5", "h6"]

def ofTag (tag : String) : Role :=
  if hiddenTags.contains tag then hidden
  else if tag == "br" then lineBreak
  else if tag == "td" || tag == "th" then cell
  else if tag == "tr" then row
  else if tag == "ul" then list false
  else if tag == "ol" then list true
  else if tag == "li" then item
  else if plainBlockTags.contains tag then block
  else
    match headingTags.idxOf? tag with
    | some i => heading (i + 1)
    | none => inline

end Role

namespace Flattening

/-- Ends the line: what is blank makes no line and leaves the marker. -/
def flush (s : Flattening) : Flattening :=
  let body := collapse s.buffer
  if body.isEmpty then { s with buffer := [] }
  else { s with lines := s.lines ++ [⟨s.marker, body⟩], buffer := [], marker := .none }

/-- Moves the buffer into a cell when a row is open. -/
def endCell (s : Flattening) : Flattening :=
  match s.cells with
  | some cells => { s with cells := some (cells ++ [s.buffer]), buffer := [] }
  | none => s

/-- The text of a row: its cells without the blank ones. -/
def rowText (cells : List (List Char)) : List Char :=
  joinWith [' ', '|', ' '] ((cells.map collapse).filter (!·.isEmpty))

/-- Opens an item of the innermost list. -/
def openItem (s : Flattening) : Flattening :=
  match s.lists with
  | ⟨true, n⟩ :: outer => { s with lists := ⟨true, n + 1⟩ :: outer, marker := .number (n + 1) }
  | _ => { s with marker := .bullet }

def start (s : Flattening) : Role → Flattening
  | .hidden => { s with hidden := s.hidden + 1 }
  | .lineBreak => s.flush
  | .cell => s.endCell
  | .row => { s.flush with cells := some [] }
  | .list isOrdered => { s.flush with lists := ⟨isOrdered, 0⟩ :: s.lists }
  | .item => s.flush.openItem
  | .heading level => { s.flush with marker := .heading level }
  | .block => s.flush
  | .inline => s

def stop (s : Flattening) : Role → Flattening
  | .hidden => { s with hidden := s.hidden - 1 }
  | .cell => s.endCell
  | .row =>
    match s.cells with
    | some cells => flush { s with buffer := rowText cells, cells := none }
    | none => s.flush
  | .list _ => { s.flush with lists := s.lists.tail }
  | .item | .heading _ | .block => s.flush
  | .lineBreak | .inline => s

def step (s : Flattening) : Event → Flattening
  | .start tag => s.start (Role.ofTag tag)
  | .stop tag => s.stop (Role.ofTag tag)
  | .text cs => if s.hidden = 0 then { s with buffer := s.buffer ++ cs } else s

def run (events : List Event) : Flattening := (events.foldl step {}).flush

end Flattening

namespace Line

def ofEvents (events : List Event) : List Line := (Flattening.run events).lines

def ofHypertext (cs : List Char) : Except Fault (List Line) := (Event.ofHypertext cs).map ofEvents

end Line

namespace Block

def ofHypertext (cs : List Char) : Except Fault (List Block) :=
  (Line.ofHypertext cs).map fun ls => ls.map fun l => ofText l.text

end Block

end Letterpress
