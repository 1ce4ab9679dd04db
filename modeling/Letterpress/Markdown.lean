import Letterpress.Markdown.Emphasis
import Letterpress.Markdown.Link
import Letterpress.Markdown.RawHypertext

/-!
# Markdown

Markdown text as hypertext. What is hypertext already and what is fenced code is set aside; the rest is read
into an outline of blocks, and the text of each block into spans.

* `Markdown.toHypertext`: a text as hypertext.
-/

namespace Letterpress.Markdown

open Text

/-- The spans of a text, one kind of markup after the other. -/
def spans (stash : Stash) (references : References) (cs : List Char) : List Span :=
  let links (form : Span.LinkForm) (isImage : Bool) (ss : List Span) : List Span :=
    Span.replaceLinks references form isImage false ss.length ss
  let stages : List (List Span → List Span) :=
    [Span.replaceCode, Span.replaceEscapes, links .reference false, links .address false, links .address true,
     links .reference true, links .short false, links .short true, Span.replaceAddresses Span.address?,
     Span.replaceAddresses Span.mailAddress?, Span.replaceBreaks, fun ss => Span.replaceTags ss.length ss,
     fun ss => Span.replaceReferences ss.length ss, Span.replaceEmphasis '*', Span.replaceEmphasis '_']
  stages.foldl (fun ss stage => Span.everywhere stage ss) (Span.ofMarked stash cs.length cs)

/-- The element of a block that is written with children on lines of their own. -/
def elementName : Kind → String
  | .body => "div"
  | .paragraph => "p"
  | .heading level => "h" ++ String.ofList (Nat.toDigits 10 level)
  | .quote => "blockquote"
  | .bullets => "ul"
  | .numbers _ => "ol"
  | .item => "li"
  | .code => "pre"
  | .rule => "hr"
  | .table => "table"
  | .tableHead => "thead"
  | .tableBody => "tbody"
  | .row => "tr"
  | .cell true _ => "th"
  | .cell false _ => "td"

def Alignment.name : Alignment → List Char
  | .left => "left".toList
  | .center => "center".toList
  | .right => "right".toList

def attributesOf : Kind → List Char
  | .numbers (some start) => Span.attributeOf "start" start
  | .cell _ (some a) => Span.attributeOf "style" ("text-align: ".toList ++ a.name ++ [';'])
  | _ => []

/-- What a block starts with: its own text, or a line feed before its first block. -/
def headText (ss : List Span) (hasChildren : Bool) : List Char :=
  let (text, rest) := Span.leadingText ss
  if hasChildren && text.all isBlank && rest.isEmpty then ['\n'] else Span.toHypertext ss

/-- What stands behind a block: a line feed unless there is text. -/
def tailText (ss : List Span) : List Char :=
  let (text, rest) := Span.leadingText ss
  match rest with
  | .hypertext _ :: _ => Span.toHypertext ss
  | rest => if text.all isBlank then '\n' :: Span.toHypertext rest else Span.toHypertext ss

/-- A paragraph; one that holds nothing but hypertext set aside may need no element around it. -/
def paragraph (ss : List Span) : List Char :=
  match ss with
  | [.hypertext piece] => Stash.inParagraph piece
  | ss => Span.element "p" [] (Span.toHypertext ss)

/-- Code as it is shown, with the pieces in it restored. -/
def codeText (stash : Stash) (cs : List Char) : List Char :=
  let text := trimRight cs ++ ['\n']
  Stash.fill stash.piece? text.length (text.flatMap Span.hypertextFrom.codeChar)

def blocks (spans : List Char → List Span) (code : List Char → List Char) : List Node → List Char
  | [] => []
  | .node kind text children tail :: rest =>
    let block :=
      match kind with
      | .paragraph => paragraph (spans text)
      | .code => "<pre><code>".toList ++ code text ++ "</code></pre>".toList
      | .rule => "<hr />".toList
      | kind =>
        Span.element (elementName kind) (attributesOf kind)
          (headText (spans text) (!children.isEmpty) ++ blocks spans code children)
    block ++ tailText (spans tail) ++ blocks spans code rest

/-- A text as hypertext. -/
def toHypertext (source : List Char) : List Char :=
  if source.all isBlank then []
  else
    let ls := normalize source
    let (ls, stash) := setFencesAside .empty ls.length ls
    let (ls, stash) := setHypertextAside stash ls
    let outline := Outline.ofLines ls
    trim (blocks (spans stash outline.references) (codeText stash) outline.body.children)

end Letterpress.Markdown
