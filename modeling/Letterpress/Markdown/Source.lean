import Letterpress.Hypertext.Escape
import Letterpress.Text.Class
import Letterpress.Text.Trim

/-!
# Markdown sources

The source of a Markdown text in its normal form, and what is set aside before its blocks are read. A piece of
hypertext that is set aside leaves a mark in the text, which holds its number between two control characters
that no source contains.

* `normalize`: line ends, tabs and blank lines in one form.
* `Stash.store`: sets a piece aside.
* `Stash.restore`: a text with its marks replaced by the pieces.
* `setFencesAside`: fenced code replaced by marks.
-/

namespace Letterpress.Markdown

open Text Hypertext

abbrev Line := List Char

def lines (cs : List Char) : List Line := splitBy (· == '\n') cs

def unlines (ls : List Line) : List Char := joinWith ['\n'] ls

def tabWidth : Nat := 4

/-- Tabs as blanks up to the next multiple of the tab width, given the column. -/
def expandTabs (column : Nat) : List Char → List Char
  | [] => []
  | '\t' :: cs =>
    let width := tabWidth - column % tabWidth
    List.replicate width ' ' ++ expandTabs 0 cs
  | '\n' :: cs => '\n' :: expandTabs 0 cs
  | c :: cs => c :: expandTabs (column + 1) cs

def isSpaces (l : Line) : Bool := l.all (· == ' ')

def clearSpaces (l : Line) : Line := if isSpaces l then [] else l

def isMarkEdge (c : Char) : Bool := c == '\x02' || c == '\x03'

/-- The lines of a source, with two blank ones behind the last. -/
def normalize (source : List Char) : List Line :=
  let text := normalizeNewlines (source.filter (!isMarkEdge ·)) ++ ['\n', '\n']
  match lines (expandTabs 0 text) with
  | [] => []
  | l :: rest => l :: rest.map clearSpaces

/-! ## Pieces set aside -/

/-- The pieces of hypertext that are set aside, in order. -/
structure Stash where
  pieces : List (List Char)

namespace Stash

def empty : Stash := ⟨[]⟩

def mark (n : Nat) : List Char := '\x02' :: Nat.toDigits 10 n ++ ['\x03']

/-- Sets a piece aside: its mark, and the pieces with it. -/
def store (s : Stash) (piece : List Char) : List Char × Stash :=
  (mark s.pieces.length, ⟨s.pieces ++ [piece]⟩)

/-- The number of the mark that a text starts with, and what follows the mark. -/
def mark? : List Char → Option (Nat × List Char)
  | '\x02' :: cs =>
    let digits := cs.takeWhile isAsciiDigit
    match cs.drop digits.length with
    | '\x03' :: rest => some (digits.foldl (fun n c => n * 10 + (c.toNat - 48)) 0, rest)
    | _ => none
  | _ => none

end Stash

/-- Elements that stand for themselves and not in a line of text. -/
def blockElements : List String :=
  ["address", "article", "aside", "blockquote", "details", "div", "dl", "fieldset", "figcaption", "figure",
   "footer", "form", "h1", "h2", "h3", "h4", "h5", "h6", "header", "hgroup", "hr", "main", "menu", "nav", "ol",
   "p", "pre", "search", "section", "table", "ul",
   "canvas", "colgroup", "dd", "body", "dt", "group", "html", "iframe", "li", "legend", "math", "map", "noscript",
   "output", "object", "option", "progress", "script", "style", "summary", "tbody", "td", "textarea", "tfoot",
   "th", "thead", "tr", "video"]

def isBlockElement (name : String) : Bool := blockElements.contains name

/-- Whether hypertext starts with an element that needs no paragraph around it, or with no element at all but a
comment or an instruction. -/
def needsNoParagraph (piece : List Char) : Bool :=
  match piece with
  | '<' :: cs =>
    let cs := match cs with
      | '/' :: rest => rest
      | cs => cs
    match cs.takeWhile fun c => c != ' ' && c != '>' with
    | [] => false
    | c :: name =>
      "!?@%".toList.contains c ||
        isBlockElement (String.ofList (trimRightBy (· == '/') ((c :: name).map Char.toLower)))
  | _ => false

namespace Stash

def openParagraph : List Char := "<p>".toList

def closeParagraph : List Char := "</p>".toList

/-- The piece of a mark with a paragraph around it, unless it needs none. -/
def inParagraph (piece : List Char) : List Char :=
  if needsNoParagraph piece then piece else openParagraph ++ piece ++ closeParagraph

/-- A text with the marks of its pieces replaced, where `piece?` finds a piece. -/
def fill (piece? : Nat → Option (List Char)) : Nat → List Char → List Char
  | 0, cs => cs
  | _, [] => []
  | fuel + 1, c :: cs =>
    let wrapped? := do
      let (n, rest) ← mark? (← dropPrefix? openParagraph (c :: cs))
      return (← piece? n, ← dropPrefix? closeParagraph rest)
    let bare? := do
      let (n, rest) ← mark? (c :: cs)
      return (← piece? n, rest)
    match wrapped?, bare? with
    | some (piece, rest), _ => inParagraph piece ++ fill piece? fuel rest
    | none, some (piece, rest) => piece ++ fill piece? fuel rest
    | none, none => c :: fill piece? fuel cs

/-- A piece with the pieces in it restored, which are older than itself. -/
def pieceWithin? (s : Stash) : Nat → Nat → Option (List Char)
  | 0, _ => none
  | fuel + 1, n => s.pieces[n]?.map fun piece => fill (pieceWithin? s fuel) piece.length piece

def piece? (s : Stash) (n : Nat) : Option (List Char) := pieceWithin? s (s.pieces.length + 1) n

end Stash

/-! ## Fenced code -/

/-- What the line that opens a fence says about the code. -/
structure FenceInfo where
  language : Option (List Char)
  identifier : List Char
  classes : List (List Char)

namespace FenceInfo

def isAttributeChar (c : Char) : Bool := c != ' ' && c != '=' && c != '\x7d'

/-- The attributes in braces up to the first character that belongs to none, and what follows. -/
def attributes : Nat → List Char → List (List Char × List Char) × List Char
  | 0, cs => ([], cs)
  | _, [] => ([], [])
  | fuel + 1, ' ' :: cs => attributes fuel cs
  | fuel + 1, cs =>
    let key := cs.takeWhile isAttributeChar
    if key.isEmpty then ([], cs)
    else
      let rest := cs.drop key.length
      let quoted? (q : Char) : Option (List Char × List Char) :=
        match rest with
        | '=' :: q' :: more =>
          if q' == q && more.contains q then
            some (more.takeWhile (· != q), (more.dropWhile (· != q)).drop 1)
          else none
        | _ => none
      let pair? : Option (List Char × List Char) :=
        match rest with
        | '=' :: more =>
          let value := more.takeWhile isAttributeChar
          if value.isEmpty then none else some (value, more.drop value.length)
        | _ => none
      match ((quoted? '"').orElse fun _ => quoted? '\'').orElse fun _ => pair? with
      | some (value, rest) =>
        let (more, left) := attributes fuel rest
        ((key, value) :: more, left)
      | none =>
        let (more, left) := attributes fuel rest
        match key with
        | '.' :: name => ((['.'], name) :: more, left)
        | '#' :: name => (("id".toList, name) :: more, left)
        | key => ((key, key) :: more, left)

def ofAttributes? (cs : List Char) : Option FenceInfo :=
  let (found, left) := attributes (cs.length + 1) cs
  if left.contains '\x7d' then none
  else
    let classes := (found.filter (·.1 == ['.'])).map (·.2)
    let identifier := ((found.filter (·.1 == "id".toList)).map (·.2)).getLastD []
    some ⟨classes.head?, identifier, classes.drop 1⟩

def isLanguageChar (c : Char) : Bool := isWord c || "#.+-".toList.contains c

/-- Whether the rest of a line that opens a fence says nothing, or which lines are to stand out. -/
def isHighlight (cs : List Char) : Bool :=
  match cs with
  | [] => true
  | cs =>
    match dropPrefix? "hl_lines=".toList cs with
    | some (q :: more) =>
      (q == '"' || q == '\'') && more.contains q && isSpaces ((more.dropWhile (· != q)).drop 1)
    | _ => false

/-- What follows the fence itself on its line. -/
def ofText? (cs : List Char) : Option FenceInfo :=
  match cs.dropWhile (· == ' ') with
  | '\x7b' :: more =>
    if more.getLast? == some '\x7d' then
      if more.length = 1 then some ⟨none, [], []⟩ else ofAttributes? more.dropLast
    else none
  | cs =>
    let cs := match cs with
      | '.' :: rest => rest
      | cs => cs
    let language := cs.takeWhile isLanguageChar
    if isHighlight ((cs.drop language.length).dropWhile (· == ' ')) then
      some ⟨if language.isEmpty then none else some language, [], []⟩
    else none

end FenceInfo

/-- The fence that a line starts with, and what follows it. -/
def fence? (l : Line) : Option (List Char × List Char) :=
  match l with
  | c :: _ =>
    if c == '~' || c == '\x60' then
      let fence := l.takeWhile (· == c)
      if 3 ≤ fence.length then some (fence, l.drop fence.length) else none
    else none
  | [] => none

/-- The lines up to the one that closes a fence, and the lines behind it. -/
def closeFence? (fence : List Char) : List Line → Option (List Line × List Line)
  | [] => none
  | l :: rest =>
    if ((dropPrefix? fence l).map isSpaces).getD false then some ([], rest)
    else (closeFence? fence rest).map fun (code, after) => (l :: code, after)

def escapeCode (cs : List Char) : List Char :=
  cs.flatMap fun c => if c == '\'' then [c] else named.char c

/-- An attribute as it stands in a start tag, unless it is empty. -/
def attributeText (name : String) (value : List Char) : List Char :=
  if value.isEmpty then [] else ' ' :: name.toList ++ "=\"".toList ++ escapeCode value ++ ['"']

def fencedCode (info : FenceInfo) (code : List Line) : List Char :=
  let language := (info.language.map ("language-".toList ++ ·)).getD []
  "<pre".toList ++ attributeText "id" info.identifier ++
    attributeText "class" (joinWith [' '] info.classes) ++ "><code".toList ++ attributeText "class" language ++
    ['>'] ++ code.flatMap (fun l => escapeCode l ++ ['\n']) ++ "</code></pre>".toList

/-- Fenced code replaced by marks with a blank line on each side. A fence that does not close is text. -/
def setFencesAside (stash : Stash) : Nat → List Line → List Line × Stash
  | 0, ls => (ls, stash)
  | _, [] => ([], stash)
  | fuel + 1, l :: ls =>
    let found? := do
      let (fence, rest) ← fence? l
      let info ← FenceInfo.ofText? rest
      let (code, after) ← closeFence? fence ls
      return (info, code, after)
    match found? with
    | some (info, code, after) =>
      let (mark, stash) := stash.store (fencedCode info code)
      let (more, stash) := setFencesAside stash fuel after
      ([] :: mark :: [] :: more, stash)
    | none =>
      let (more, stash) := setFencesAside stash fuel ls
      (l :: more, stash)

end Letterpress.Markdown
