import Letterpress.Markdown.Table
import Letterpress.Text.Case
import Letterpress.Text.Pattern

/-!
# Outlines

The blocks of a Markdown text: headings, paragraphs, lists, quotations, code, rules and tables, and the
references that its links point to. Text is split at blank lines; each piece is read by the first rule that
applies to it, and what a rule leaves over is read as a piece of its own.

* `Outline.ofLines`: the blocks and references of a text.
-/

namespace Letterpress.Markdown

open Text

inductive Kind where
  | body
  | paragraph
  | heading (level : Nat)
  | quote
  | bullets
  /-- a numbered list, with the number it starts from unless that is 1 -/
  | numbers (start : Option (List Char))
  | item
  | code
  | rule
  | table
  | tableHead
  | tableBody
  | row
  | cell (isHeader : Bool) (alignment : Option Alignment)
  deriving DecidableEq, Repr, Inhabited

namespace Kind

def isList : Kind → Bool
  | bullets | numbers _ => true
  | _ => false

def isNumbers : Kind → Bool
  | numbers _ => true
  | _ => false

end Kind

/-- A block: its own text, the blocks in it, and the text behind it. -/
inductive Node where
  | node (kind : Kind) (text : List Char) (children : List Node) (tail : List Char)
  deriving Inhabited

namespace Node

def kind : Node → Kind
  | node k _ _ _ => k

def text : Node → List Char
  | node _ t _ _ => t

def children : Node → List Node
  | node _ _ cs _ => cs

def tail : Node → List Char
  | node _ _ _ t => t

def ofKind (k : Kind) : Node := node k [] [] []

def ofText (k : Kind) (t : List Char) : Node := node k t [] []

def last? (n : Node) : Option Node := n.children.getLast?

def withText (t : List Char) : Node → Node
  | node k _ cs tail => node k t cs tail

def withTail (t : List Char) : Node → Node
  | node k text cs _ => node k text cs t

def add (n child : Node) : Node :=
  match n with
  | node k t cs tail => node k t (cs ++ [child]) tail

def addFirst (n child : Node) : Node :=
  match n with
  | node k t cs tail => node k t (child :: cs) tail

def setLast (n child : Node) : Node :=
  match n with
  | node k t cs tail => node k t (cs.dropLast ++ [child]) tail

def lastIs (p : Kind → Bool) (n : Node) : Bool := (n.last?.map fun c => p c.kind).getD false

/-- The text of an item as a paragraph before the blocks in it. -/
def wrapText (n : Node) : Node :=
  if n.text.isEmpty then n else (n.withText []).addFirst (ofText .paragraph n.text)

/-- The text behind the last block of an item as a paragraph. -/
def wrapTail (n : Node) : Node :=
  match n.last? with
  | some c =>
    if c.tail.isEmpty then n
    else (n.setLast (c.withTail [])).add (ofText .paragraph (trimLeft c.tail))
  | none => n

end Node

/-- Where a link leads, and its title. -/
structure Target where
  address : List Char
  title : Option (List Char)

/-- The targets of references by name, the latest first. -/
abbrev References := List (List Char × Target)

/-- What the text that is being read stands in. -/
inductive Setting where
  | open_
  /-- an item of a list without blank lines -/
  | list
  /-- an item behind a blank line -/
  | looseList
  /-- text that has lost its indentation -/
  | detabbed
  | quote
  deriving DecidableEq

/-- Reads pieces of text into a block. -/
abbrev Reader := Setting → Node → List Line → StateM References Node

/-- A rule reads a piece into a block if it applies: the block, and the pieces left to read. -/
abbrev Rule :=
  Reader → Setting → Node → List Char → List (List Char) → Option (StateM References (Node × List (List Char)))

def indentation : List Char := List.replicate tabWidth ' '

def isIndented (piece : List Char) : Bool := startsWith indentation piece

def pushPiece (piece : List Char) (rest : List (List Char)) : List (List Char) :=
  if piece.isEmpty then rest else piece :: rest

/-- Adds to the code that a block ends with. -/
def extendCode (added : List Char) (parent : Node) : Node :=
  match parent.last? with
  | some c => if c.kind = .code then parent.setLast (c.withText (c.text ++ added)) else parent
  | none => parent

/-- Blank lines are kept behind code and else dropped. -/
def emptyRule : Rule := fun _ _ parent piece rest =>
  match piece with
  | [] => some (pure (extendCode ['\n', '\n'] parent, rest))
  | '\n' :: more => some (pure (extendCode ['\n'] parent, pushPiece more rest))
  | _ => none

/-! ## Indented text -/

/-- Takes levels of indentation off the lines that have them. -/
def dedent (level : Nat) (piece : List Char) : List Char :=
  let width := List.replicate (tabWidth * level) ' '
  unlines ((lines piece).map fun l => (dropPrefix? width l).getD l)

/-- How deep below a block its text of some indentation belongs: the level of lists passed, and the number of
steps to the last block of each. -/
def depthOf (indent : Nat) : Nat → Nat → Node → Nat × Nat
  | 0, level, _ => (level, 0)
  | fuel + 1, level, n =>
    if indent ≤ level then (level, 0)
    else
      match n.last? with
      | some c =>
        if c.kind.isList then
          let (l, steps) := depthOf indent fuel (level + 1) c
          (l, steps + 1)
        else if c.kind = .item then
          let (l, steps) := depthOf indent fuel level c
          (l, steps + 1)
        else (level, 0)
      | none => (level, 0)

/-- Changes the block that is a number of steps down along the last blocks. -/
def changeLast (change : Node → StateM References Node) : Nat → Node → StateM References Node
  | 0, n => change n
  | steps + 1, n =>
    match n.last? with
    | some c => do return n.setLast (← changeLast change steps c)
    | none => change n

/-- Indented text behind a list continues the item of its level. -/
def continuationRule : Rule := fun read setting parent piece rest =>
  if !(isIndented piece && setting != .detabbed && (parent.kind = .item || parent.lastIs Kind.isList)) then none
  else
    let indent := (piece.takeWhile (· == ' ')).length / tabWidth
    let (level, steps) := depthOf indent (2 * indent + 2) (if setting = .list then 1 else 0) parent
    let piece := dedent level piece
    let readIn (n : Node) : StateM References Node := read .detabbed n [piece]
    let change (n : Node) : StateM References Node :=
      if n.kind = .item then readIn n
      else
        match n.last? with
        | some c =>
          if c.kind = .item then do return n.setLast (← readIn c.wrapText)
          else do return n.add (← readIn (.ofKind .item))
        | none => do return n.add (← readIn (.ofKind .item))
    some do
      let parent ←
        if parent.kind = .item then
          match parent.last? with
          | some c => if c.kind.isList then do pure (parent.setLast (← readIn c)) else readIn parent
          | none => readIn parent
        else changeLast change steps parent
      return (parent, rest)

/-- The indented lines at the start of a piece without their indentation, and the other lines. -/
def takeIndented : List Line → List Line × List Line
  | [] => ([], [])
  | l :: ls =>
    match dropPrefix? indentation l with
    | some inner =>
      let (code, rest) := takeIndented ls
      (inner :: code, rest)
    | none =>
      if l.all isBlank then
        let (code, rest) := takeIndented ls
        ([] :: code, rest)
      else ([], l :: ls)

def codeRule : Rule := fun _ _ parent piece rest =>
  if !isIndented piece then none
  else
    let (code, others) := takeIndented (lines piece)
    let code := trimRight (unlines code) ++ ['\n']
    let parent :=
      if parent.lastIs (· = .code) then extendCode ('\n' :: code) parent else parent.add (.ofText .code code)
    some (pure (parent, pushPiece (unlines others) rest))

/-! ## Tables, headings and rules -/

def tableNode (t : Table) : Node :=
  let row (isHeader : Bool) (cells : List (List Char)) : Node :=
    .node .row [] ((cells.zip t.alignments).map fun (c, a) => .ofText (.cell isHeader a) c) []
  let blank := Node.node .row [] (t.alignments.map fun _ => .ofKind (.cell false none)) []
  let body := if t.rows.isEmpty then [blank] else t.rows.map (row false)
  .node .table [] [.node .tableHead [] [row true t.header] [], .node .tableBody [] body []] []

def tableRule : Rule := fun _ _ parent piece rest =>
  (Table.ofText? piece).map fun t => pure (parent.add (tableNode t), rest)

/-- The text of a heading up to the signs that close it. A backslash needs a character behind it. -/
def headingText? : List Char → Option (List Char)
  | [] => some []
  | '\\' :: c :: cs => (headingText? cs).map fun t => '\\' :: c :: t
  | ['\\'] => none
  | c :: cs => if (c :: cs).all (· == '#') then some [] else (headingText? cs).map (c :: ·)

/-- The level and the text of a heading. -/
def heading? (l : Line) : Option (Nat × List Char) :=
  let level := min 6 (l.takeWhile (· == '#')).length
  if level = 0 then none else (headingText? (l.drop level)).map fun t => (level, trim t)

/-- The lines before the first one that something can be read from, what is read, and the lines behind. -/
def splitAt? {α : Type} (read? : Line → Option α) : List Line → Option (List Line × α × List Line)
  | [] => none
  | l :: ls =>
    match read? l with
    | some a => some ([], a, ls)
    | none => (splitAt? read? ls).map fun (before, a, after) => (l :: before, a, after)

def headingRule : Rule := fun read setting parent piece rest =>
  (splitAt? heading? (lines piece)).map fun (before, (level, text), after) => do
    let before := unlines before
    let parent ← if before.isEmpty then pure parent else read setting parent [before]
    let after := unlines after
    let after := if setting = .looseList then dedent 1 after else after
    return (parent.add (.ofText (.heading level) text), pushPiece after rest)

/-- The level that a line of signs gives the line above. -/
def underline? (l : Line) : Option Nat :=
  match trimRightBy (· == ' ') l with
  | [] => none
  | c :: cs =>
    if !(c :: cs).all fun c => c == '=' || c == '-' then none else some (if c == '=' then 1 else 2)

def underlinedRule : Rule := fun _ _ parent piece rest =>
  match lines piece with
  | title :: l :: ls =>
    (underline? l).map fun level =>
      pure (parent.add (.ofText (.heading level) (trim title)), pushPiece (unlines ls) rest)
  | _ => none

/-- Whether gaps of at most two blanks stand between signs, with any number behind the last. -/
def isRuleBody (sign : Char) (gap : Nat) : List Char → Bool
  | [] => true
  | c :: cs =>
    if c == ' ' then isRuleBody sign (gap + 1) cs
    else c == sign && gap ≤ 2 && isRuleBody sign 0 cs

/-- A line of three or more equal signs. -/
def ruleLine? (l : Line) : Option Unit :=
  let body := l.dropWhile (· == ' ')
  match body with
  | c :: _ =>
    if l.length - body.length ≤ 3 && "-_*".toList.contains c && isRuleBody c 0 body && 3 ≤ body.count c then
      some ()
    else none
  | [] => none

def ruleRule : Rule := fun read setting parent piece rest =>
  (splitAt? ruleLine? (lines piece)).map fun (before, _, after) => do
    let before := trimRightBy (· == '\n') (unlines before)
    let parent ← if before.isEmpty then pure parent else read setting parent [before]
    return (parent.add (.ofKind .rule), pushPiece (trimLeftBy (· == '\n') (unlines after)) rest)

/-! ## Lists -/

/-- A mark of an item: a number with a point, or a sign. -/
def marker? (wantNumber wantSign : Bool) (cs : List Char) : Option (List Char × List Char) :=
  let digits := cs.takeWhile isDecimal
  match digits, cs.drop digits.length with
  | [], c :: rest => if wantSign && "*+-".toList.contains c then some ([], rest) else none
  | _ :: _, '.' :: rest => if wantNumber then some (digits, rest) else none
  | _, _ => none

/-- The number and the text of a line that starts an item, with an indentation within bounds. -/
def itemWithin? (least most : Nat) (wantNumber wantSign : Bool) (l : Line) : Option (List Char × List Char) := do
  let body := l.dropWhile (· == ' ')
  let indent := l.length - body.length
  if indent < least || most < indent then none
  else
    let (number, rest) ← marker? wantNumber wantSign body
    match rest with
    | ' ' :: more => some (number, more.dropWhile (· == ' '))
    | _ => none

def item? (isNumbered : Bool) (l : Line) : Option (List Char × List Char) :=
  itemWithin? 0 (tabWidth - 1) isNumbered (!isNumbered) l

def isNestedItem (l : Line) : Bool := (itemWithin? tabWidth (2 * tabWidth - 1) true true l).isSome

def continueLast (l : Line) (items : List (List Char)) : List (List Char) :=
  match items with
  | [] => [l]
  | i :: is => (i ++ '\n' :: l) :: is

/-- The items of a list, last one first. Lines that start no item continue the last one; a nested item stands
for itself unless it follows another. -/
def itemsOf (isNumbered : Bool) : List (List Char) → List Line → List (List Char)
  | items, [] => items
  | items, l :: ls =>
    match item? isNumbered l with
    | some (_, text) => itemsOf isNumbered (text :: items) ls
    | none =>
      if isNestedItem l && !((items.head?.map isIndented).getD false) then itemsOf isNumbered (l :: items) ls
      else itemsOf isNumbered (continueLast l items) ls

/-- Reads items into a list. A nested item belongs to the last one of the list. -/
def readItems (read : Reader) : Node → List (List Char) → StateM References Node
  | list, [] => pure list
  | list, i :: is => do
    let list ←
      match isIndented i, list.last? with
      | true, some c => do pure (list.setLast (← read .list c [i]))
      | _, _ => do pure (list.add (← read .list (.ofKind .item) [i]))
    readItems read list is

/-- The list before a new item: text around the blocks of its last item stands in paragraphs. -/
def loosen (list : Node) : Node :=
  match list.last? with
  | some c => list.setLast c.wrapText.wrapTail
  | none => list

/-- A list goes on behind a blank line if its items have marks of one sort. Else it is a new one, unless a list
is being read. -/
def listRule (isNumbered : Bool) : Rule := fun read _ parent piece rest =>
  let ls := lines piece
  (ls.head?.bind (item? isNumbered)).map fun (number, _) => do
    let items := (itemsOf isNumbered [] ls).reverse
    let same? := parent.last?.filter fun c => c.kind.isList && c.kind.isNumbers == isNumbered
    match same? with
    | some list =>
      let first ← read .looseList (.ofKind .item) (items.take 1)
      let list ← readItems read ((loosen list).add first) (items.drop 1)
      return (parent.setLast list, rest)
    | none =>
      if parent.kind.isList then return (← readItems read parent items, rest)
      else
        let start := if number == ['1'] then none else some number
        let list ← readItems read (.ofKind (if isNumbered then .numbers start else .bullets)) items
        return (parent.add list, rest)

/-! ## Quotations -/

/-- What follows the sign of a quotation. -/
def quoted? (l : Line) : Option Line :=
  let body := l.dropWhile (· == ' ')
  match body with
  | '>' :: rest =>
    if 3 < l.length - body.length then none
    else
      match rest with
      | ' ' :: more => some more
      | rest => some rest
  | _ => none

def unquote (l : Line) : Line := if trim l == ['>'] then [] else (quoted? l).getD l

/-- The pieces between blank lines. -/
def pieces (cs : List Char) : List (List Char) := splitOn ['\n', '\n'] cs

def quoteRule : Rule := fun read setting parent piece rest =>
  (splitAt? quoted? (lines piece)).map fun (before, first, after) => do
    let parent ← read setting parent [unlines before]
    let first := if first.all isBlank then [] else first
    let inner := unlines ((if before.isEmpty then [] else [[]]) ++ first :: after.map unquote)
    let parent ←
      match parent.last? with
      | some c =>
        if c.kind = .quote then do pure (parent.setLast (← read .quote c (pieces inner)))
        else do pure (parent.add (← read .quote (.ofKind .quote) (pieces inner)))
      | none => do pure (parent.add (← read .quote (.ofKind .quote) (pieces inner)))
    return (parent, rest)

/-! ## References and paragraphs -/

open Pattern in
/-- A name in brackets, a colon, an address and perhaps a title, the latter two on lines of their own or not. -/
def referencePattern : Pattern :=
  let spaces := star (char ' ')
  let line := star (notIn "\n")
  let title :=
    alt
      (all [group 4 (oneOf "\"'"), group 5 line, again 4, spaces])
      (all [char '(', group 6 line, char ')', spaces])
  all [lineStart, upTo 3 (char ' '), char '[', group 1 (star (notIn "[]")), word "]:", spaces,
    optional (char '\n'), spaces, group 2 (plus (one (!isBlank ·))), spaces,
    optional (seq (char '\n') spaces), optional title, lineEnd]

def referenceRule : Rule := fun _ _ parent piece rest =>
  (Pattern.find? referencePattern (.start piece)).map fun m => do
    let name := lower (trim (m.group 1))
    let address := trimRightBy (· == '>') (trimLeftBy (· == '<') (m.group 2))
    let title := if (m.group 5).isEmpty then m.group? 6 else m.group? 5
    modify ((name, Target.mk address title) :: ·)
    let after := m.stop.rest
    let before := m.start.before.reverse
    let rest := if after.all isBlank then rest else trimLeftBy (· == '\n') after :: rest
    return (parent, if before.all isBlank then rest else trimRightBy (· == '\n') before :: rest)

/-- Text in a list without blank lines belongs to its item; all other text is a paragraph. -/
def paragraphRule : Rule := fun _ setting parent piece rest =>
  some (pure (read setting parent piece, rest))
where
  read (setting : Setting) (parent : Node) (piece : List Char) : Node :=
    if piece.all isBlank then parent
    else if setting = .list then
      match parent.last? with
      | some c => parent.setLast (c.withTail (c.tail ++ '\n' :: piece))
      | none =>
        if parent.text.isEmpty then parent.withText (trimLeft piece)
        else parent.withText (parent.text ++ '\n' :: trimLeft piece)
    else parent.add (.ofText .paragraph (trimLeft piece))

/-! ## Reading -/

def rules : List Rule :=
  [emptyRule, continuationRule, codeRule, tableRule, headingRule, underlinedRule, ruleRule, listRule true,
   listRule false, quoteRule, referenceRule, paragraphRule]

/-- Reads pieces one after the other, each by the first rule that applies. -/
def readPieces : Nat → Reader
  | 0, _, parent, _ => pure parent
  | _, _, parent, [] => pure parent
  | fuel + 1, setting, parent, piece :: rest => do
    match rules.findSome? fun rule => rule (readPieces fuel) setting parent piece rest with
    | some step =>
      let (parent, rest) ← step
      readPieces fuel setting parent rest
    | none => pure parent

structure Outline where
  body : Node
  references : References

def Outline.ofLines (ls : List Line) : Outline :=
  let text := unlines ls
  let (body, references) := (readPieces (4 * text.length + 16) .open_ (.ofKind .body) (pieces text)).run []
  ⟨body, references⟩

end Letterpress.Markdown
