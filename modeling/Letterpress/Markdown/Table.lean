import Letterpress.Markdown.Source

/-!
# Tables

Tables whose cells stand between upright strokes. The second row gives the alignment of the columns; every
other row has as many cells as that one.

* `Table.ofText?`: the table that a piece of text is.
-/

namespace Letterpress.Markdown

open Text

inductive Alignment where
  | left
  | center
  | right
  deriving DecidableEq, Repr, Inhabited

structure Table where
  alignments : List (Option Alignment)
  header : List (List Char)
  rows : List (List (List Char))

namespace Table

def trimSpaces (cs : List Char) : List Char := trimBy (· == ' ') cs

/-! ## Cells

A stroke in code does not divide cells, and neither does one behind a backslash. -/

/-- What matters for dividing a row. A run of grave accents counts its accents, without the first of them if a
backslash stands before; it can open code unless it counts none less what the backslash takes. -/
inductive RowPart where
  | other (cs : List Char)
  | accents (text : List Char) (count : Nat) (opens : Nat)
  | stroke

def rowParts : Nat → List Char → List RowPart
  | 0, _ => []
  | _, [] => []
  | fuel + 1, '\\' :: '\\' :: cs => .other ['\\', '\\'] :: rowParts fuel cs
  | fuel + 1, '\\' :: '\x60' :: cs =>
    let run := '\x60' :: cs.takeWhile (· == '\x60')
    .accents ('\\' :: run) run.length (run.length - 1) :: rowParts fuel (cs.dropWhile (· == '\x60'))
  | fuel + 1, '\x60' :: cs =>
    let run := '\x60' :: cs.takeWhile (· == '\x60')
    .accents run run.length run.length :: rowParts fuel (cs.dropWhile (· == '\x60'))
  | fuel + 1, '\\' :: '|' :: cs => .other ['\\', '|'] :: rowParts fuel cs
  | fuel + 1, '|' :: cs => .stroke :: rowParts fuel cs
  | fuel + 1, c :: cs => .other [c] :: rowParts fuel cs

def RowPart.text : RowPart → List Char
  | other cs => cs
  | accents cs _ _ => cs
  | stroke => ['|']

/-- The parts up to the next run of a number of accents, and the parts behind it. -/
def throughAccents? (count : Nat) : List RowPart → Option (List Char × List RowPart)
  | [] => none
  | .accents cs n _ :: ps =>
    if n = count then some (cs, ps) else (throughAccents? count ps).map fun (t, rest) => (cs ++ t, rest)
  | p :: ps => (throughAccents? count ps).map fun (t, rest) => (p.text ++ t, rest)

def cellsFrom : Nat → List Char → List RowPart → List (List Char)
  | 0, cell, _ => [cell]
  | _, cell, [] => [cell]
  | fuel + 1, cell, .stroke :: ps => cell :: cellsFrom fuel [] ps
  | fuel + 1, cell, .accents cs _ opens :: ps =>
    match if opens = 0 then none else throughAccents? opens ps with
    | some (code, rest) => cellsFrom fuel (cell ++ cs ++ code) rest
    | none => cellsFrom fuel (cell ++ cs) ps
  | fuel + 1, cell, .other cs :: ps => cellsFrom fuel (cell ++ cs) ps

/-- Whether a row ends with a stroke behind an even number of backslashes. -/
def endsWithStroke (row : List Char) : Bool :=
  match row.reverse with
  | '|' :: before => (before.takeWhile (· == '\\')).length % 2 == 0
  | _ => false

/-- The cells of a row, without the strokes at its ends if the table has a border. -/
def cells (hasBorder : Bool) (row : List Char) : List (List Char) :=
  let row :=
    if hasBorder then
      let row := (dropPrefix? ['|'] row).getD row
      if endsWithStroke row then row.dropLast else row
    else row
  let parts := rowParts row.length row
  cellsFrom (parts.length + 1) [] parts

/-! ## Reading -/

def alignment? (cell : List Char) : Option Alignment :=
  let cell := trimSpaces cell
  match startsWith [':'] cell, endsWith [':'] cell with
  | true, true => some .center
  | true, false => some .left
  | false, true => some .right
  | false, false => none

/-- As many cells as the table has columns. -/
def fit (columns : Nat) (cs : List (List Char)) : List (List Char) :=
  (cs.map trimSpaces).take columns ++ List.replicate (columns - cs.length) []

def hasEdge (row : List Char) : Bool := startsWith ['|'] row || endsWithStroke row

def ofText? (piece : List Char) : Option Table :=
  match (lines piece).map trimSpaces with
  | header :: separator :: rows =>
    let border := hasEdge header
    let columns := (cells border header).length
    let isTable := 1 < columns || (columns = 1 && border && (separator :: rows).all hasEdge)
    let marks := cells border separator
    if isTable && marks.length = columns && marks.all (·.all fun c => "|:- ".toList.contains c) then
      some
        ⟨marks.map alignment?, fit columns (cells border header), rows.map fun r => fit columns (cells border r)⟩
    else none
  | _ => none

end Table

end Letterpress.Markdown
