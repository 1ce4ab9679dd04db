import Letterpress.Fault
import Letterpress.Measure
import Letterpress.Text.Utf8
import Letterpress.Value

/-!
# Word documents

Documents for a word processor: paragraphs with styles, tables, a page with header and footer, and properties. A
document is stored as markup, which holds most characters, but not all.

* `Word.stored`, `Word.runText`, `Word.property`: text as a document stores it.
* `Word.Page.of`: a page whose lengths can be stored.
* `Word.Document.toFields`: what can be read in a document.
* `Word.isPicture`: whether bytes are a picture of a known kind.
-/

namespace Letterpress.Word

/-- Characters that markup can hold. -/
def isStorable (c : Char) : Bool :=
  if c.toNat < 32 then c == '\t' || c == '\n' || c == '\r' else c.toNat != 0xFFFE && c.toNat != 0xFFFF

def stored (cs : List Char) : Except Fault (List Char) := if cs.all isStorable then .ok cs else .error .badValue

/-- Text of a paragraph, in which both signs for the end of a line become breaks. -/
def runText (cs : List Char) : Except Fault (List Char) :=
  (stored cs).map fun cs => cs.map fun c => if c == '\r' then '\n' else c

/-- How long a property can be. -/
def propertyLimit : Nat := 255

def property (cs : List Char) : Except Fault (List Char) :=
  if propertyLimit < cs.length then .error .badValue else stored cs

structure Properties where
  title : List Char
  author : List Char
  subject : List Char
  keywords : List Char
  revision : Int
  category : List Char
  identifier : List Char
  language : List Char
  comments : List Char
  deriving DecidableEq, Repr, Inhabited

/-- A style with its font and the size of it in points. -/
structure Style where
  name : String
  font : List Char
  size : Nat
  deriving DecidableEq, Repr, Inhabited

structure Paragraph where
  style : String
  text : List Char
  /-- the colour behind the text -/
  shading : Option String := none
  deriving DecidableEq, Repr, Inhabited

inductive Element where
  | paragraph (p : Paragraph)
  /-- rows of cells -/
  | table (rows : List (List (List Char)))
  deriving Repr, Inhabited

/-- A page. All lengths are in twips; the margins are those at the top, on the right, at the bottom and on the
left. -/
structure Page where
  width : Int
  height : Int
  isLandscape : Bool
  margins : List Int
  deriving DecidableEq, Repr, Inhabited

namespace Page

/-- The greatest length of a margin at the top or at the bottom. -/
def signedLimit : Int := 2147483647

/-- The greatest length of a margin at a side. -/
def unsignedLimit : Int := 18446744073709551615

/-- A margin in a style rule as the document stores it. -/
def margin (limit : Int) (css : String) : Except Fault Int :=
  (Measure.ofCss css.toList).bind fun n => if n ≤ limit then .ok (Measure.twips n) else .error .badValue

/-- The width and the height of upright paper. -/
def paper (size : String) : Int × Int :=
  match size with
  | "A3" => (10692000, 15120000)
  | "A5" => (5328000, 7560000)
  | "LETTER" => (7772400, 10058400)
  | "LEGAL" => (7772400, 12801600)
  | _ => (7560000, 10692000)

end Page

structure Document where
  styles : List Style
  properties : Properties
  page : Page
  header : List Char
  /-- how many pictures the header has -/
  headerPictures : Nat
  footer : List (List Char)
  /-- what the fields of the footer count -/
  footerFields : List String
  body : List Element
  deriving Inhabited

namespace Document

def paragraphs (d : Document) : List Paragraph :=
  d.body.filterMap fun
    | .paragraph p => some p
    | .table _ => none

def tables (d : Document) : List (List (List (List Char))) :=
  d.body.filterMap fun
    | .paragraph _ => none
    | .table rows => some rows

def text (cs : List Char) : Value := .text (String.ofList cs)

def texts (xs : List (List Char)) : Value := .list (xs.map text)

/-- A length of a page. -/
def length (n : Int) : Value := .int (n * Measure.perTwip)

def ofParagraph (p : Paragraph) : Value := .list ([.text p.style, text p.text] ++ p.shading.toList.map .text)

def ofStyle (s : Style) : Value := .list [text s.font, .float (.ofInt s.size)]

def ofProperties (p : Properties) : Fields :=
  [("title", text p.title), ("author", text p.author), ("subject", text p.subject), ("keywords", text p.keywords),
    ("revision", .int p.revision), ("category", text p.category), ("identifier", text p.identifier),
    ("language", text p.language), ("comments", text p.comments)]

/-- What can be read in a document. Lengths are in the units that a length of a style rule is turned into. -/
def toFields (d : Document) : Fields :=
  [("paragraphs", .list (d.paragraphs.map ofParagraph)),
    ("tables", .list (d.tables.map fun rows => .list (rows.map texts))),
    ("page", .list [length d.page.width, length d.page.height,
      .text (if d.page.isLandscape then "LANDSCAPE" else "PORTRAIT")]),
    ("margins", .list (d.page.margins.map length)), ("header", texts [d.header]),
    ("header_pictures", .int d.headerPictures), ("footer", texts d.footer),
    ("footer_fields", .list (d.footerFields.map .text)),
    ("fonts", .record (d.styles.map fun s => (s.name, ofStyle s))), ("core", .record (ofProperties d.properties))]

end Document

/-- The signatures of pictures, each with the place where it stands. -/
def signatures : List (Nat × Bytes) :=
  [(0, [0x89, 0x50, 0x4E, 0x47, 0x0D, 0x0A, 0x1A, 0x0A]), (6, [0x4A, 0x46, 0x49, 0x46]),
    (6, [0x45, 0x78, 0x69, 0x66]), (0, [0x47, 0x49, 0x46, 0x38, 0x37, 0x61]),
    (0, [0x47, 0x49, 0x46, 0x38, 0x39, 0x61]), (0, [0x4D, 0x4D, 0x00, 0x2A]), (0, [0x49, 0x49, 0x2A, 0x00]),
    (0, [0x42, 0x4D])]

def isPicture (bs : Bytes) : Bool := signatures.any fun (place, signature) => signature.isPrefixOf (bs.drop place)

end Letterpress.Word
