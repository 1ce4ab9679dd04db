import Letterpress.Block.Flattening
import Letterpress.Document.Fragment
import Letterpress.Word

/-!
# Word files

The document for a word processor. Its body is rebuilt from the blocks of the rendered text: headings, list items
and paragraphs survive, all else becomes text.

* `WordFile.of`: the document, given the logo where there is one.
-/

namespace Letterpress.WordFile

open Word

def styleOf : BlockKind → String
  | .heading1 => "Heading 1"
  | .heading2 => "Heading 2"
  | .heading3 => "Heading 3"
  | .listItem => "List Bullet"
  | .paragraph => "Normal"

def font (name : Option String) (default : String) : Except Fault (List Char) :=
  stored ((Options.given? name).getD default).toList

def styles (o : Options) : Except Fault (List Style) := do
  let body ← font o.fonts.body "Calibri"
  let heading ← font o.fonts.heading "Calibri Light"
  return [⟨"Normal", body, 11⟩, ⟨"Heading 1", heading, 16⟩, ⟨"Heading 2", heading, 14⟩, ⟨"Heading 3", heading, 12⟩]

def properties (d : Draft) : Except Fault Properties := do
  let o := d.options
  let t := d.template
  let optional (s : Option String) : Except Fault (List Char) := property (s.getD "").toList
  return {
    title := ← property (o.titleFor t).toList
    author := ← optional o.author
    subject := ← property (Fragment.subject t o).display
    keywords := ← property (", ".intercalate (Fragment.keywords t o)).toList
    revision := o.revision
    category := ← property t.category.toList
    identifier := ← property d.context.documentNumber.display
    language := ← optional o.language
    comments := ← property s!"Generated from template '{t.name}' v{t.version}".toList }

def page (p : Letterpress.Page) : Except Fault Word.Page := do
  let (w, h) := Page.paper (String.ofList (Text.upper p.size.toList))
  let (w, h) := if p.isLandscape then (h, w) else (w, h)
  let top ← Page.margin Page.signedLimit p.margins.top
  let right ← Page.margin Page.unsignedLimit p.margins.right
  let bottom ← Page.margin Page.signedLimit p.margins.bottom
  let left ← Page.margin Page.unsignedLimit p.margins.left
  return ⟨Measure.twips w, Measure.twips h, p.isLandscape, [top, right, bottom, left]⟩

/-- The header: the logo, if there is one, and the title. -/
def header (d : Draft) (logo : Option Bytes) : Except Fault (List Char × Nat) := do
  let title := d.options.titleFor d.template
  match logo with
  | none => return (← runText title.toList, 0)
  | some bs =>
    if isPicture bs then return (' ' :: ' ' :: (← runText title.toList), 1)
    else .error .unknownPicture

/-- The footer: number and page, and the text of the options where it is not empty. -/
def footer (d : Draft) : Except Fault (List (List Char)) := do
  let first ← runText ("Document #".toList ++ d.context.documentNumber.display ++ " - Page ".toList)
  let page := first ++ " of ".toList
  match Options.given? d.options.footerText with
  | none => return [page]
  | some s => return [page, ← runText s.toList]

def paragraph (style : String) (cs : List Char) : Except Fault Element :=
  (runText cs).map fun cs => .paragraph ⟨style, cs, none⟩

def watermark (o : Options) : Except Fault (List Element) :=
  match o.watermark.isEnabled, Options.given? o.watermark.text with
  | true, some s => (runText s.toList).map fun cs => [.paragraph ⟨"Normal", cs, some "F2DCDB"⟩]
  | _, _ => .ok []

/-- A line to sign on for each party. -/
def signatures (d : Draft) : Except Fault (List Element) :=
  if d.options.hasSignatures then do
    let parties ← (Fragment.parties d.context).mapM fun p => runText p.toList
    return [.paragraph ⟨"Normal", [], none⟩, .table [parties.map fun _ => List.replicate 30 '_', parties]]
  else .ok []

def body (d : Draft) : Except Fault (List Element) := do
  let mark ← watermark d.options
  let blocks ← Block.ofHypertext d.rendered.html.toList
  let content ← blocks.mapM fun b => paragraph (styleOf b.kind) b.text
  return mark ++ content ++ (← signatures d)

def of (d : Draft) (logo : Option Bytes) : Except Fault Word.Document := do
  let styles ← styles d.options
  let properties ← properties d
  let page ← page d.template.page
  let (header, headerPictures) ← header d logo
  let footer ← footer d
  let body ← body d
  return { styles, properties, page, header, headerPictures, footer, footerFields := ["PAGE", "NUMPAGES"], body }

end Letterpress.WordFile
