import Letterpress.OutputFormat
import Letterpress.Validation

/-!
# Templates

The description of a reusable document: its content with the dialect that it is written in, the formats that it
offers, and how its pages look.

* `Template.ofFields`: a template from the fields that describe it.
-/

namespace Letterpress

/-- How the content of a template is written. -/
inductive Dialect where
  | hypertext
  | markup
  | structured
  deriving DecidableEq, Repr, Inhabited

namespace Dialect

def name : Dialect → String
  | hypertext => "hypertext"
  | markup => "markup"
  | structured => "structured"

def ofName? (s : String) : Option Dialect := [hypertext, markup, structured].find? fun d => d.name == s

end Dialect

inductive Orientation where
  | portrait
  | landscape
  deriving DecidableEq, Repr, Inhabited

namespace Orientation

def name : Orientation → String
  | portrait => "portrait"
  | landscape => "landscape"

def ofName? (s : String) : Option Orientation := [portrait, landscape].find? fun o => o.name == s

end Orientation

/-- The margins of a page, as lengths in text. -/
structure Margins where
  top : String := "2cm"
  right : String := "2cm"
  bottom : String := "2cm"
  left : String := "2cm"
  deriving DecidableEq, Repr, Inhabited

namespace Margins

def css (m : Margins) : String := s!"{m.top} {m.right} {m.bottom} {m.left}"

def ofFields (fields : Fields) : Checked Margins :=
  (Except.ok Margins.mk : Checked _)
    |> (Checked.app · (Record.field fields "top" "2cm" Checked.text))
    |> (Checked.app · (Record.field fields "right" "2cm" Checked.text))
    |> (Checked.app · (Record.field fields "bottom" "2cm" Checked.text))
    |> (Checked.app · (Record.field fields "left" "2cm" Checked.text))

def toFields (m : Margins) : Fields :=
  [("top", .text m.top), ("right", .text m.right), ("bottom", .text m.bottom), ("left", .text m.left)]

end Margins

structure Page where
  margins : Margins := {}
  size : String := "A4"
  orientation : Orientation := .portrait
  deriving DecidableEq, Repr, Inhabited

namespace Page

def isLandscape (p : Page) : Bool := p.orientation == .landscape

def ofFields (fields : Fields) : Checked Page :=
  (Except.ok Page.mk : Checked _)
    |> (Checked.app · (Record.field fields "margins" {} fun v => (Checked.record v).bind Margins.ofFields))
    |> (Checked.app · (Record.field fields "page_size" "A4" Checked.text))
    |> (Checked.app · (Record.field fields "orientation" .portrait (Checked.member Orientation.ofName?)))

def toFields (p : Page) : Fields :=
  [("margins", .record p.margins.toFields), ("page_size", .text p.size),
    ("orientation", .text p.orientation.name)]

end Page

/-- The content of a template: text, or a tree. -/
inductive Content where
  | text (s : String)
  | record (fields : Fields)
  | list (xs : List Value)
  deriving Inhabited

namespace Content

def toValue : Content → Value
  | text s => .text s
  | record fields => .record fields
  | list xs => .list xs

def ofValue (v : Value) : Checked Content :=
  match v with
  | .text s => .ok (.text s)
  | .record fields => .ok (.record fields)
  | .list xs => .ok (.list xs)
  | .tuple xs => .ok (.list xs)
  | _ => .error [⟨[.key "str"], .notText⟩, ⟨[.key "dict[str,any]"], .notMapping⟩, ⟨[.key "list[any]"], .notList⟩]

end Content

structure Template where
  id : String
  name : String
  /-- the name that readers see, the name itself where none is given -/
  displayName : String
  content : Content
  dialect : Dialect := .hypertext
  formats : List OutputFormat := OutputFormat.all
  css : String := ""
  header : Option String := none
  footer : Option String := none
  page : Page := {}
  category : String := ""
  type : String := ""
  version : Int := 1
  metadata : Fields := []
  deriving Inhabited

namespace Template

def supports (t : Template) (f : OutputFormat) : Bool := t.formats.contains f

def sortedFormats (t : Template) : List String := OutputFormat.sortedNames t.formats

def formatSet (v : Value) : Checked (List OutputFormat) :=
  match v with
  | .list xs => Checked.all (Checked.member OutputFormat.ofText?) 0 xs
  | .tuple xs => Checked.all (Checked.member OutputFormat.ofText?) 0 xs
  | _ => Checked.complain .notSet

def build (id name displayName : String) (content : Content) (dialect : Dialect) (formats : List OutputFormat)
    (css : String) (header footer : Option String) (page : Page) (category type : String) (version : Int)
    (metadata : Fields) : Template :=
  { id, name, content, dialect, css, header, footer, page, category, type, version, metadata
    displayName := if displayName.isEmpty then name else displayName
    formats := OutputFormat.all.filter formats.contains }

def ofFields (fields : Fields) : Checked Template :=
  (Except.ok build : Checked _)
    |> (Checked.app · (Record.required fields "id" Checked.text))
    |> (Checked.app · (Record.required fields "name" Checked.text))
    |> (Checked.app · (Record.field fields "display_name" "" Checked.text))
    |> (Checked.app · (Record.required fields "content" Content.ofValue))
    |> (Checked.app · (Record.field fields "content_type" .hypertext (Checked.member Dialect.ofName?)))
    |> (Checked.app · (Record.field fields "supported_formats" OutputFormat.all formatSet))
    |> (Checked.app · (Record.field fields "css" "" Checked.text))
    |> (Checked.app · (Record.field fields "header_template" none Checked.optionalText))
    |> (Checked.app · (Record.field fields "footer_template" none Checked.optionalText))
    |> (Checked.app · (Record.field fields "page_settings" {} fun v => (Checked.record v).bind Page.ofFields))
    |> (Checked.app · (Record.field fields "category" "" Checked.text))
    |> (Checked.app · (Record.field fields "type" "" Checked.text))
    |> (Checked.app · (Record.field fields "version" 1 fun v => Checked.atLeast 1 (Checked.whole v)))
    |> (Checked.app · (Record.field fields "metadata" [] Checked.mapping))

def ofValue (v : Value) : Checked Template := (Checked.record v).bind ofFields

end Template

end Letterpress
