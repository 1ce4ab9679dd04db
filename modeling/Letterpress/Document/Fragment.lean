import Letterpress.Rendering

/-!
# Fragments

The parts that documents of several formats share: keywords, subject, signatures, a watermark and the style
rules that go with them.

* `Fragment.keywords`, `Fragment.subject`: what a document is about.
* `Fragment.parties`: who signs it.
-/

namespace Letterpress

/-- All that a document is made from. -/
structure Draft where
  rendered : Rendered
  context : Context
  options : Options
  template : Template
  deriving Inhabited

namespace Fragment

open Text

/-- The name that documents give as their origin. -/
def creator : String := "DocumentGenerationService"

/-- The category, the type and the keywords of the options, each once and none empty. -/
def keywords (t : Template) (o : Options) : List String :=
  (t.category :: t.type :: o.keywords).eraseDups.filter (!·.isEmpty)

def isTrue (v : Value) : Bool := (v.truth?.toOption).getD true

/-- The subject that is given, else the description of the template, else its name. -/
def subject (t : Template) (o : Options) : Value :=
  match Options.given? o.subject, Fields.get? "description" t.metadata with
  | some s, _ => .text s
  | none, some v => if isTrue v then v else .text t.displayName
  | none, none => .text t.displayName

/-- The keys under which data may name a client. -/
def clientKeys : List String := ["clientName", "name", "client"]

def clientLabel (c : Context) : String :=
  let label? (k : String) : Option String :=
    ((Fields.get? k c.values).bind Value.string?).filter fun s => !s.toList.all isBlank
  (clientKeys.findSome? label?).getD "Client"

/-- The company and the client. -/
def parties (c : Context) : List String :=
  let company := match (Fields.get? "companyName" c.values).filter isTrue with
    | some v => String.ofList v.display
    | none => ""
  [company, clientLabel c]

/-- Text of a value for an attribute; nothing for none. -/
def escapeAttribute (v : Value) : List Char :=
  match v with
  | .none => []
  | v => Hypertext.escape v.display

def escapeOptional (s : Option String) : List Char := escapeAttribute (Options.optionalText s)

def joinLines (ls : List (List Char)) : List Char := joinWith ['\n'] ls

/-- Lines of text that stand in documents as they are. -/
def fixed (ls : List String) : List Char := joinLines (ls.map String.toList)

/-! ## Style rules -/

def watermarkRules : List Char :=
  fixed ["", ".watermark \x7b", "  position: fixed;", "  top: 45%;", "  left: 0;", "  width: 100%;",
    "  text-align: center;", "  font-size: 96px;", "  font-weight: bold;", "  color: rgba(200, 50, 50, 0.15);",
    "  transform: rotate(-35deg);", "  z-index: 1000;", "  pointer-events: none;", "\x7d", ""]

def signatureRules : List Char :=
  fixed ["",
    ".signature-fields \x7b display: flex; justify-content: space-between; margin-top: 3em; " ++
      "page-break-inside: avoid; \x7d",
    ".signature-field \x7b width: 40%; \x7d",
    ".signature-line \x7b display: block; border-bottom: 1px solid #000; height: 3em; \x7d",
    ".signature-label \x7b margin-top: 0.3em; font-size: 0.9em; \x7d", ""]

/-- A font by its name in quotation marks. -/
def quotedFont (name : String) : List Char := '"' :: name.toList.filter (· != '"') ++ ['"']

def fontRule (selector generic : String) (name : Option String) : Option (List Char) :=
  (Options.given? name).map fun n =>
    selector.toList ++ " \x7b font-family: ".toList ++ quotedFont n ++ ", ".toList ++ generic.toList ++
      "; \x7d".toList

def fontRules (o : Options) : List Char :=
  joinLines ([fontRule "body" "sans-serif" o.fonts.body,
    fontRule "h1, h2, h3, h4, h5, h6" "sans-serif" o.fonts.heading,
    fontRule "code, pre" "monospace" o.fonts.monospace].filterMap id)

/-! ## Pieces of hypertext -/

def watermark (o : Options) : List Char :=
  if o.watermark.isEnabled then
    "<div class=\"watermark\">".toList ++ escapeOptional o.watermark.text ++ "</div>".toList
  else []

def signatureField (party : String) : List Char :=
  "  <div class=\"signature-field\"><span class=\"signature-line\"></span><p class=\"signature-label\">".toList ++
    Hypertext.escape party.toList ++ "</p></div>".toList

def signatureSection (c : Context) : List Char :=
  joinLines ["<section class=\"signature-fields\">".toList, joinLines ((parties c).map signatureField),
    "</section>".toList]

/-- The section to sign, where the options ask for one. -/
def signatures (d : Draft) : List Char := if d.options.hasSignatures then signatureSection d.context else []

/-- The page as a rule, each line with an indentation. -/
def pageRule (indent : String) (p : Page) : List Char :=
  joinLines (["@page \x7b",
    s!"  size: {p.size} {p.orientation.name};",
    s!"  margin: {p.margins.css};",
    "\x7d"].map fun l => (indent ++ l).toList)

/-- The rules for what a document has: watermark, signatures, fonts, and those of the template. -/
def rules (d : Draft) : List (List Char) :=
  [if d.options.watermark.isEnabled then watermarkRules else [],
    if d.options.hasSignatures then signatureRules else [],
    fontRules d.options, d.template.css.toList]

end Fragment

end Letterpress
