import Letterpress.Calendar.Moment
import Letterpress.Settings
import Letterpress.Template
import Letterpress.Value.Literal

/-!
# Options

What a caller chooses for a single document.

* `Options.ofValue`: options from the fields that a caller gives.
* `Options.withDefaults`: options with everything filled in that the caller left open.
* `DocumentNumber.text`: a fresh document number.
-/

namespace Letterpress

/-- What a clock and a source of chance say when they are asked. -/
structure Reading where
  /-- milliseconds since 1970 -/
  epochMilliseconds : Int
  now : Moment
  /-- a number below a thousand -/
  chance : Nat
  deriving Inhabited

namespace DocumentNumber

/-- The last six digits of a count of milliseconds. -/
def tail (milliseconds : Int) : List Char :=
  let ds := Literal.intText milliseconds
  ds.drop (ds.length - 6)

/-- A document number: its start, the year, six digits of the time and three digits of chance. -/
def text (start : String) (r : Reading) : String :=
  start ++ String.ofList ('-' :: Literal.natText r.now.date.year ++ '-' :: tail r.epochMilliseconds ++
    '-' :: Moment.padded 3 r.chance)

end DocumentNumber

structure Watermark where
  isEnabled : Bool := false
  text : Option String := none
  deriving DecidableEq, Repr, Inhabited

namespace Watermark

def ofFields (fields : Fields) : Checked Watermark :=
  (Except.ok Watermark.mk : Checked _)
    |> (Checked.app · (Record.field fields "enabled" false Checked.truth))
    |> (Checked.app · (Record.field fields "text" none Checked.optionalText))

end Watermark

structure Fonts where
  body : Option String := none
  heading : Option String := none
  monospace : Option String := none
  deriving DecidableEq, Repr, Inhabited

namespace Fonts

def ofFields (fields : Fields) : Checked Fonts :=
  (Except.ok Fonts.mk : Checked _)
    |> (Checked.app · (Record.field fields "body" none Checked.optionalText))
    |> (Checked.app · (Record.field fields "heading" none Checked.optionalText))
    |> (Checked.app · (Record.field fields "monospace" none Checked.optionalText))

end Fonts

structure Options where
  format : Option OutputFormat := none
  filename : Option String := none
  author : Option String := none
  title : Option String := none
  subject : Option String := none
  keywords : List String := []
  metadata : Fields := []
  revision : Int := 1
  watermark : Watermark := {}
  hasSignatures : Bool := false
  headerLogo : Option String := none
  footerText : Option String := none
  fonts : Fonts := {}
  language : Option String := none
  documentNumber : Option String := none
  documentCategory : String := "documents"
  documentType : Option String := none
  deriving Inhabited

namespace Options

def names : List String :=
  ["format", "filename", "author", "title", "subject", "keywords", "metadata", "revision", "watermark",
    "include_signature_fields", "header_logo", "footer_text", "custom_fonts", "language", "document_number",
    "document_category", "document_type"]

/-- The refusal of a text that names no format. -/
def formatRefusal (s : String) : String :=
  String.ofList (Literal.quote s.toList ++ " is not a valid OutputFormat".toList)

def formatOf (v : Value) : Checked (Option OutputFormat) :=
  match v with
  | .none => .ok none
  | v =>
    match v.string? with
    | none => Checked.complain .notMember
    | some s =>
      match OutputFormat.ofText? s with
      | some f => .ok (some f)
      | none => Checked.complain (.refused (formatRefusal s))

def keywordList (v : Value) : Checked (List String) := (Checked.list v).bind (Checked.all Checked.text 0)

def ofFields (fields : Fields) : Checked Options :=
  let text (k : String) : Checked (Option String) := Record.field fields k none Checked.optionalText
  let checked := (Except.ok Options.mk : Checked _)
    |> (Checked.app · (Record.field fields "format" none formatOf))
    |> (Checked.app · (text "filename"))
    |> (Checked.app · (text "author"))
    |> (Checked.app · (text "title"))
    |> (Checked.app · (text "subject"))
    |> (Checked.app · (Record.field fields "keywords" [] keywordList))
    |> (Checked.app · (Record.field fields "metadata" [] Checked.mapping))
    |> (Checked.app · (Record.field fields "revision" 1 fun v => Checked.atLeast 1 (Checked.whole v)))
    |> (Checked.app · (Record.field fields "watermark" {} fun v => (Checked.record v).bind Watermark.ofFields))
    |> (Checked.app · (Record.field fields "include_signature_fields" false Checked.truth))
    |> (Checked.app · (text "header_logo"))
    |> (Checked.app · (text "footer_text"))
    |> (Checked.app · (Record.field fields "custom_fonts" {} fun v => (Checked.record v).bind Fonts.ofFields))
    |> (Checked.app · (text "language"))
    |> (Checked.app · (text "document_number"))
    |> (Checked.app · (Record.field fields "document_category" "documents" Checked.text))
    |> (Checked.app · (text "document_type"))
  checked.andAlso (Record.unknown fields names)

def ofValue (v : Value) : Checked Options := (Checked.record v).bind ofFields

/-- A text that is there and not empty. -/
def given? (s : Option String) : Option String := s.filter (!·.isEmpty)

/-- Options in which everything is filled in that configuration, clock and chance can fill in. The type of the
document comes from the category of the template, once the template is known. -/
def withDefaults (o : Options) (s : Settings) (r : Reading) (template : Option Template) : Options :=
  { o with
    format := some (o.format.getD s.defaultFormat)
    filename := some ((given? o.filename).getD
      (String.ofList ("document-".toList ++ Literal.intText r.epochMilliseconds)))
    author := some ((given? o.author).getD s.defaultAuthor)
    language := some ((given? o.language).getD s.defaultLanguage)
    documentNumber := some ((given? o.documentNumber).getD (DocumentNumber.text "DOC" r))
    watermark :=
      match given? o.watermark.text with
      | some _ => o.watermark
      | none => { o.watermark with text := some s.defaultWatermark }
    documentType :=
      match given? o.documentType, template with
      | none, some t => some (if t.category.isEmpty then "general" else t.category)
      | _, _ => o.documentType }

/-- The title: that of the options, else the name of the template that readers see, else its name. -/
def titleFor (o : Options) (t : Template) : String :=
  match given? o.title with
  | some s => s
  | none => if t.displayName.isEmpty then t.name else t.displayName

/-! ## Options as data -/

def optionalText (s : Option String) : Value := s.elim .none .text

mutual

/-- A value with dates as text and sequences as lists. -/
def plain : Value → Value
  | .date d => .text (String.ofList (Moment.dateText d))
  | .moment m => .text (String.ofList (momentText m))
  | .list xs => .list (plainAll xs)
  | .tuple xs => .list (plainAll xs)
  | .record fields => .record (plainFields fields)
  | .float x => if x.isFinite then .float x else .none
  | .markup s => .text s
  | v => v

def plainAll : List Value → List Value
  | [] => []
  | x :: xs => plain x :: plainAll xs

def plainFields : List (String × Value) → List (String × Value)
  | [] => []
  | (k, v) :: rest => (k, plain v) :: plainFields rest

/-- A moment in which a distance of zero from UTC is written as a letter. -/
def momentText (m : Moment) : List Char :=
  if m.offset = some 0 then ({ m with offset := none } : Moment).isoText ++ ['Z'] else m.isoText

end

/-- The options as fields, as templates and callers see them. -/
def toFields (o : Options) : Fields :=
  [("format", optionalText (o.format.map OutputFormat.name)),
    ("filename", optionalText o.filename),
    ("author", optionalText o.author),
    ("title", optionalText o.title),
    ("subject", optionalText o.subject),
    ("keywords", .list (o.keywords.map .text)),
    ("metadata", .record (plainFields o.metadata)),
    ("revision", .int o.revision),
    ("watermark", .record [("enabled", .bool o.watermark.isEnabled), ("text", optionalText o.watermark.text)]),
    ("include_signature_fields", .bool o.hasSignatures),
    ("header_logo", optionalText o.headerLogo),
    ("footer_text", optionalText o.footerText),
    ("custom_fonts", .record [("body", optionalText o.fonts.body), ("heading", optionalText o.fonts.heading),
      ("monospace", optionalText o.fonts.monospace)]),
    ("language", optionalText o.language),
    ("document_number", optionalText o.documentNumber),
    ("document_category", .text o.documentCategory),
    ("document_type", optionalText o.documentType)]

end Options

/-- A template as fields, with its formats in the order of the alphabet. -/
def Template.toFields (t : Template) : Fields :=
  [("id", .text t.id),
    ("name", .text t.name),
    ("display_name", .text t.displayName),
    ("content", Options.plain t.content.toValue),
    ("content_type", .text t.dialect.name),
    ("supported_formats", .list (t.sortedFormats.map .text)),
    ("css", .text t.css),
    ("header_template", Options.optionalText t.header),
    ("footer_template", Options.optionalText t.footer),
    ("page_settings", .record t.page.toFields),
    ("category", .text t.category),
    ("type", .text t.type),
    ("version", .int t.version),
    ("metadata", .record (Options.plainFields t.metadata))]

end Letterpress
