import Letterpress.Digest
import Letterpress.Document.Fragment
import Letterpress.Generation.Request

/-!
# Delivery

A finished artifact is read back, fingerprinted and handed to a storage; the descriptor says what was handed over and
where it is.

* `Delivery.metadata`: what goes to the storage along with an artifact.
* `Delivery.describe`: the descriptor of a stored artifact.
* `Delivery.course`: the delivery from the artifact to the descriptor.
-/

namespace Letterpress

/-- The record of a stored document. -/
structure Descriptor where
  templateId : String
  templateName : String
  path : String
  url : String
  format : OutputFormat
  size : Int
  digest : String
  documentNumber : String
  createdAt : Moment
  revision : Int
  metadata : Fields
  deriving Inhabited

namespace Descriptor

def toFields (d : Descriptor) : Fields :=
  [("template_id", .text d.templateId), ("template_name", .text d.templateName), ("document_path", .text d.path),
    ("document_url", .text d.url), ("format", .text d.format.name), ("size", .int d.size),
    ("document_hash", .text d.digest), ("document_number", .text d.documentNumber),
    ("created_at", .text (String.ofList (Options.momentText d.createdAt))), ("revision", .int d.revision),
    ("metadata", .record (Options.plainFields d.metadata))]

end Descriptor

namespace Delivery

open Generation

/-- An artifact on its way to a storage. -/
structure Parcel where
  template : Template
  context : Context
  options : Options
  settings : Settings
  format : OutputFormat
  content : Bytes
  createdAt : Moment

namespace Parcel

def digest (p : Parcel) : String := String.ofList (Digest.hex p.content)

def number (p : Parcel) : String := String.ofList p.context.documentNumber.display

def filename (p : Parcel) : String := p.options.filename.getD "None" ++ "." ++ p.format.extension

end Parcel

/-- What goes to the storage along with an artifact. What the engine says wins over what the options say. -/
def metadata (p : Parcel) : Fields :=
  Fields.overlay p.options.metadata
    [("templateId", .text p.template.id), ("documentNumber", p.context.documentNumber),
      ("revision", .int p.options.revision), ("generatedAt", .text (String.ofList p.createdAt.isoText)),
      ("documentHash", .text p.digest)]

def upload (p : Parcel) : Upload :=
  { content := p.content, clientId := p.context.clientId, filename := p.filename, mediaType := p.format.mediaType
    category := p.options.documentCategory, metadata := metadata p
    tags := Storage.tags ((Options.given? p.options.documentType).getD "general") p.format.name }

/-- The descriptor of an artifact, from what the storage says about it. -/
def describe (p : Parcel) (r : Receipt) : Except Failure Descriptor :=
  let text (k : String) (v : Value) : Checked String := Checked.under (.key k) (Checked.text v)
  let places := (Except.ok Prod.mk : Checked _)
    |> (Checked.app · (text "document_path" r.key))
    |> (Checked.app · (text "document_url" r.url))
  match places with
  | .error issues => .error (.notDescribed (String.ofList r.key.display) (.invalid issues))
  | .ok (path, url) =>
    .ok {
      templateId := p.template.id, templateName := p.template.name, path, url, format := p.format, size := r.size
      digest := p.digest, documentNumber := p.number, createdAt := p.createdAt, revision := p.options.revision
      metadata := Fields.overlay p.options.metadata
        [("title", .text (p.options.titleFor p.template)), ("author", Options.optionalText p.options.author),
          ("bucket", r.bucket), ("generated_with", .text Fragment.creator),
          ("engine_version", .text p.settings.engineVersion), ("client_id", .text p.context.clientId)] }

/-- What the answer of a storage leads to. A storage that counts other bytes than it was given is not trusted. -/
def accept (p : Parcel) (answer : Except Failure Receipt) : Except Failure Descriptor :=
  match answer with
  | .error e => .error (.notStored p.number e)
  | .ok r =>
    if r.size = p.content.length then describe p r else .error (.sizeMismatch r.size p.number p.content.length)

/-- What a failure to read an artifact leads to. -/
def unread (place : Place) (f : Fault) : Failure :=
  if f.isSystem then .unreadableArtifact (place.getLast?.getD "") (.fault f) else .fault f

def course (place : Place) (t : Template) (c : Context) (o : Options) (s : Settings) (f : OutputFormat) :
    Course (Except Failure Descriptor) := do
  match ← Course.read place with
  | .error e => return .error (unread place e)
  | .ok content =>
    let now := (← Course.clock).now
    let p : Parcel := ⟨t, c, o, s, f, content, { now with offset := some 0 }⟩
    return accept p (← Course.upload (upload p))

end Delivery

end Letterpress
