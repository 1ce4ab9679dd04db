import Letterpress.Document.MarkdownFile
import Letterpress.Document.PrintPage
import Letterpress.Document.WebPage
import Letterpress.Document.WordFile
import Letterpress.Generation.Request
import Letterpress.Pdf.Entry

/-!
# Artifacts

The finished document as bytes in a file.

* `Artifact.compose`: the bytes of a document in a format.
* `Artifact.make`: the bytes written to a place that is allocated for them.
-/

namespace Letterpress

/-- How documents that are no text are written as bytes. -/
structure Packing where
  word : Word.Document → Bytes
  pdf : Pdf → Bytes

namespace Artifact

open Generation

/-- How a printed file describes its document. -/
def stamp (d : Draft) : Except Fault Pdf.Stamp :=
  (Entry.text (Fragment.subject d.template d.options)).map fun subject =>
  { title := (d.options.titleFor d.template).toList
    author := (d.options.author.getD "").toList
    creator := Fragment.creator.toList
    producer := s!"{Fragment.creator} ({d.template.name} v{d.template.version})".toList
    subject
    keywords := Fragment.keywords d.template d.options
    documentNumber := d.context.documentNumber.display }

/-- What is printed: the page, with a header and a footer. -/
def printJob (d : Draft) : Except Failure PrintJob := do
  let header ← PrintPage.header d.context d.options d.template
  let footer ← PrintPage.footer d.context d.options d.template
  return ⟨String.ofList (PrintPage.of d), d.template.page, header, some footer⟩

def compose (k : Packing) (d : Draft) : OutputFormat → Course (Except Failure Bytes)
  | .html => return .ok (Text.utf8 (WebPage.of d))
  | .markdown => return (Failure.ofFault (MarkdownFile.of d)).map Text.utf8
  | .docx => do
    let logo ← match Options.given? d.options.headerLogo with
      | some path => Course.picture path
      | none => pure none
    return (Failure.ofFault (WordFile.of d logo)).map k.word
  | .pdf => do
    match printJob d with
    | .error e => return .error e
    | .ok job => return ((← Course.print job).bind (Printed.stamp (stamp d))).map k.pdf

/-- A failure to compose a document. Those that a generation knows stay as they are. -/
def uncomposed (f : OutputFormat) (e : Failure) : Failure := if e.isKnown then e else .making f .composing e

def unwritten (f : OutputFormat) (e : Fault) : Failure :=
  if e.isSystem then .making f .writing (.fault e) else .fault e

/-- The place of an artifact that is made. Where that fails, no file is left. -/
def make (k : Packing) (d : Draft) (f : OutputFormat) : Course (Except Failure Place) := do
  match ← compose k d f with
  | .error e => return .error (uncomposed f e)
  | .ok content =>
    match ← Course.allocate ((Options.given? d.options.filename).getD "document") f with
    | .error e => return .error e
    | .ok p =>
      match ← Course.write p content with
      | .ok _ => return .ok p
      | .error e =>
        Course.discard p
        return .error (unwritten f e)

end Artifact

end Letterpress
