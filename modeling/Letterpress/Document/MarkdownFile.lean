import Letterpress.Block.Flattening
import Letterpress.Document.Fragment
import Letterpress.Yaml.Writer

/-!
# Markdown files

A document as Markdown text, with what is known about it in front.

* `MarkdownFile.frontMatter`: what is known about a document.
* `MarkdownFile.of`: the file of a document.
-/

namespace Letterpress.MarkdownFile

open Fragment Text

/-- The line that stands before and behind the front matter. -/
def fence : List Char := "---".toList

def frontFields (d : Draft) : Fields :=
  let t := d.template
  [("title", .text (d.options.titleFor t)),
    ("author", Options.optionalText d.options.author),
    ("date", (Fields.get? "currentDate" d.context.values).getD .none),
    ("document_id", d.context.documentNumber),
    ("revision", .int d.options.revision),
    ("template", .text t.name),
    ("category", .text t.category),
    ("type", .text ((Options.given? d.options.documentType).getD t.type)),
    ("client", .text d.context.clientId)]

/-- Empty text in place of nothing. -/
def orEmpty (v : Value) : Value :=
  match v with
  | .none => .text ""
  | v => v

def frontMatter (d : Draft) : List Char :=
  fence ++ '\n' :: Yaml.write ((frontFields d).map fun (k, v) => (k, orEmpty v)) ++ fence

/-- Markdown as it was rendered, or the blocks of the hypertext. -/
def body (r : Rendered) : Except Fault (List Char) :=
  match r.dialect, r.markup with
  | .markup, some m => .ok (trim m.toList)
  | _, _ => do return Block.toMarkdown (← Block.ofHypertext r.html.toList)

def signatureLine : List Char := List.replicate 29 '_'

def signatures (c : Context) : List Char :=
  trimRight (joinLines ((parties c).flatMap fun p => [signatureLine, [], p.toList, []]))

/-- The number of a document and the time, and the watermark if there is one. -/
def stamp (d : Draft) : List Char :=
  let mark := match d.options.watermark.isEnabled, d.options.watermark.text with
    | true, some s => " - ".toList ++ s.toList
    | true, none => " - None".toList
    | false, _ => []
  "Document #".toList ++ d.context.documentNumber.display ++ " - Generated on ".toList ++
    ((Fields.get? "currentDateTime" d.context.values).getD .none).display ++ mark

def of (d : Draft) : Except Fault (List Char) := do
  let sections :=
    [frontMatter d, "# ".toList ++ (d.options.titleFor d.template).toList, ← body d.rendered,
      if d.options.hasSignatures then signatures d.context else [],
      ((Options.given? d.options.footerText).getD "").toList, fence, stamp d]
  return joinWith ['\n', '\n'] (sections.filter (!·.isEmpty)) ++ ['\n']

end Letterpress.MarkdownFile
