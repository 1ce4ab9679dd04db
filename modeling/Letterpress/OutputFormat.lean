import Letterpress.Text.Case
import Letterpress.Text.Trim

/-!
# Output formats

The formats of finished documents.

* `OutputFormat.ofText?`: a format by its name or an alias, in any case and with blanks around it.
-/

namespace Letterpress

inductive OutputFormat where
  | pdf
  | docx
  | html
  | markdown
  deriving DecidableEq, Repr, Inhabited

namespace OutputFormat

def all : List OutputFormat := [pdf, docx, html, markdown]

def name : OutputFormat → String
  | pdf => "pdf"
  | docx => "docx"
  | html => "html"
  | markdown => "markdown"

def extension : OutputFormat → String
  | pdf => "pdf"
  | docx => "docx"
  | html => "html"
  | markdown => "md"

def mediaType : OutputFormat → String
  | pdf => "application/pdf"
  | docx => "application/vnd.openxmlformats-officedocument.wordprocessingml.document"
  | html => "text/html"
  | markdown => "text/markdown"

/-- Other names of formats. -/
def ofAlias? (s : String) : Option OutputFormat :=
  match s with
  | "md" => some markdown
  | "htm" => some html
  | s => all.find? fun f => f.name == s

def ofText? (s : String) : Option OutputFormat := ofAlias? (String.ofList (Text.lower (Text.trim s.toList)))

/-- The names of some formats in the order of the alphabet. -/
def sortedNames (fs : List OutputFormat) : List String :=
  ([docx, html, markdown, pdf].filter fs.contains).map name

end OutputFormat

end Letterpress
