import Letterpress.Validation
import Letterpress.Value.Literal

/-!
# Notices

What is told to the outside about the progress of a document. Notices are for watching only: nothing that is done
depends on them.

* `Notice.ofFields`: a notice from its fields.
* `Notice.level`, `Notice.line`: how a notice appears in a log.
-/

namespace Letterpress

/-- How far a document has come. -/
inductive Stage where
  | started
  | templateResolved
  | contentRendered
  | artifactGenerated
  | documentStored
  | completed
  | failed
  deriving DecidableEq, Repr, Inhabited

namespace Stage

def all : List Stage :=
  [started, templateResolved, contentRendered, artifactGenerated, documentStored, completed, failed]

def name : Stage → String
  | started => "generation_started"
  | templateResolved => "template_resolved"
  | contentRendered => "content_rendered"
  | artifactGenerated => "artifact_generated"
  | documentStored => "document_stored"
  | completed => "generation_completed"
  | failed => "generation_failed"

def ofName? (s : String) : Option Stage := all.find? fun e => e.name == s

/-- Whether nothing follows. -/
def isTerminal (e : Stage) : Bool := e == completed || e == failed

end Stage

structure Notice where
  documentNumber : String
  templateId : String
  stage : Stage
  details : Fields := []
  deriving Inhabited

namespace Notice

def build (documentNumber templateId : String) (stage : Stage) (details : Fields) : Notice :=
  { documentNumber, templateId, stage, details }

def optionalMapping (v : Value) : Checked Fields :=
  match v with
  | .none => .ok []
  | v => Checked.mapping v

/-- The names of the fields; the first two are given to a notice when it is made. -/
def names : List String := ["event_id", "timestamp", "document_number", "template_id", "event_type", "details"]

def ofFields (fields : Fields) : Checked Notice :=
  let checked := (Except.ok build : Checked _)
    |> (Checked.app · (Record.required fields "document_number" Checked.text))
    |> (Checked.app · (Record.required fields "template_id" Checked.text))
    |> (Checked.app · (Record.required fields "event_type" (Checked.member Stage.ofName?)))
    |> (Checked.app · (Record.field fields "details" [] optionalMapping))
  checked.andAlso (Record.unknown fields names)

/-- How much a notice matters. -/
inductive Level where
  | debug
  | info
  | warning
  deriving DecidableEq, Repr, Inhabited

def Level.name : Level → String
  | debug => "DEBUG"
  | info => "INFO"
  | warning => "WARNING"

/-- The end of a generation is told loudly, and louder where its details name an error. -/
def level (n : Notice) : Level :=
  if !n.stage.isTerminal then .debug
  else if Fields.contains "error_type" n.details then .warning
  else .info

def line (n : Notice) : String :=
  let number := if n.documentNumber.isEmpty then "-" else n.documentNumber
  s!"[{number}] {n.stage.name} template={n.templateId} details=" ++ String.ofList (Value.literal (.record n.details))

end Notice

end Letterpress
