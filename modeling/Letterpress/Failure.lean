import Letterpress.Fault
import Letterpress.Template

/-!
# Failures

What can go wrong while a document is made. Each stage has failures of its own, which keep what they were caused
by.

* `Failure.cause?`: what a failure was caused by.
* `Failure.text`: what a reader is told.
-/

namespace Letterpress

/-- The parts of making an artifact that can fail. -/
inductive MakingStep where
  | composing
  | writing
  | printing
  | stamping
  deriving DecidableEq, Repr, Inhabited

namespace MakingStep

/-- What the text of a failure in this step starts with. -/
def lead : MakingStep → String
  | composing => ""
  | writing => "Failed to write artifact: "
  | printing => "Browser rendering failed: "
  | stamping => "Failed to stamp document metadata: "

end MakingStep

inductive Failure where
  | fault (f : Fault)
  /-- a record that does not follow its rules -/
  | invalid (issues : List Issue)
  /-- bytes that are no file for printing -/
  | notPrintable
  /-- the use of what has been given up -/
  | disposed (what : String)
  | templateNotFound (id : String) (lookup : Option Failure)
  | unsupportedFormat (id requested : String) (offered : List String) (cause : Option Failure)
  | invalidOptions (cause : Failure)
  | contentNotText (id : String) (dialect : Dialect)
  | rendering (id : String) (cause : Failure)
  | making (format : OutputFormat) (step : MakingStep) (cause : Failure)
  /-- a refusal of the printing engine, in its own words -/
  | printing (text : String)
  | unreadableArtifact (name : String) (cause : Failure)
  | notStored (number : String) (cause : Failure)
  | sizeMismatch (reported : Int) (number : String) (expected : Nat)
  | notDescribed (key : String) (cause : Failure)
  | unknownStorage (name : String)
  | objectNotWritten (key : String) (cause : Failure)
  | serviceUnreachable (correlation : String) (cause : Failure)
  | serviceRefused (status : Int) (correlation body : String)
  | invalidResponse (correlation : String) (cause : Failure)
  deriving Inhabited

namespace Failure

/-- What stands in the text of a failure for a cause that does not explain itself. -/
structure Wording where
  fault : Fault → String
  invalid : String
  notPrintable : String

def cause? : Failure → Option Failure
  | templateNotFound _ lookup => lookup
  | unsupportedFormat _ _ _ cause => cause
  | invalidOptions cause => some cause
  | rendering _ cause => some cause
  | making _ _ cause => some cause
  | unreadableArtifact _ cause => some cause
  | notStored _ cause => some cause
  | notDescribed _ cause => some cause
  | objectNotWritten _ cause => some cause
  | serviceUnreachable _ cause => some cause
  | invalidResponse _ cause => some cause
  | _ => none

/-- Whether a failure is one that a generation knows as its own. -/
def isKnown : Failure → Bool
  | templateNotFound _ _ | unsupportedFormat _ _ _ _ | invalidOptions _ | contentNotText _ _ | rendering _ _
  | making _ _ _ | printing _ | unreadableArtifact _ _ | notStored _ _ | sizeMismatch _ _ _ | notDescribed _ _ => true
  | _ => false

/-- The text of a failure. -/
def text (w : Wording) : Failure → String
  | fault f => f.message?.getD (w.fault f)
  | invalid _ => w.invalid
  | notPrintable => w.notPrintable
  | disposed what => s!"{what} has been disposed"
  | templateNotFound id none => s!"Template '{id}' not found."
  | templateNotFound id (some e) => s!"Template '{id}' not found. Template store lookup failed: {text w e}"
  | unsupportedFormat id requested offered _ =>
    s!"Format '{requested}' is not supported by template '{id}'. Available formats: " ++ ", ".intercalate offered
  | invalidOptions e => s!"Invalid generation options: {text w e}"
  | contentNotText id d => s!"Rendering failed for template '{id}': {d.name} content must be a string"
  | rendering id e => s!"Rendering failed for template '{id}': {text w e}"
  | making f step e => s!"{f.name.toUpper} generation failed: {step.lead}{text w e}"
  | printing t => s!"{OutputFormat.pdf.name.toUpper} generation failed: {t}"
  | unreadableArtifact name e => s!"Failed to read artifact {name}: {text w e}"
  | notStored number e => s!"Failed to store document {number}: {text w e}"
  | sizeMismatch reported number expected =>
    s!"Storage reported {reported} bytes for document {number}, expected {expected}"
  | notDescribed key e => s!"Stored document {key} could not be described: {text w e}"
  | unknownStorage name => s!"Unknown storage backend '{name}'"
  | objectNotWritten key e => s!"Failed to write object '{key}': {text w e}"
  | serviceUnreachable id e => s!"Failed to call storage service (correlation_id={id}): {text w e}"
  | serviceRefused status id body =>
    s!"Storage service error (status={status}, correlation_id={id}): {body}"
  | invalidResponse id e => s!"Storage service returned an invalid response (correlation_id={id}): {text w e}"

/-- A fault as a failure. -/
def ofFault {α : Type} (r : Except Fault α) : Except Failure α := r.mapError fault

/-- A refused record as a failure. -/
def ofChecked {α : Type} (r : Checked α) : Except Failure α := r.mapError invalid

end Failure

end Letterpress
