import Letterpress.Failure
import Letterpress.Notice

/-!
# Progress

The steps of a generation as they are announced.

* `Progress.stage`: the stage of a step.
* `Progress.notice`: the notice of a step.
-/

namespace Letterpress

inductive Progress where
  | started (format : OutputFormat)
  | templateResolved (dialect : Dialect)
  /-- with the names of helpers that the data also uses -/
  | contentRendered (collisions : List String)
  | artifactGenerated (format : OutputFormat)
  | documentStored (path : String) (size : Int)
  | completed (digest : String)
  | failed (e : Failure)
  deriving Inhabited

namespace Progress

def stage : Progress → Stage
  | started _ => .started
  | templateResolved _ => .templateResolved
  | contentRendered _ => .contentRendered
  | artifactGenerated _ => .artifactGenerated
  | documentStored _ _ => .documentStored
  | completed _ => .completed
  | failed _ => .failed

/-- The details of a step, given those of a failure. -/
def details (ofFailure : Failure → Fields) : Progress → Fields
  | started f => [("format", .text f.name)]
  | templateResolved d => [("content_type", .text d.name)]
  | contentRendered names => [("helper_collisions", .list (names.map .text))]
  | artifactGenerated f => [("format", .text f.name)]
  | documentStored path size => [("path", .text path), ("size", .int size)]
  | completed digest => [("document_hash", .text digest)]
  | failed e => ofFailure e

def notice (ofFailure : Failure → Fields) (number templateId : String) (p : Progress) : Notice :=
  ⟨number, templateId, p.stage, p.details ofFailure⟩

end Progress

end Letterpress
