import Letterpress.Generation.Artifact
import Letterpress.Generation.Delivery
import Letterpress.Rendering

/-!
# Generation

A document from a template, data and options: the template is resolved, its format checked, the data enriched, the
content rendered, the artifact made, fingerprinted and stored. Each step is announced. The artifact in the workspace
is taken away at the end, whatever happens.

* `Generation.Choice.accept`: the options that a caller gives, if they are valid.
* `Generation.course`: a generation from beginning to end.
-/

namespace Letterpress.Generation

/-- The options as a caller gives them. -/
inductive Choice where
  | none
  | checked (o : Options)
  | unchecked (v : Value)
  deriving Inhabited

namespace Choice

/-- Whether an issue is about the format. -/
def isAboutFormat (i : Issue) : Bool := i.place.head? == some (.key "format")

/-- The text of the format that is asked for. -/
def requested (v : Value) : String :=
  match v with
  | .record fields => String.ofList ((Fields.get? "format" fields).getD .none).display
  | _ => "None"

/-- A refusal of options. One that concerns the format is told as such, whatever else there is. -/
def refusal (templateId : String) (v : Value) (issues : List Issue) : Failure :=
  if issues.any isAboutFormat then
    .unsupportedFormat templateId (requested v) (OutputFormat.sortedNames OutputFormat.all) (some (.invalid issues))
  else .invalidOptions (.invalid issues)

def accept (templateId : String) : Choice → Except Failure Options
  | none => .ok {}
  | checked o => .ok o
  | unchecked v => (Options.ofValue v).mapError (refusal templateId v)

end Choice

/-- What a caller asks for. -/
structure Order where
  templateId : String
  data : Fields
  choice : Choice
  deriving Inhabited

/-- From the template to the rendered draft. -/
def prepare (s : Settings) (order : Order) (o : Options) (number : String) :
    Course (Except Failure (Draft × OutputFormat)) := do
  let id := order.templateId
  match ← Course.resolve id with
  | .error e => return .error e
  | .ok t =>
    let o := o.withDefaults s (← Course.clock) (some t)
    let f := o.format.getD s.defaultFormat
    if !t.supports f then return .error (.unsupportedFormat id f.name t.sortedFormats none)
    else
      Course.announce number id (.templateResolved t.dialect)
      let now := (← Course.clock).now
      match Failure.ofFault (Context.of order.data t o s now) with
      | .error e => return .error e
      | .ok c =>
        match Rendered.of t c with
        | .error e => return .error e
        | .ok rendered =>
          Course.announce number id (.contentRendered c.collisions)
          return .ok (⟨rendered, c, o, t⟩, f)

/-- From the artifact to the descriptor. -/
def deliver (s : Settings) (order : Order) (number : String) (place : Place) (d : Draft) (f : OutputFormat) :
    Course (Except Failure Descriptor) := do
  Course.announce number order.templateId (.artifactGenerated f)
  match ← Delivery.course place d.template d.context d.options s f with
  | .error e => return .error e
  | .ok document =>
    Course.announce number order.templateId (.documentStored document.path document.size)
    return .ok document

/-- From the template to the descriptor, with the place of the artifact if one was made. -/
def work (k : Packing) (s : Settings) (order : Order) (o : Options) (number : String) :
    Course (Option Place × Except Failure Descriptor) := do
  match ← prepare s order o number with
  | .error e => return (none, .error e)
  | .ok (d, f) =>
    match ← Artifact.make k d f with
    | .error e => return (none, .error e)
    | .ok place => return (some place, ← deliver s order number place d f)

def discardSome : Option Place → Course Unit
  | some p => Course.discard p
  | none => pure ()

/-- The end of a generation: its last announcement, and the artifact taken away. -/
def conclude (order : Order) (number : String) (place : Option Place) (r : Except Failure Descriptor) :
    Course (Except Failure Descriptor) := do
  match r with
  | .error e =>
    Course.announce number order.templateId (.failed e)
    discardSome place
  | .ok document =>
    discardSome place
    Course.announce number order.templateId (.completed document.digest)
  return r

def course (k : Packing) (s : Settings) (order : Order) : Course (Except Failure Descriptor) := do
  match order.choice.accept order.templateId with
  | .error e => conclude order "" none (.error e)
  | .ok o =>
    let o := o.withDefaults s (← Course.clock) none
    let number := o.documentNumber.getD ""
    Course.announce number order.templateId (.started (o.format.getD s.defaultFormat))
    let (place, r) ← work k s order o number
    conclude order number place r

end Letterpress.Generation
