import Letterpress.Helper
import Letterpress.Options

/-!
# Contexts

What a template is rendered with: defaults about the document, the caller's data over them, and the metadata of
the options over both. Helpers win over all of them, and the number of a document is that of its options.

* `Context.of`: the context of a document.
* `Context.resolvePath`: the value at the end of a path of keys and indices.
* `Context.valueAt`, `Context.requiredAt`: that value with a default, and as one that must be there.
-/

namespace Letterpress

structure Context where
  values : Fields
  /-- the locale and the patterns that helpers use -/
  setting : Helper.Setting
  /-- the names in the caller's data that belong to helpers -/
  collisions : List String
  deriving Inhabited

namespace Context

def locale (c : Context) : String := c.setting.locale

def textOf (cs : List Char) : Value := .text (String.ofList cs)

/-- What is known of every document. -/
def defaults (t : Template) (o : Options) (s : Settings) (locale : String) (now : Moment) :
    Except Fault Fields := do
  let date := textOf (← Locale.DatePattern.formatDate locale s.dateFormat.toList now.date)
  let moment := textOf (← Locale.DatePattern.formatMoment locale s.dateTimeFormat.toList now)
  let clock := textOf (← Locale.DatePattern.formatTime locale "HH:mm:ss".toList now)
  let number := Options.optionalText o.documentNumber
  return [("currentDate", date),
    ("currentDateTime", moment),
    ("currentYear", textOf (Literal.natText now.date.year)),
    ("templateName", .text t.name),
    ("templateDisplayName", .text t.displayName),
    ("templateVersion", .int t.version),
    ("documentId", number),
    ("documentNumber", number),
    ("documentTitle", .text (o.titleFor t)),
    ("documentAuthor", Options.optionalText o.author),
    ("documentCreationDate", date),
    ("documentCreationTime", clock),
    ("revision", .int o.revision),
    ("companyName", .text s.companyName),
    ("companyLogo", Options.optionalText s.companyLogo)]

/-- The fields under `key` in `fields`, with those of `base` under the given names in place of them. -/
def restore (base : Fields) (keys : List String) (fields : Fields) : Fields :=
  keys.foldl (fun fs k => Fields.set fs k ((Fields.get? k base).getD .none)) fields

def identityKeys : List String := ["documentNumber", "documentId"]

/-- Keys whose empty values count as missing. -/
def dateKeys : List String := ["currentDate", "currentDateTime"]

def isMissing (v : Value) : Bool :=
  match v with
  | .none => true
  | .text s => s.isEmpty
  | .markup s => s.isEmpty
  | _ => false

def fillDates (base fields : Fields) : Fields :=
  dateKeys.foldl (fun fs k =>
    if isMissing ((Fields.get? k fs).getD .none) then Fields.set fs k ((Fields.get? k base).getD .none) else fs)
    fields

/-- The fields of a mapping; of other values none. -/
def fieldsOf (v : Option Value) : Fields :=
  match v with
  | some (.record fields) => fields
  | _ => []

/-- The caller's data over the defaults, and the metadata of the options over both. -/
def mergedValues (base data : Fields) (o : Options) : Fields :=
  let merged := Fields.overlay (Fields.overlay base data) o.metadata
  let metadata := Fields.overlay (Fields.overlay base (fieldsOf (Fields.get? "metadata" data))) o.metadata
  let withOwn := Fields.set (Fields.set merged "metadata" (.record (restore base identityKeys metadata)))
    "options" (.record o.toFields)
  fillDates base (restore base identityKeys withOwn)

def of (data : Fields) (t : Template) (o : Options) (s : Settings) (now : Moment) : Except Fault Context := do
  let locale := Locale.normalize o.language
  let base ← defaults t o s locale now
  return {
    values := mergedValues base data o
    setting := ⟨locale, s.dateFormat, s.dateTimeFormat, s.timeFormat⟩
    collisions := Helper.collisions (data.map (·.1)) }

/-- The helpers as values. -/
def helperFields : Fields := Helper.all.map fun h => (h.name, .function h.name)

def lookup (c : Context) (name : String) (default : Value) : Value :=
  if (Helper.ofName? name).isSome then .function name else (Fields.get? name c.values).getD default

/-- All names that a template can use. -/
def names (c : Context) : Fields := Fields.overlay c.values helperFields

def documentNumber (c : Context) : Value := (Fields.get? "documentNumber" c.values).getD .none

/-- The part of a value behind a segment of a path: a key of a mapping, or an index of a sequence. -/
def descend (v : Value) (segment : List Char) : Except Fault (Option Value) :=
  let indexed (xs : List Value) : Except Fault (Option Value) :=
    if segment.isEmpty || !segment.all Text.isDigit then .ok none
    else
      match Number.readInt? segment with
      | some i => .ok xs[i.toNat]?
      | none => .error Fault.badValue
  match v with
  | .record fields => .ok (Fields.get? (String.ofList segment) fields)
  | .list xs => indexed xs
  | .tuple xs => indexed xs
  | _ => .ok none

def follow (v : Value) : List (List Char) → Except Fault (Option Value)
  | [] => .ok (some v)
  | segment :: rest => do
    match ← descend v segment with
    | some w => follow w rest
    | none => return none

/-- The value at the end of a path whose segments points divide, none if a segment leads nowhere. -/
def resolvePath (c : Context) (path : List Char) : Except Fault (Option Value) :=
  follow (.record c.values) (Text.splitBy (· == '.') (Text.trim path))

/-- The value at the end of a path, or a default where a segment leads nowhere. -/
def valueAt (c : Context) (path : List Char) (default : Value) : Except Fault Value := do
  return (← c.resolvePath path).getD default

/-- The value at the end of a path, which must be there. -/
def requiredAt (c : Context) (path : List Char) : Except Fault Value := do
  match ← c.resolvePath path with
  | some v => return v
  | none => throw (.noKey (String.ofList (Literal.quote path)))

/-- The owner of the document in storage. -/
def clientId (c : Context) : String :=
  let pick (k : String) : Option Value :=
    (Fields.get? k c.values).filter fun v => (v.truth?.toOption).getD true
  match (pick "id").orElse fun _ => pick "clientId" with
  | some v => String.ofList v.display
  | none => "unknown"

end Context

end Letterpress
