import Letterpress.Number.Reading
import Letterpress.OutputFormat
import Letterpress.Path
import Letterpress.WebAddress

/-!
# Settings

What is configured once for all documents.

* `Settings.ofFields`: settings from the fields that are given.
* `Settings.ofSources`: settings from fields, from the environment and from a file of assignments, in this order
  of precedence.
-/

namespace Letterpress

/-- The kinds of storage for finished documents. -/
inductive StorageKind where
  | local
  | http
  deriving DecidableEq, Repr, Inhabited

namespace StorageKind

def name : StorageKind → String
  | .local => "local"
  | .http => "http"

def ofName? (s : String) : Option StorageKind := [StorageKind.local, .http].find? fun k => k.name == s

end StorageKind

structure Settings where
  templatesDir : String := "templates"
  cacheSeconds : Binary64 := Binary64.ofInt 3600
  defaultFormat : OutputFormat := .pdf
  defaultAuthor : String := "Document Engine"
  companyName : String := "Document Engine"
  companyLogo : Option String := none
  defaultLanguage : String := "it-IT"
  defaultWatermark : String := "DRAFT"
  dateFormat : String := "dd/MM/yyyy"
  dateTimeFormat : String := "dd/MM/yyyy HH:mm"
  timeFormat : String := "HH:mm"
  workspaceDir : Option String := none
  storageKind : StorageKind := .local
  storageDir : String := "generated-docs"
  storageAddress : Option String := none
  storageSeconds : Binary64 := Binary64.ofInt 30
  poolSize : Int := 2
  engineVersion : String := "1.0.0"
  deriving Inhabited

namespace Settings

def names : List String :=
  ["templates_dir", "template_cache_ttl_seconds", "default_format", "default_author", "company_name", "company_logo",
    "default_language", "default_watermark_text", "date_format", "datetime_format", "time_format", "workspace_dir",
    "storage_backend", "storage_dir", "storage_http_url", "storage_timeout_seconds", "browser_pool_size",
    "engine_version"]

def path (v : Value) : Checked String :=
  match v.string? with
  | some s => .ok (Path.normal s)
  | none => Checked.complain .notPath

def optionalPath (v : Value) : Checked (Option String) :=
  match v with
  | .none => .ok none
  | v => (path v).map some

/-- Text of at least one character. -/
def someText (v : Value) : Checked String :=
  (Checked.text v).bind fun s => if s.isEmpty then Checked.complain .tooShort else .ok s

def number (v : Value) : Checked Binary64 :=
  match v with
  | .bool b => .ok (Binary64.ofInt (if b then 1 else 0))
  | .int i => .ok (Binary64.ofInt i)
  | .float x => .ok x
  | v =>
    match v.string? with
    | some s => (Number.readBinary64? s.toList).elim (Checked.complain .unreadableNumber) .ok
    | none => Checked.complain .notNumber

def positive (v : Value) : Checked Binary64 :=
  (number v).bind fun x =>
    if x.cmp? Binary64.zero == some .gt then .ok x else Checked.complain .notGreater

def alternative {α : Type} (find : String → Option α) (v : Value) : Checked α :=
  match v.string?.bind find with
  | some a => .ok a
  | none => Checked.complain .notAlternative

/-- A format by its very name. -/
def formatOfName? (s : String) : Option OutputFormat := OutputFormat.all.find? fun f => f.name == s

/-- The refusal of settings that name the web as storage but no address. -/
def addressMissing : String := "DOCGEN_STORAGE_BACKEND is 'http' but DOCGEN_STORAGE_HTTP_URL is not configured."

def address (kind : Checked StorageKind) (v : Value) : Checked (Option String) :=
  match v with
  | .none =>
    match kind with
    | .ok .http => Checked.complain (.refused addressMissing)
    | _ => .ok none
  | v => (WebAddress.normalize v).map some

def ofFields (fields : Fields) : Checked Settings :=
  let kind := Record.field fields "storage_backend" StorageKind.local (alternative StorageKind.ofName?)
  let size := fun v => Checked.atMost 16 (Checked.atLeast 1 (Checked.whole v))
  let place := Checked.under (.key "storage_http_url") (address kind ((fields.get? "storage_http_url").getD .none))
  (Except.ok Settings.mk : Checked _)
    |> (Checked.app · (Record.field fields "templates_dir" "templates" path))
    |> (Checked.app · (Record.field fields "template_cache_ttl_seconds" (Binary64.ofInt 3600) positive))
    |> (Checked.app · (Record.field fields "default_format" .pdf (alternative formatOfName?)))
    |> (Checked.app · (Record.field fields "default_author" "Document Engine" someText))
    |> (Checked.app · (Record.field fields "company_name" "Document Engine" someText))
    |> (Checked.app · (Record.field fields "company_logo" none Checked.optionalText))
    |> (Checked.app · (Record.field fields "default_language" "it-IT" someText))
    |> (Checked.app · (Record.field fields "default_watermark_text" "DRAFT" someText))
    |> (Checked.app · (Record.field fields "date_format" "dd/MM/yyyy" Checked.text))
    |> (Checked.app · (Record.field fields "datetime_format" "dd/MM/yyyy HH:mm" Checked.text))
    |> (Checked.app · (Record.field fields "time_format" "HH:mm" Checked.text))
    |> (Checked.app · (Record.field fields "workspace_dir" none optionalPath))
    |> (Checked.app · kind)
    |> (Checked.app · (Record.field fields "storage_dir" "generated-docs" path))
    |> (Checked.app · place)
    |> (Checked.app · (Record.field fields "storage_timeout_seconds" (Binary64.ofInt 30) positive))
    |> (Checked.app · (Record.field fields "browser_pool_size" 2 size))
    |> (Checked.app · (Record.field fields "engine_version" "1.0.0" Checked.text))

/-- The settings as fields. -/
def toFields (s : Settings) : Fields :=
  let optional (t : Option String) : Value := t.elim .none .text
  [("templates_dir", .text s.templatesDir),
    ("template_cache_ttl_seconds", .float s.cacheSeconds),
    ("default_format", .text s.defaultFormat.name),
    ("default_author", .text s.defaultAuthor),
    ("company_name", .text s.companyName),
    ("company_logo", optional s.companyLogo),
    ("default_language", .text s.defaultLanguage),
    ("default_watermark_text", .text s.defaultWatermark),
    ("date_format", .text s.dateFormat),
    ("datetime_format", .text s.dateTimeFormat),
    ("time_format", .text s.timeFormat),
    ("workspace_dir", optional s.workspaceDir),
    ("storage_backend", .text s.storageKind.name),
    ("storage_dir", .text s.storageDir),
    ("storage_http_url", optional s.storageAddress),
    ("storage_timeout_seconds", .float s.storageSeconds),
    ("browser_pool_size", .int s.poolSize),
    ("engine_version", .text s.engineVersion)]

/-! ## The environment -/

/-- What the names of variables for settings start with. -/
def variableStart : String := "docgen_"

/-- The settings among variables, whose names are read without regard to case. -/
def ofVariables (environment : List (String × String)) : Fields :=
  let lowered := environment.map fun (k, v) => (String.ofList (Text.lower k.toList), v)
  names.filterMap fun n =>
    (lowered.reverse.lookup (variableStart ++ n)).map fun v => (n, Value.text v)

/-- The value of an assignment: in quotes, or up to a comment. -/
def assignedValue (cs : List Char) : List Char :=
  match Text.trimLeft cs with
  | '\'' :: rest =>
    if rest.contains '\'' then rest.takeWhile (· != '\'') else Text.trim cs
  | '"' :: rest => if rest.contains '"' then unescape rest else Text.trim cs
  | cs => Text.trimRight (beforeComment true cs)
where
  unescape : List Char → List Char
    | [] => []
    | '"' :: _ => []
    | '\\' :: 'n' :: rest => '\n' :: unescape rest
    | '\\' :: 't' :: rest => '\t' :: unescape rest
    | '\\' :: 'r' :: rest => '\r' :: unescape rest
    | '\\' :: c :: rest => if c == '"' || c == '\\' then c :: unescape rest else '\\' :: c :: unescape rest
    | c :: rest => c :: unescape rest
  beforeComment (afterBlank : Bool) : List Char → List Char
    | [] => []
    | c :: rest => if c == '#' && afterBlank then [] else c :: beforeComment (Text.isBlank c) rest

/-- The assignment on a line. -/
def assignment? (line : List Char) : Option (String × String) :=
  let line := Text.trim line
  let line := ((Text.dropPrefix? "export ".toList line).map Text.trimLeft).getD line
  if line.isEmpty || line.head? == some '#' then none
  else
    match Text.breakOn? ['='] line with
    | some (key, value) => some (String.ofList (Text.trim key), String.ofList (assignedValue value))
    | none => none

/-- The assignments of a file, one a line. -/
def assignments (file : String) : List (String × String) :=
  (Text.splitBy (· == '\n') (Text.normalizeNewlines file.toList)).filterMap assignment?

def ofSources (fields : Fields) (environment : List (String × String)) (file : String) : Checked Settings :=
  ofFields (Fields.overlay (Fields.overlay (ofVariables (assignments file)) (ofVariables environment)) fields)

/-- The settings of a process: those that were made first, as long as they are remembered. Only settings that
could be made are remembered. -/
def current (remembered : Option Settings) (environment : List (String × String)) : Checked Settings × Option Settings :=
  match remembered with
  | some s => (.ok s, some s)
  | none =>
    let made := ofSources [] environment ""
    (made, made.toOption)

end Settings

end Letterpress
