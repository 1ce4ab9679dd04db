import Letterpress.Dialogue
import Letterpress.Json.Reader
import Letterpress.Json.Writer
import Letterpress.Storage

/-!
# Services as storage

A storage service on the web takes an object as a form of several parts and answers with a description of the stored
object.

* `Service.form`: the parts of the form.
* `Service.upload`: an upload, from the form to the answer.
* `Service.open_`, `Service.close`: the connection, which a service opens when it is first needed, unless it was given
  one.
-/

namespace Letterpress

structure Service where
  address : String
  seconds : Binary64 := Binary64.ofInt 30
  /-- whether the connection is its own to open and to close -/
  isOwn : Bool := true
  isOpen : Bool := false
  /-- how many connections it has opened -/
  opened : Nat := 0
  deriving Inhabited

/-- A part of a form. -/
structure FormPart where
  headers : List (List Char)
  body : Bytes
  deriving DecidableEq, Repr, Inhabited

structure FormRequest where
  address : String
  correlation : String
  parts : List FormPart
  deriving Inhabited

structure Response where
  status : Int
  body : Bytes
  deriving Inhabited

namespace Service

def open_ (s : Service) : Service := if s.isOpen then s else { s with isOpen := true, opened := s.opened + 1 }

def close (s : Service) : Service := if s.isOpen && s.isOwn then { s with isOpen := false } else s

/-- A character of a file name between quotation marks. -/
def escapeChar (c : Char) : List Char :=
  if c == '"' then ['%', '2', '2']
  else if c == '\\' then ['\\', '\\']
  else if c.toNat < 32 && c.toNat != 27 then
    '%' :: (Literal.hex 2 c.toNat).map fun d => if Text.isAsciiLower d then Char.ofNat (d.toNat - 32) else d
  else [c]

def quoted (cs : List Char) : List Char := '"' :: cs.flatMap escapeChar ++ ['"']

def disposition (name : String) : List Char := "Content-Disposition: form-data; name=".toList ++ quoted name.toList

def field (name : String) (body : List Char) : FormPart := ⟨[disposition name], Text.utf8 body⟩

def filePart (u : Upload) : FormPart :=
  let place := if u.filename.isEmpty then [] else "; filename=".toList ++ quoted u.filename.toList
  ⟨[disposition "file" ++ place, "Content-Type: ".toList ++ u.mediaType.toList], u.content⟩

/-- The form: owner, category, description and tags, and the object at its end. -/
def form (u : Upload) : List FormPart :=
  [field "client_id" u.clientId.toList, field "category" u.category.toList,
    field "metadata" (Json.compact true (.record u.metadata)), field "tags" (Json.compact true (.record u.tags)),
    filePart u]

/-- A text in groups of the given lengths. -/
def groups : List Nat → List Char → List (List Char)
  | [], _ => []
  | n :: rest, cs => cs.take n :: groups rest (cs.drop n)

/-- The mark by which an upload is found again in the records of the service: the digits of a mark in groups. -/
def correlation (mark : List Char) : String :=
  "docgen-" ++ String.ofList (Text.joinWith ['-'] (groups [8, 4, 4, 4, 12] mark))

def Response.isSuccess (r : Response) : Bool := 200 ≤ r.status && r.status ≤ 299

/-- The value that an answer holds. A mark of the byte order in front is skipped. -/
def value (r : Response) : Except Failure Value :=
  match Text.ofUtf8? r.body with
  | none => .error (.fault .badEncoding)
  | some cs =>
    let cs := match cs with
      | '\uFEFF' :: rest => rest
      | cs => cs
    match Json.read cs with
    | .ok v => .ok v
    | .error (p, n) => .error (.fault (.notJson (p.message cs n)))

/-- What the answer of the service says. -/
def outcome (correlation : String) (answer : Except Fault Response) : Except Failure StoredObject :=
  match answer with
  | .error e => .error (.serviceUnreachable correlation (.fault e))
  | .ok r =>
    if !Response.isSuccess r then
      .error (.serviceRefused r.status correlation (String.ofList (Text.ofUtf8 r.body)))
    else
      match (value r).bind fun v => Failure.ofChecked (StoredObject.ofValue v) with
      | .ok o => .ok o
      | .error e => .error (.invalidResponse correlation e)

/-- The questions of an upload to a service: requests. -/
abbrev Course := Dialogue FormRequest fun _ => Except Fault Response

def upload (s : Service) (mark : List Char) (u : Upload) : Course (Except Failure StoredObject) := do
  let c := correlation mark
  return outcome c (← Dialogue.put ⟨s.address, c, form u⟩)

end Service

end Letterpress
