import Letterpress.Dialogue
import Letterpress.FileSystem
import Letterpress.Json.Writer
import Letterpress.Storage
import Letterpress.WebAddress

/-!
# Folders as storage

Objects as files below a directory, by client and category. Beside each object stands a file that describes it.

* `Folder.key`: the name of an object, made from a mark that is drawn for it.
* `Folder.upload`: an object written to a file system, step by step.
-/

namespace Letterpress

/-- What is asked of a file system. -/
inductive FileTask where
  | makeDirectories (p : Place)
  | write (p : Place) (content : Bytes)

namespace FileTask

def Answer (_ : FileTask) : Type := Except Fault Unit

/-- A file system that does what is asked. -/
def serve (t : FileTask) (fs : FileSystem) : Answer t × FileSystem :=
  match t with
  | makeDirectories p =>
    match fs.makeDirectories p with
    | (fs, r) => (r, fs)
  | write p content =>
    match fs.write p content with
    | .ok fs => (.ok (), fs)
    | .error e => (.error e, fs)

end FileTask

namespace Folder

abbrev Course := Dialogue FileTask FileTask.Answer

def segment (s : String) : String := String.ofList (FileName.segment s.toList)

/-- The parts of a key: client, category, and the file name behind the mark. -/
def keyParts (mark : String) (u : Upload) : List String :=
  [segment u.clientId, segment u.category, mark ++ "-" ++ segment u.filename]

def key (mark : String) (u : Upload) : String := "/".intercalate (keyParts mark u)

def place (root : String) (mark : String) (u : Upload) : Place := Place.ofPath root ++ keyParts mark u

/-- What the name of a description ends with. -/
def descriptionEnd : String := ".meta.json"

def descriptionPlace (root : String) (mark : String) (u : Upload) : Place :=
  match keyParts mark u with
  | [client, category, name] => Place.ofPath root ++ [client, category, name ++ descriptionEnd]
  | parts => Place.ofPath root ++ parts

def description (u : Upload) : List Char :=
  Json.indented (.record [("mime_type", .text u.mediaType), ("metadata", .record u.metadata),
    ("tags", .record u.tags)])

/-- The address of a place. -/
def address (p : Place) : String :=
  let isFree (b : UInt8) : Bool :=
    let c := Char.ofNat b.toNat
    Text.isAsciiAlnum c || c == '_' || c == '.' || c == '-' || c == '~' || c == '/'
  let written (b : UInt8) : List Char := if isFree b then [Char.ofNat b.toNat] else WebAddress.percent b
  "file://" ++ String.ofList ((Text.utf8 p.path.toList).flatMap written)

def bucket : String := "local"

/-- What an upload fails with when a step of it does. -/
def failure (k : String) (e : Fault) : Failure := if e.isSystem then .objectNotWritten k (.fault e) else .fault e

/-- An upload: the directory, the object, the description. The first step that fails ends it. -/
def upload (root mark : String) (u : Upload) : Course (Except Failure StoredObject) := do
  let k := key mark u
  let p := place root mark u
  match ← Dialogue.put (.makeDirectories p.dropLast) with
  | .error e => return .error (failure k e)
  | .ok _ =>
    match ← Dialogue.put (.write p u.content) with
    | .error e => return .error (failure k e)
    | .ok _ =>
      match ← Dialogue.put (.write (descriptionPlace root mark u) (Text.utf8 (description u))) with
      | .error e => return .error (failure k e)
      | .ok _ => return .ok ⟨k, bucket, u.content.length, address p⟩

end Folder

end Letterpress
