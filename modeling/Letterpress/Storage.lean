import Letterpress.Failure
import Letterpress.FileName
import Letterpress.Settings
import Letterpress.Text.Utf8

/-!
# Storage

Where finished documents are handed to. What a storage keeps is up to it; it answers an upload with the place of
the stored object.

* `Upload`: what is handed to a storage.
* `StoredObject.ofFields`: the answer of a storage.
* `Storage.ofSettings`: the storage that is configured.
-/

namespace Letterpress

structure Upload where
  content : Bytes
  clientId : String
  filename : String
  mediaType : String
  category : String
  metadata : Fields
  tags : Fields
  deriving Inhabited

/-- What an upload says about its object. -/
def Upload.toFields (u : Upload) : Fields :=
  [("client_id", .text u.clientId), ("filename", .text u.filename), ("mime_type", .text u.mediaType),
    ("category", .text u.category), ("metadata", .record u.metadata), ("tags", .record u.tags)]

/-- Where a storage keeps an object. -/
structure StoredObject where
  key : String
  bucket : String
  size : Nat
  url : String
  deriving DecidableEq, Repr, Inhabited

namespace StoredObject

def ofFields (fields : Fields) : Checked StoredObject :=
  let size := fun v => (Checked.atLeast 0 (Checked.whole v)).map Int.toNat
  (Except.ok StoredObject.mk : Checked _)
    |> (Checked.app · (Record.required fields "key" Checked.text))
    |> (Checked.app · (Record.required fields "bucket" Checked.text))
    |> (Checked.app · (Record.required fields "size" size))
    |> (Checked.app · (Record.required fields "url" Checked.text))

def ofValue (v : Value) : Checked StoredObject := (Checked.record v).bind ofFields

def toFields (o : StoredObject) : Fields :=
  [("key", .text o.key), ("bucket", .text o.bucket), ("size", .int o.size), ("url", .text o.url)]

end StoredObject

/-- The storages that can be configured. -/
inductive Storage where
  /-- a directory of this machine -/
  | folder (root : String)
  /-- a service on the web, which is waited for so many seconds -/
  | service (address : String) (seconds : Binary64)
  deriving Inhabited

namespace Storage

def ofKind (s : Settings) : StorageKind → Storage
  | .local => folder s.storageDir
  | .http => service (s.storageAddress.getD "None") s.storageSeconds

def ofSettings (s : Settings) : Storage := ofKind s s.storageKind

/-- The storage of a kind that is given by its name. -/
def ofName (s : Settings) (name : String) : Except Failure Storage :=
  match StorageKind.ofName? name with
  | some k => .ok (ofKind s k)
  | none => .error (.unknownStorage name)

/-- What is noted with every document in a storage. -/
def tags (documentType formatName : String) : Fields :=
  [("documentType", .text documentType), ("generated", .text "true"), ("format", .text formatName)]

end Storage

end Letterpress
