import Letterpress.Failure
import Letterpress.Text.Class
import Letterpress.Text.Utf8

/-!
# Printed files

A printed file describes itself twice: by a list of entries and by a packet of metadata. Stamping gives both new
contents.

* `Pdf.stamp`: a file with new descriptions.
* `Pdf.description`: what a file says about itself.
-/

namespace Letterpress

structure Pdf where
  /-- entries by name -/
  info : List (String × List Char) := []
  /-- the packet, by qualified name -/
  packet : List (String × List Char) := []
  deriving DecidableEq, Repr, Inhabited

namespace Pdf

structure Stamp where
  title : List Char
  author : List Char
  creator : List Char
  producer : List Char
  subject : List Char := []
  keywords : List String := []
  documentNumber : List Char := []
  deriving DecidableEq, Repr, Inhabited

def put (xs : List (String × List Char)) (k : String) (v : List Char) : List (String × List Char) :=
  xs.filter (fun (j, _) => j != k) ++ [(k, v)]

/-- Entries with a new one, unless that is empty. -/
def putSome (xs : List (String × List Char)) (k : String) (v : List Char) : List (String × List Char) :=
  if v.isEmpty then xs else put xs k v

/-- Characters that a packet can hold. -/
def isStorable (c : Char) : Bool :=
  if c.toNat < 32 then c == '\t' || c == '\n' || c == '\r' else c.toNat != 0xFFFE && c.toNat != 0xFFFF

/-- The entries that stand in both, and how they are called in the packet. -/
def shared : List (String × String) :=
  [("Author", "dc:creator"), ("Subject", "dc:description"), ("Title", "dc:title"), ("Keywords", "pdf:Keywords"),
    ("Producer", "pdf:Producer"), ("Creator", "xmp:CreatorTool")]

def numberName : String := "doc:documentNumber"

/-- Names under which a packet holds lists. A text of blanks alone counts as empty under all others. -/
def listNames : List String := ["dc:creator", "dc:description", "dc:title"]

/-- What a packet says under a name. -/
def said? (packet : List (String × List Char)) (name : String) : Option (List Char) :=
  (packet.lookup name).map fun v => if !listNames.contains name && v.all Text.isBlank then [] else v

/-- The entries with those of a stamp. -/
def stampInfo (s : Stamp) (info : List (String × List Char)) : List (String × List Char) :=
  let info := put (put (put (put info "Title" s.title) "Author" s.author) "Creator" s.creator) "Producer" s.producer
  let info := putSome info "Subject" s.subject
  if s.keywords.isEmpty then info else put info "Keywords" (", ".intercalate s.keywords).toList

/-- A packet with what the entries say. An author is always taken over, all else unless it is empty. -/
def takeOver (info packet : List (String × List Char)) : List (String × List Char) :=
  shared.foldl (fun packet (entry, name) =>
    match info.lookup entry with
    | some v => if v.isEmpty && entry != "Author" then packet else put packet name (v.filter isStorable)
    | none => packet) packet

/-- Entries with what the packet says, and without those about which it says nothing. -/
def giveBack (packet info : List (String × List Char)) : List (String × List Char) :=
  shared.foldl (fun info (entry, name) =>
    match (said? packet name).filter (!·.isEmpty) with
    | some v => put info entry v
    | none => info.filter fun (j, _) => j != entry) info

def stamp (s : Stamp) (p : Pdf) : Pdf :=
  let info := stampInfo s p.info
  let packet := takeOver info p.packet
  let packet :=
    if s.documentNumber.isEmpty then packet else put packet numberName (s.documentNumber.filter isStorable)
  ⟨giveBack packet info, packet⟩

/-- The entries, and the document number of the packet. -/
def description (p : Pdf) : List (String × List Char) × Option (List Char) := (p.info, said? p.packet numberName)

def toFields (p : Pdf) : Fields :=
  let text (cs : List Char) : Value := .text (String.ofList cs)
  let (info, number) := p.description
  Fields.set (info.map fun (k, v) => (k, text v)) "documentNumber" (number.elim .none text)

end Pdf

/-- What comes out of a printing engine. -/
inductive Printed where
  | pdf (p : Pdf)
  /-- bytes that are no printed file -/
  | other (content : Bytes)
  deriving Inhabited

namespace Printed

/-- The stamped file, where there is one to stamp. -/
def stamp (s : Except Fault Pdf.Stamp) : Printed → Except Failure Pdf
  | pdf p => (s.map fun s => p.stamp s).mapError fun f => .making .pdf .stamping (.fault f)
  | other _ => .error (.making .pdf .stamping .notPrintable)

end Printed

end Letterpress
