import Letterpress.Fault
import Letterpress.Path
import Letterpress.Text.Utf8
import Letterpress.Value.Literal

/-!
# File systems

A tree of directories and files. Places are lists of components; the root is the empty list. An operation that is
refused says why, in the way of an operating system, and changes nothing.

* `FileSystem.node`: what stands at a place, or why nothing can be reached there.
* `FileSystem.read`, `write`, `remove`: files.
* `FileSystem.makeDirectories`, `removeTree`: directories.
-/

namespace Letterpress

/-- A place in a file system. -/
abbrev Place := List String

namespace Place

def ofPath (p : String) : Place := Path.components p

def path (p : Place) : String := "/" ++ "/".intercalate p

end Place

inductive Node where
  | directory
  | file (content : Bytes)
  deriving DecidableEq, Repr, Inhabited

/-- Everything below the root, each place once. -/
structure FileSystem where
  nodes : List (Place × Node) := []
  deriving Inhabited

namespace FileSystem

/-- Reasons for a refusal. -/
inductive Refusal where
  | notFound
  | exists_
  | notDirectory
  | isDirectory
  | nameTooLong
  deriving DecidableEq, Repr, Inhabited

namespace Refusal

def code : Refusal → Nat
  | notFound => 2
  | exists_ => 17
  | notDirectory => 20
  | isDirectory => 21
  | nameTooLong => 36

def reason : Refusal → String
  | notFound => "No such file or directory"
  | exists_ => "File exists"
  | notDirectory => "Not a directory"
  | isDirectory => "Is a directory"
  | nameTooLong => "File name too long"

/-- The refusal of an operation at a place. -/
def fault (r : Refusal) (p : Place) : Fault :=
  .system r.code (r.reason ++ ": " ++ String.ofList (Literal.quote p.path.toList))

end Refusal

/-- How many bytes a name can have. -/
def nameLimit : Nat := 255

def isTooLong (name : String) : Bool := nameLimit < (Text.utf8 name.toList).length

def entry? (fs : FileSystem) (p : Place) : Option Node := if p.isEmpty then some .directory else fs.nodes.lookup p

/-- What stands at the end of a walk that has come to a place. -/
def walk (fs : FileSystem) (done : Place) (node : Node) : Place → Except Refusal Node
  | [] => .ok node
  | c :: rest =>
    match node with
    | .file _ => .error .notDirectory
    | .directory =>
      if isTooLong c then .error .nameTooLong
      else
        match fs.entry? (done ++ [c]) with
        | some n => walk fs (done ++ [c]) n rest
        | none => .error .notFound

/-- What stands at a place. -/
def node (fs : FileSystem) (p : Place) : Except Refusal Node := walk fs [] .directory p

def isFile (fs : FileSystem) (p : Place) : Bool :=
  match fs.node p with
  | .ok (.file _) => true
  | _ => false

def isDirectory (fs : FileSystem) (p : Place) : Bool :=
  match fs.node p with
  | .ok .directory => true
  | _ => false

def set (fs : FileSystem) (p : Place) (n : Node) : FileSystem :=
  ⟨if (fs.nodes.lookup p).isSome then fs.nodes.map fun (q, m) => if q == p then (q, n) else (q, m)
    else fs.nodes ++ [(p, n)]⟩

def refuse {α : Type} (r : Except Refusal α) (p : Place) : Except Fault α := r.mapError fun e => e.fault p

def read (fs : FileSystem) (p : Place) : Except Fault Bytes :=
  match fs.node p with
  | .ok (.file bs) => .ok bs
  | .ok .directory => .error (Refusal.isDirectory.fault p)
  | .error e => .error (e.fault p)

/-- Why there can be no new entry at a place, if so. -/
def newEntry (fs : FileSystem) (p : Place) : Except Refusal Unit :=
  match fs.node p with
  | .ok _ => .error .exists_
  | .error .notFound =>
    match fs.node p.dropLast with
    | .ok _ => .ok ()
    | .error e => .error e
  | .error e => .error e

def write (fs : FileSystem) (p : Place) (content : Bytes) : Except Fault FileSystem :=
  match fs.node p with
  | .ok (.file _) => .ok (fs.set p (.file content))
  | .ok .directory => .error (Refusal.isDirectory.fault p)
  | .error _ =>
    match fs.newEntry p with
    | .ok _ => .ok (fs.set p (.file content))
    | .error e => .error (e.fault p)

/-- A file taken away. -/
def remove (fs : FileSystem) (p : Place) : Except Fault FileSystem :=
  match fs.node p with
  | .ok (.file _) => .ok ⟨fs.nodes.filter fun (q, _) => q != p⟩
  | .ok .directory => .error (Refusal.isDirectory.fault p)
  | .error e => .error (e.fault p)

/-- A single new directory. -/
def makeDirectory (fs : FileSystem) (p : Place) : Except Refusal FileSystem :=
  (fs.newEntry p).map fun _ => fs.set p .directory

/-- A directory with those above it, from the innermost outwards; one that is there already is kept. What was made
before a refusal stays. -/
def makeReversed (fs : FileSystem) : List String → FileSystem × Except Fault Unit
  | [] => (fs, .ok ())
  | c :: above =>
    let p := (c :: above).reverse
    match fs.makeDirectory p with
    | .ok fs => (fs, .ok ())
    | .error .notFound =>
      match makeReversed fs above with
      | (fs, .error e) => (fs, .error e)
      | (fs, .ok _) =>
        match fs.makeDirectory p with
        | .ok fs => (fs, .ok ())
        | .error e => (fs, if fs.isDirectory p then .ok () else .error (e.fault p))
    | .error e => (fs, if fs.isDirectory p then .ok () else .error (e.fault p))

def makeDirectories (fs : FileSystem) (p : Place) : FileSystem × Except Fault Unit := makeReversed fs p.reverse

/-- Everything at and below a place taken away. -/
def removeTree (fs : FileSystem) (p : Place) : FileSystem := ⟨fs.nodes.filter fun (q, _) => !p.isPrefixOf q⟩

/-- The files below a place, by the rest of their place. -/
def filesBelow (fs : FileSystem) (p : Place) : List (Place × Bytes) :=
  fs.nodes.filterMap fun (q, n) =>
    match n with
    | .file bs => if p.isPrefixOf q then some (q.drop p.length, bs) else none
    | .directory => none

/-- The names of the entries of a directory. -/
def names (fs : FileSystem) (p : Place) : List String :=
  fs.nodes.filterMap fun (q, _) => if q.dropLast == p then q.getLast? else none

end FileSystem

end Letterpress
