import Letterpress.FileName
import Letterpress.FileSystem
import Letterpress.OutputFormat

/-!
# Workspaces

A directory for files that are made and soon taken away. It comes into being with the first file that is planned for
it, and goes with everything in it.

* `Workspace.fileName`: the name of a file, which no other file gets as long as marks are drawn only once.
* `Workspace.allocate`: the place of a file to be.
* `Workspace.dispose`: the end of a workspace.
-/

namespace Letterpress

structure Workspace where
  /-- the directory that it is made in, unless that is left to the system -/
  parent : Option Place := none
  root : Option Place := none
  deriving DecidableEq, Repr, Inhabited

namespace Workspace

/-- Where the system keeps what is temporary. -/
def temporary : Place := ["tmp"]

/-- What the name of a workspace starts with. -/
def nameStart : String := "docgen-"

/-- The name of a file: a mark that is drawn for it, the name that is wished for, and the end for its format. -/
def fileName (mark : List Char) (wish : String) (f : OutputFormat) : String :=
  String.ofList (mark ++ '-' :: FileName.plain wish.toList ++ '.' :: f.extension.toList)

/-- The directory, which is made under a new name if there is none. -/
def enter (w : Workspace) (newName : String) (fs : FileSystem) : Workspace × FileSystem × Except Fault Place :=
  match w.root with
  | some p => (w, fs, .ok p)
  | none =>
    let above := w.parent.getD temporary
    match fs.makeDirectories above with
    | (fs, .error e) => (w, fs, .error e)
    | (fs, .ok _) =>
      let p := above ++ [nameStart ++ newName]
      match fs.makeDirectory p with
      | .ok fs => ({ w with root := some p }, fs, .ok p)
      | .error e => (w, fs, .error (e.fault p))

/-- The place of a file to be. -/
def allocate (w : Workspace) (newName : String) (mark : List Char) (wish : String) (f : OutputFormat)
    (fs : FileSystem) : Workspace × FileSystem × Except Fault Place :=
  match w.enter newName fs with
  | (w, fs, .ok p) => (w, fs, .ok (p ++ [fileName mark wish f]))
  | (w, fs, .error e) => (w, fs, .error e)

/-- A file taken away, if it can be. -/
def discard (p : Place) (fs : FileSystem) : FileSystem :=
  match fs.remove p with
  | .ok fs => fs
  | .error _ => fs

/-- A file written; one that fails to be written is not left behind. -/
def write (p : Place) (content : Bytes) (fs : FileSystem) : FileSystem × Except Fault Unit :=
  match fs.write p content with
  | .ok fs => (fs, .ok ())
  | .error e => (discard p fs, .error e)

def dispose (w : Workspace) (fs : FileSystem) : Workspace × FileSystem :=
  match w.root with
  | some p => ({ w with root := none }, fs.removeTree p)
  | none => (w, fs)

end Workspace

end Letterpress
