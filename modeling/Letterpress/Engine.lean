import Letterpress.Catalogue
import Letterpress.Generation
import Letterpress.Storage.Folder
import Letterpress.Storage.Service
import Letterpress.Workspace

/-!
# The engine

The parts that serve generations, put together: settings, catalogue, workspace, storage and the disk below them.
What lies beyond the engine is given as `Outside`, which may do anything and remembers what it likes.

* `Engine.ofSettings`: an engine as it is configured.
* `Engine.serve`: the answer to a request of a generation.
* `Engine.generate`, `Engine.dispose`: a generation, and the end of an engine.
-/

namespace Letterpress

/-- What lies beyond the engine, with a state of its own. -/
structure Outside (ω : Type) where
  clock : ω → Reading
  /-- the n-th mark that is drawn: 32 digits -/
  mark : Nat → List Char
  /-- a name for a new workspace -/
  newName : ω → String
  find : ω → String → Except Failure (Option Catalogue.Copy)
  announce : String → String → Progress → ω → Except Failure Unit × ω
  print : PrintJob → ω → Except Failure Printed × ω
  post : FormRequest → ω → Except Fault Response × ω

/-- The storage of an engine: one of its own, or a foreign one. -/
inductive Depot (ω : Type) where
  | folder (root : String)
  | service (s : Service)
  | foreign (take : Upload → ω → Except Failure Receipt × ω)

structure Engine (ω : Type) where
  settings : Settings
  packing : Packing
  catalogue : Catalogue.State
  workspace : Workspace
  depot : Depot ω
  disk : FileSystem
  /-- how many marks have been drawn -/
  drawn : Nat := 0
  outside : ω

namespace Engine

variable {ω : Type}

def depotOf : Storage → Depot ω
  | .folder root => .folder root
  | .service address seconds => .service { address, seconds }

/-- An engine as it is configured. A storage that is given wins over the one that is configured. -/
def ofSettings (s : Settings) (packing : Packing) (hasStore : Bool) (given : Option (Depot ω)) (now : Binary64)
    (disk : FileSystem) (outside : ω) : Engine ω :=
  { settings := s, packing, disk, outside
    catalogue := { directory := s.templatesDir, hasStore, seconds := s.cacheSeconds, now }
    workspace := { parent := s.workspaceDir.map Place.ofPath }
    depot := given.getD (depotOf (.ofSettings s)) }

/-- The number of the next mark. -/
def draw (e : Engine ω) : Nat × Engine ω := (e.drawn + 1, { e with drawn := e.drawn + 1 })

def resolve (o : Outside ω) (e : Engine ω) (id : String) : Except Failure Template × Engine ω :=
  let (r, catalogue) := Catalogue.resolve ⟨e.disk.read, o.find e.outside⟩ e.catalogue id
  (r.map Catalogue.Copy.template, { e with catalogue })

def allocate (o : Outside ω) (e : Engine ω) (wish : String) (f : OutputFormat) : Except Failure Place × Engine ω :=
  let (n, e) := e.draw
  let (workspace, disk, r) := e.workspace.allocate (o.newName e.outside) ((o.mark n).take 12) wish f e.disk
  (Failure.ofFault r, { e with workspace, disk })

/-- An object taken by the storage. -/
def upload (o : Outside ω) (e : Engine ω) (u : Upload) : Except Failure Receipt × Engine ω :=
  match e.depot with
  | .folder root =>
    let (n, e) := e.draw
    let (r, disk) := (Folder.upload root (String.ofList (o.mark n)) u).run FileTask.serve e.disk
    (r.map Receipt.ofObject, { e with disk })
  | .service s =>
    let (n, e) := e.draw
    let s := s.open_
    let (r, outside) := (s.upload (o.mark n) u).run o.post e.outside
    (r.map Receipt.ofObject, { e with outside, depot := .service s })
  | .foreign take =>
    let (r, outside) := take u e.outside
    (r, { e with outside })

/-- The file at an absolute path, if there is one. -/
def picture (e : Engine ω) (path : String) : Option Bytes :=
  if Path.isAbsolute path then (e.disk.read (Path.resolve path)).toOption else none

/-- The answer to a request of a generation. -/
def serve (o : Outside ω) (q : Generation.Request) (e : Engine ω) : Generation.Answer q × Engine ω :=
  match q with
  | .clock => (o.clock e.outside, e)
  | .announce number id p =>
    let (r, outside) := o.announce number id p e.outside
    (r, { e with outside })
  | .resolve id => e.resolve o id
  | .picture path => (e.picture path, e)
  | .print j =>
    let (r, outside) := o.print j e.outside
    (r, { e with outside })
  | .allocate wish f => e.allocate o wish f
  | .write p content =>
    match e.disk.write p content with
    | .ok disk => (.ok (), { e with disk })
    | .error f => (.error f, e)
  | .read p => (e.disk.read p, e)
  | .discard p => ((), { e with disk := Workspace.discard p e.disk })
  | .upload u => e.upload o u

def generate (o : Outside ω) (e : Engine ω) (order : Generation.Order) : Except Failure Descriptor × Engine ω :=
  (Generation.course e.packing e.settings order).run (serve o) e

def closeDepot : Depot ω → Depot ω
  | .service s => .service s.close
  | d => d

/-- The end of an engine: nothing is resolved any more, the storage is closed and the workspace is taken away. -/
def dispose (e : Engine ω) : Engine ω :=
  let catalogue := (Catalogue.step e.catalogue .dispose).getD e.catalogue
  let (workspace, disk) := e.workspace.dispose e.disk
  { e with catalogue, workspace, disk, depot := closeDepot e.depot }

end Engine

end Letterpress
