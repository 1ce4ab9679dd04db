import Letterpress.Catalogue
import Letterpress.Generation
import Letterpress.Workspace

/-!
# Workshops

Many generations of one service are under way at once. They share a catalogue with its locks, a workspace and a disk;
each waits between its requests, and in between any other may go on. A template is asked for in the steps of a reader
of the catalogue, so that others may come between those too.

* `Workshop.serve`: the answer to a request, where nobody else is at work.
* `Workshop.alone`: a generation that has the bench for itself.
* `Workshop.step`: what an event changes; `none` where it cannot occur.
* `Workshop.after`: the state that events lead to.
-/

namespace Letterpress

/-- What lies beyond a service, as one generation finds it. The same request is answered the same way at any time.
Pictures belong here too: they are looked up among files that no generation makes. -/
structure Collaborators where
  announce : String → String → Progress → Except Failure Unit
  picture : String → Option Bytes
  print : PrintJob → Except Failure Printed
  upload : Upload → Except Failure Receipt

open Generation

/-- What all generations of a service make use of, and none of them changes. -/
structure Workshop where
  settings : Settings
  packing : Packing
  /-- where templates come from: files and a store that stay as they are -/
  sources : Catalogue.Sources
  /-- the name that is drawn for a new workspace -/
  newName : String

namespace Workshop

/-- A generation that is asked for, with what the clock and chance have for it. -/
structure Job where
  order : Order
  /-- what the clock says if the time is asked for after so many other requests -/
  clock : Nat → Reading
  /-- the mark that is drawn for the artifact: 32 digits -/
  mark : List Char
  length_mark : mark.length = 32
  beyond : Collaborators

namespace Job

/-- The digits of the mark that go into the name of the artifact. -/
def digits (j : Job) : List Char := j.mark.take 12

end Job

/-- What generations share and change. -/
structure Bench where
  catalogue : Catalogue.State
  workspace : Workspace
  disk : FileSystem

namespace Bench

/-- The bench at another time. -/
def atTime (b : Bench) (now : Binary64) : Bench := { b with catalogue := { b.catalogue with now } }

/-- Whether nobody reads in the catalogue. -/
def isIdle (b : Bench) : Bool :=
  b.catalogue.readers.isEmpty && b.catalogue.listed.isEmpty && b.catalogue.locks.all Catalogue.Lock.isFree

end Bench

/-- The answer to a request after so many others. -/
def serve (w : Workshop) (j : Job) (count : Nat) : (q : Request) → Bench → Answer q × Bench
  | .clock, b => (j.clock count, b)
  | .announce number id p, b => (j.beyond.announce number id p, b)
  | .resolve id, b =>
    let (r, catalogue) := Catalogue.resolve w.sources b.catalogue id
    (r.map Catalogue.Copy.template, { b with catalogue })
  | .picture path, b => (j.beyond.picture path, b)
  | .print p, b => (j.beyond.print p, b)
  | .allocate wish f, b =>
    let (workspace, disk, r) := b.workspace.allocate w.newName j.digits wish f b.disk
    (Failure.ofFault r, { b with workspace, disk })
  | .write p content, b =>
    match b.disk.write p content with
    | .ok disk => (.ok (), { b with disk })
    | .error f => (.error f, b)
  | .read p, b => (b.disk.read p, b)
  | .discard p, b => ((), { b with disk := Workspace.discard p b.disk })
  | .upload u, b => (j.beyond.upload u, b)

/-! ## One generation -/

def course (w : Workshop) (j : Job) : Course (Except Failure Descriptor) :=
  Generation.course w.packing w.settings j.order

/-- The answer to a request out of a bench and the count of the requests before. -/
def serveAlone (w : Workshop) (j : Job) (q : Request) (s : Bench × Nat) : Answer q × (Bench × Nat) :=
  let (x, b) := w.serve j s.2 q s.1
  (x, b, s.2 + 1)

/-- A generation that has the bench for itself. -/
def alone (w : Workshop) (j : Job) (b : Bench) : Except Failure Descriptor :=
  ((w.course j).run (w.serveAlone j) (b, 0)).1

/-! ## Many generations -/

/-- A generation under way. -/
structure Task where
  rest : Course (Except Failure Descriptor)
  past : List (Dialogue.Exchange Request Answer) := []
  /-- the time at which it asked for its template, if it has -/
  asked : Binary64

namespace Task

/-- A request answered. -/
def hear (t : Task) {q : Request} (x : Answer q) (rest : Course (Except Failure Descriptor)) : Task :=
  { t with rest, past := t.past ++ [Dialogue.Exchange.mk q x] }

end Task

structure State (n : Nat) where
  bench : Bench
  tasks : Fin n → Task

inductive Event (n : Nat) where
  /-- a generation goes on -/
  | go (i : Fin n)
  /-- time passes -/
  | tick (seconds : Binary64)

variable {n : Nat}

namespace State

def setTask (s : State n) (i : Fin n) (t : Task) : State n :=
  { s with tasks := fun j => if j = i then t else s.tasks j }

/-- A request of a generation answered. -/
def reply (s : State n) (i : Fin n) {q : Request} (x : Answer q)
    (next : Answer q → Course (Except Failure Descriptor)) (b : Bench) : State n :=
  { s with bench := b }.setTask i ((s.tasks i).hear x (next x))

/-- A step of the reader of a generation in the catalogue, which is asked for the first time if the reader is not known
to it. -/
def read (s : State n) (i : Fin n) (c : Catalogue.State) : State n :=
  let t := s.tasks i
  let asked := if (s.bench.catalogue.reader? i).isSome then t.asked else s.bench.catalogue.now
  { s with bench := { s.bench with catalogue := c } }.setTask i { t with asked }

end State

/-- The next step of a reader, which comes to the catalogue if it is not there yet. -/
def consult (w : Workshop) (c : Catalogue.State) (r : Nat) (id : String) : Option Catalogue.State :=
  match c.reader? r with
  | none => Catalogue.step c (.resolve r id)
  | some x => (Catalogue.nextEvent? w.sources r x).bind (Catalogue.step c)

/-- The way of a generation to its template: the next step of its reader, or what that has come to. -/
def seek (w : Workshop) (s : State n) (i : Fin n) (id : String)
    (next : Except Failure Template → Course (Except Failure Descriptor)) : Option (State n) :=
  let c := s.bench.catalogue
  match Catalogue.result? c i with
  | some r => some (s.reply i (q := .resolve id) (r.map Catalogue.Copy.template) next s.bench)
  | none => (w.consult c i id).map (s.read i)

/-- What a generation does that goes on. -/
def go (w : Workshop) (jobs : Fin n → Job) (s : State n) (i : Fin n) : Option (State n) :=
  match (s.tasks i).rest with
  | .done _ => none
  | .ask (.resolve id) next => w.seek s i id next
  | .ask q next =>
    let (x, b) := w.serve (jobs i) (s.tasks i).past.length q s.bench
    some (s.reply i x next b)

/-- What an event changes. Time does not run backwards. -/
def step (w : Workshop) (jobs : Fin n → Job) (s : State n) : Event n → Option (State n)
  | .go i => w.go jobs s i
  | .tick seconds =>
    let c := s.bench.catalogue
    let now := c.now.add seconds
    if c.now.isAtMost now then some { s with bench := s.bench.atTime now } else none

def after (w : Workshop) (jobs : Fin n → Job) : State n → List (Event n) → Option (State n)
  | s, [] => some s
  | s, e :: rest => (w.step jobs s e).bind fun s => after w jobs s rest

/-- All generations at their beginnings. -/
def start (w : Workshop) (jobs : Fin n → Job) (b : Bench) : State n where
  bench := b
  tasks i := { rest := w.course (jobs i), asked := b.catalogue.now }

end Workshop

end Letterpress
