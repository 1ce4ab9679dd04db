import Letterpress.Failure
import Letterpress.Path
import Letterpress.Text.Case
import Letterpress.Text.Utf8

/-!
# The catalogue

Templates by their identifiers. A template comes from a file, if its identifier looks like a path that stays inside
the directory of templates, and else from a store; it is then kept for a while. Many readers are under way at once,
each waits while a file is read or the store is asked, and readers of one identifier take turns at a lock.

* `Catalogue.isPath`, `Catalogue.file?`: which file an identifier stands for.
* `Catalogue.ofFile`: the template in a file.
* `Catalogue.step`: what an event changes; `none` where it cannot occur.
* `Catalogue.after`, `Catalogue.Reachable`: the states that events lead to.
-/

namespace Letterpress

namespace Dialect

/-- The dialect of a file, by the end of its name. -/
def ofPath (p : String) : Dialect :=
  match String.ofList (Text.lower (Path.suffix p).toList) with
  | ".md" => .markup
  | ".markdown" => .markup
  | ".json" => .structured
  | _ => .hypertext

end Dialect

namespace Catalogue

/-! ## Files -/

/-- Whether an identifier looks like a path. -/
def isPath (id : String) : Bool := id.toList.any fun c => c == '.' || c == '/' || c == '\\'

/-- The file that a path stands for, if it lies in the directory of templates. No path holds a zero character. -/
def file? (directory id : String) : Except Fault (Option (List String)) :=
  let p := Path.join directory id
  if id.toList.contains '\x00' then .error .badValue
  else .ok (if Path.isWithin directory p then some (Path.resolve p) else none)

/-- The name of a file without its end. -/
def stem (file : String) : String :=
  let n := (Path.name file).toList
  String.ofList (n.take (n.length - (Path.suffix file).length))

/-- The name that readers see. -/
def displayName (stem : String) : String :=
  String.ofList (stem.toList.map fun c => if c == '-' || c == '_' then ' ' else c)

/-- The template in a file of text. -/
def ofFile (id file : String) (content : Bytes) : Except Failure Template :=
  match Text.ofUtf8? content with
  | none => .error (.fault .badEncoding)
  | some cs =>
    let name := stem file
    .ok { id, name, displayName := displayName name, dialect := Dialect.ofPath file
          content := .text (String.ofList (Text.normalizeNewlines cs)) }

/-! ## Readers -/

/-- Which reading of a file, or which entry of the store, a template comes from. -/
inductive Origin where
  | file (reading : Nat)
  | store (entry : Nat)
  deriving DecidableEq, Repr, Inhabited

/-- A template as it is handed out. -/
structure Copy where
  template : Template
  origin : Origin
  deriving Inhabited

/-- A template that is kept, and the time since when. -/
structure Entry where
  copy : Copy
  since : Binary64
  deriving Inhabited

/-- A lock: who has it, and who waits for it in order of arrival. -/
structure Lock where
  holder : Option Nat := none
  queue : List Nat := []
  deriving DecidableEq, Repr, Inhabited

namespace Lock

def isFree (l : Lock) : Bool := l.holder.isNone && l.queue.isEmpty

end Lock

/-- What a reader does that has a lock. -/
inductive Work where
  /-- is about to look whether another has found the template -/
  | looking
  /-- waits for a file -/
  | reading (file : List String)
  /-- waits for the store -/
  | asking
  deriving DecidableEq, Repr, Inhabited

/-- Where a reader is. -/
inductive Phase where
  | waiting (lock : Nat)
  | active (lock : Nat) (work : Work)
  | ended (result : Except Failure Copy)
  deriving Inhabited

structure Reader where
  id : String
  phase : Phase
  deriving Inhabited

structure State where
  directory : String
  /-- whether there is a store -/
  hasStore : Bool
  /-- how many seconds a template is kept -/
  seconds : Binary64
  now : Binary64
  entries : List (String × Entry) := []
  /-- all locks that have been made, each at its number -/
  locks : List Lock := []
  /-- the numbers of the locks that readers of an identifier find -/
  listed : List (String × Nat) := []
  isDisposed : Bool := false
  readers : List (Nat × Reader) := []
  /-- how many files have been read -/
  readings : Nat := 0
  /-- how often the store has been asked -/
  askings : Nat := 0
  deriving Inhabited

inductive Event where
  /-- a new reader -/
  | resolve (reader : Nat) (id : String)
  /-- a reader that has its lock goes on -/
  | resume (reader : Nat)
  | fileRead (reader : Nat) (content : Except Fault Bytes)
  | storeAnswered (reader : Nat) (found : Except Failure (Option Copy))
  | invalidate (id : String)
  | clear
  | dispose
  | tick (seconds : Binary64)

namespace State

/-- Whether something that is kept since a time is still fresh. -/
def isFresh (s : State) (since : Binary64) : Bool := (s.now.sub since).cmp? s.seconds == some .lt

def fresh? (s : State) (id : String) : Option Copy :=
  ((s.entries.lookup id).filter fun e => s.isFresh e.since).map Entry.copy

/-- The identifiers of the templates that are kept and fresh, in the order of code points. -/
def freshIds (s : State) : List String :=
  ((s.entries.filter fun (_, e) => s.isFresh e.since).map (·.1)).mergeSort fun a b => a ≤ b

def reader? (s : State) (r : Nat) : Option Reader := s.readers.lookup r

def addReader (s : State) (r : Nat) (id : String) (p : Phase) : State :=
  { s with readers := s.readers ++ [(r, ⟨id, p⟩)] }

def setPhase (s : State) (r : Nat) (p : Phase) : State :=
  { s with readers := s.readers.map fun (q, x) => if q == r then (q, { x with phase := p }) else (q, x) }

def lock (s : State) (n : Nat) : Lock := s.locks.getD n {}

def setLock (s : State) (n : Nat) (l : Lock) : State := { s with locks := s.locks.set n l }

/-- A lock taken by a reader, if it is free, or else waited for. -/
def acquire (s : State) (r : Nat) (id : String) (n : Nat) : State :=
  let l := s.lock n
  if l.isFree then (s.setLock n { l with holder := some r }).addReader r id (.active n .looking)
  else (s.setLock n { l with queue := l.queue ++ [r] }).addReader r id (.waiting n)

/-- A lock given back. It passes to the first who waits for it. -/
def release (s : State) (n : Nat) : State :=
  match (s.lock n).queue with
  | r :: rest => (s.setLock n ⟨some r, rest⟩).setPhase r (.active n .looking)
  | [] => s.setLock n { s.lock n with holder := none }

/-- A lock that nobody has or waits for is not listed any longer. -/
def unlist (s : State) (id : String) (n : Nat) : State :=
  if (s.lock n).isFree then { s with listed := s.listed.filter fun (j, _) => j != id } else s

/-- A reader that is done gives its lock back. -/
def finish (s : State) (r : Nat) (id : String) (n : Nat) (result : Except Failure Copy) : State :=
  ((s.setPhase r (.ended result)).release n).unlist id n

/-- A template found: it is kept from now on. -/
def keep (s : State) (r : Nat) (id : String) (n : Nat) (c : Copy) : State :=
  let entries := s.entries.filter (fun (j, _) => j != id) ++ [(id, Entry.mk c s.now)]
  { s with entries }.finish r id n (.ok c)

def fail (s : State) (r : Nat) (id : String) (n : Nat) (e : Failure) : State := s.finish r id n (.error e)

/-- The way on behind the files. -/
def askStore (s : State) (r : Nat) (id : String) (n : Nat) : State :=
  if s.hasStore then { s with askings := s.askings + 1 }.setPhase r (.active n .asking)
  else s.fail r id n (.templateNotFound id none)

/-- The start of a load. -/
def load (s : State) (r : Nat) (id : String) (n : Nat) : State :=
  if isPath id then
    match file? s.directory id with
    | .error f => s.fail r id n (.fault f)
    | .ok (some file) => s.setPhase r (.active n (.reading file))
    | .ok none => s.askStore r id n
  else s.askStore r id n

/-- What the reading of a file leads to. A file that cannot be opened is no file. -/
def useFile (s : State) (r : Nat) (id : String) (n : Nat) (file : List String) (content : Except Fault Bytes) : State :=
  match content with
  | .ok bs =>
    match ofFile id ("/" ++ "/".intercalate file) bs with
    | .ok t => { s with readings := s.readings + 1 }.keep r id n ⟨t, .file s.readings⟩
    | .error e => s.fail r id n e
  | .error f => if f.isSystem then s.askStore r id n else s.fail r id n (.fault f)

/-- What the answer of the store leads to. -/
def useStore (s : State) (r : Nat) (id : String) (n : Nat) (found : Except Failure (Option Copy)) : State :=
  match found with
  | .ok (some c) => s.keep r id n c
  | .ok none => s.fail r id n (.templateNotFound id none)
  | .error e => s.fail r id n (.templateNotFound id (some e))

/-- A reader that finds nothing fresh asks for the lock of its identifier, which is made if none is listed. -/
def enter (s : State) (r : Nat) (id : String) : State :=
  match s.listed.lookup id with
  | some n => s.acquire r id n
  | none =>
    let n := s.locks.length
    { s with locks := s.locks ++ [Lock.mk none []], listed := s.listed ++ [(id, n)] }.acquire r id n

def begin_ (s : State) (r : Nat) (id : String) : State :=
  if s.isDisposed then s.addReader r id (.ended (.error (.disposed "TemplateResolver")))
  else
    match s.fresh? id with
    | some c => s.addReader r id (.ended (.ok c))
    | none => s.enter r id

/-- A reader that has its lock: another may have found the template while it waited. -/
def look (s : State) (r : Nat) (id : String) (n : Nat) : State :=
  match s.fresh? id with
  | some c => s.finish r id n (.ok c)
  | none => s.load r id n

end State

/-- What an event changes. -/
def step (s : State) : Event → Option State
  | .resolve r id => if (s.reader? r).isSome then none else some (s.begin_ r id)
  | .resume r =>
    match s.reader? r with
    | some ⟨id, .active n .looking⟩ => some (s.look r id n)
    | _ => none
  | .fileRead r content =>
    match s.reader? r with
    | some ⟨id, .active n (.reading file)⟩ => some (s.useFile r id n file content)
    | _ => none
  | .storeAnswered r found =>
    match s.reader? r with
    | some ⟨id, .active n .asking⟩ => some (s.useStore r id n found)
    | _ => none
  | .invalidate id => some { s with entries := s.entries.filter fun (j, _) => j != id }
  | .clear => some { s with entries := [] }
  | .dispose => some { s with entries := [], listed := [], isDisposed := true }
  | .tick seconds => some { s with now := s.now.add seconds }

/-- The state after some events, if they can occur one after the other. -/
def after : State → List Event → Option State
  | s, [] => some s
  | s, e :: rest => (step s e).bind fun s => after s rest

/-- The states that events lead to from a catalogue that is new. -/
inductive Reachable : State → Prop where
  | new (directory : String) (hasStore : Bool) (seconds now : Binary64) :
      Reachable { directory, hasStore, seconds, now }
  | step {s s' : State} (e : Event) (reached : Reachable s) (h : step s e = some s') : Reachable s'

/-! ## Stores -/

/-- A store of templates, as the catalogue sees it. -/
structure Store where
  copies : List (String × Copy) := []
  /-- how many templates have been taken in -/
  taken : Nat := 0
  deriving Inhabited

namespace Store

/-- The store with one more template, which hides an older one with its identifier. -/
def put (s : Store) (t : Template) : Store := ⟨(t.id, ⟨t, .store s.taken⟩) :: s.copies, s.taken + 1⟩

def find? (s : Store) (id : String) : Option Copy := s.copies.lookup id

end Store

/-! ## Running -/

/-- Where templates come from. -/
structure Sources where
  read : List String → Except Fault Bytes
  ask : String → Except Failure (Option Copy)

/-- What happens next to a reader, if it does not wait for others. -/
def nextEvent? (sources : Sources) (r : Nat) (x : Reader) : Option Event :=
  match x.phase with
  | .active _ .looking => some (.resume r)
  | .active _ (.reading file) => some (.fileRead r (sources.read file))
  | .active _ .asking => some (.storeAnswered r (sources.ask x.id))
  | .waiting _ | .ended _ => none

/-- The first event that is due, and what it changes. -/
def advance? (sources : Sources) (s : State) : Option State :=
  (s.readers.findSome? fun (r, x) => nextEvent? sources r x).bind (step s)

/-- All readers taken to their ends. A reader needs three events at most. -/
def settle (sources : Sources) (s : State) : Nat → State
  | 0 => s
  | n + 1 =>
    match advance? sources s with
    | some s => settle sources s n
    | none => s

def run (sources : Sources) (s : State) : State := settle sources s (3 * s.readers.length)

/-- What a reader came to. -/
def result? (s : State) (r : Nat) : Option (Except Failure Copy) :=
  match s.reader? r with
  | some ⟨_, .ended x⟩ => some x
  | _ => none

/-- A single reader, taken to its end. -/
def resolve (sources : Sources) (s : State) (id : String) : Except Failure Copy × State :=
  let r := s.readers.length
  let s := run sources ((step s (.resolve r id)).getD s)
  ((result? s r).getD (.error (.templateNotFound id none)), s)

end Catalogue

end Letterpress
