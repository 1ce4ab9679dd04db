import Letterpress.Failure

/-!
# The press

Pages are printed by a browser, which is launched when it is first needed and shared by all prints. A print needs
one of a fixed number of slots, looks for the browser, has a context of its own opened, and closes it whatever
happens. Many tasks are under way at once; each waits between its steps, and in between any other may go on.

* `Press.Phase`: where a task is.
* `Press.step`: what an event changes; `none` where it cannot occur.
* `Press.after`, `Press.Reachable`: the states that events lead to.
* `Press.State.outcome?`: what a print has come to.
-/

namespace Letterpress

/-- What is printed. -/
structure PrintJob where
  html : String
  page : Page
  header : Option String := none
  footer : Option String := none
  deriving DecidableEq, Repr, Inhabited

namespace PrintJob

/-- What stands in place of a header or a footer that is not wanted. -/
def emptyMargin : String := "<span></span>"

def filled (s : Option String) : String := (s.filter (!·.isEmpty)).getD emptyMargin

def hasMargins (j : PrintJob) : Bool := (j.header.any (!·.isEmpty)) || j.footer.any (!·.isEmpty)

/-- The arguments of the calls that print a page. -/
def arguments (j : PrintJob) : Fields :=
  [("html", .text j.html), ("wait_until", .text "networkidle"), ("format", .text j.page.size),
    ("landscape", .bool j.page.isLandscape), ("print_background", .bool true),
    ("margin", .record j.page.margins.toFields),
    ("display_header_footer", .bool j.hasMargins), ("header_template", .text (filled j.header)),
    ("footer_template", .text (filled j.footer))]

end PrintJob

namespace Press

/-- The arguments that the browser is launched with. -/
def launchArguments : List String := ["--no-sandbox", "--disable-setuid-sandbox", "--disable-dev-shm-usage"]

/-- Where a task is: first the phases of a print, then those of a shutdown. `β` is what comes out of a print. -/
inductive Phase (β : Type) where
  /-- waits for a slot -/
  | queued
  /-- has a slot -/
  | admitted
  /-- waits until no other task looks for the browser -/
  | waiting
  /-- looks for the browser -/
  | looking
  | starting
  | launching
  | opening (browser : Nat)
  | paging (context : Nat)
  | filling (context : Nat)
  | printing (context : Nat)
  /-- has its context closed; what it came to is settled unless that fails -/
  | closing (context : Nat) (result : Except Fault β)
  | ended (result : Except Fault β)
  | shutting (browser : Nat)
  | stopping
  | shut (result : Except Fault Unit)
  deriving Inhabited

/-- The call that a task waits for. -/
def Phase.call? {β : Type} : Phase β → Option String
  | starting => some "start"
  | launching => some "launch"
  | opening _ => some "new_context"
  | paging _ => some "new_page"
  | filling _ => some "set_content"
  | printing _ => some "pdf"
  | closing _ _ => some "close_context"
  | shutting _ => some "close"
  | stopping => some "stop"
  | _ => none

/-- Whether a task waits for nothing. -/
def Phase.isReady {β : Type} : Phase β → Bool
  | admitted | looking => true
  | _ => false

/-- What the browser answers to a call. -/
inductive Reply (β : Type) where
  | done
  | printed (b : β)
  | failed (f : Fault)
  deriving Inhabited

structure State (β : Type) where
  /-- how many slots are free -/
  free : Nat
  /-- the tasks that wait for a slot, in order of arrival -/
  queue : List Nat := []
  /-- the task that looks for the browser -/
  looker : Option Nat := none
  /-- the tasks that wait to look for it -/
  lookQueue : List Nat := []
  hasEngine : Bool := false
  browser : Option Nat := none
  /-- the browsers that are connected -/
  connected : List Nat := []
  /-- the contexts that are open -/
  contexts : List Nat := []
  launched : Nat := 0
  opened : Nat := 0
  tasks : List (Nat × Phase β) := []
  deriving Inhabited

inductive Event (β : Type) where
  /-- a new print -/
  | print (task : Nat)
  /-- a new shutdown -/
  | shutDown (task : Nat)
  /-- a task that waits for nothing goes on -/
  | resume (task : Nat)
  | reply (task : Nat) (r : Reply β)
  | disconnect (browser : Nat)

variable {β : Type}

namespace Event

/-- The task that an event is about, if it is about one. -/
def task? : Event β → Option Nat
  | print t | shutDown t | resume t | reply t _ => some t
  | disconnect _ => none

def isShutDown : Event β → Bool
  | shutDown _ => true
  | print _ | resume _ | reply _ _ | disconnect _ => false

end Event

namespace State

def ofSize (size : Nat) : State β := { free := size }

def phase? (s : State β) (t : Nat) : Option (Phase β) := s.tasks.lookup t

def setPhase (s : State β) (t : Nat) (p : Phase β) : State β :=
  { s with tasks := s.tasks.map fun (u, q) => if u = t then (u, p) else (u, q) }

def add (s : State β) (t : Nat) (p : Phase β) : State β := { s with tasks := s.tasks ++ [(t, p)] }

/-- A slot given up: the first task that waits for one has it at once. -/
def leave (s : State β) : State β :=
  match s.queue with
  | [] => { s with free := s.free + 1 }
  | t :: rest => { s with queue := rest }.setPhase t .admitted

/-- The look for the browser given up in the same way. -/
def lookAway (s : State β) : State β :=
  match s.lookQueue with
  | [] => { s with looker := none }
  | t :: rest => { s with looker := some t, lookQueue := rest }.setPhase t .looking

/-- A print that is over. -/
def finish (s : State β) (t : Nat) (r : Except Fault β) : State β := (s.setPhase t (.ended r)).leave

/-- What a print has come to, if it is over. A refusal of the browser is a failure of the printing. -/
def outcome? (s : State β) (t : Nat) : Option (Except Failure β) :=
  match s.phase? t with
  | some (.ended r) => some (r.mapError fun f => .making .pdf .printing (.fault f))
  | _ => none

/-- The browser, if it is there and connected. -/
def usable? (s : State β) : Option Nat := s.browser.filter s.connected.contains

/-- The next step of a task that looks for the browser. -/
def look (s : State β) (t : Nat) : State β :=
  match s.usable? with
  | some b => s.lookAway.setPhase t (.opening b)
  | none => s.setPhase t (if s.hasEngine then .launching else .starting)

/-- The step of a shutdown behind the browser. -/
def stop (s : State β) : Phase β := if s.hasEngine then .stopping else .shut (.ok ())

/-- What the answer to the call of a phase changes. -/
def answer (s : State β) (t : Nat) : Phase β → Reply β → Option (State β)
  | .starting, .done => some ({ s with hasEngine := true }.setPhase t .launching)
  | .starting, .failed f => some (s.lookAway.finish t (.error f))
  | .launching, .done =>
    let b := s.launched
    some ({ s with browser := some b, connected := s.connected ++ [b], launched := b + 1 }.lookAway.setPhase t
      (.opening b))
  | .launching, .failed f => some (s.lookAway.finish t (.error f))
  | .opening _, .done =>
    let c := s.opened
    some ({ s with contexts := s.contexts ++ [c], opened := c + 1 }.setPhase t (.paging c))
  | .opening _, .failed f => some (s.finish t (.error f))
  | .paging c, .done => some (s.setPhase t (.filling c))
  | .paging c, .failed f => some (s.setPhase t (.closing c (.error f)))
  | .filling c, .done => some (s.setPhase t (.printing c))
  | .filling c, .failed f => some (s.setPhase t (.closing c (.error f)))
  | .printing c, .printed b => some (s.setPhase t (.closing c (.ok b)))
  | .printing c, .failed f => some (s.setPhase t (.closing c (.error f)))
  | .closing c r, .done => some ({ s with contexts := s.contexts.filter (· != c) }.finish t r)
  | .closing c _, .failed f => some ({ s with contexts := s.contexts.filter (· != c) }.finish t (.error f))
  | .shutting b, .done =>
    let s := { s with browser := none, connected := s.connected.filter (· != b) }
    some (s.setPhase t s.stop)
  | .shutting _, .failed f => some (s.setPhase t (.shut (.error f)))
  | .stopping, .done => some ({ s with hasEngine := false }.setPhase t (.shut (.ok ())))
  | .stopping, .failed f => some (s.setPhase t (.shut (.error f)))
  | _, _ => none

end State

/-- What an event changes. -/
def step (s : State β) : Event β → Option (State β)
  | .print t =>
    if (s.phase? t).isSome then none
    else if s.free = 0 then some ({ s with queue := s.queue ++ [t] }.add t .queued)
    else some ({ s with free := s.free - 1 }.add t .admitted)
  | .shutDown t =>
    if (s.phase? t).isSome then none
    else some (s.add t (match s.browser with
      | some b => .shutting b
      | none => s.stop))
  | .resume t =>
    match s.phase? t with
    | some .admitted =>
      match s.looker with
      | none => some ({ s with looker := some t }.setPhase t .looking)
      | some _ => some ({ s with lookQueue := s.lookQueue ++ [t] }.setPhase t .waiting)
    | some .looking => some (s.look t)
    | _ => none
  | .reply t r => (s.phase? t).bind fun p => s.answer t p r
  | .disconnect b => some { s with connected := s.connected.filter (· != b) }

/-- The state after some events, if they can occur one after the other. -/
def after : State β → List (Event β) → Option (State β)
  | s, [] => some s
  | s, e :: rest => (step s e).bind fun s => after s rest

/-- The states that events lead to from a press of a size at rest. -/
inductive Reachable (size : Nat) : State β → Prop where
  | start : Reachable size (State.ofSize size)
  | step {s s' : State β} (e : Event β) (reached : Reachable size s) (h : step s e = some s') : Reachable size s'

end Press

end Letterpress
