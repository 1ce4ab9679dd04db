import Letterpress.Storage.Folder

/-!
# Storerooms

A folder that many uploads make use of at once. Each of them waits between its tasks, and in between any other may go
on. A task may come out as the file system has it, but the system may also refuse it for reasons of its own, or break
it off when a part of it is done.

* `FileTask.turn`: a task that comes out in one way or another.
* `Storeroom.step`: what an event changes; `none` where it cannot occur.
* `Storeroom.after`: the state that events lead to.
-/

namespace Letterpress

/-- How a task comes out. -/
inductive Outcome where
  /-- as the file system has it -/
  | served
  /-- refused, without a trace -/
  | refused (f : Fault)
  /-- broken off, with so many directories made or bytes written -/
  | brokenOff (extent : Nat) (f : Fault)
  deriving Inhabited

namespace FileTask

/-- The beginning of a task: the outer directories, or a file with the first bytes of its content. -/
def beginning (extent : Nat) : FileTask → FileTask
  | makeDirectories p => makeDirectories (p.take extent)
  | write p content => write p (content.take extent)

def turn (t : FileTask) (fs : FileSystem) : Outcome → Answer t × FileSystem
  | .served => t.serve fs
  | .refused f => (.error f, fs)
  | .brokenOff extent f => (.error f, ((t.beginning extent).serve fs).2)

/-- A file system where each task comes out in a given way. -/
def serveBy (ways : FileTask → Outcome) (t : FileTask) (fs : FileSystem) : Answer t × FileSystem := t.turn fs (ways t)

end FileTask

namespace Folder

/-- How many digits a mark has. -/
def markLength : Nat := 32

def isMark (mark : String) : Bool := mark.toList.length == markLength && mark.toList.all Text.isHex

/-- An upload under way. -/
structure Job where
  mark : String
  upload : Upload
  rest : Course (Except Failure StoredObject)

end Folder

open Folder

/-- A disk, and all uploads so far in the order of their beginnings. -/
structure Storeroom where
  disk : FileSystem
  jobs : List Job := []

namespace Storeroom

inductive Event where
  /-- an upload begins, for which a mark is drawn -/
  | begin_ (mark : String) (u : Upload)
  /-- the next task of an upload -/
  | go (i : Nat) (o : Outcome)

/-- A mark is drawn only once. -/
def isFresh (d : Storeroom) (mark : String) : Bool := isMark mark && d.jobs.all (·.mark != mark)

def go (d : Storeroom) (i : Nat) (o : Outcome) : Option Storeroom :=
  match d.jobs[i]? with
  | some ⟨mark, u, .ask t next⟩ =>
    let (x, disk) := t.turn d.disk o
    some ⟨disk, d.jobs.set i ⟨mark, u, next x⟩⟩
  | _ => none

def step (root : String) (d : Storeroom) : Event → Option Storeroom
  | .begin_ mark u =>
    if d.isFresh mark then some { d with jobs := d.jobs ++ [⟨mark, u, Folder.upload root mark u⟩] } else none
  | .go i o => d.go i o

def after (root : String) : Storeroom → List Event → Option Storeroom
  | d, [] => some d
  | d, e :: rest => (d.step root e).bind fun d => after root d rest

/-- What an upload has come to, if it is at its end. -/
def result? (d : Storeroom) (i : Nat) : Option (Except Failure StoredObject) :=
  match d.jobs[i]? with
  | some ⟨_, _, .done r⟩ => some r
  | some ⟨_, _, .ask _ _⟩ => none
  | none => none

end Storeroom

end Letterpress
