import Letterpress.Dialogue
import Letterpress.FileSystem
import Letterpress.Options
import Letterpress.Pdf
import Letterpress.Press
import Letterpress.Progress
import Letterpress.Storage

/-!
# Requests of a generation

What a generation asks of its surroundings, one thing at a time. Each of them may fail at any time, clock and removal
apart.

* `Receipt`: what a storage says about an object that it has taken.
* `Generation.Request`, `Generation.Answer`: the requests and their answers.
* `Generation.Course`: a computation that makes such requests.
-/

namespace Letterpress

/-- What a storage says about an object that it has taken. Key and address should be text, but a storage may say
anything. -/
structure Receipt where
  key : Value
  bucket : Value
  size : Int
  url : Value
  deriving Inhabited

namespace Receipt

def ofObject (o : StoredObject) : Receipt := ⟨.text o.key, .text o.bucket, o.size, .text o.url⟩

end Receipt

namespace Generation

inductive Request where
  /-- the time, and a number by chance -/
  | clock
  | announce (number templateId : String) (p : Progress)
  | resolve (templateId : String)
  /-- the file at a path, if there is one -/
  | picture (path : String)
  | print (job : PrintJob)
  /-- a place for an artifact with a name that is wished for -/
  | allocate (wish : String) (format : OutputFormat)
  | write (p : Place) (content : Bytes)
  | read (p : Place)
  | discard (p : Place)
  | upload (u : Upload)

def Answer : Request → Type
  | .clock => Reading
  | .announce _ _ _ => Except Failure Unit
  | .resolve _ => Except Failure Template
  | .picture _ => Option Bytes
  | .print _ => Except Failure Printed
  | .allocate _ _ => Except Failure Place
  | .write _ _ => Except Fault Unit
  | .read _ => Except Fault Bytes
  | .discard _ => Unit
  | .upload _ => Except Failure Receipt

abbrev Course := Dialogue Request Answer

namespace Course

def clock : Course Reading := Dialogue.put Request.clock

/-- An announcement. Whether anyone hears it does not matter. -/
def announce (number templateId : String) (p : Progress) : Course Unit := do
  let _ ← Dialogue.put (Request.announce number templateId p)
  return ()

def resolve (id : String) : Course (Except Failure Template) := Dialogue.put (Request.resolve id)

def picture (path : String) : Course (Option Bytes) := Dialogue.put (Request.picture path)

def print (j : PrintJob) : Course (Except Failure Printed) := Dialogue.put (Request.print j)

def allocate (wish : String) (f : OutputFormat) : Course (Except Failure Place) := Dialogue.put (Request.allocate wish f)

def write (p : Place) (content : Bytes) : Course (Except Fault Unit) := Dialogue.put (Request.write p content)

def read (p : Place) : Course (Except Fault Bytes) := Dialogue.put (Request.read p)

def discard (p : Place) : Course Unit := Dialogue.put (Request.discard p)

def upload (u : Upload) : Course (Except Failure Receipt) := Dialogue.put (Request.upload u)

end Course

end Generation

end Letterpress
