import Letterpress.Text.Trim

/-!
# Paths

Places in a file system, as text with slashes.

* `Path.normal`: the text of a path without empty and dot components.
* `Path.resolve`: an absolute path without components that go up.
* `Path.isWithin`: whether a path lies in a directory.
-/

namespace Letterpress.Path

open Text

def components (p : String) : List String :=
  ((splitBy (· == '/') p.toList).filter fun c => !(c.isEmpty || c == ['.'])).map String.ofList

def isAbsolute (p : String) : Bool := p.toList.head? == some '/'

/-- What an absolute path starts with: one slash, or exactly two. -/
def lead (p : String) : String :=
  match p.toList with
  | '/' :: '/' :: '/' :: _ => "/"
  | '/' :: '/' :: _ => "//"
  | '/' :: _ => "/"
  | _ => ""

def ofComponents (lead : String) (cs : List String) : String :=
  if lead.isEmpty && cs.isEmpty then "." else lead ++ "/".intercalate cs

def normal (p : String) : String := ofComponents (lead p) (components p)

/-- A path seen from a directory; an absolute path stays as it is. -/
def join (dir p : String) : String :=
  if isAbsolute p then normal p
  else
    let cs := components p
    if cs.isEmpty then normal dir else ofComponents (lead dir) (components dir ++ cs)

/-- Components without those that go up. -/
def climb (done : List String) : List String → List String
  | [] => done.reverse
  | ".." :: rest => climb done.tail rest
  | c :: rest => climb (c :: done) rest

/-- The components of an absolute path without those that go up. -/
def resolve (p : String) : List String := climb [] (components p)

def isWithin (dir p : String) : Bool := (resolve dir).isPrefixOf (resolve p)

/-- The last component. -/
def name (p : String) : String := (components p).getLast?.getD ""

/-- The last point of a name that is neither first nor last, and what follows it. -/
def suffix (p : String) : String :=
  let n := (name p).toList
  let ext := (n.reverse.takeWhile (· != '.')).reverse
  let stem := n.take (n.length - ext.length)
  if stem.length ≤ 1 || ext.isEmpty then "" else String.ofList ('.' :: ext)

end Letterpress.Path
