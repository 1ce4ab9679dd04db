import Letterpress.Text.Trim

/-!
# File names

Names for files and directories made from any text. Both kinds are a single component of a path: they hold no
slash, and no point or hyphen stands at either end.

* `FileName.plain`: a name in ASCII, where each run of other characters becomes one hyphen.
* `FileName.segment`: a name that keeps letters and numbers of all scripts, where each other character becomes a
  hyphen.
-/

namespace Letterpress.FileName

open Text

/-- The signs that do not stand at the ends of a name. -/
def isEdge (c : Char) : Bool := c == '.' || c == '-'

def isPlain (c : Char) : Bool := isAsciiAlnum c || isEdge c || c == '_'

def isSegment (c : Char) : Bool := isAlnum c || isEdge c || c == '_'

/-- Text with each run of foreign characters as one hyphen, given whether the character before is foreign. -/
def squash (afterForeign : Bool) : List Char → List Char
  | [] => []
  | c :: cs =>
    if isPlain c then c :: squash false cs
    else if afterForeign then squash true cs else '-' :: squash true cs

/-- A name without signs at its ends, or a name in its place where nothing is left. -/
def trimmed (default : String) (cs : List Char) : List Char :=
  let name := trimBy isEdge cs
  if name.isEmpty then default.toList else name

def plain (cs : List Char) : List Char := trimmed "document" (squash false cs)

def segment (cs : List Char) : List Char := trimmed "unknown" (cs.map fun c => if isSegment c then c else '-')

end Letterpress.FileName
