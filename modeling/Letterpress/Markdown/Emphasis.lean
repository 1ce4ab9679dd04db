import Letterpress.Markdown.Span

/-!
# Emphasis

Runs of asterisks or low lines emphasise the text between them, one sign weakly and two strongly. A run opens
emphasis if text follows it and closes it if text comes before; low lines within a word do neither. A run that
may do both opens a new level rather than closing one that was opened by a run of another parity.

* `Span.replaceEmphasis`: the emphasis that one sign marks.
-/

namespace Letterpress.Markdown

open Text

namespace Span

/-- A run that has opened a level: the signs that are left, the length of the run, the text since, last span
first. -/
structure Level where
  left : Nat
  length : Nat
  content : List Span

/-- A run of signs with what stands around it. -/
structure Run where
  length : Nat
  canOpen : Bool
  canClose : Bool

/-- The levels that are open, innermost first, above the text outside of all. -/
structure Levels where
  open_ : List Level
  outside : List Span

namespace Levels

def append (added : List Span) (ls : Levels) : Levels :=
  match ls.open_ with
  | [] => { ls with outside := added ++ ls.outside }
  | l :: rest => { ls with open_ := { l with content := added ++ l.content } :: rest }

def signs (sign : Char) (n : Nat) : List Span := List.replicate n (char sign)

/-- Turns the innermost levels into plain text until one is reached that a test accepts. -/
def giveUp (sign : Char) (stopAt : Level → Bool) : Nat → Levels → Levels
  | 0, ls => ls
  | fuel + 1, ls =>
    match ls.open_ with
    | [] => ls
    | l :: rest =>
      if stopAt l then ls
      else giveUp sign stopAt fuel (({ ls with open_ := rest } : Levels).append (l.content ++ signs sign l.left))

/-- Whether a run closes a level. -/
def closes (r : Run) (l : Level) : Bool :=
  !(r.canOpen && (l.length + r.length) % 3 == 0 && !(l.length % 3 == 0 && r.length % 3 == 0))

/-- Closes the innermost level with one sign or two. -/
def closeOnce (count : Nat) (ls : Levels) : Levels :=
  match ls.open_ with
  | [] => ls
  | l :: rest =>
    let content := l.content.reverse
    let found := if count = 2 then strong content else emphasis content
    if l.left ≤ count then ({ ls with open_ := rest } : Levels).append [found]
    else { ls with open_ := { l with left := l.left - count, content := [found] } :: rest }

/-- Closes levels with the signs of a run as long as there are any: the levels, and the signs left. -/
def close (sign : Char) (r : Run) : Nat → Nat → Levels → Levels × Nat
  | 0, left, ls => (ls, left)
  | fuel + 1, left, ls =>
    if left = 0 || !ls.open_.any (closes r) then (ls, left)
    else
      let ls := giveUp sign (closes r) ls.open_.length ls
      match ls.open_ with
      | [] => (ls, left)
      | l :: _ =>
        let count := if min l.left left % 2 == 0 then 2 else 1
        close sign r fuel (left - count) (closeOnce count ls)

/-- Goes on behind a run. -/
def meet (sign : Char) (r : Run) (ls : Levels) : Levels :=
  let (ls, left) := if r.canClose then close sign r (r.length + 1) r.length ls else (ls, r.length)
  if left = 0 then ls
  else if r.canOpen then { ls with open_ := ⟨left, r.length, []⟩ :: ls.open_ }
  else ls.append (signs sign left)

def finish (sign : Char) (ls : Levels) : List Span :=
  (giveUp sign (fun _ => false) ls.open_.length ls).outside.reverse

end Levels

def isWordAt (s : Option Span) : Bool := (s.map (isOne isWord)).getD false

def isBlankAt (s : Option Span) : Bool := (s.map (isOne isBlank)).getD true

/-- What a run can do, given the spans around it. -/
def runOf (sign : Char) (length : Nat) (before after : Option Span) : Run :=
  let inWords := sign == '_'
  ⟨length, !isBlankAt after && !(inWords && isWordAt before), !isBlankAt before && !(inWords && isWordAt after)⟩

def emphasisFrom (sign : Char) : Nat → Option Span → Levels → List Span → Levels
  | 0, _, ls, _ => ls
  | _, _, ls, [] => ls
  | fuel + 1, before, ls, s :: ss =>
    if s.is sign then
      let length := ((s :: ss).takeWhile (·.is sign)).length
      let rest := (s :: ss).drop length
      emphasisFrom sign fuel (some s) (ls.meet sign (runOf sign length before rest.head?)) rest
    else emphasisFrom sign fuel (some s) (ls.append [s]) ss

/-- Replaces the emphasis that runs of a sign mark. -/
def replaceEmphasis (sign : Char) (ss : List Span) : List Span :=
  (emphasisFrom sign ss.length none ⟨[], []⟩ ss).finish sign

end Span

end Letterpress.Markdown
