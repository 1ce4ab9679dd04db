import Letterpress.Text.Class

/-!
# Patterns

Patterns of text with groups, repetition and conditions on what stands around. Of several ways to match, the
first one counts: alternatives are tried from left to right, and a repetition takes as much as it can, or as
little when it is lazy.

* `Pattern.matchAt?`: the match of a pattern at a place.
* `Pattern.find?`: the first match from a place on.
-/

namespace Letterpress.Text

inductive Pattern where
  /-- the empty text -/
  | empty
  /-- one character of a set -/
  | one (p : Char → Bool)
  | seq (a b : Pattern)
  | alt (a b : Pattern)
  /-- a repetition with a least count, and a greatest one if there is one -/
  | many (isLazy : Bool) (least : Nat) (most : Option Nat) (a : Pattern)
  /-- remembers what a part matches under a number -/
  | group (n : Nat) (a : Pattern)
  /-- what a group has matched, once more -/
  | again (n : Nat)
  /-- a condition on what follows -/
  | ahead (wanted : Bool) (a : Pattern)
  /-- a condition on the character before, or on there being none -/
  | behind (p : Option Char → Bool)
  /-- the end of the text -/
  | finish

/-- A place in a text: what stands before it, last character first, and what follows. -/
structure Place where
  before : List Char
  rest : List Char

namespace Place

def start (cs : List Char) : Place := ⟨[], cs⟩

/-- The place after some characters. -/
def advance : Nat → Place → Place
  | 0, p => p
  | _, ⟨b, []⟩ => ⟨b, []⟩
  | n + 1, ⟨b, c :: cs⟩ => advance n ⟨c :: b, cs⟩

def index (p : Place) : Nat := p.before.length

end Place

/-- The text of each group. -/
abbrev Groups := List (Nat × List Char)

/-- What stood before a match, what it took, with its groups, and where it ended. -/
structure Match where
  start : Place
  taken : List Char
  groups : Groups
  stop : Place

namespace Match

def group? (m : Match) (n : Nat) : Option (List Char) := m.groups.lookup n

/-- The text of a group, empty if the group took no part. -/
def group (m : Match) (n : Nat) : List Char := (m.group? n).getD []

end Match

namespace Pattern

/-- The characters between two places of one text. -/
def between (a b : Place) : List Char := a.rest.take (a.rest.length - b.rest.length)

/-- Repeats a step as often as the rest of the text allows, with a continuation behind it. -/
def repeatWith {α : Type} (step : Place → Groups → (Place → Groups → Option α) → Option α) (isLazy : Bool)
    (k : Place → Groups → Option α) : Nat → Nat → Option Nat → Place → Groups → Option α
  | 0, least, _, p, g => if least = 0 then k p g else none
  | fuel + 1, least, most, p, g =>
    let more (_ : Unit) : Option α :=
      if most = some 0 then none
      else step p g fun p' g' =>
        if p'.rest.length < p.rest.length || 0 < least then
          repeatWith step isLazy k fuel (least - 1) (most.map (· - 1)) p' g'
        else none
    let done (_ : Unit) : Option α := if least = 0 then k p g else none
    if isLazy then (done ()).orElse more else (more ()).orElse done

/-- Matches a pattern at a place and goes on with what is left. -/
def run {α : Type} : Pattern → Place → Groups → (Place → Groups → Option α) → Option α
  | empty, p, g, k => k p g
  | one t, ⟨b, cs⟩, g, k =>
    match cs with
    | c :: cs => if t c then k ⟨c :: b, cs⟩ g else none
    | [] => none
  | seq a b, p, g, k => run a p g fun p g => run b p g k
  | alt a b, p, g, k => (run a p g k).orElse fun _ => run b p g k
  | many isLazy least most a, p, g, k =>
    repeatWith (fun p g k => run a p g k) isLazy k (p.rest.length + least + 1) least most p g
  | group n a, p, g, k => run a p g fun p' g' => k p' ((n, between p p') :: g')
  | again n, p, g, k =>
    match g.lookup n with
    | some t => if t.isPrefixOf p.rest then k (p.advance t.length) g else none
    | none => none
  | ahead wanted a, p, g, k =>
    match (run a p g fun _ g => some g : Option Groups), wanted with
    | some g', true => k p g'
    | none, false => k p g
    | _, _ => none
  | behind t, p, g, k => if t p.before.head? then k p g else none
  | finish, p, g, k => if p.rest.isEmpty then k p g else none

def matchAt? (a : Pattern) (p : Place) : Option Match :=
  run a p [] fun p' g => some ⟨p, between p p', g, p'⟩

def findWithin? (a : Pattern) : Nat → Place → Option Match
  | fuel, p =>
    match matchAt? a p with
    | some m => some m
    | none =>
      match fuel, p.rest with
      | fuel + 1, _ :: _ => findWithin? a fuel (p.advance 1)
      | _, _ => none

/-- The first match from a place on. -/
def find? (a : Pattern) (p : Place) : Option Match := findWithin? a p.rest.length p

/-! ## Common parts -/

def char (c : Char) : Pattern := one (· == c)

def word (s : String) : Pattern := s.toList.foldr (fun c a => seq (char c) a) empty

def all (parts : List Pattern) : Pattern := parts.foldr seq empty

def any (parts : List Pattern) : Pattern :=
  match parts with
  | [] => ahead false empty
  | a :: rest => rest.foldl alt a

def star (a : Pattern) : Pattern := many false 0 none a

def plus (a : Pattern) : Pattern := many false 1 none a

def few (a : Pattern) : Pattern := many true 0 none a

def fewPlus (a : Pattern) : Pattern := many true 1 none a

def upTo (n : Nat) (a : Pattern) : Pattern := many false 0 (some n) a

def optional (a : Pattern) : Pattern := upTo 1 a

def anyChar : Pattern := one fun _ => true

def notIn (s : String) : Pattern := let cs := s.toList; one fun c => !cs.contains c

def oneOf (s : String) : Pattern := let cs := s.toList; one fun c => cs.contains c

def blank : Pattern := one isBlank

def lineStart : Pattern := behind fun c => c.isNone || c == some '\n'

def lineEnd : Pattern := alt finish (ahead true (char '\n'))

/-- The end of the text, or the place before a last line feed. -/
def textEnd : Pattern := alt finish (ahead true (seq (char '\n') finish))

def notBehind (p : Char → Bool) : Pattern := behind fun c => !(c.map p).getD false

def notAhead (a : Pattern) : Pattern := ahead false a

end Pattern

end Letterpress.Text
