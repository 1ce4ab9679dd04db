import Letterpress.Calendar.Moment

/-!
# Values

The values that callers hand over and that template expressions compute with.

Data of a caller are made of the constructors from `none` to `record`. Expressions add text that is already
safe hypertext, mappings with keys of any kind, lazy sequences, things that can be called, the state of a
loop, and the value of a name that was never defined.

* `Value.truth?`: which values count as false.
* `Value.eqv?`: equality; numbers of all kinds compare by value, mappings without regard to order.
* `Value.lt?`: order, where there is one.
-/

namespace Letterpress

/-- The kinds of lazy sequences. -/
inductive Lazy where
  | keys
  | values
  | items
  /-- a sequence that can be walked once -/
  | stream
  deriving DecidableEq, Repr, Inhabited

inductive Value where
  | none
  | bool (b : Bool)
  | int (i : Int)
  | float (x : Binary64)
  | text (s : String)
  | date (d : Date)
  | moment (m : Moment)
  | list (xs : List Value)
  | tuple (xs : List Value)
  | record (fields : List (String × Value))
  /-- text that is already safe hypertext -/
  | markup (s : String)
  /-- a mapping with keys of any kind -/
  | mapping (entries : List (Value × Value))
  | range (start stop step : Int)
  | sequence (kind : Lazy) (xs : List Value)
  /-- a helper or another function, by name -/
  | function (name : String)
  /-- a function that belongs to a value -/
  | method (self : Value) (name : String)
  /-- the state of a loop at an item -/
  | loop (index length : Nat)
  /-- the value of a name that was never defined; a lenient one counts as empty text -/
  | undefined (lenient : Bool) (message : String)
  deriving Inhabited

abbrev Fields := List (String × Value)

namespace Fields

/-- The value under a key. -/
def get? (key : String) (fields : Fields) : Option Value := fields.lookup key

def contains (key : String) (fields : Fields) : Bool := (get? key fields).isSome

/-- Sets a key: an existing one keeps its place, a new one comes last. -/
def set (fields : Fields) (key : String) (v : Value) : Fields :=
  match fields with
  | [] => [(key, v)]
  | (k, w) :: rest => if k = key then (k, v) :: rest else (k, w) :: set rest key v

/-- The fields of the second over those of the first. -/
def overlay (base upper : Fields) : Fields := upper.foldl (fun acc (k, v) => set acc k v) base

end Fields

namespace Value

/-- The number that a value counts as: booleans are zero and one. -/
inductive Numeral where
  | int (i : Int)
  | float (x : Binary64)

def numeral? : Value → Option Numeral
  | bool b => some (.int (if b then 1 else 0))
  | int i => some (.int i)
  | float x => some (.float x)
  | _ => Option.none

namespace Numeral

def cmp? : Numeral → Numeral → Option Ordering
  | int a, int b => some (compare a b)
  | int a, float y => (y.compareInt? a).map Ordering.swap
  | float x, int b => x.compareInt? b
  | float x, float y => x.cmp? y

def isZero : Numeral → Bool
  | int i => i == 0
  | float x => x.isZero

end Numeral

/-- Text, safe or not. -/
def string? : Value → Option String
  | text s => some s
  | markup s => some s
  | _ => Option.none

/-- The number of items of a range. -/
def rangeLength (start stop step : Int) : Nat :=
  if 0 < step then (if start < stop then ((stop - start - 1) / step + 1).toNat else 0)
  else if step < 0 then (if stop < start then ((start - stop - 1) / (-step) + 1).toNat else 0)
  else 0

def rangeItems (start stop step : Int) : List Value :=
  (List.range (rangeLength start stop step)).map fun (i : Nat) => int (start + (i : Int) * step)

def truth? : Value → Except Fault Bool
  | none => .ok false
  | bool b => .ok b
  | int i => .ok (i != 0)
  | float x => .ok (!x.isZero)
  | text s => .ok (!s.isEmpty)
  | markup s => .ok (!s.isEmpty)
  | date _ => .ok true
  | moment _ => .ok true
  | list xs => .ok (!xs.isEmpty)
  | tuple xs => .ok (!xs.isEmpty)
  | record fields => .ok (!fields.isEmpty)
  | mapping entries => .ok (!entries.isEmpty)
  | range a b c => .ok (rangeLength a b c != 0)
  | sequence .stream _ => .ok true
  | sequence _ xs => .ok (!xs.isEmpty)
  | function _ => .ok true
  | method _ _ => .ok true
  | loop _ _ => .ok true
  | undefined true _ => .ok false
  | undefined false m => .error (.undefined m)

/-- Whether a value was never defined and may not be used. -/
def refusal? : Value → Option Fault
  | undefined false m => some (.undefined m)
  | _ => Option.none

/-- Whether a value can be a key of a mapping. -/
def isKey : Value → Bool
  | list _ | record _ | mapping _ => false
  | tuple xs => xs.attach.all fun ⟨x, _⟩ => isKey x
  | _ => true

/-- Equality of two moments: those with an offset compare as instants, and never equal those without. -/
def sameMoment (a b : Moment) : Bool :=
  a.offset.isSome == b.offset.isSome && a.instant == b.instant

mutual

/-- Equality. A value that was never defined refuses to be compared. -/
def eqv? : Value → Value → Except Fault Bool
  | undefined false m, _ => .error (.undefined m)
  | _, undefined false m => .error (.undefined m)
  | undefined true _, undefined true _ => .ok true
  | none, none => .ok true
  | text a, text b => .ok (a == b)
  | text a, markup b => .ok (a == b)
  | markup a, text b => .ok (a == b)
  | markup a, markup b => .ok (a == b)
  | date a, date b => .ok (a == b)
  | moment a, moment b => .ok (sameMoment a b)
  | list xs, list ys => eqvList? xs ys
  | tuple xs, tuple ys => eqvList? xs ys
  | record xs, record ys => if xs.length = ys.length then eqvFields? xs ys else .ok false
  | range a b c, range a' b' c' => .ok (rangeLength a b c == 0 && rangeLength a' b' c' == 0 ||
      a == a' && c == c' && rangeLength a b c == rangeLength a' b' c')
  | function f, function g => .ok (f == g)
  | v, w =>
    match v.numeral?, w.numeral? with
    | some a, some b => .ok (a.cmp? b == some .eq)
    | _, _ => .ok false

def eqvList? : List Value → List Value → Except Fault Bool
  | [], [] => .ok true
  | x :: xs, y :: ys => do
    let same ← eqv? x y
    if same then eqvList? xs ys else .ok false
  | _, _ => .ok false

/-- Whether every field of the first stands in the second with an equal value. -/
def eqvFields? : List (String × Value) → List (String × Value) → Except Fault Bool
  | [], _ => .ok true
  | (k, x) :: xs, ys => do
    match ys.lookup k with
    | Option.none => .ok false
    | some y =>
      let same ← eqv? x y
      if same then eqvFields? xs ys else .ok false

end

/-- Order of two texts by code points. -/
def textBefore (a b : String) : Bool := decide (a < b)

mutual

/-- Whether the first comes before the second; a fault when the two have no order. -/
def lt? : Value → Value → Except Fault Bool
  | undefined _ m, _ => .error (.undefined m)
  | _, undefined _ m => .error (.undefined m)
  | date a, date b => .ok (a.ordinal < b.ordinal)
  | moment a, moment b =>
    if a.offset.isSome == b.offset.isSome then .ok (a.instant < b.instant) else .error .wrongType
  | list xs, list ys => ltList? xs ys
  | tuple xs, tuple ys => ltList? xs ys
  | v, w =>
    match v.string?, w.string? with
    | some a, some b => .ok (textBefore a b)
    | _, _ =>
      match v.numeral?, w.numeral? with
      | some a, some b => .ok (a.cmp? b == some .lt)
      | _, _ => .error .wrongType

/-- The first pair of items that differ decides; a list comes before its extensions. -/
def ltList? : List Value → List Value → Except Fault Bool
  | _, [] => .ok false
  | [], _ :: _ => .ok true
  | x :: xs, y :: ys => do
    let same ← eqv? x y
    if same then ltList? xs ys else lt? x y

end

end Value

end Letterpress
