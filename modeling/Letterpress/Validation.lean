import Letterpress.Text.Case
import Letterpress.Text.Trim
import Letterpress.Value

/-!
# Validation

Reads values that callers hand over into fields of a fixed kind. Values of a near kind are converted: a whole
number may be written as text, and a truth value as a word or as zero or one. All complaints about a record are
gathered, in the order of its fields.

* `Checked`: a value, or complaints with the places that they are about.
* `Record.field`, `Record.optional`: one field of a record.
* `Checked.app`: the next argument of a constructor; complaints of both sides are kept.
-/

namespace Letterpress

/-- A step on the way to a part of a value. -/
inductive PlaceStep where
  | key (k : String)
  | index (i : Nat)
  deriving DecidableEq, Repr, Inhabited

inductive Problem where
  | missing
  | notText
  | notWhole
  | unreadableWhole
  | fractional
  | notFinite
  | notTruth
  | unreadableTruth
  | notNumber
  | unreadableNumber
  | notMember
  | notAlternative
  | notList
  | notMapping
  | notRecord
  | notSet
  | notPath
  | notGreater
  | tooSmall
  | tooGreat
  | tooShort
  | unknownField
  | notAddress
  | unreadableAddress
  | foreignScheme
  /-- a value that a rule of the field refuses, with the text of the refusal -/
  | refused (message : String)
  deriving DecidableEq, Repr, Inhabited

namespace Problem

/-- The code by which callers know a problem. -/
def code : Problem → String
  | missing => "missing"
  | notText => "string_type"
  | notWhole => "int_type"
  | unreadableWhole => "int_parsing"
  | fractional => "int_from_float"
  | notFinite => "finite_number"
  | notTruth => "bool_type"
  | unreadableTruth => "bool_parsing"
  | notNumber => "float_type"
  | unreadableNumber => "float_parsing"
  | notMember => "enum"
  | notAlternative => "literal_error"
  | notList => "list_type"
  | notMapping => "dict_type"
  | notRecord => "model_type"
  | notSet => "frozen_set_type"
  | notPath => "path_type"
  | notGreater => "greater_than"
  | tooSmall => "greater_than_equal"
  | tooGreat => "less_than_equal"
  | tooShort => "string_too_short"
  | unknownField => "extra_forbidden"
  | notAddress => "url_type"
  | unreadableAddress => "url_parsing"
  | foreignScheme => "url_scheme"
  | refused _ => "value_error"

end Problem

structure Issue where
  place : List PlaceStep
  problem : Problem
  deriving DecidableEq, Repr, Inhabited

abbrev Checked (α : Type) := Except (List Issue) α

namespace Checked

def complain {α : Type} (p : Problem) : Checked α := .error [⟨[], p⟩]

/-- The next argument of a function of several fields. -/
def app {α β : Type} (f : Checked (α → β)) (x : Checked α) : Checked β :=
  match f, x with
  | .ok f, .ok x => .ok (f x)
  | .ok _, .error e => .error e
  | .error e, .ok _ => .error e
  | .error e, .error e' => .error (e ++ e')

/-- Complaints as seen from one step further out. -/
def under {α : Type} (s : PlaceStep) (x : Checked α) : Checked α :=
  x.mapError fun issues => issues.map fun i => { i with place := s :: i.place }

/-- A value with complaints about something else. -/
def andAlso {α : Type} (x : Checked α) (others : List Issue) : Checked α :=
  if others.isEmpty then x
  else
    match x with
    | .ok _ => .error others
    | .error e => .error (e ++ others)

/-- The items of a list, each checked. -/
def all {α : Type} (check : Value → Checked α) (i : Nat) : List Value → Checked (List α)
  | [] => .ok []
  | x :: xs => app ((under (.index i) (check x)).map List.cons) (all check (i + 1) xs)

/-! ## Kinds of fields -/

def text (v : Value) : Checked String :=
  match v.string? with
  | some s => .ok s
  | none => complain .notText

def optionalText (v : Value) : Checked (Option String) :=
  match v with
  | .none => .ok none
  | v => (text v).map some

/-- Digits that single low lines divide, without the low lines. -/
def plainDigits? : List Char → Option (List Char)
  | [] => none
  | [c] => if Text.isAsciiDigit c then some [c] else none
  | c :: '_' :: rest => if Text.isAsciiDigit c then (plainDigits? rest).map (c :: ·) else none
  | c :: rest => if Text.isAsciiDigit c then (plainDigits? rest).map (c :: ·) else none

/-- Text without a fraction of zeros. -/
def dropZeroFraction (cs : List Char) : List Char :=
  match Text.breakOn? ['.'] cs with
  | some (whole, fraction) => if fraction.all (· == '0') then whole else cs
  | none => cs

/-- A whole number in text, with blanks around it, a sign, low lines and a fraction of zeros. -/
def readWhole? (s : List Char) : Option Int :=
  let cs := Text.trim s
  let (negative, ds) := match cs with
    | '-' :: ds => (true, ds)
    | '+' :: ds => (false, ds)
    | ds => (false, ds)
  (plainDigits? (dropZeroFraction ds)).map fun ds =>
    let n := ds.foldl (fun n c => n * 10 + (c.toNat - 48)) 0
    if negative then -(n : Int) else n

def whole (v : Value) : Checked Int :=
  match v with
  | .bool b => .ok (if b then 1 else 0)
  | .int i => .ok i
  | .float x =>
    match x.truncate? with
    | none => complain .notFinite
    | some i => if x.isInteger then .ok i else complain .fractional
  | v =>
    match v.string? with
    | none => complain .notWhole
    | some s => (readWhole? s.toList).elim (complain .unreadableWhole) .ok

def atLeast (low : Int) (x : Checked Int) : Checked Int :=
  x.bind fun i => if low ≤ i then .ok i else complain .tooSmall

def atMost (high : Int) (x : Checked Int) : Checked Int :=
  x.bind fun i => if i ≤ high then .ok i else complain .tooGreat

def falseWords : List String := ["0", "off", "f", "false", "n", "no"]

def trueWords : List String := ["1", "on", "t", "true", "y", "yes"]

def truthOfInt (i : Int) : Checked Bool :=
  if i = 0 then .ok false else if i = 1 then .ok true else complain .unreadableTruth

def truth (v : Value) : Checked Bool :=
  match v with
  | .bool b => .ok b
  | .int i => truthOfInt i
  | .float x =>
    match x.truncate? with
    | some i => if x.isInteger then truthOfInt i else complain .notTruth
    | none => complain .notTruth
  | v =>
    match v.string? with
    | none => complain .notTruth
    | some s =>
      let w := String.ofList (Text.lower s.toList)
      if falseWords.contains w then .ok false
      else if trueWords.contains w then .ok true
      else complain .unreadableTruth

def list (v : Value) : Checked (List Value) :=
  match v with
  | .list xs => .ok xs
  | .tuple xs => .ok xs
  | _ => complain .notList

def mapping (v : Value) : Checked Fields :=
  match v with
  | .record fields => .ok fields
  | _ => complain .notMapping

/-- The fields of a nested record. -/
def record (v : Value) : Checked Fields :=
  match v with
  | .record fields => .ok fields
  | _ => complain .notRecord

/-- A member of an enumeration by its text. -/
def member {α : Type} (find : String → Option α) (v : Value) : Checked α :=
  match v.string?.bind find with
  | some a => .ok a
  | none => complain .notMember

end Checked

namespace Record

/-- A field that must be there. -/
def required {α : Type} (fields : Fields) (k : String) (check : Value → Checked α) : Checked α :=
  match fields.get? k with
  | some v => Checked.under (.key k) (check v)
  | none => Checked.under (.key k) (Checked.complain .missing)

/-- A field that may be left out. -/
def field {α : Type} (fields : Fields) (k : String) (default : α) (check : Value → Checked α) : Checked α :=
  match fields.get? k with
  | some v => Checked.under (.key k) (check v)
  | none => .ok default

/-- Complaints about fields with other names than these. -/
def unknown (fields : Fields) (names : List String) : List Issue :=
  (fields.filter fun (k, _) => !names.contains k).map fun (k, _) => ⟨[.key k], .unknownField⟩

end Record

end Letterpress
