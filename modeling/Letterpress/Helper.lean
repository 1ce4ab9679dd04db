import Letterpress.Calendar.Iso
import Letterpress.Hypertext.Escape
import Letterpress.Locale.Amount
import Letterpress.Locale.DatePattern
import Letterpress.Locale.Tag
import Letterpress.Number.Reading
import Letterpress.Parameters
import Letterpress.Text.Case
import Letterpress.Value.Literal

/-!
# Helpers

The formatting functions that templates call by name.

* `Helper`: the helpers, with their names and parameters.
* `Helper.call`: a call with positional and named arguments.
* `Helper.collisions`: names of a caller's data that a helper takes precedence over.
-/

namespace Letterpress

inductive Helper where
  | formatDate
  | formatDateTime
  | formatTime
  | formatCurrency
  | formatNumber
  | formatPercent
  | uppercase
  | lowercase
  | capitalize
  | truncate
  | ifThen
  | isNullOrEmpty
  | defaultValue
  | sum
  | count
  | join
  | sort
  | filter
  deriving DecidableEq, Repr, Inhabited

namespace Helper

def all : List Helper :=
  [formatDate, formatDateTime, formatTime, formatCurrency, formatNumber, formatPercent, uppercase, lowercase,
    capitalize, truncate, ifThen, isNullOrEmpty, defaultValue, sum, count, join, sort, filter]

def name : Helper → String
  | formatDate => "formatDate"
  | formatDateTime => "formatDateTime"
  | formatTime => "formatTime"
  | formatCurrency => "formatCurrency"
  | formatNumber => "formatNumber"
  | formatPercent => "formatPercent"
  | uppercase => "uppercase"
  | lowercase => "lowercase"
  | capitalize => "capitalize"
  | truncate => "truncate"
  | ifThen => "ifThen"
  | isNullOrEmpty => "isNullOrEmpty"
  | defaultValue => "defaultValue"
  | sum => "sum"
  | count => "count"
  | join => "join"
  | sort => "sort"
  | filter => "filter"

def ofName? (s : String) : Option Helper := all.find? fun h => h.name == s

/-- Orders texts by code points. -/
def sortNames (names : List String) : List String := names.mergeSort fun a b => !Value.textBefore b a

/-- The names among the keys that belong to a helper, sorted, each once. -/
def collisions (keys : List String) : List String :=
  sortNames ((all.map name).filter keys.contains)

/-- What helpers know of the document being made: its locale and the patterns of its settings. -/
structure Setting where
  locale : String
  dateFormat : String
  dateTimeFormat : String
  timeFormat : String
  deriving Inhabited

/-- The parameters in order, with the defaults of those that may be left out. -/
def parameters (s : Setting) : Helper → Parameters
  | formatDate => [("value", none), ("format", some (.text s.dateFormat))]
  | formatDateTime => [("value", none), ("format", some (.text s.dateTimeFormat))]
  | formatTime => [("value", none), ("format", some (.text s.timeFormat))]
  | formatCurrency =>
    [("amount", none), ("locale_override", some .none), ("currency", some (.text "EUR")), ("decimals", some (.int 2))]
  | formatNumber => [("number", none), ("decimals", some (.int 2)), ("locale_override", some .none)]
  | formatPercent => [("value", none), ("decimals", some (.int 2)), ("locale_override", some .none)]
  | uppercase => [("text", none)]
  | lowercase => [("text", none)]
  | capitalize => [("text", none)]
  | truncate => [("text", none), ("length", some (.int 100)), ("suffix", some (.text "..."))]
  | ifThen => [("condition", none), ("true_value", none), ("false_value", some (.text ""))]
  | isNullOrEmpty => [("value", none)]
  | defaultValue => [("value", none), ("default", some (.text ""))]
  | sum => [("items", none), ("property", some .none)]
  | count => [("items", none)]
  | join => [("items", none), ("separator", some (.text ", "))]
  | sort => [("items", none), ("property", some .none), ("direction", some (.text "asc"))]
  | filter => [("items", none), ("property", none), ("value", none)]

/-! ## Conversions -/

/-- The items of a list or a tuple; other values count as no items. -/
def items? : Value → Option (List Value)
  | .list xs => some xs
  | .tuple xs => some xs
  | _ => none

/-- A moment as the date helpers read it: dates, moments, milliseconds since 1970, and text. -/
def moment? (v : Value) : Except Fault (Option Moment) := do
  if let some f := v.refusal? then throw f
  match v with
  | .moment m => return some m
  | .date d => return some (Moment.midnight d)
  | .bool b => some <$> Moment.ofEpochSeconds (Binary64.ofRatio false (if b then 1 else 0) 1000)
  | .int i =>
    match Binary64.ofIntRatio? i 1000 with
    | some x => some <$> Moment.ofEpochSeconds x
    | none => throw .overflow
  | .float x => some <$> Moment.ofEpochSeconds (Binary64.div x (Binary64.ofInt 1000))
  | .text s => return if s.isEmpty then none else Iso.readMoment? (Text.trim s.toList)
  | .markup s => return if s.isEmpty then none else Iso.readMoment? (Text.trim s.toList)
  | _ => return none

/-- A number as the number helpers read it: text that is no number and values of other kinds are zero. -/
def number (v : Value) : Except Fault Value.Numeral :=
  match v with
  | .bool b => .ok (.float (Binary64.ofInt (if b then 1 else 0)))
  | .int i => .ok (.int i)
  | .float x => .ok (.float x)
  | .undefined _ m => .error (.undefined m)
  | v =>
    match v.string?.bind fun s => Number.readBinary64? s.toList with
    | some x => .ok (.float x)
    | none => .ok (.int 0)

def toDecimal : Value.Numeral → Decimal
  | .int i => .ofInt i
  | .float x => .ofBinary64 x

/-- A hundredth, as a binary64 number. -/
def hundredth : Value.Numeral → Except Fault Binary64
  | .int i =>
    match Binary64.ofIntRatio? i 100 with
    | some x => .ok x
    | none => .error Fault.overflow
  | .float x => .ok (Binary64.div x (Binary64.ofInt 100))

/-- How many decimals a value asks for; numbers that are not positive ask for none. -/
def places (v : Value) : Except Fault Nat :=
  match v with
  | .undefined _ m => .error (.undefined m)
  | .bool b => .ok (if b then 1 else 0)
  | .int i => .ok i.toNat
  | .float x => if x.cmp? Binary64.zero == some .gt then .error Fault.wrongType else .ok 0
  | _ => .error Fault.wrongType

/-- The locale that overrides the document's, when one is given. -/
def localeFor (s : Setting) (override : Value) : Except Fault String := do
  if ← override.truth? then
    match override with
    | .text t => return Locale.normalize (some t)
    | .markup t => return Locale.normalize (some t)
    | .date _ | .moment _ => throw .wrongType
    | _ => throw .noAttribute
  else return s.locale

/-- A pattern given as a value. -/
def pattern (v : Value) : Except Fault (List Char) :=
  match v with
  | .undefined _ m => .error (.undefined m)
  | .text t => .ok t.toList
  | .markup t => .ok t.toList
  | .list _ | .record _ | .mapping _ | .date _ | .moment _ => .error Fault.wrongType
  | _ => .error Fault.noAttribute

def text (cs : List Char) : Value := .text (String.ofList cs)

/-- Whether a value counts as missing. -/
def isBlankValue (v : Value) : Except Fault Bool :=
  match v with
  | .none => .ok true
  | v => v.eqv? (.text "")

/-- The value under a key of a mapping, none for a key that is not there. -/
def field (fields : Fields) (key : Value) : Except Fault Value :=
  match key with
  | .undefined _ m => .error (.undefined m)
  | .text k => .ok ((fields.get? k).getD .none)
  | .markup k => .ok ((fields.get? k).getD .none)
  | key => if key.isKey then .ok .none else .error Fault.wrongType

/-- The value under a key of any mapping. -/
def entry (entries : List (Value × Value)) (key : Value) : Except Fault Value := do
  if let some f := key.refusal? then throw f
  if !key.isKey then throw .wrongType
  let found ← entries.findM? fun (k, _) => k.eqv? key
  return (found.map (·.2)).getD .none

/-- What a mapping holds under a key; none of a value that is no mapping. -/
def fieldOf? (v key : Value) : Except Fault (Option Value) :=
  match v with
  | .record fields => some <$> field fields key
  | .mapping entries => some <$> entry entries key
  | _ => .ok none

/-! ## Text helpers -/

/-- A text helper: empty for values that count as false. -/
def mapText (f : List Char → List Char) (v : Value) : Except Fault Value := do
  if ← v.truth? then return text (f (← v.text?)) else return text []

/-- The first letter of each word as a capital, the rest small; words end at blanks. -/
def capitalizeWords (cs : List Char) : List Char :=
  Text.joinWith [' '] ((Text.splitBy (· == ' ') cs).map fun word =>
    Text.upper (word.take 1) ++ Text.lower (word.drop 1))

/-- The characters before a position that counts from the end when it is negative. -/
def takeTo (cs : List Char) (i : Int) : List Char :=
  if 0 ≤ i then cs.take i.toNat else cs.take (cs.length - i.natAbs)

def truncateText (v length suffix : Value) : Except Fault Value := do
  if !(← v.truth?) then return text []
  let cs ← v.text?
  let tooLong ← length.lt? (.int cs.length)
  if !tooLong then return text cs
  let cut ← match length with
    | .bool b => pure (takeTo cs (if b then 1 else 0))
    | .int i => pure (takeTo cs i)
    | _ => throw .wrongType
  match suffix with
  | .text s => return text (cut ++ s.toList)
  | .markup s => return .markup (String.ofList (Hypertext.escapeExpression cut ++ s.toList))
  | .undefined _ m => throw (.undefined m)
  | _ => throw .wrongType

/-! ## Collection helpers -/

namespace Sum

/-- The sum of two numbers: whole numbers stay whole. -/
def add : Value.Numeral → Value.Numeral → Except Fault Value.Numeral
  | .int a, .int b => .ok (.int (a + b))
  | .int a, .float y =>
    match Binary64.ofInt? a with
    | some x => .ok (.float (Binary64.add x y))
    | none => .error Fault.overflow
  | .float x, .int b =>
    match Binary64.ofInt? b with
    | some y => .ok (.float (Binary64.add x y))
    | none => .error Fault.overflow
  | .float x, .float y => .ok (.float (Binary64.add x y))

end Sum

def ofNumeral : Value.Numeral → Value
  | .int i => .int i
  | .float x => .float x

def sumItems (v property : Value) : Except Fault Value := do
  let some xs := items? v | return .int 0
  let named ← property.truth?
  let total ← xs.foldlM (fun acc x => do
    let n ← if named then do
        match ← fieldOf? x property with
        | some w => number w
        | none => pure (.int 0)
      else number x
    Sum.add acc n) (Value.Numeral.int 0)
  return ofNumeral total

def joinItems (v separator : Value) : Except Fault Value := do
  let some xs := items? v | return text []
  match separator with
  | .text s => return text (Text.joinWith s.toList (← xs.mapM Value.text?))
  | .markup s =>
    let parts ← xs.mapM Value.text?
    return .markup (String.ofList (Text.joinWith s.toList (parts.map Hypertext.escapeExpression)))
  | .undefined _ m => throw (.undefined m)
  | _ => throw .noAttribute

/-- What an item is sorted by: numbers come before text, and missing values last. -/
inductive SortKey where
  | number (n : Value.Numeral)
  | text (s : String)
  | missing

namespace SortKey

def rank : SortKey → Nat
  | number _ => 0
  | text _ => 1
  | missing => 2

def before : SortKey → SortKey → Bool
  | number a, number b => a.cmp? b == some .lt
  | text a, text b => Value.textBefore a b
  | a, b => decide (a.rank < b.rank)

def ofValue (v : Value) : Except Fault SortKey :=
  match v with
  | .none => .ok missing
  | v =>
    match v.numeral? with
    | some n => .ok (number n)
    | none => (v.text?).map fun cs => text (String.ofList cs)

end SortKey

/-- The key of an item: the property of a mapping when one is named, else the item itself. -/
def sortKey (property x : Value) : Except Fault SortKey := do
  let named ← property.truth?
  let own ← if named then fieldOf? x property else pure none
  SortKey.ofValue (own.getD x)

/-- Whether a direction asks for ascending order. -/
def isAscending (direction : Value) : Except Fault Bool :=
  match direction.string?, direction.refusal? with
  | some s, _ => .ok (Text.lower s.toList == ['a', 's', 'c'])
  | none, some f => .error f
  | none, none => .error Fault.noAttribute

/-- Pairs of key and item in order; items with equal keys keep their places. -/
def sortPairs (ascending : Bool) (pairs : List (SortKey × Value)) : List (SortKey × Value) :=
  pairs.mergeSort fun a b => if ascending then !b.1.before a.1 else !a.1.before b.1

def sortItems (v property direction : Value) : Except Fault Value := do
  let some xs := items? v | return .list []
  let ascending ← isAscending direction
  let pairs ← xs.mapM fun x => do return (← sortKey property x, x)
  return .list ((sortPairs ascending pairs).map (·.2))

def filterItems (v property value : Value) : Except Fault Value := do
  let some xs := items? v | return .list []
  let kept ← xs.filterM fun x => do
    match ← fieldOf? x property with
    | some w => w.eqv? value
    | none => return false
  return .list kept

/-! ## Calls -/

def callDate (s : Setting) (h : Helper) (v format : Value) : Except Fault Value := do
  match ← moment? v with
  | none => return text []
  | some m =>
    let p ← pattern format
    match h with
    | formatDate => return text (← Locale.DatePattern.formatDate s.locale p m.date)
    | formatDateTime => return text (← Locale.DatePattern.formatMoment s.locale p m)
    | _ => return text (← Locale.DatePattern.formatTime s.locale p m.toSecond)

/-- A currency given as a value: its code, or none for no currency at all. -/
def currencyCode (v : Value) : Except Fault (Option String) :=
  match v with
  | .none => .ok none
  | .text s => .ok (some s)
  | .markup s => .ok (some s)
  | .undefined _ m => .error (.undefined m)
  | _ => .error Fault.wrongType

def callCurrency (s : Setting) (amount override currency decimals : Value) : Except Fault Value := do
  if ← isBlankValue amount then return text []
  let locale ← localeFor s override
  let n ← places decimals
  let x ← number amount
  let code ← currencyCode currency
  text <$> Locale.Amount.money locale code n (toDecimal x)

def callNumber (s : Setting) (v decimals override : Value) : Except Fault Value := do
  if ← isBlankValue v then return text []
  let locale ← localeFor s override
  let x ← number v
  let n ← places decimals
  text <$> Locale.Amount.plain locale n (toDecimal x)

def callPercent (s : Setting) (v decimals override : Value) : Except Fault Value := do
  if ← isBlankValue v then return text []
  let locale ← localeFor s override
  let x ← hundredth (← number v)
  let n ← places decimals
  text <$> Locale.Amount.percent locale n (.ofBinary64 x)

/-- A helper applied to a value for each of its parameters. -/
def apply (s : Setting) (h : Helper) (args : List Value) : Except Fault Value :=
  match h, args with
  | formatDate, [v, f] => callDate s h v f
  | formatDateTime, [v, f] => callDate s h v f
  | formatTime, [v, f] => callDate s h v f
  | formatCurrency, [a, l, c, d] => callCurrency s a l c d
  | formatNumber, [v, d, l] => callNumber s v d l
  | formatPercent, [v, d, l] => callPercent s v d l
  | uppercase, [v] => mapText Text.upper v
  | lowercase, [v] => mapText Text.lower v
  | capitalize, [v] => mapText capitalizeWords v
  | truncate, [v, n, t] => truncateText v n t
  | ifThen, [c, a, b] => do if ← c.truth? then return a else return b
  | isNullOrEmpty, [v] => Value.bool <$> isBlankValue v
  | defaultValue, [v, d] => do if ← isBlankValue v then return d else return v
  | sum, [v, p] => sumItems v p
  | count, [v] => .ok (.int (((items? v).map List.length).getD 0))
  | join, [v, t] => joinItems v t
  | sort, [v, p, d] => sortItems v p d
  | filter, [v, p, w] => filterItems v p w
  | _, _ => .error Fault.wrongType

def call (s : Setting) (h : Helper) (args : List Value) (named : List (String × Value)) : Except Fault Value := do
  apply s h (← (parameters s h).bind args named)

end Helper

end Letterpress
