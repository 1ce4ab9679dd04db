import Letterpress.Expression.Operator
import Letterpress.Number.Reading

/-!
# Filters and tests

What a template can apply to a value by name with `|`, and ask of a value with `is`.

* `Filter.apply`: a filter on a value with its arguments.
* `Filter.test`: a test on a value with its arguments.
-/

namespace Letterpress.Expression

open Text
open Value (textOf quotedText callText missingAttribute isAmong)

/-- Text as hypertext: safe text as it is, anything else escaped. -/
def escapeValue (v : Value) : Except Fault String :=
  match v with
  | .markup s => .ok s
  | v => do return String.ofList (Hypertext.escapeExpression (← v.text?))

namespace Filter

def isSafe : Value → Bool
  | .markup _ => true
  | _ => false

def names : List String :=
  ["upper", "lower", "title", "capitalize", "safe", "e", "escape", "forceescape", "length", "count", "default", "d",
    "join", "sort", "first", "last", "round", "int", "float", "replace", "sum", "trim", "reverse", "list", "string",
    "abs", "map", "selectattr", "rejectattr", "select", "reject", "min", "max", "unique", "items", "striptags",
    "wordcount", "attr"]

def testNames : List String :=
  ["defined", "undefined", "none", "odd", "even", "divisibleby", "true", "false", "boolean", "integer", "float",
    "number", "string", "mapping", "sequence", "iterable", "callable", "lower", "upper", "sameas", "eq", "equalto",
    "==", "ne", "!=", "lt", "lessthan", "<", "le", "<=", "gt", "greaterthan", ">", "ge", ">=", "in", "escaped",
    "filter", "test"]

def isUndefined : Value → Bool
  | .undefined _ _ => true
  | _ => false

def refuse (v : Value) : Except Fault Unit :=
  match v with
  | .undefined _ m => .error (Fault.undefined m)
  | _ => .ok ()

/-- A change of text that keeps it safe or unsafe. -/
def mapText (f : List Char → List Char) (v : Value) : Except Fault Value := do
  let cs := f (← v.text?)
  return if isSafe v then .markup (String.ofList cs) else textOf cs

/-! ## Words -/

/-- Blanks and brackets after which a word starts. -/
def isWordBreak (c : Char) : Bool := isBlank c || c == '-' || c == '(' || c == '\x7b' || c == '[' || c == '<'

/-- Words that start with a capital and go on with small letters. -/
def titleWords (starts : Bool) (word : List Char) : List Char → List Char
  | [] => finish word
  | c :: cs =>
    if isWordBreak c != starts then titleWords starts (word ++ [c]) cs
    else finish word ++ titleWords (!starts) [c] cs
where
  finish : List Char → List Char
    | [] => []
    | c :: cs => upperChar c ++ lower cs

/-! ## Attributes of items -/

/-- A part of an attribute. A part in digits is a whole number, or a fault if it is not read as one. -/
def attributePart (part : List Char) : Except Fault Value :=
  if !part.isEmpty && part.all isDigit then
    match Number.readInt? part with
    | some i => .ok (.int i)
    | none => .error Fault.badValue
  else .ok (textOf part)

/-- The parts of an attribute that points divide. -/
def attributeParts (v : Value) : Except Fault (List Value) :=
  match v.string? with
  | some s => (splitBy (· == '.') s.toList).mapM attributePart
  | none =>
    match v with
    | .none => .ok []
    | v => .ok [v]

def attributeOf (parts : List Value) (v : Value) : Except Fault Value := parts.foldlM Value.item v

/-! ## Orders -/

def foldCase (v : Value) : Value :=
  match v with
  | .text s => textOf (lower s.toList)
  | .markup s => .markup (String.ofList (lower s.toList))
  | v => v

/-- Inserts an item behind those that do not come after it. -/
def insertBy (before : Value → Value → Except Fault Bool) (x : Value × Value) :
    List (Value × Value) → Except Fault (List (Value × Value))
  | [] => .ok [x]
  | y :: ys => do
    let first ← before x.1 y.1
    if first then return x :: y :: ys else return y :: (← insertBy before x ys)

/-- Items in the order of their keys; items with equal keys keep their places. -/
def sortBy (before : Value → Value → Except Fault Bool) (xs : List (Value × Value)) :
    Except Fault (List (Value × Value)) := xs.foldlM (fun sorted x => insertBy before x sorted) []

def sortKey (folds : Bool) (attributes : List (List Value)) (v : Value) : Except Fault Value := do
  return .list (← attributes.mapM fun parts => do
    let w ← attributeOf parts v
    return if folds then foldCase w else w)

def sortItems (v reverse caseSensitive attributes : Value) : Except Fault Value := do
  let xs ← v.iterate
  let folds := !(← caseSensitive.truth?)
  let descends ← reverse.truth?
  let parts ← match attributes.string? with
    | some s => (splitBy (· == ',') s.toList).mapM fun a => attributeParts (textOf a)
    | none => (attributeParts attributes).map fun parts => [parts]
  let pairs ← xs.mapM fun x => do return (← sortKey folds parts x, x)
  let before (a b : Value) : Except Fault Bool := if descends then b.lt? a else a.lt? b
  return .list ((← sortBy before pairs).map (·.2))

/-- The first item whose key no other comes before. -/
def extreme (least : Bool) (v caseSensitive attributes : Value) : Except Fault Value := do
  let xs ← v.iterate
  let folds := !(← caseSensitive.truth?)
  match xs with
  | [] => return .undefined false "No aggregated item, sequence was empty."
  | x :: rest =>
    let parts := [← attributeParts attributes]
    let first ← sortKey folds parts x
    let best ← rest.foldlM (fun (best : Value × Value) y => do
      let k ← sortKey folds parts y
      let better ← if least then k.lt? best.1 else best.1.lt? k
      return if better then (k, y) else best) (first, x)
    return best.2

def uniqueItems (v caseSensitive attributes : Value) : Except Fault Value := do
  let folds := !(← caseSensitive.truth?)
  let parts ← attributeParts attributes
  let (_, kept) ← (← v.iterate).foldlM (fun (seen, kept) x => do
    let w ← attributeOf parts x
    let k := if folds then foldCase w else w
    if ← isAmong k seen then return (seen, kept) else return (k :: seen, kept ++ [x])) (([] : List Value), ([] : List Value))
  return .sequence .stream kept

/-! ## Numbers -/

def readWhole (base : Nat) (s : String) : Option Int :=
  if base == 10 then Number.readInt? s.toList else none

/-- A value as a whole number: numbers and text are cut off behind the point. -/
def toInt (v default base : Value) : Except Fault Value := do
  refuse v
  let cut (x : Binary64) : Value := (x.truncate?.map Value.int).getD default
  match v with
  | .bool b => return .int (if b then 1 else 0)
  | .int i => return .int i
  | .float x =>
    match x with
    | .infinite _ => throw Fault.overflow
    | x => return cut x
  | v =>
    match v.string? with
    | none => return default
    | some s =>
      match readWhole ((base.index?.map Int.toNat).getD 10) s with
      | some i => return .int i
      | none =>
        match Number.readBinary64? s.toList with
        | some x => return cut x
        | none => return default

def toBinary64 (v default : Value) : Except Fault Value := do
  refuse v
  match v.numeral? with
  | some n => return .float (← Value.toFloat n)
  | none =>
    match v.string?.bind fun s => Number.readBinary64? s.toList with
    | some x => return .float x
    | none => return default

/-- A whole number rounded to a number of places before the point. -/
def roundInt (i : Int) (places : Int) : Int :=
  if 0 ≤ places then i
  else
    let p := Nat.pow 10 places.natAbs
    let n := Binary64.roundHalfEven i.natAbs p * p
    if i < 0 then -(n : Int) else n

def roundNumber (v precision method : Value) : Except Fault Value := do
  let name ← match method with
    | .text s => pure s
    | .markup s => pure s
    | _ => throw (Fault.filterMisuse "method must be common, ceil or floor")
  if !(["common", "ceil", "floor"].contains name) then
    throw (Fault.filterMisuse "method must be common, ceil or floor")
  refuse v
  if name == "common" then
    let some n := v.numeral? | throw Fault.wrongType
    match n, precision with
    | .int i, .none => return .int i
    | .float x, .none =>
      match (x.roundPlaces 0).truncate? with
      | some i => return .int i
      | none => throw (if x.isNaN then Fault.badValue else Fault.overflow)
    | .int i, p =>
      let some k := p.index? | throw Fault.wrongType
      return .int (roundInt i k)
    | .float x, p =>
      let some k := p.index? | throw Fault.wrongType
      return .float (x.roundPlaces k)
  else
    let scale ← Value.arithmetic .pow (.int 10) precision
    let scaled ← Value.arithmetic .mul v scale
    let some n := scaled.numeral? | throw Fault.wrongType
    let whole ← match n with
      | .int i => pure i
      | .float x =>
        match (if name == "floor" then x.floor? else x.neg.floor?.map (- ·)) with
        | some i => pure i
        | none => throw (if x.isNaN then Fault.badValue else Fault.overflow)
    Value.arithmetic .div (.int whole) scale

/-! ## Joining and replacing -/

def joinItems (escapes : Bool) (v separator named : Value) : Except Fault Value := do
  let xs ← v.iterate
  let xs ← match named with
    | .none => pure xs
    | a => do
      let parts ← attributeParts a
      xs.mapM (attributeOf parts)
  if !escapes then
    return textOf (joinWith (← separator.text?) (← xs.mapM Value.text?))
  if isSafe separator || xs.any isSafe then
    let sep ← escapeValue separator
    return .markup (String.ofList (joinWith sep.toList (← xs.mapM fun x => String.toList <$> escapeValue x)))
  return textOf (joinWith (← separator.text?) (← xs.mapM Value.text?))

def replaceText (escapes : Bool) (v old new count : Value) : Except Fault Value := do
  let limit ← match count with
    | .none => pure (-1)
    | c => match c.index? with
      | some i => pure i
      | none => throw Fault.wrongType
  let call (safe : Bool) (cs : List Char) : Except Fault Value := do
    let o ← old.text?
    let n ← new.text?
    callText safe cs "replace" [textOf o, if isSafe new then .markup (String.ofList n) else textOf n, .int limit] []
  if !escapes then call false (← v.text?)
  else if isSafe old || (isSafe new && !isSafe v) then call true (← escapeValue v).toList
  else call (isSafe v) (← v.text?)

/-! ## Tests -/

def numberTest (v : Value) (rest : Int) : Except Fault Value := do
  let r ← Value.arithmetic .mod v (.int 2)
  return .bool (← r.eqv? (.int rest))

/-- Comparisons by the names of tests. -/
def comparisonTest? (n : String) : Option Comparison :=
  match n with
  | "eq" | "equalto" | "==" => some .eq
  | "ne" | "!=" => some .ne
  | "lt" | "lessthan" | "<" => some .lt
  | "le" | "<=" => some .le
  | "gt" | "greaterthan" | ">" => some .gt
  | "ge" | ">=" => some .ge
  | "in" => some .member
  | _ => none

/-- Tests without arguments. -/
def plainTest? (n : String) (v : Value) : Option (Except Fault Bool) :=
  match n with
  | "defined" => some (.ok (!isUndefined v))
  | "undefined" => some (.ok (isUndefined v))
  | "none" => some (.ok (match v with | .none => true | _ => false))
  | "true" => some (.ok (match v with | .bool b => b | _ => false))
  | "false" => some (.ok (match v with | .bool b => !b | _ => false))
  | "boolean" => some (.ok (match v with | .bool _ => true | _ => false))
  | "integer" => some (.ok (match v with | .int _ => true | _ => false))
  | "float" => some (.ok (match v with | .float _ => true | _ => false))
  | "number" => some (.ok v.numeral?.isSome)
  | "string" => some (.ok v.string?.isSome)
  | "mapping" => some (.ok (match v with | .record _ => true | .mapping _ => true | _ => false))
  | "sequence" => some (do
      refuse v
      return (v.size.toOption).isSome && (match v with | .sequence _ _ => false | _ => true))
  | "iterable" => some (match v with
      | .undefined false m => .error (Fault.undefined m)
      | v => .ok (v.iterate.toOption).isSome)
  | "callable" => some (.ok (match v with
      | .function _ => true
      | .method _ _ => true
      | .undefined _ _ => true
      | _ => false))
  | "lower" => some (do return Text.isLower (← v.text?))
  | "upper" => some (do return Text.isUpper (← v.text?))
  | "escaped" => some (.ok (isSafe v))
  | "filter" => some (.ok ((v.string?.map names.contains).getD false))
  | "test" => some (.ok ((v.string?.map testNames.contains).getD false))
  | _ => none

def test (n : String) (v : Value) (args : List Value) (named : List (String × Value)) : Except Fault Bool := do
  let bindNone : Except Fault Unit := do let _ ← Parameters.bind [] args named
  match n with
  | "odd" => bindNone; (← numberTest v 1).truth?
  | "even" => bindNone; (← numberTest v 0).truth?
  | "divisibleby" =>
    match ← Parameters.bind [("num", none)] args named with
    | [k] => (← Value.arithmetic .mod v k).eqv? (.int 0)
    | _ => throw Fault.wrongType
  | "sameas" =>
    match ← Parameters.bind [("other", none)] args named with
    | [w] =>
      match v, w with
      | .none, .none => return true
      | .bool a, .bool b => return a == b
      | .int a, .int b => return a == b
      | .text a, .text b => return a == b
      | _, _ => return false
    | _ => throw Fault.wrongType
  | n =>
    match comparisonTest? n, plainTest? n v with
    | some op, _ =>
      match ← Parameters.bind [("other", none)] args named with
      | [w] => Value.compare op v w
      | _ => throw Fault.wrongType
    | none, some r => bindNone; r
    | none, none => throw (Fault.missingName s!"No test named {quotedText n}.")

/-! ## Filters -/

/-- Whether an item passes a test by name, or counts as true when no test is named. -/
def passes (args : List Value) (named : List (String × Value)) (v : Value) : Except Fault Bool :=
  match args with
  | [] => v.truth?
  | n :: args =>
    match n.string? with
    | some n => test n v args named
    | none => .error (Fault.missingName s!"No test named {String.ofList n.literal}.")

def keepItems (wanted : Bool) (v : Value) (key : Value → Except Fault Value) (args : List Value)
    (named : List (String × Value)) : Except Fault Value := do
  if !(← v.truth?) then return .sequence .stream []
  return .sequence .stream (← (← v.iterate).filterM fun x => do return (← passes args named (← key x)) == wanted)

/-- The first of the parameters is the value itself. -/
def parameters? (n : String) : Option Parameters :=
  match n with
  | "upper" | "lower" | "title" | "capitalize" | "safe" | "e" | "escape" | "forceescape" | "length" | "count" | "first"
  | "last" | "reverse" | "list" | "string" | "abs" | "items" | "striptags" | "wordcount" => some []
  | "default" | "d" => some [("default_value", some (.text "")), ("boolean", some (.bool false))]
  | "join" => some [("d", some (.text "")), ("attribute", some .none)]
  | "sort" => some [("reverse", some (.bool false)), ("case_sensitive", some (.bool false)), ("attribute", some .none)]
  | "round" => some [("precision", some (.int 0)), ("method", some (.text "common"))]
  | "int" => some [("default", some (.int 0)), ("base", some (.int 10))]
  | "float" => some [("default", some (.float Binary64.zero))]
  | "replace" => some [("old", none), ("new", none), ("count", some .none)]
  | "sum" => some [("attribute", some .none), ("start", some (.int 0))]
  | "trim" => some [("chars", some .none)]
  | "min" | "max" | "unique" => some [("case_sensitive", some (.bool false)), ("attribute", some .none)]
  | "attr" => some [("name", none)]
  | _ => none

def reverseItems (v : Value) : Except Fault Value := do
  match v with
  | .text s => return textOf s.toList.reverse
  | .markup s => return .markup (String.ofList s.toList.reverse)
  | .undefined _ m => throw (Fault.undefined m)
  | v =>
    match v.iterate with
    | .ok xs => return .sequence .stream xs.reverse
    | .error _ => throw (Fault.filterMisuse "argument must be iterable")

def lastItem (v : Value) : Except Fault Value := do
  match v with
  | .sequence .stream _ => throw Fault.wrongType
  | v => return ((← v.iterate).getLast?).getD (.undefined false "No last item, sequence was empty.")

def absolute (v : Value) : Except Fault Value :=
  match v.numeral? with
  | some (.int i) => .ok (.int i.natAbs)
  | some (.float x) => .ok (.float x.abs)
  | none => .error Fault.wrongType

/-- Filters whose parameters are fixed, with a value for each of them. -/
def applyBound (escapes : Bool) (n : String) (v : Value) (args : List Value) : Except Fault Value := do
  match n, args with
  | "upper", _ => mapText upper v
  | "lower", _ => mapText lower v
  | "title", _ => return textOf (titleWords true [] (← v.text?))
  | "capitalize", _ => mapText Text.capitalize v
  | "safe", _ => return .markup (String.ofList (← v.text?))
  | "e", _ => return .markup (← escapeValue v)
  | "escape", _ => return .markup (← escapeValue v)
  | "forceescape", _ => return .markup (String.ofList (Hypertext.escapeExpression (← v.text?)))
  | "length", _ => return .int (← v.size)
  | "count", _ => return .int (← v.size)
  | "first", _ => return ((← v.iterate).head?).getD (.undefined false "No first item, sequence was empty.")
  | "last", _ => lastItem v
  | "reverse", _ => reverseItems v
  | "list", _ => return .list (← v.iterate)
  | "string", _ => mapText id v
  | "abs", _ => absolute v
  | "items", _ =>
    match v with
    | .undefined _ _ => return .sequence .stream []
    | .record fields => return .sequence .stream (fields.map fun (k, x) => .tuple [.text k, x])
    | .mapping entries => return .sequence .stream (entries.map fun (k, x) => .tuple [k, x])
    | _ => throw Fault.wrongType
  | "wordcount", _ => return .int (words (← v.text?)).length
  | "default", [w, boolean] => applyDefault v w boolean
  | "d", [w, boolean] => applyDefault v w boolean
  | "join", [sep, a] => joinItems escapes v sep a
  | "sort", [r, c, a] => sortItems v r c a
  | "round", [p, m] => roundNumber v p m
  | "int", [w, b] => toInt v w b
  | "float", [w] => toBinary64 v w
  | "replace", [old, new, count] => replaceText escapes v old new count
  | "sum", [a, start] =>
    let xs ← v.iterate
    let parts ← attributeParts a
    xs.foldlM (fun total x => do Value.arithmetic .add total (← attributeOf parts x)) start
  | "trim", [chars] => mapTextM (fun cs => do return trimBy (← chars.trimSet) cs) v
  | "min", [c, a] => extreme true v c a
  | "max", [c, a] => extreme false v c a
  | "unique", [c, a] => uniqueItems v c a
  | "attr", [name] =>
    match name.string? with
    | some s =>
      refuse v
      return (v.ownMember? s).getD (missingAttribute v s)
    | none => throw Fault.wrongType
  | _, _ => throw Fault.wrongType
where
  applyDefault (v w boolean : Value) : Except Fault Value := do
    if isUndefined v then return w
    if (← boolean.truth?) && !(← v.truth?) then return w
    return v
  mapTextM (f : List Char → Except Fault (List Char)) (v : Value) : Except Fault Value := do
    let cs ← f (← v.text?)
    return if isSafe v then .markup (String.ofList cs) else textOf cs

/-- What `map` does to each item: it looks up an attribute, or applies the filter that its first argument names. -/
def mapItems (call : String → Value → List Value → List (String × Value) → Except Fault Value) (v : Value)
    (args : List Value) (named : List (String × Value)) : Except Fault Value := do
  if !(← v.truth?) then return .sequence .stream []
  match args, named.lookup "attribute" with
  | [], some a =>
    match named.find? fun (k, _) => k != "attribute" && k != "default" with
    | some (k, _) => throw (Fault.filterMisuse s!"Unexpected keyword argument {quotedText k}")
    | none =>
      let parts ← attributeParts a
      let default := (named.lookup "default").getD .none
      return .sequence .stream (← (← v.iterate).mapM fun x => do
        let w ← attributeOf parts x
        return match default with
          | .none => w
          | d => if isUndefined w then d else w)
  | [], none => throw (Fault.filterMisuse "map requires a filter argument")
  | n :: args, _ =>
    match n.string? with
    | some n => return .sequence .stream (← (← v.iterate).mapM fun x => call n x args named)
    | none => throw (Fault.missingName s!"No filter named {String.ofList n.literal}.")

/-- A filter by name; of nested uses of `map` no more than a number are followed. -/
def applyWithin (escapes : Bool) (v : Value) (args : List Value) (named : List (String × Value)) :
    Nat → String → Except Fault Value
  | depth, n =>
    match n with
    | "map" =>
      match depth with
      | 0 => .error Fault.wrongType
      | depth + 1 => mapItems (fun n x args named => applyWithin escapes x args named depth n) v args named
    | "select" => keepItems true v pure args named
    | "reject" => keepItems false v pure args named
    | "selectattr" => keepAttribute true
    | "rejectattr" => keepAttribute false
    | n =>
      match parameters? n with
      | none => .error (Fault.missingName s!"No filter named {quotedText n}.")
      | some ps => do applyBound escapes n v (← ps.bind args named)
where
  keepAttribute (wanted : Bool) : Except Fault Value := do
    if !(← v.truth?) then return .sequence .stream []
    match args with
    | [] => throw (Fault.filterMisuse "Missing parameter for attribute name")
    | a :: args =>
      let parts ← attributeParts a
      keepItems wanted v (attributeOf parts) args named

def apply (escapes : Bool) (n : String) (v : Value) (args : List Value) (named : List (String × Value)) :
    Except Fault Value := applyWithin escapes v args named (args.length + 1) n

end Filter

end Letterpress.Expression
