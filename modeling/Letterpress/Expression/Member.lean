import Letterpress.Parameters
import Letterpress.Text.Case
import Letterpress.Text.Trim
import Letterpress.Calendar.Moment
import Letterpress.Value.Literal
import Letterpress.Hypertext.Escape

/-!
# Members

What stands behind a point or in brackets after a value: the entries of mappings and sequences, slices, and the
methods of values.

* `Value.member`: what stands behind a point. The methods of a mapping win over its entries.
* `Value.item`: what stands in brackets. The entries of a mapping win over its methods.
* `Value.slice`: a part of a sequence.
* `Value.callMethod`: a call of a method.
* `Value.iterate`: the items of a value that can be walked.
-/

namespace Letterpress

open Text

namespace Value

def quotedText (s : String) : String := String.ofList (Literal.quote s.toList)

/-- The value of a name that nothing defines. -/
def undefinedName (n : String) : Value := .undefined false s!"{quotedText n} is undefined"

/-- The value of a member that a value does not have. -/
def missingAttribute (v : Value) (n : String) : Value :=
  .undefined false s!"{quotedText v.kindName} has no attribute {quotedText n}"

def missingItem (v key : Value) : Value :=
  match key.string? with
  | some n => missingAttribute v n
  | Option.none => .undefined false s!"{v.kindName} has no element {String.ofList key.literal}"

def textOf (cs : List Char) : Value := .text (String.ofList cs)

/-- The items of a value that can be walked, in order. -/
def iterate (v : Value) : Except Fault (List Value) :=
  match v with
  | list xs => .ok xs
  | tuple xs => .ok xs
  | text s => .ok (s.toList.map fun c => textOf [c])
  | markup s => .ok (s.toList.map fun c => textOf [c])
  | record fields => .ok (fields.map fun (k, _) => .text k)
  | mapping entries => .ok (entries.map (·.1))
  | range a b c => .ok (rangeItems a b c)
  | sequence _ xs => .ok xs
  | undefined true _ => .ok []
  | undefined false m => .error (.undefined m)
  | _ => .error Fault.wrongType

/-- The number of items. -/
def size (v : Value) : Except Fault Nat :=
  match v with
  | sequence .stream _ => .error Fault.wrongType
  | v => List.length <$> v.iterate

/-! ## Names of methods -/

def textMethods : List String :=
  ["capitalize", "casefold", "center", "count", "encode", "endswith", "expandtabs", "find", "format", "format_map",
    "index", "isalnum", "isalpha", "isascii", "isdecimal", "isdigit", "isidentifier", "islower", "isnumeric",
    "isprintable", "isspace", "istitle", "isupper", "join", "ljust", "lower", "lstrip", "maketrans", "partition",
    "removeprefix", "removesuffix", "replace", "rfind", "rindex", "rjust", "rpartition", "rsplit", "rstrip", "split",
    "splitlines", "startswith", "strip", "swapcase", "title", "translate", "upper", "zfill"]

def mappingMethods : List String :=
  ["clear", "copy", "fromkeys", "get", "items", "keys", "pop", "popitem", "setdefault", "update", "values"]

def listMethods : List String :=
  ["append", "clear", "copy", "count", "extend", "index", "insert", "pop", "remove", "reverse", "sort"]

def intMethods : List String :=
  ["as_integer_ratio", "bit_count", "bit_length", "conjugate", "from_bytes", "to_bytes"]

def floatMethods : List String := ["as_integer_ratio", "conjugate", "fromhex", "hex", "is_integer"]

def dateMethods : List String :=
  ["ctime", "fromisocalendar", "fromisoformat", "fromordinal", "fromtimestamp", "isocalendar", "isoformat",
    "isoweekday", "replace", "strftime", "timetuple", "today", "toordinal", "weekday"]

def momentMethods : List String :=
  dateMethods ++ ["astimezone", "combine", "date", "dst", "now", "strptime", "time", "timestamp", "timetz", "tzname",
    "utcfromtimestamp", "utcnow", "utcoffset", "utctimetuple"]

def methodNames (v : Value) : List String :=
  match v with
  | text _ => textMethods
  | markup _ => textMethods ++ ["escape", "striptags", "unescape"]
  | record _ => mappingMethods
  | mapping _ => mappingMethods
  | list _ => listMethods
  | tuple _ => ["count", "index"]
  | range _ _ _ => ["count", "index"]
  | bool _ => intMethods
  | int _ => intMethods
  | float _ => floatMethods
  | date _ => dateMethods
  | moment _ => momentMethods
  | _ => []

def loopMember? (i n : Nat) (name : String) : Option Value :=
  match name with
  | "index" => some (.int (i + 1 : Nat))
  | "index0" => some (.int i)
  | "first" => some (.bool (i == 0))
  | "last" => some (.bool (i + 1 == n))
  | "length" => some (.int n)
  | "revindex" => some (.int (n - i : Nat))
  | "revindex0" => some (.int (n - i - 1 : Nat))
  | "depth" => some (.int 1)
  | "depth0" => some (.int 0)
  | _ => Option.none

def dateMember? (d : Date) (name : String) : Option Value :=
  match name with
  | "year" => some (.int d.year)
  | "month" => some (.int d.month)
  | "day" => some (.int d.day)
  | _ => Option.none

def momentMember? (m : Moment) (name : String) : Option Value :=
  match name with
  | "hour" => some (.int m.hour.val)
  | "minute" => some (.int m.minute.val)
  | "second" => some (.int m.second.val)
  | "microsecond" => some (.int m.microsecond.val)
  | name => dateMember? m.date name

/-- A member that belongs to the kind of a value. -/
def ownMember? (v : Value) (name : String) : Option Value :=
  if v.methodNames.contains name then some (.method v name)
  else
    match v with
    | loop i n => loopMember? i n name
    | date d => dateMember? d name
    | moment m => momentMember? m name
    | int i => if name == "real" || name == "numerator" then some (.int i)
      else if name == "denominator" then some (.int 1) else if name == "imag" then some (.int 0) else Option.none
    | float x => if name == "real" then some (.float x)
      else if name == "imag" then some (.float Binary64.zero) else Option.none
    | range a b c => if name == "start" then some (.int a) else if name == "stop" then some (.int b)
      else if name == "step" then some (.int c) else Option.none
    | _ => Option.none

/-! ## Items -/

/-- The whole number that a value counts as in an index. -/
def index? : Value → Option Int
  | int i => some i
  | bool b => some (if b then 1 else 0)
  | _ => Option.none

/-- The place of an index, which counts from the end when it is negative. -/
def place? (n : Nat) (i : Int) : Option Nat :=
  let k := if i < 0 then i + n else i
  if 0 ≤ k && k < n then some k.toNat else Option.none

def entry? (entries : List (Value × Value)) (key : Value) : Except Fault (Option Value) := do
  return (← entries.findM? fun (k, _) => k.eqv? key).map (·.2)

/-- The entry of a mapping or a sequence, none if there is no such entry. -/
def entryOf? (v key : Value) : Except Fault (Option Value) := do
  if let some f := v.refusal? then throw f
  match v with
  | record fields =>
    if let some f := key.refusal? then throw f
    return key.string?.bind fun k => Fields.get? k fields
  | mapping entries =>
    if let some f := key.refusal? then throw f
    if key.isKey then entry? entries key else return Option.none
  | list xs => return (key.index?.bind fun i => place? xs.length i).bind fun k => xs[k]?
  | tuple xs => return (key.index?.bind fun i => place? xs.length i).bind fun k => xs[k]?
  | text s =>
    return ((key.index?.bind fun i => place? s.length i).bind fun k => s.toList[k]?).map fun c => textOf [c]
  | markup s =>
    return ((key.index?.bind fun i => place? s.length i).bind fun k => s.toList[k]?).map fun c =>
      .markup (String.ofList [c])
  | range a b c =>
    return (key.index?.bind fun i => place? (rangeLength a b c) i).map fun k => .int (a + (k : Nat) * c)
  | undefined _ m => throw (.undefined m)
  | _ => return Option.none

def member (v : Value) (name : String) : Except Fault Value :=
  match v with
  | undefined _ m => .error (.undefined m)
  | v =>
    match v.ownMember? name with
    | some w => .ok w
    | Option.none => do return (← entryOf? v (.text name)).getD (missingAttribute v name)

def item (v key : Value) : Except Fault Value := do
  match ← entryOf? v key with
  | some w => return w
  | Option.none => return (key.string?.bind v.ownMember?).getD (missingItem v key)

/-! ## Slices -/

/-- A bound of a slice: none for the value that stands for nothing. -/
def bound? (v : Option Value) : Except Fault (Option Int) :=
  match v with
  | Option.none => .ok Option.none
  | some .none => .ok Option.none
  | some (undefined _ m) => .error (.undefined m)
  | some v =>
    match v.index? with
    | some i => .ok (some i)
    | Option.none => .error Fault.wrongType

def clamp (low high i : Int) : Int := max low (min high i)

/-- The places of a slice of a sequence of a length. -/
def slicePlaces (n : Nat) (start stop : Option Int) (step : Int) : List Nat :=
  let (low, high) : Int × Int := if 0 < step then (0, n) else (-1, (n : Int) - 1)
  let place (i : Int) : Int := clamp low high (if i < 0 then i + n else i)
  let first := (start.map place).getD (if 0 < step then low else high)
  let last := (stop.map place).getD (if 0 < step then high else low)
  (List.range (rangeLength first last step)).map fun (k : Nat) => (first + (k : Int) * step).toNat

def picked (xs : List α) (places : List Nat) : List α := places.filterMap fun k => xs[k]?

def slice (v : Value) (start stop step : Option Value) : Except Fault Value := do
  if let some f := v.refusal? then throw f
  let places (n : Nat) : Except Fault (List Nat) := do
    let by_ := (← bound? step).getD 1
    if by_ = 0 then throw Fault.badValue
    return slicePlaces n (← bound? start) (← bound? stop) by_
  match v with
  | list xs => return .list (picked xs (← places xs.length))
  | tuple xs => return .tuple (picked xs (← places xs.length))
  | text s => return textOf (picked s.toList (← places s.length))
  | markup s => return .markup (String.ofList (picked s.toList (← places s.length)))
  | range a b c => return .list (picked (rangeItems a b c) (← places (rangeLength a b c)))
  | undefined _ m => throw (.undefined m)
  | _ => throw Fault.wrongType

/-! ## Methods -/

def string (v : Value) : Except Fault (List Char) :=
  match v with
  | text s => .ok s.toList
  | markup s => .ok s.toList
  | undefined _ m => .error (.undefined m)
  | _ => .error Fault.wrongType

/-- A splitting into no more than a number of pieces beside the last; a negative number sets no limit. -/
def splitText (cs sep : List Char) (limit : Int) : List (List Char) :=
  splitWord sep cs (if limit < 0 then cs.length else limit.toNat)

/-- Words that blanks divide, no more than a number of them beside the rest. -/
def splitBlanks (cs : List Char) : Nat → List (List Char)
  | 0 => let rest := trimLeft cs; if rest.isEmpty then [] else [rest]
  | n + 1 =>
    let cs := trimLeft cs
    if cs.isEmpty then [] else cs.takeWhile (!isBlank ·) :: splitBlanks (cs.dropWhile (!isBlank ·)) n

def findFrom (word cs : List Char) : Int :=
  match breakOn? word cs with
  | some (before, _) => before.length
  | Option.none => -1

def countWord (word cs : List Char) : Nat :=
  if word.isEmpty then cs.length + 1 else (splitOn word cs).length - 1

/-- The characters that a trimming method takes away. -/
def trimSet (v : Value) : Except Fault (Char → Bool) :=
  match v with
  | .none => .ok isBlank
  | v => do
    let set ← v.string
    return fun c => set.contains c

def isWordOf (v : Value) (p : List Char → Bool) : Except Fault Value :=
  match v with
  | tuple xs => do return .bool (← xs.anyM fun x => p <$> x.string)
  | v => do return .bool (p (← v.string))

/-- A method of text. The results of safe text are safe. -/
def callText (safe : Bool) (cs : List Char) (name : String) (args : List Value) (named : List (String × Value)) :
    Except Fault Value := do
  let wrap (cs : List Char) : Value := if safe then .markup (String.ofList cs) else textOf cs
  let operand (v : Value) : Except Fault (List Char) := do
    let cs ← v.string
    return if safe then (match v with | .markup _ => cs | _ => Hypertext.escapeExpression cs) else cs
  let bind (ps : Parameters) : Except Fault (List Value) := ps.bind args named
  match name with
  | "upper" => let _ ← bind []; return wrap (upper cs)
  | "lower" => let _ ← bind []; return wrap (lower cs)
  | "title" => let _ ← bind []; return wrap (titlecase cs)
  | "capitalize" => let _ ← bind []; return wrap (Text.capitalize cs)
  | "strip" =>
    match ← bind [("chars", some .none)] with
    | [v] => return wrap (trimBy (← v.trimSet) cs)
    | _ => throw Fault.wrongType
  | "lstrip" =>
    match ← bind [("chars", some .none)] with
    | [v] => return wrap (trimLeftBy (← v.trimSet) cs)
    | _ => throw Fault.wrongType
  | "rstrip" =>
    match ← bind [("chars", some .none)] with
    | [v] => return wrap (trimRightBy (← v.trimSet) cs)
    | _ => throw Fault.wrongType
  | "split" =>
    match ← bind [("sep", some .none), ("maxsplit", some (.int (-1)))] with
    | [sep, limit] =>
      let some n := limit.index? | throw Fault.wrongType
      match sep with
      | .none => return .list ((splitBlanks cs (if n < 0 then cs.length else n.toNat)).map wrap)
      | sep =>
        let word ← sep.string
        if word.isEmpty then throw Fault.badValue
        return .list ((splitText cs word n).map wrap)
    | _ => throw Fault.wrongType
  | "splitlines" => let _ ← bind []; return .list ((splitLines cs).map wrap)
  | "replace" =>
    match ← bind [("old", Option.none), ("new", Option.none), ("count", some (.int (-1)))] with
    | [old, new, limit] =>
      let some n := limit.index? | throw Fault.wrongType
      let word ← old.string
      let by_ ← operand new
      if word.isEmpty then return wrap (replaceAll word by_ cs)
      return wrap (joinWith by_ (splitText cs word n))
    | _ => throw Fault.wrongType
  | "startswith" =>
    match ← bind [("word", Option.none)] with
    | [v] => isWordOf v fun w => startsWith w cs
    | _ => throw Fault.wrongType
  | "endswith" =>
    match ← bind [("word", Option.none)] with
    | [v] => isWordOf v fun w => endsWith w cs
    | _ => throw Fault.wrongType
  | "find" =>
    match ← bind [("word", Option.none)] with
    | [v] => return .int (findFrom (← v.string) cs)
    | _ => throw Fault.wrongType
  | "count" =>
    match ← bind [("word", Option.none)] with
    | [v] => return .int (countWord (← v.string) cs)
    | _ => throw Fault.wrongType
  | "join" =>
    match ← bind [("items", Option.none)] with
    | [v] => return wrap (joinWith cs (← (← v.iterate).mapM operand))
    | _ => throw Fault.wrongType
  | "isdigit" => let _ ← bind []; return .bool (!cs.isEmpty && cs.all isDigit)
  | "isalpha" => let _ ← bind []; return .bool (!cs.isEmpty && cs.all isLetter)
  | "isalnum" => let _ ← bind []; return .bool (!cs.isEmpty && cs.all isAlnum)
  | "isspace" => let _ ← bind []; return .bool (!cs.isEmpty && cs.all isBlank)
  | "zfill" =>
    match ← bind [("width", Option.none)] with
    | [v] =>
      let some n := v.index? | throw Fault.wrongType
      let (sign, ds) := match cs with
        | '-' :: ds => (['-'], ds)
        | '+' :: ds => (['+'], ds)
        | ds => ([], ds)
      return wrap (sign ++ List.replicate (n.toNat - cs.length) '0' ++ ds)
    | _ => throw Fault.wrongType
  | _ => throw Fault.wrongType

def callMapping (v : Value) (entries : List (Value × Value)) (name : String) (args : List Value)
    (named : List (String × Value)) : Except Fault Value := do
  match name with
  | "items" => let _ ← Parameters.bind [] args named; return .sequence .items (entries.map fun (k, x) => .tuple [k, x])
  | "keys" => let _ ← Parameters.bind [] args named; return .sequence .keys (entries.map (·.1))
  | "values" => let _ ← Parameters.bind [] args named; return .sequence .values (entries.map (·.2))
  | "copy" => let _ ← Parameters.bind [] args named; return v
  | "get" =>
    if !named.isEmpty then throw Fault.wrongType
    match args with
    | [key] => if key.isKey then return (← entryOf? v key).getD .none else throw Fault.wrongType
    | [key, default] => if key.isKey then return (← entryOf? v key).getD default else throw Fault.wrongType
    | _ => throw Fault.wrongType
  | _ => throw Fault.wrongType

def callList (xs : List Value) (name : String) (args : List Value) (named : List (String × Value)) :
    Except Fault Value := do
  if !named.isEmpty then throw Fault.wrongType
  match name, args with
  | "count", [x] => return .int ((← xs.filterM fun y => y.eqv? x).length : Nat)
  | "index", [x] =>
    let before ← xs.mapM fun y => y.eqv? x
    match before.idxOf? true with
    | some i => return .int i
    | Option.none => throw Fault.badValue
  | "copy", [] => return .list xs
  | _, _ => throw Fault.wrongType

def callMethod (v : Value) (name : String) (args : List Value) (named : List (String × Value)) :
    Except Fault Value :=
  match v with
  | text s => callText false s.toList name args named
  | markup s => callText true s.toList name args named
  | record fields => callMapping v (fields.map fun (k, x) => (.text k, x)) name args named
  | mapping entries => callMapping v entries name args named
  | list xs => callList xs name args named
  | tuple xs => callList xs name args named
  | date d =>
    match name, args with
    | "isoformat", [] => .ok (textOf (Moment.dateText d))
    | "weekday", [] => .ok (.int d.weekday)
    | "isoweekday", [] => .ok (.int (d.weekday + 1 : Nat))
    | _, _ => .error Fault.wrongType
  | moment m =>
    match name, args with
    | "isoformat", [] => .ok (textOf m.isoText)
    | "date", [] => .ok (.date m.date)
    | "weekday", [] => .ok (.int m.date.weekday)
    | "isoweekday", [] => .ok (.int (m.date.weekday + 1 : Nat))
    | _, _ => .error Fault.wrongType
  | float x =>
    match name, args with
    | "is_integer", [] => .ok (.bool x.isInteger)
    | _, _ => .error Fault.wrongType
  | _ => .error Fault.wrongType

end Value

end Letterpress
