import Letterpress.Expression.Filter
import Letterpress.Expression.Grammar
import Letterpress.Helper

/-!
# Evaluation

Renders a template: print statements are replaced by the text of their expressions, and statements choose,
repeat and assign. In a template for hypertext the text of every expression is escaped unless it is safe.

* `Expr.eval`: the value of an expression.
* `Node.run`: the text that a statement yields and the names that it leaves.
* `render`: a source in its surroundings. Names that nothing defines fail when they are used.
-/

namespace Letterpress.Expression

/-- What a template is rendered with. -/
structure Surroundings where
  /-- whether the text of expressions is escaped -/
  escapes : Bool
  setting : Helper.Setting
  names : Fields

/-- The names that a template has assigned, those of the innermost statement first. -/
abbrev Scopes := List Fields

namespace Scopes

def lookup? (n : String) : Scopes → Option Value
  | [] => none
  | s :: rest => (Fields.get? n s).orElse fun _ => lookup? n rest

/-- Assigns a name in the innermost scope. -/
def assign (n : String) (v : Value) : Scopes → Scopes
  | [] => [[(n, v)]]
  | s :: rest => s.set n v :: rest

end Scopes

/-- Functions that every template can call. -/
def globalNames : List String := ["range", "dict", "lipsum", "cycler", "joiner", "namespace"]

def valueOf (env : Surroundings) (scopes : Scopes) (n : String) : Value :=
  match scopes.lookup? n with
  | some v => v
  | none =>
    match Fields.get? n env.names with
    | some v => v
    | none => if globalNames.contains n then .function n else Value.undefinedName n

def countUp (args : List Value) : Except Fault Value := do
  let bound (v : Value) : Except Fault Int := do
    if let .undefined _ _ := v then throw Fault.wrongType
    match v.index? with
    | some i => return i
    | none => throw Fault.wrongType
  match args with
  | [stop] => return .range 0 (← bound stop) 1
  | [start, stop] => return .range (← bound start) (← bound stop) 1
  | [start, stop, step] =>
    let by_ ← bound step
    let first ← bound start
    let last ← bound stop
    if by_ = 0 then throw Fault.badValue
    return .range first last by_
  | _ => throw Fault.wrongType

/-- A call of a value. -/
def call (env : Surroundings) (f : Value) (args : List Value) (named : List (String × Value)) :
    Except Fault Value :=
  match f with
  | .undefined _ m => .error (Fault.undefined m)
  | .method v n => v.callMethod n args named
  | .function n =>
    match Helper.ofName? n, n with
    | some h, _ => h.call env.setting args named
    | none, "range" => if named.isEmpty then countUp args else .error Fault.wrongType
    | none, "dict" => if args.isEmpty then .ok (.record named) else .error Fault.wrongType
    | none, _ => .error Fault.wrongType
  | _ => .error Fault.wrongType

/-- Further arguments from a mapping. -/
def namedOf (v : Value) : Except Fault (List (String × Value)) :=
  match v with
  | .record fields => .ok fields
  | .undefined _ m => .error (Fault.undefined m)
  | _ => .error Fault.wrongType

/-- Sets a key of a mapping: an existing one keeps its place. -/
def setEntry (entries : List (Value × Value)) (key v : Value) : Except Fault (List (Value × Value)) :=
  match entries with
  | [] => .ok [(key, v)]
  | (k, w) :: rest => do
    let same ← k.eqv? key
    if same then return (k, v) :: rest else return (k, w) :: (← setEntry rest key v)

/-- The mapping of entries; a key that occurs again replaces the value. -/
def mappingOf (entries : List (Value × Value)) : Except Fault Value := do
  let entries ← entries.foldlM (fun acc (k, v) => do
    if let some f := k.refusal? then throw f
    if k.isKey then setEntry acc k v else throw Fault.wrongType) []
  let fields := entries.filterMap fun (k, v) => match k with
    | .text s => some (s, v)
    | _ => none
  return if fields.length = entries.length then .record fields else .mapping entries

/-- Values joined to one text: with one of them safe, the others are escaped and the result is safe. -/
def concatenate (escapes : Bool) (vs : List Value) : Except Fault Value := do
  if escapes && vs.any Filter.isSafe then
    return .markup (String.join (← vs.mapM escapeValue))
  return Value.textOf (← vs.mapM Value.text?).flatten

def truthOf (v : Value) : Except Fault Value := do return .bool (← v.truth?)

namespace Expr

mutual

/-- Whether an expression names nothing and calls nothing. -/
def isConstant : Expr → Bool
  | const _ => true
  | name _ => false
  | list xs => areConstant xs
  | tuple xs => areConstant xs
  | dict entries => areConstantEntries entries
  | .attribute e _ => isConstant e
  | item e key => isConstant e && isConstant key
  | slice _ _ _ _ => false
  | call _ _ _ _ _ => false
  | filter e n args _ _ _ => isConstant e && areConstant args && n != "map" && n != "selectattr"
  | test e _ args _ _ _ => isConstant e && areConstant args
  | negative e => isConstant e
  | positive e => isConstant e
  | arithmetic _ a b => isConstant a && isConstant b
  | concat xs => areConstant xs
  | compare e _ => isConstant e
  | and a b => isConstant a && isConstant b
  | or a b => isConstant a && isConstant b
  | not e => isConstant e
  | choice _ _ _ => false

def areConstant : List Expr → Bool
  | [] => true
  | x :: xs => isConstant x && areConstant xs

def areConstantEntries : List (Expr × Expr) → Bool
  | [] => true
  | (k, v) :: rest => isConstant k && isConstant v && areConstantEntries rest

end

mutual

/-- The value of an expression. -/
def eval (env : Surroundings) (scopes : Scopes) : Expr → Except Fault Value
  | const v => .ok v
  | name n => .ok (valueOf env scopes n)
  | list xs => Value.list <$> evalAll env scopes xs
  | tuple xs => Value.tuple <$> evalAll env scopes xs
  | dict entries => do mappingOf (← evalEntries env scopes entries)
  | .attribute e n => do (← eval env scopes e).member n
  | item e key => do
    let v ← eval env scopes e
    v.item (← eval env scopes key)
  | slice e start stop step => do
    let v ← eval env scopes e
    let start ← evalOption env scopes start
    let stop ← evalOption env scopes stop
    v.slice start stop (← evalOption env scopes step)
  | call f args named more moreNamed => do
    let g ← eval env scopes f
    let args ← evalAll env scopes args
    let named ← evalNamed env scopes named
    let more ← evalOption env scopes more
    let moreNamed ← evalOption env scopes moreNamed
    let args' ← more.elim (pure []) Value.iterate
    let named' ← moreNamed.elim (pure []) namedOf
    Expression.call env g (args ++ args') (named ++ named')
  | filter e n args named more moreNamed => do
    let v ← eval env scopes e
    let args ← evalAll env scopes args
    let named ← evalNamed env scopes named
    let more ← evalOption env scopes more
    let moreNamed ← evalOption env scopes moreNamed
    let args' ← more.elim (pure []) Value.iterate
    let named' ← moreNamed.elim (pure []) namedOf
    if Filter.names.contains n then Filter.apply env.escapes n v (args ++ args') (named ++ named')
    else throw (Fault.missingName s!"No filter named {Token.quoted n} found.")
  | test e n args named more moreNamed => do
    let v ← eval env scopes e
    let args ← evalAll env scopes args
    let named ← evalNamed env scopes named
    let more ← evalOption env scopes more
    let moreNamed ← evalOption env scopes moreNamed
    let args' ← more.elim (pure []) Value.iterate
    let named' ← moreNamed.elim (pure []) namedOf
    if Filter.testNames.contains n then Value.bool <$> Filter.test n v (args ++ args') (named ++ named')
    else throw (Fault.missingName s!"No test named {Token.quoted n} found.")
  | negative e => do (← eval env scopes e).negative
  | positive e => do (← eval env scopes e).positive
  | arithmetic op a b => do
    let v ← eval env scopes a
    v.arithmetic op (← eval env scopes b)
  | concat xs => do
    let vs ← evalAll env scopes xs
    concatenate (env.escapes && !areConstant xs) vs
  | compare e rest => do evalComparisons env scopes (← eval env scopes e) rest
  | and a b => do
    let v ← eval env scopes a
    let holds ← v.truth?
    if holds then eval env scopes b else return v
  | or a b => do
    let v ← eval env scopes a
    let holds ← v.truth?
    if holds then return v else eval env scopes b
  | not e => do return .bool (!(← (← eval env scopes e).truth?))
  | choice c a b => do
    let v ← eval env scopes c
    let holds ← v.truth?
    if holds then eval env scopes a
    else
      return (← evalOption env scopes b).getD (.undefined true
        "the inline if-expression on line 1 evaluated to false and no else section was defined.")

def evalAll (env : Surroundings) (scopes : Scopes) : List Expr → Except Fault (List Value)
  | [] => .ok []
  | x :: xs => do
    let v ← eval env scopes x
    return v :: (← evalAll env scopes xs)

def evalNamed (env : Surroundings) (scopes : Scopes) : List (String × Expr) → Except Fault (List (String × Value))
  | [] => .ok []
  | (n, x) :: xs => do
    let v ← eval env scopes x
    return (n, v) :: (← evalNamed env scopes xs)

def evalEntries (env : Surroundings) (scopes : Scopes) : List (Expr × Expr) → Except Fault (List (Value × Value))
  | [] => .ok []
  | (k, x) :: xs => do
    let key ← eval env scopes k
    let v ← eval env scopes x
    return (key, v) :: (← evalEntries env scopes xs)

def evalOption (env : Surroundings) (scopes : Scopes) : Option Expr → Except Fault (Option Value)
  | none => .ok none
  | some e => some <$> eval env scopes e

/-- Comparisons in a row hold if each of them does; those behind one that fails are not looked at. -/
def evalComparisons (env : Surroundings) (scopes : Scopes) (v : Value) :
    List (Comparison × Expr) → Except Fault Value
  | [] => .ok (.bool true)
  | (op, e) :: rest => do
    let w ← eval env scopes e
    let holds ← v.compare op w
    if holds then evalComparisons env scopes w rest else return .bool false

end

mutual

/-- The first filter or test of an expression that does not exist. Where a condition decides whether it is
used, it may be missing. -/
def unknown? (soft : Bool) : Expr → Option Fault
  | const _ => none
  | name _ => none
  | list xs => unknownIn? soft xs
  | tuple xs => unknownIn? soft xs
  | dict entries => unknownInEntries? soft entries
  | .attribute e _ => unknown? soft e
  | item e key => (unknown? soft e).orElse fun _ => unknown? soft key
  | slice e a b c => (unknown? soft e).orElse fun _ => (unknownInOption? soft a).orElse fun _ =>
      (unknownInOption? soft b).orElse fun _ => unknownInOption? soft c
  | call f args named more moreNamed => (unknown? soft f).orElse fun _ => (unknownIn? soft args).orElse fun _ =>
      (unknownInNamed? soft named).orElse fun _ => (unknownInOption? soft more).orElse fun _ =>
        unknownInOption? soft moreNamed
  | filter e n args named more moreNamed =>
    if !soft && !Filter.names.contains n then some (.unknownName s!"No filter named {Token.quoted n}.")
    else (unknown? soft e).orElse fun _ => (unknownIn? soft args).orElse fun _ =>
      (unknownInNamed? soft named).orElse fun _ => (unknownInOption? soft more).orElse fun _ =>
        unknownInOption? soft moreNamed
  | test e n args named more moreNamed =>
    if !soft && !Filter.testNames.contains n then some (.unknownName s!"No test named {Token.quoted n}.")
    else (unknown? soft e).orElse fun _ => (unknownIn? soft args).orElse fun _ =>
      (unknownInNamed? soft named).orElse fun _ => (unknownInOption? soft more).orElse fun _ =>
        unknownInOption? soft moreNamed
  | negative e => unknown? soft e
  | positive e => unknown? soft e
  | arithmetic _ a b => (unknown? soft a).orElse fun _ => unknown? soft b
  | concat xs => unknownIn? soft xs
  | compare e rest => (unknown? soft e).orElse fun _ => unknownInComparisons? soft rest
  | and a b => (unknown? soft a).orElse fun _ => unknown? soft b
  | or a b => (unknown? soft a).orElse fun _ => unknown? soft b
  | not e => unknown? soft e
  | choice c a b => (unknown? true c).orElse fun _ => (unknown? true a).orElse fun _ => unknownInOption? true b

def unknownIn? (soft : Bool) : List Expr → Option Fault
  | [] => none
  | x :: xs => (unknown? soft x).orElse fun _ => unknownIn? soft xs

def unknownInNamed? (soft : Bool) : List (String × Expr) → Option Fault
  | [] => none
  | (_, x) :: xs => (unknown? soft x).orElse fun _ => unknownInNamed? soft xs

def unknownInEntries? (soft : Bool) : List (Expr × Expr) → Option Fault
  | [] => none
  | (k, x) :: xs => (unknown? soft k).orElse fun _ => (unknown? soft x).orElse fun _ => unknownInEntries? soft xs

def unknownInOption? (soft : Bool) : Option Expr → Option Fault
  | none => none
  | some e => unknown? soft e

def unknownInComparisons? (soft : Bool) : List (Comparison × Expr) → Option Fault
  | [] => none
  | (_, e) :: rest => (unknown? soft e).orElse fun _ => unknownInComparisons? soft rest

end

end Expr

namespace Target

mutual

/-- Assigns a value to a target: names that commas divide take its items, one each. -/
def assign (scopes : Scopes) (v : Value) : Target → Except Fault Scopes
  | name n => .ok (scopes.assign n v)
  | tuple ts => do assignAll scopes (← v.iterate) ts
  | member _ _ => .error (Fault.missingName "cannot assign attribute on non-namespace object")

def assignAll (scopes : Scopes) (vs : List Value) : List Target → Except Fault Scopes
  | [] => if vs.isEmpty then .ok scopes else .error Fault.badValue
  | t :: ts =>
    match vs with
    | [] => .error Fault.badValue
    | v :: vs => do assignAll (← assign scopes v t) vs ts

end

end Target

namespace Node

/-- The items before the first failure of a test, with what the test says of them, and that failure. -/
def verdicts (test : Value → Except Fault Bool) : List Value → List Value × Option Fault
  | [] => ([], none)
  | x :: xs =>
    match test x with
    | .error f => ([], some f)
    | .ok holds =>
      let (kept, f) := verdicts test xs
      (if holds then x :: kept else kept, f)

/-- The text of an item of a loop for each item, one after the other. -/
def runItems (step : Nat → Value → Except Fault (List Char)) (i : Nat) : List Value → Except Fault (List Char)
  | [] => .ok []
  | x :: xs => do
    let out ← step i x
    return out ++ (← runItems step (i + 1) xs)

def bindAll (env : Surroundings) (outer : Scopes) (scopes : Scopes) : List (Target × Expr) → Except Fault Scopes
  | [] => .ok scopes
  | (t, e) :: rest => do
    let v ← e.eval env outer
    bindAll env outer (← t.assign scopes v) rest

mutual

/-- What a node yields, and the names after it. -/
def run (env : Surroundings) (scopes : Scopes) : Node → Except Fault (List Char × Scopes)
  | data cs => .ok (cs, scopes)
  | print e => do
    let v ← e.eval env scopes
    let out ← if env.escapes then String.toList <$> escapeValue v else v.text?
    return (out, scopes)
  | branch branches otherwise => runBranches env scopes branches fun _ => runAll env scopes otherwise
  | loop target items test body otherwise => do
    let xs ← (← items.eval env scopes).iterate
    let passes (x : Value) : Except Fault Bool := do
      match test with
      | none => return true
      | some e =>
        let inner ← target.assign ([] :: scopes) x
        (← e.eval env inner).truth?
    let (kept, failure) := verdicts passes xs
    let out ← runItems (fun i x => do
      let inner ← target.assign ([("loop", .loop i kept.length)] :: scopes) x
      let (out, _) ← runAll env inner body
      return out) 0 kept
    if let some f := failure then throw f
    if kept.isEmpty then
      let (out, _) ← runAll env ([] :: scopes) otherwise
      return (out, scopes)
    return (out, scopes)
  | assign target e => do
    let v ← e.eval env scopes
    return ([], ← target.assign scopes v)
  | capture target e body => do
    let (out, _) ← runAll env ([] :: scopes) body
    let text : Value := if env.escapes then .markup (String.ofList out) else Value.textOf out
    let v ← e.eval env ([("", text)] :: scopes)
    let v ← if env.escapes then Value.markup <$> (String.ofList <$> v.text?) else pure v
    return ([], ← target.assign scopes v)
  | scope bindings body => do
    let inner ← bindAll env scopes ([] :: scopes) bindings
    let (out, _) ← runAll env inner body
    return (out, scopes)

def runAll (env : Surroundings) (scopes : Scopes) : List Node → Except Fault (List Char × Scopes)
  | [] => .ok ([], scopes)
  | n :: ns => do
    let (out, scopes) ← run env scopes n
    let (rest, scopes) ← runAll env scopes ns
    return (out ++ rest, scopes)

/-- The body of the first branch whose test holds. -/
def runBranches (env : Surroundings) (scopes : Scopes) (branches : List (Expr × List Node))
    (otherwise : Unit → Except Fault (List Char × Scopes)) : Except Fault (List Char × Scopes) :=
  match branches with
  | [] => otherwise ()
  | (e, body) :: rest => do
    let v ← e.eval env scopes
    let holds ← v.truth?
    if holds then runAll env scopes body else runBranches env scopes rest otherwise

end

mutual

/-- The first filter or test that does not exist. -/
def unknown? (soft : Bool) : Node → Option Fault
  | data _ => none
  | print e => e.unknown? soft
  | branch branches otherwise => (unknownInBranches? branches).orElse fun _ => unknownIn? true otherwise
  | loop _ items test body otherwise =>
    (Expr.unknownInOption? false test).orElse fun _ => (items.unknown? soft).orElse fun _ =>
      (unknownIn? false body).orElse fun _ => unknownIn? false otherwise
  | assign _ e => e.unknown? soft
  | capture _ e body => (unknownIn? false body).orElse fun _ => e.unknown? false
  | scope bindings body => (unknownInBindings? soft bindings).orElse fun _ => unknownIn? false body

def unknownIn? (soft : Bool) : List Node → Option Fault
  | [] => none
  | n :: ns => (unknown? soft n).orElse fun _ => unknownIn? soft ns

def unknownInBranches? : List (Expr × List Node) → Option Fault
  | [] => none
  | (e, body) :: rest => (e.unknown? true).orElse fun _ => (unknownIn? true body).orElse fun _ => unknownInBranches? rest

def unknownInBindings? (soft : Bool) : List (Target × Expr) → Option Fault
  | [] => none
  | (_, e) :: rest => (e.unknown? soft).orElse fun _ => unknownInBindings? soft rest

end

end Node

/-- The text of a template. -/
def render (env : Surroundings) (source : List Char) : Except Fault (List Char) := do
  let nodes ← Node.ofTokens (Token.ofSource source)
  if let some f := Node.unknownIn? false nodes then throw f
  let (out, _) ← Node.runAll env [[]] nodes
  return out

end Letterpress.Expression
