import Letterpress.Expression.Token
import Letterpress.Expression.Tree

/-!
# Grammar

Trees of the tokens of a template. Precedence, from loose to tight: the inline condition, `or`, `and`, `not`,
comparisons, sums, the concatenation `~`, products, powers, signs, filters and tests, attributes, items and
calls. Powers group from the left, and a sign binds tighter than a power.

* `Node.ofTokens`: the nodes of a template, or the first place that does not follow the grammar.
-/

namespace Letterpress.Expression

/-- The tokens that are left. The first one is never a failure. -/
abbrev Tokens := List Token

namespace Tokens

def fail {α : Type} (message : String) : Except Fault α := .error (.syntaxError message)

/-- Stops at a place where the source cannot be read on. -/
def settle (ts : Tokens) : Except Fault Tokens :=
  match ts with
  | .failure f :: _ => .error f
  | ts => .ok ts

def advance (ts : Tokens) : Except Fault Tokens := settle ts.tail

/-- The token after the first one. -/
def second? (ts : Tokens) : Except Fault (Option Token) := do return (← settle ts.tail).head?

def describe (ts : Tokens) : String := ((ts.head?).map Token.description).getD "end of template"

def isAt (p : Token → Bool) (ts : Tokens) : Bool := (ts.head?.map p).getD false

def isAtOperator (s : String) (ts : Tokens) : Bool := ts.isAt (Token.isOperator s)

def isAtName (s : String) (ts : Tokens) : Bool := ts.isAt (Token.isName s)

def isCloseBlock : Token → Bool
  | .closeBlock => true
  | _ => false

def isClosePrint : Token → Bool
  | .closePrint => true
  | _ => false

def expect (p : Token → Bool) (what : String) (ts : Tokens) : Except Fault Tokens :=
  match ts with
  | [] => fail s!"unexpected end of template, expected {Token.quoted what}."
  | t :: _ =>
    if p t then ts.advance
    else fail s!"expected token {Token.quoted what}, got {Token.quoted t.description}"

def expectOperator (s : String) (ts : Tokens) : Except Fault Tokens := ts.expect (Token.isOperator s) s

def expectName (s : String) (ts : Tokens) : Except Fault Tokens := ts.expect (Token.isName s) s

def isAnyName : Token → Bool
  | .name _ => true
  | _ => false

/-- A name of any spelling. -/
def takeName (ts : Tokens) : Except Fault (String × Tokens) := do
  let rest ← ts.expect isAnyName "name"
  match ts with
  | .name s :: _ => return (s, rest)
  | _ => return ("", rest)

/-- Passes a token if it is next. -/
def skipIf (p : Token → Bool) (ts : Tokens) : Except Fault (Bool × Tokens) := do
  if ts.isAt p then return (true, ← ts.advance) else return (false, ts)

/-- A name that points divide. -/
def dotted (name : String) : Nat → Tokens → Except Fault (String × Tokens)
  | 0, ts => .ok (name, ts)
  | fuel + 1, ts => do
    if ts.isAtOperator "." then
      let (part, ts) ← takeName (← ts.advance)
      dotted (name ++ "." ++ part) fuel ts
    else return (name, ts)

end Tokens

open Tokens

namespace Expr

/-- The kind of an expression in messages. -/
def kind : Expr → String
  | .const _ => "const"
  | .name _ => "name"
  | .list _ => "list"
  | .tuple _ => "tuple"
  | .dict _ => "dict"
  | .attribute _ _ => "getattr"
  | .item _ _ => "getitem"
  | .slice _ _ _ _ => "getitem"
  | .call _ _ _ _ _ => "call"
  | .filter _ _ _ _ _ _ => "filter"
  | .test _ _ _ _ _ _ => "test"
  | .negative _ => "neg"
  | .positive _ => "pos"
  | .arithmetic .add _ _ => "add"
  | .arithmetic .sub _ _ => "sub"
  | .arithmetic .mul _ _ => "mul"
  | .arithmetic .div _ _ => "div"
  | .arithmetic .floorDiv _ _ => "floordiv"
  | .arithmetic .mod _ _ => "mod"
  | .arithmetic .pow _ _ => "pow"
  | .concat _ => "concat"
  | .compare _ _ => "compare"
  | .and _ _ => "and"
  | .or _ _ => "or"
  | .not _ => "not"
  | .choice _ _ _ => "condexpr"

mutual

/-- The expression as something that can be assigned to. -/
def target? : Expr → Option Target
  | name n => some (.name n)
  | tuple xs => (targets? xs).map .tuple
  | _ => none

def targets? : List Expr → Option (List Target)
  | [] => some []
  | x :: xs => do return (← target? x) :: (← targets? xs)

end

/-- Arguments of a call. -/
structure Arguments where
  args : List Expr := []
  named : List (String × Expr) := []
  more : Option Expr := none
  moreNamed : Option Expr := none

def comparison? : Token → Option Comparison
  | .operator "==" => some .eq
  | .operator "!=" => some .ne
  | .operator "<" => some .lt
  | .operator "<=" => some .le
  | .operator ">" => some .gt
  | .operator ">=" => some .ge
  | .name "in" => some .member
  | _ => none

def sum? : Token → Option Arithmetic
  | .operator "+" => some .add
  | .operator "-" => some .sub
  | _ => none

def product? : Token → Option Arithmetic
  | .operator "*" => some .mul
  | .operator "/" => some .div
  | .operator "//" => some .floorDiv
  | .operator "%" => some .mod
  | _ => none

def power? : Token → Option Arithmetic
  | .operator "**" => some .pow
  | _ => none

/-- Where a sequence of expressions ends. -/
def isSequenceEnd (extra : Token → Bool) (ts : Tokens) : Bool :=
  ts.isAt fun t => isCloseBlock t || isClosePrint t || t.isOperator ")" || extra t

def noToken : Token → Bool := fun _ => false

/-- Tokens that start the argument of a test. -/
def startsOperand : Token → Bool
  | .name s => !(s == "else" || s == "or" || s == "and")
  | .text _ | .int _ | .float _ => true
  | .operator s => s == "(" || s == "[" || s == "\x7b"
  | _ => false

/-- Adjacent texts are one text. -/
def takeTexts : Nat → Tokens → Except Fault (String × Tokens)
  | 0, ts => .ok ("", ts)
  | fuel + 1, ts =>
    match ts with
    | .text s :: _ => do
      let (rest, ts) ← takeTexts fuel (← ts.advance)
      return (s ++ rest, ts)
    | ts => .ok ("", ts)

def constant? (s : String) : Option Value :=
  match s with
  | "true" | "True" => some (.bool true)
  | "false" | "False" => some (.bool false)
  | "none" | "None" => some .none
  | _ => none

def tooDeep {α : Type} : Except Fault α := .error (.syntaxError "too deep")

mutual

/-- An expression, with an inline condition. -/
def read (fuel : Nat) (ts : Tokens) : Except Fault (Expr × Tokens) :=
  match fuel with
  | 0 => tooDeep
  | fuel + 1 => do
    let (e, ts) ← readOr fuel ts
    readChoices fuel e ts

def readChoices (fuel : Nat) (e : Expr) (ts : Tokens) : Except Fault (Expr × Tokens) :=
  match fuel with
  | 0 => tooDeep
  | fuel + 1 => do
    if !ts.isAtName "if" then return (e, ts)
    let (condition, ts) ← readOr fuel (← ts.advance)
    if ts.isAtName "else" then
      let (b, ts) ← read fuel (← ts.advance)
      readChoices fuel (.choice condition e (some b)) ts
    else readChoices fuel (.choice condition e none) ts

def readOr (fuel : Nat) (ts : Tokens) : Except Fault (Expr × Tokens) :=
  match fuel with
  | 0 => tooDeep
  | fuel + 1 => do
    let (e, ts) ← readAnd fuel ts
    readOrs fuel e ts

def readOrs (fuel : Nat) (e : Expr) (ts : Tokens) : Except Fault (Expr × Tokens) :=
  match fuel with
  | 0 => tooDeep
  | fuel + 1 => do
    if !ts.isAtName "or" then return (e, ts)
    let (b, ts) ← readAnd fuel (← ts.advance)
    readOrs fuel (.or e b) ts

def readAnd (fuel : Nat) (ts : Tokens) : Except Fault (Expr × Tokens) :=
  match fuel with
  | 0 => tooDeep
  | fuel + 1 => do
    let (e, ts) ← readNot fuel ts
    readAnds fuel e ts

def readAnds (fuel : Nat) (e : Expr) (ts : Tokens) : Except Fault (Expr × Tokens) :=
  match fuel with
  | 0 => tooDeep
  | fuel + 1 => do
    if !ts.isAtName "and" then return (e, ts)
    let (b, ts) ← readNot fuel (← ts.advance)
    readAnds fuel (.and e b) ts

def readNot (fuel : Nat) (ts : Tokens) : Except Fault (Expr × Tokens) :=
  match fuel with
  | 0 => tooDeep
  | fuel + 1 => do
    if ts.isAtName "not" then
      let (e, ts) ← readNot fuel (← ts.advance)
      return (.not e, ts)
    let (e, ts) ← readSum fuel ts
    let (rest, ts) ← readComparisons fuel ts
    return (if rest.isEmpty then e else .compare e rest, ts)

def readComparisons (fuel : Nat) (ts : Tokens) : Except Fault (List (Comparison × Expr) × Tokens) :=
  match fuel with
  | 0 => tooDeep
  | fuel + 1 => do
    match ts.head?.bind comparison? with
    | some op =>
      let (e, ts) ← readSum fuel (← ts.advance)
      let (rest, ts) ← readComparisons fuel ts
      return ((op, e) :: rest, ts)
    | none =>
      if !ts.isAtName "not" then return ([], ts)
      let next ← ts.second?
      if (next.map (Token.isName "in")).getD false then
        let (e, ts) ← readSum fuel (← (← ts.advance).advance)
        let (rest, ts) ← readComparisons fuel ts
        return ((.notMember, e) :: rest, ts)
      else return ([], ts)

def readSum (fuel : Nat) (ts : Tokens) : Except Fault (Expr × Tokens) :=
  match fuel with
  | 0 => tooDeep
  | fuel + 1 => do
    let (e, ts) ← readConcat fuel ts
    readSums fuel e ts

def readSums (fuel : Nat) (e : Expr) (ts : Tokens) : Except Fault (Expr × Tokens) :=
  match fuel with
  | 0 => tooDeep
  | fuel + 1 => do
    match ts.head?.bind sum? with
    | some op =>
      let (b, ts) ← readConcat fuel (← ts.advance)
      readSums fuel (.arithmetic op e b) ts
    | none => return (e, ts)

def readConcat (fuel : Nat) (ts : Tokens) : Except Fault (Expr × Tokens) :=
  match fuel with
  | 0 => tooDeep
  | fuel + 1 => do
    let (e, ts) ← readProduct fuel ts
    let (rest, ts) ← readConcats fuel ts
    return (if rest.isEmpty then e else .concat (e :: rest), ts)

def readConcats (fuel : Nat) (ts : Tokens) : Except Fault (List Expr × Tokens) :=
  match fuel with
  | 0 => tooDeep
  | fuel + 1 => do
    if !ts.isAtOperator "~" then return ([], ts)
    let (e, ts) ← readProduct fuel (← ts.advance)
    let (rest, ts) ← readConcats fuel ts
    return (e :: rest, ts)

def readProduct (fuel : Nat) (ts : Tokens) : Except Fault (Expr × Tokens) :=
  match fuel with
  | 0 => tooDeep
  | fuel + 1 => do
    let (e, ts) ← readPower fuel ts
    readProducts fuel e ts

def readProducts (fuel : Nat) (e : Expr) (ts : Tokens) : Except Fault (Expr × Tokens) :=
  match fuel with
  | 0 => tooDeep
  | fuel + 1 => do
    match ts.head?.bind product? with
    | some op =>
      let (b, ts) ← readPower fuel (← ts.advance)
      readProducts fuel (.arithmetic op e b) ts
    | none => return (e, ts)

def readPower (fuel : Nat) (ts : Tokens) : Except Fault (Expr × Tokens) :=
  match fuel with
  | 0 => tooDeep
  | fuel + 1 => do
    let (e, ts) ← readSigned fuel true ts
    readPowers fuel e ts

def readPowers (fuel : Nat) (e : Expr) (ts : Tokens) : Except Fault (Expr × Tokens) :=
  match fuel with
  | 0 => tooDeep
  | fuel + 1 => do
    match ts.head?.bind power? with
    | some op =>
      let (b, ts) ← readSigned fuel true (← ts.advance)
      readPowers fuel (.arithmetic op e b) ts
    | none => return (e, ts)

def readSigned (fuel : Nat) (filters : Bool) (ts : Tokens) : Except Fault (Expr × Tokens) :=
  match fuel with
  | 0 => tooDeep
  | fuel + 1 => do
    let (e, ts) ←
      if ts.isAtOperator "-" then do
        let (e, ts) ← readSigned fuel false (← ts.advance)
        pure (Expr.negative e, ts)
      else if ts.isAtOperator "+" then do
        let (e, ts) ← readSigned fuel false (← ts.advance)
        pure (Expr.positive e, ts)
      else readPrimary fuel ts
    let (e, ts) ← readPostfix fuel e ts
    if filters then readFilters fuel e ts else return (e, ts)

def readPrimary (fuel : Nat) (ts : Tokens) : Except Fault (Expr × Tokens) :=
  match fuel with
  | 0 => tooDeep
  | fuel + 1 => do
    match ts with
    | .name s :: _ =>
      let rest ← ts.advance
      return ((constant? s).elim (.name s) .const, rest)
    | .text _ :: _ =>
      let (s, rest) ← takeTexts ts.length ts
      return (.const (.text s), rest)
    | .int i :: _ => return (.const (.int i), ← ts.advance)
    | .float x :: _ => return (.const (.float x), ← ts.advance)
    | .operator "(" :: _ =>
      let (e, ts) ← readSequence fuel true noToken true (← ts.advance)
      return (e, ← ts.expectOperator ")")
    | .operator "[" :: _ =>
      let (xs, ts) ← readItems fuel "]" true (← ts.advance)
      return (.list xs, ← ts.expectOperator "]")
    | .operator "\x7b" :: _ =>
      let (entries, ts) ← readEntries fuel true (← ts.advance)
      return (.dict entries, ← ts.expectOperator "\x7d")
    | ts => fail s!"unexpected {Token.quoted ts.describe}"

/-- Expressions that commas divide: one of them alone, or a tuple. -/
def readSequence (fuel : Nat) (conditions : Bool) (extra : Token → Bool) (parentheses : Bool) (ts : Tokens) :
    Except Fault (Expr × Tokens) :=
  match fuel with
  | 0 => tooDeep
  | fuel + 1 => do
    let ((xs, isTuple), ts) ← readSequenceItems fuel conditions extra ts
    match isTuple, xs with
    | false, [x] => return (x, ts)
    | false, [] =>
      if parentheses then return (.tuple [], ts)
      else fail s!"Expected an expression, got {Token.quoted ts.describe}"
    | _, xs => return (.tuple xs, ts)

def readSequenceItems (fuel : Nat) (conditions : Bool) (extra : Token → Bool) (ts : Tokens) :
    Except Fault ((List Expr × Bool) × Tokens) :=
  match fuel with
  | 0 => tooDeep
  | fuel + 1 => do
    if isSequenceEnd extra ts then return (([], false), ts)
    let (e, ts) ← if conditions then read fuel ts else readOr fuel ts
    if ts.isAtOperator "," then
      let ((rest, _), ts) ← readSequenceItems fuel conditions extra (← ts.advance)
      return ((e :: rest, true), ts)
    else return (([e], false), ts)

/-- The items of a list up to its closing bracket. -/
def readItems (fuel : Nat) (closing : String) (isFirst : Bool) (ts : Tokens) : Except Fault (List Expr × Tokens) :=
  match fuel with
  | 0 => tooDeep
  | fuel + 1 => do
    if ts.isAtOperator closing then return ([], ts)
    let ts ← if isFirst then pure ts else ts.expectOperator ","
    if ts.isAtOperator closing then return ([], ts)
    let (e, ts) ← read fuel ts
    let (rest, ts) ← readItems fuel closing false ts
    return (e :: rest, ts)

def readEntries (fuel : Nat) (isFirst : Bool) (ts : Tokens) : Except Fault (List (Expr × Expr) × Tokens) :=
  match fuel with
  | 0 => tooDeep
  | fuel + 1 => do
    if ts.isAtOperator "\x7d" then return ([], ts)
    let ts ← if isFirst then pure ts else ts.expectOperator ","
    if ts.isAtOperator "\x7d" then return ([], ts)
    let (k, ts) ← read fuel ts
    let (v, ts) ← read fuel (← ts.expectOperator ":")
    let (rest, ts) ← readEntries fuel false ts
    return ((k, v) :: rest, ts)

def readPostfix (fuel : Nat) (e : Expr) (ts : Tokens) : Except Fault (Expr × Tokens) :=
  match fuel with
  | 0 => tooDeep
  | fuel + 1 => do
    if ts.isAtOperator "." then
      let ts ← ts.advance
      let rest ← ts.advance
      match ts with
      | .name n :: _ => readPostfix fuel (.attribute e n) rest
      | .int i :: _ => readPostfix fuel (.item e (.const (.int i))) rest
      | _ => fail "expected name or number"
    else if ts.isAtOperator "[" then
      let (subscripts, ts) ← readSubscripts fuel true (← ts.advance)
      let ts ← ts.expectOperator "]"
      match subscripts with
      | [f] => readPostfix fuel (f e) ts
      | fs => readPostfix fuel (.item e (.tuple (fs.map fun f => f (.const .none)))) ts
    else if ts.isAtOperator "(" then
      let (a, ts) ← readArguments fuel ts
      readPostfix fuel (.call e a.args a.named a.more a.moreNamed) ts
    else return (e, ts)

/-- What stands in the brackets behind an expression, as functions of the expression. -/
def readSubscripts (fuel : Nat) (isFirst : Bool) (ts : Tokens) : Except Fault (List (Expr → Expr) × Tokens) :=
  match fuel with
  | 0 => tooDeep
  | fuel + 1 => do
    if ts.isAtOperator "]" then return ([], ts)
    let ts ← if isFirst then pure ts else ts.expectOperator ","
    let (f, ts) ← readSubscript fuel ts
    let (rest, ts) ← readSubscripts fuel false ts
    return (f :: rest, ts)

def readSubscript (fuel : Nat) (ts : Tokens) : Except Fault ((Expr → Expr) × Tokens) :=
  match fuel with
  | 0 => tooDeep
  | fuel + 1 => do
    if ts.isAtOperator ":" then
      let (stop, step, ts) ← readSliceEnd fuel (← ts.advance)
      return (fun e => .slice e none stop step, ts)
    let (start, ts) ← read fuel ts
    if ts.isAtOperator ":" then
      let (stop, step, ts) ← readSliceEnd fuel (← ts.advance)
      return (fun e => .slice e (some start) stop step, ts)
    else return (fun e => .item e start, ts)

/-- The end and the step of a slice. -/
def readSliceEnd (fuel : Nat) (ts : Tokens) : Except Fault (Option Expr × Option Expr × Tokens) :=
  match fuel with
  | 0 => tooDeep
  | fuel + 1 => do
    let isPartEnd (ts : Tokens) : Bool := ts.isAtOperator "]" || ts.isAtOperator ","
    let (stop, ts) ←
      if ts.isAtOperator ":" || isPartEnd ts then pure (none, ts)
      else do
        let (e, ts) ← read fuel ts
        pure (some e, ts)
    if !ts.isAtOperator ":" then return (stop, none, ts)
    let ts ← ts.advance
    if isPartEnd ts then return (stop, none, ts)
    let (e, ts) ← read fuel ts
    return (stop, some e, ts)

def readArguments (fuel : Nat) (ts : Tokens) : Except Fault (Arguments × Tokens) :=
  match fuel with
  | 0 => tooDeep
  | fuel + 1 => do
    let ts ← ts.expectOperator "("
    let (a, ts) ← readArgumentList fuel {} true ts
    return (a, ← ts.expectOperator ")")

def readArgumentList (fuel : Nat) (a : Arguments) (isFirst : Bool) (ts : Tokens) : Except Fault (Arguments × Tokens) :=
  match fuel with
  | 0 => tooDeep
  | fuel + 1 => do
    let misplaced : Except Fault Unit := fail "invalid syntax for function call expression"
    if ts.isAtOperator ")" then return (a, ts)
    let ts ← if isFirst then pure ts else ts.expectOperator ","
    if !isFirst && ts.isAtOperator ")" then return (a, ts)
    if ts.isAtOperator "*" then
      if a.more.isSome || a.moreNamed.isSome then misplaced
      let (e, ts) ← read fuel (← ts.advance)
      readArgumentList fuel { a with more := some e } false ts
    else if ts.isAtOperator "**" then
      if a.moreNamed.isSome then misplaced
      let (e, ts) ← read fuel (← ts.advance)
      readArgumentList fuel { a with moreNamed := some e } false ts
    else
      let next ← if ts.isAt isAnyName then ts.second? else pure none
      if (next.map (Token.isOperator "=")).getD false then
        if a.moreNamed.isSome then misplaced
        let (n, ts) ← ts.takeName
        let (e, ts) ← read fuel (← ts.advance)
        readArgumentList fuel { a with named := a.named ++ [(n, e)] } false ts
      else
        if a.more.isSome || a.moreNamed.isSome || !a.named.isEmpty then misplaced
        let (e, ts) ← read fuel ts
        readArgumentList fuel { a with args := a.args ++ [e] } false ts

/-- Filters, tests and calls behind an expression. -/
def readFilters (fuel : Nat) (e : Expr) (ts : Tokens) : Except Fault (Expr × Tokens) :=
  match fuel with
  | 0 => tooDeep
  | fuel + 1 => do
    if ts.isAtOperator "|" then
      let (e, ts) ← readFilter fuel e ts
      readFilters fuel e ts
    else if ts.isAtName "is" then
      let (e, ts) ← readTest fuel e ts
      readFilters fuel e ts
    else if ts.isAtOperator "(" then
      let (a, ts) ← readArguments fuel ts
      readFilters fuel (.call e a.args a.named a.more a.moreNamed) ts
    else return (e, ts)

def readFilter (fuel : Nat) (e : Expr) (ts : Tokens) : Except Fault (Expr × Tokens) :=
  match fuel with
  | 0 => tooDeep
  | fuel + 1 => do
    let (n, ts) ← takeName (← ts.advance)
    let (n, ts) ← dotted n ts.length ts
    let (a, ts) ← if ts.isAtOperator "(" then readArguments fuel ts else pure (({} : Arguments), ts)
    return (.filter e n a.args a.named a.more a.moreNamed, ts)

def readTest (fuel : Nat) (e : Expr) (ts : Tokens) : Except Fault (Expr × Tokens) :=
  match fuel with
  | 0 => tooDeep
  | fuel + 1 => do
    let (isNegated, ts) ← (← ts.advance).skipIf (Token.isName "not")
    let (n, ts) ← takeName ts
    let (n, ts) ← dotted n ts.length ts
    let (a, ts) ←
      if ts.isAtOperator "(" then readArguments fuel ts
      else if ts.isAt startsOperand then do
        if ts.isAtName "is" then fail "You cannot chain multiple tests with is"
        let (x, ts) ← readPrimary fuel ts
        let (x, ts) ← readPostfix fuel x ts
        pure (({ args := [x] } : Arguments), ts)
      else pure (({} : Arguments), ts)
    let t : Expr := .test e n a.args a.named a.more a.moreNamed
    return (if isNegated then .not t else t, ts)

end

end Expr

/-! ## Statements -/

/-- Where reading stands: the open statements and the tags that would close them, innermost first. -/
structure Nesting where
  tags : List String := []
  ends : List (List String) := []

namespace Nesting

def alternatives (names : List String) : String := " or ".intercalate (names.map Token.quoted)

/-- The message for a tag that does not fit, or for the end of the source. -/
def complaint (n : Nesting) (tag : Option String) : String :=
  let first := match tag with
    | none => "Unexpected end of template."
    | some t => s!"Encountered unknown tag {Token.quoted t}."
  let second := match n.ends with
    | [] => []
    | looking :: _ =>
      if (tag.map fun t => n.ends.any (·.contains t)).getD false then
        ["You probably made a nesting mistake. Jinja is expecting this tag, but currently looking for " ++
          alternatives looking ++ "."]
      else ["Jinja was looking for the following tags: " ++ alternatives looking ++ "."]
  let third := match n.tags with
    | [] => []
    | t :: _ => [s!"The innermost block that needs to be closed is {Token.quoted t}."]
  " ".intercalate (first :: (second ++ third))

def inside (n : Nesting) (tag : String) : Nesting := { n with tags := tag :: n.tags }

def endingAt (n : Nesting) (ends : List String) : Nesting := { n with ends := ends :: n.ends }

end Nesting

namespace Target

/-- One part of a target: what can be assigned to, or the kind of what cannot. -/
def readPart (ts : Tokens) (members : Bool) : Except Fault ((Target ⊕ String) × Tokens) := do
  let fuel := 20 * (ts.length + 1)
  match ts with
  | .name n :: _ =>
    let rest ← ts.advance
    if members && (Expr.constant? n).isNone && rest.isAtOperator "." then
      let (attr, rest) ← takeName (← rest.advance)
      return (.inl (.member n attr), rest)
    else
      let (e, rest) ← Expr.readPrimary fuel ts
      return (e.target?.elim (.inr e.kind) .inl, rest)
  | ts =>
    let (e, rest) ← Expr.readPrimary fuel ts
    return (e.target?.elim (.inr e.kind) .inl, rest)

def readParts (members : Bool) (extra : Token → Bool) : Nat → Tokens → Except Fault ((List (Target ⊕ String) × Bool) × Tokens)
  | 0, _ => Expr.tooDeep
  | fuel + 1, ts => do
    if Expr.isSequenceEnd extra ts then return (([], false), ts)
    let (t, ts) ← readPart ts members
    if ts.isAtOperator "," then
      let ((rest, _), ts) ← readParts members extra fuel (← ts.advance)
      return ((t :: rest, true), ts)
    else return (([t], false), ts)

def all? : List (Target ⊕ String) → Option (List Target)
  | [] => some []
  | .inl t :: rest => (all? rest).map (t :: ·)
  | .inr _ :: _ => none

/-- A name, or names that commas divide. -/
def read (members : Bool) (extra : Token → Bool) (ts : Tokens) : Except Fault (Target × Tokens) := do
  let ((parts, isTuple), ts) ← readParts members extra (ts.length + 1) ts
  match isTuple, parts with
  | false, [.inl t] => return (t, ts)
  | false, [.inr kind] => fail s!"can't assign to {Token.quoted kind}"
  | false, [] => fail s!"Expected an expression, got {Token.quoted ts.describe}"
  | _, parts =>
    match all? parts with
    | some targets => return (.tuple targets, ts)
    | none => fail "can't assign to 'tuple'"

end Target

namespace Node

def isEnd (ends : List String) (ts : Tokens) : Bool :=
  ts.isAt fun t => match t with
    | .name s => ends.contains s
    | _ => false

def readExpr (conditions : Bool) (extra : Token → Bool) (ts : Tokens) : Except Fault (Expr × Tokens) :=
  Expr.readSequence (20 * (ts.length + 1)) conditions extra false ts

def readSingle (ts : Tokens) : Except Fault (Expr × Tokens) := Expr.read (20 * (ts.length + 1)) ts

def readBindings : Nat → Bool → Tokens → Except Fault (List (Target × Expr) × Tokens)
  | 0, _, _ => Expr.tooDeep
  | fuel + 1, isFirst, ts => do
    if ts.isAt isCloseBlock then return ([], ts)
    let ts ← if isFirst then pure ts else ts.expectOperator ","
    let (t, ts) ← Target.read false Expr.noToken ts
    let (e, ts) ← readSingle (← ts.expectOperator "=")
    let (rest, ts) ← readBindings fuel false ts
    return ((t, e) :: rest, ts)

def readPrints : Nat → Bool → Tokens → Except Fault (List Expr × Tokens)
  | 0, _, _ => Expr.tooDeep
  | fuel + 1, isFirst, ts => do
    if ts.isAt isCloseBlock then return ([], ts)
    let ts ← if isFirst then pure ts else ts.expectOperator ","
    let (e, ts) ← readSingle ts
    let (rest, ts) ← readPrints fuel false ts
    return (e :: rest, ts)

/-- The filters of a captured body. -/
def readCaptureFilters : Nat → Expr → Tokens → Except Fault (Expr × Tokens)
  | 0, _, _ => Expr.tooDeep
  | fuel + 1, e, ts => do
    if !ts.isAtOperator "|" then return (e, ts)
    let (e, ts) ← Expr.readFilter (20 * (ts.length + 1)) e ts
    readCaptureFilters fuel e ts

/-- The tag at the end of a body. -/
def closingTag (ts : Tokens) : String :=
  match ts with
  | .name s :: _ => s
  | _ => ""

mutual

/-- Nodes up to one of the end tags, or to the end of the source. -/
def readAll (fuel : Nat) (n : Nesting) (ends : Option (List String)) (ts : Tokens) : Except Fault (List Node × Tokens) :=
  match fuel with
  | 0 => Expr.tooDeep
  | fuel + 1 => do
    match ts with
    | [] => return ([], [])
    | .data cs :: _ =>
      let (rest, ts) ← readAll fuel n ends (← ts.advance)
      return (.data cs :: rest, ts)
    | .openPrint :: _ =>
      let (e, ts) ← readExpr true Expr.noToken (← ts.advance)
      let (rest, ts) ← readAll fuel n ends (← ts.expect isClosePrint "end of print statement")
      return (.print e :: rest, ts)
    | _ =>
      let ts ← ts.advance
      if (ends.map fun es => isEnd es ts).getD false then return ([], ts)
      let (nodes, ts) ← readStatement fuel n ts
      let (rest, ts) ← readAll fuel n ends (← ts.expect isCloseBlock "end of statement block")
      return (nodes ++ rest, ts)

/-- The body of a statement up to one of its end tags. -/
def readBody (fuel : Nat) (n : Nesting) (ends : List String) (ts : Tokens) : Except Fault (List Node × Tokens) :=
  match fuel with
  | 0 => Expr.tooDeep
  | fuel + 1 => do
    let (_, ts) ← ts.skipIf (Token.isOperator ":")
    let ts ← ts.expect isCloseBlock "end of statement block"
    let (body, ts) ← readAll fuel (n.endingAt ends) (some ends) ts
    if ts.isEmpty then fail ((n.endingAt ends).complaint none)
    return (body, ts)

def readStatement (fuel : Nat) (n : Nesting) (ts : Tokens) : Except Fault (List Node × Tokens) :=
  match fuel with
  | 0 => Expr.tooDeep
  | fuel + 1 => do
    match ts with
    | .name "for" :: _ =>
      let n := n.inside "for"
      let (target, ts) ← Target.read false (Token.isName "in") (← ts.advance)
      let ts ← ts.expectName "in"
      let (items, ts) ← readExpr false (Token.isName "recursive") ts
      let (condition, ts) ←
        if ts.isAtName "if" then do
          let (e, ts) ← readSingle (← ts.advance)
          pure (some e, ts)
        else pure (none, ts)
      let (_, ts) ← ts.skipIf (Token.isName "recursive")
      let (body, ts) ← readBody fuel n ["endfor", "else"] ts
      let tag := closingTag ts
      let ts ← ts.advance
      if tag == "endfor" then return ([.loop target items condition body []], ts)
      let (otherwise, ts) ← readBody fuel n ["endfor"] ts
      return ([.loop target items condition body otherwise], ← ts.advance)
    | .name "if" :: _ =>
      let (branches, otherwise, ts) ← readBranches fuel (n.inside "if") (← ts.advance)
      return ([.branch branches otherwise], ts)
    | .name "set" :: _ =>
      let (target, ts) ← Target.read true Expr.noToken (← ts.advance)
      if ts.isAtOperator "=" then
        let (e, ts) ← readExpr true Expr.noToken (← ts.advance)
        return ([.assign target e], ts)
      let (e, ts) ← readCaptureFilters (ts.length + 1) (.name "") ts
      let (body, ts) ← readBody fuel (n.inside "set") ["endset"] ts
      return ([.capture target e body], ← ts.advance)
    | .name "with" :: _ =>
      let (bindings, ts) ← readBindings (ts.length + 1) true (← ts.advance)
      let (body, ts) ← readBody fuel (n.inside "with") ["endwith"] ts
      return ([.scope bindings body], ← ts.advance)
    | .name "print" :: _ =>
      let (es, ts) ← readPrints (ts.length + 1) true (← ts.advance)
      return (es.map .print, ts)
    | .name s :: _ => fail (n.complaint (some s))
    | _ => fail "tag name expected"

/-- The branches of a condition: tests with their bodies, and what else to do. -/
def readBranches (fuel : Nat) (n : Nesting) (ts : Tokens) :
    Except Fault (List (Expr × List Node) × List Node × Tokens) :=
  match fuel with
  | 0 => Expr.tooDeep
  | fuel + 1 => do
    let (condition, ts) ← readExpr false Expr.noToken ts
    let (body, ts) ← readBody fuel n ["elif", "else", "endif"] ts
    let tag := closingTag ts
    let ts ← ts.advance
    if tag == "elif" then
      let (branches, otherwise, ts) ← readBranches fuel n ts
      return ((condition, body) :: branches, otherwise, ts)
    else if tag == "else" then
      let (otherwise, ts) ← readBody fuel n ["endif"] ts
      return ([(condition, body)], otherwise, ← ts.advance)
    else return ([(condition, body)], [], ts)

end

def ofTokens (ts : List Token) : Except Fault (List Node) := do
  let ts ← settle ts
  let (nodes, _) ← readAll (8 * (ts.length + 2)) {} none ts
  return nodes

end Node

end Letterpress.Expression
