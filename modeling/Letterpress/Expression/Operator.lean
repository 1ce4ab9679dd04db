import Letterpress.Expression.Member
import Letterpress.Expression.Tree

/-!
# Operators

Arithmetic, comparisons and membership on values.

* `Value.arithmetic`: whole numbers stay whole but for division and negative powers; text and sequences can be
  joined and repeated; safe text takes in other text only after escaping it.
* `Value.compare`: comparisons and membership.
-/

namespace Letterpress

open Expression

namespace Value

def ofNumeral : Numeral → Value
  | .int i => int i
  | .float x => float x

/-- A whole number as a binary64 number. -/
def toFloat (n : Numeral) : Except Fault Binary64 :=
  match n with
  | .float x => .ok x
  | .int i =>
    match Binary64.ofInt? i with
    | some x => .ok x
    | Option.none => .error Fault.overflow

def floatResult (x : Binary64) : Value := .float x

def divided (a b : Int) : Except Fault Value :=
  if b = 0 then .error (Fault.divisionByZero "division by zero")
  else if a = 0 then .ok (.float (.signedZero (b < 0)))
  else
    match Binary64.ofIntRatio? (if b < 0 then -a else a) b.natAbs with
    | some x => .ok (.float x)
    | Option.none => .error Fault.overflow

def powered (x y : Binary64) : Except Fault Value :=
  if x.isZero && y.isNegative && !y.isZero then
    .error (Fault.divisionByZero "0.0 cannot be raised to a negative power")
  else if x.isNegative && !x.isZero && x.isFinite && y.isFinite && !y.isInteger then .error Fault.wrongType
  else
    let z := Binary64.power x y
    if x.isFinite && y.isFinite && !z.isFinite then .error Fault.overflow else .ok (.float z)

def onInts (op : Arithmetic) (a b : Int) : Except Fault Value :=
  match op with
  | .add => .ok (.int (a + b))
  | .sub => .ok (.int (a - b))
  | .mul => .ok (.int (a * b))
  | .div => divided a b
  | .floorDiv =>
    if b = 0 then .error (Fault.divisionByZero "integer division or modulo by zero") else .ok (.int (Int.fdiv a b))
  | .mod => if b = 0 then .error (Fault.divisionByZero "integer modulo by zero") else .ok (.int (Int.fmod a b))
  | .pow =>
    if 0 ≤ b then .ok (.int (Int.pow a b.toNat))
    else do powered (← toFloat (.int a)) (← toFloat (.int b))

def onFloats (op : Arithmetic) (x y : Binary64) : Except Fault Value :=
  match op with
  | .add => .ok (.float (x.add y))
  | .sub => .ok (.float (x.sub y))
  | .mul => .ok (.float (x.mul y))
  | .div => if y.isZero then .error (Fault.divisionByZero "float division by zero") else .ok (.float (x.div y))
  | .floorDiv =>
    if y.isZero then .error (Fault.divisionByZero "float floor division by zero") else .ok (.float (x.floorDiv y))
  | .mod => if y.isZero then .error (Fault.divisionByZero "float modulo") else .ok (.float (x.floorMod y))
  | .pow => powered x y

def onNumbers (op : Arithmetic) (a b : Numeral) : Except Fault Value :=
  match a, b with
  | .int i, .int j => onInts op i j
  | a, b => do onFloats op (← toFloat a) (← toFloat b)

/-- Where the whole numbers begin that are no index of any sequence. -/
def indexLimit : Int := 9223372036854775808

/-- A list as often as a number says; the number must be in the range of an index even where it is negative. -/
def repeated (n : Int) (xs : List α) : Except Fault (List α) :=
  if n < -indexLimit || indexLimit ≤ n then .error Fault.overflow else .ok (List.replicate n.toNat xs).flatten

/-- A sequence repeated. -/
def times (v : Value) (n : Int) : Except Fault Value :=
  match v with
  | text s => (repeated n s.toList).map textOf
  | markup s => (repeated n s.toList).map (.markup <| String.ofList ·)
  | list xs => (repeated n xs).map .list
  | tuple xs => (repeated n xs).map .tuple
  | _ => .error Fault.wrongType

def escaped (s : String) : String := String.ofList (Hypertext.escapeExpression s.toList)

/-- Two sequences joined. -/
def joined? (a b : Value) : Option Value :=
  match a, b with
  | text s, text t => some (.text (s ++ t))
  | markup s, markup t => some (.markup (s ++ t))
  | markup s, text t => some (.markup (s ++ escaped t))
  | text s, markup t => some (.markup (escaped s ++ t))
  | list xs, list ys => some (.list (xs ++ ys))
  | tuple xs, tuple ys => some (.tuple (xs ++ ys))
  | _, _ => Option.none

def arithmetic (op : Arithmetic) (a b : Value) : Except Fault Value :=
  match a, b with
  | undefined _ m, _ => .error (Fault.undefined m)
  | _, undefined _ m => .error (Fault.undefined m)
  | a, b =>
    match a.numeral?, b.numeral? with
    | some x, some y => onNumbers op x y
    | _, _ =>
      match op, a.index?, b.index? with
      | .add, _, _ => (joined? a b).elim (.error Fault.wrongType) .ok
      | .mul, _, some n => a.times n
      | .mul, some n, Option.none => b.times n
      | _, _, _ => .error Fault.wrongType

def negative (v : Value) : Except Fault Value :=
  match v with
  | undefined _ m => .error (Fault.undefined m)
  | v =>
    match v.numeral? with
    | some (.int i) => .ok (.int (-i))
    | some (.float x) => .ok (.float x.neg)
    | Option.none => .error Fault.wrongType

def positive (v : Value) : Except Fault Value :=
  match v with
  | undefined _ m => .error (Fault.undefined m)
  | v =>
    match v.numeral? with
    | some n => .ok (ofNumeral n)
    | Option.none => .error Fault.wrongType

/-! ## Comparisons -/

def le? (a b : Value) : Except Fault Bool :=
  match a.numeral?, b.numeral? with
  | some x, some y => .ok ((x.cmp? y).any fun o => o == .lt || o == .eq)
  | _, _ => do
    let before ← a.lt? b
    if before then return true else a.eqv? b

def isAmong (x : Value) : List Value → Except Fault Bool
  | [] => .ok false
  | y :: ys => do
    let same ← y.eqv? x
    if same then return true else isAmong x ys

/-- Whether a container holds a value: text holds its parts, a mapping its keys. -/
def member? (x container : Value) : Except Fault Bool :=
  match container with
  | text s => do return Text.contains (← x.string) s.toList
  | markup s => do return Text.contains (← x.string) s.toList
  | undefined false m => .error (Fault.undefined m)
  | record _ =>
    match x with
    | undefined false m => .error (Fault.undefined m)
    | x => if x.isKey then Option.isSome <$> entryOf? container x else .error Fault.wrongType
  | mapping _ =>
    match x with
    | undefined false m => .error (Fault.undefined m)
    | x => if x.isKey then Option.isSome <$> entryOf? container x else .error Fault.wrongType
  | container => do isAmong x (← container.iterate)

def compare (op : Comparison) (a b : Value) : Except Fault Bool :=
  match op with
  | .eq => a.eqv? b
  | .ne => Bool.not <$> a.eqv? b
  | .lt => a.lt? b
  | .le => le? a b
  | .gt => b.lt? a
  | .ge => le? b a
  | .member => member? a b
  | .notMember => Bool.not <$> member? a b

end Value

end Letterpress
