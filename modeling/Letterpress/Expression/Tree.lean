import Letterpress.Value

/-!
# Trees

Expressions and statements of templates.

* `Expr`: what stands in a print statement.
* `Node`: what a template is made of.
-/

namespace Letterpress.Expression

inductive Arithmetic where
  | add
  | sub
  | mul
  | div
  | floorDiv
  | mod
  | pow
  deriving DecidableEq, Repr, Inhabited

inductive Comparison where
  | eq
  | ne
  | lt
  | le
  | gt
  | ge
  | member
  | notMember
  deriving DecidableEq, Repr, Inhabited

inductive Expr where
  | const (v : Value)
  | name (n : String)
  | list (xs : List Expr)
  | tuple (xs : List Expr)
  | dict (entries : List (Expr × Expr))
  | attribute (e : Expr) (n : String)
  | item (e key : Expr)
  | slice (e : Expr) (start stop step : Option Expr)
  /-- a call with positional and named arguments, then a list and a mapping of further ones -/
  | call (f : Expr) (args : List Expr) (named : List (String × Expr)) (more moreNamed : Option Expr)
  | filter (e : Expr) (n : String) (args : List Expr) (named : List (String × Expr)) (more moreNamed : Option Expr)
  | test (e : Expr) (n : String) (args : List Expr) (named : List (String × Expr)) (more moreNamed : Option Expr)
  | negative (e : Expr)
  | positive (e : Expr)
  | arithmetic (op : Arithmetic) (a b : Expr)
  | concat (xs : List Expr)
  | compare (e : Expr) (rest : List (Comparison × Expr))
  | and (a b : Expr)
  | or (a b : Expr)
  | not (e : Expr)
  /-- the first if the test holds, else the second if there is one -/
  | choice (test a : Expr) (b : Option Expr)
  deriving Inhabited

/-- What a value is assigned to. -/
inductive Target where
  | name (n : String)
  | tuple (ts : List Target)
  | member (n attr : String)
  deriving Inhabited

inductive Node where
  | data (cs : List Char)
  | print (e : Expr)
  /-- branches with their tests, then what else to do -/
  | branch (branches : List (Expr × List Node)) (otherwise : List Node)
  | loop (target : Target) (items : Expr) (test : Option Expr) (body otherwise : List Node)
  | assign (target : Target) (e : Expr)
  /-- assigns a value computed from what a body yields, which the empty name stands for -/
  | capture (target : Target) (e : Expr) (body : List Node)
  | scope (bindings : List (Target × Expr)) (body : List Node)
  deriving Inhabited

end Letterpress.Expression
