import Letterpress.Value

/-!
# Parameters

The parameters of something that can be called, and how the arguments of a call are matched with them.

* `Parameters.bind`: the value of each parameter.
-/

namespace Letterpress

/-- Names of parameters in order, with the defaults of those that may be left out. -/
abbrev Parameters := List (String × Option Value)

namespace Parameters

/-- The values of the parameters: positional arguments first, then named ones, then defaults. A parameter
without a value, an argument too many and an unknown or repeated name are faults. -/
def bind (ps : Parameters) (args : List Value) (named : List (String × Value)) : Except Fault (List Value) :=
  let (given, open_) := ps.splitAt args.length
  if ps.length < args.length then .error .wrongType
  else if named.any fun (k, _) => given.any (·.1 == k) || !open_.any (·.1 == k) then .error .wrongType
  else do
    let rest ← open_.mapM fun (k, default) =>
      match named.lookup k, default with
      | some v, _ => Except.ok v
      | none, some v => .ok v
      | none, none => .error Fault.wrongType
    .ok (args ++ rest)

end Parameters

end Letterpress
