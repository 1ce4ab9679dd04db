import Letterpress.Proofs.Fields
import Letterpress.Proofs.Number.Value
import Letterpress.Value.Literal

/-!
# JSON values

The values that JSON has: nothing, truth values, numbers, texts, arrays and objects.

* `Value.IsJson`: a value that JSON has.
* `Value.IsJson.isProper`: if it is a number, it is one of the format.
* `Value.IsDatum`: what is handed over as a date or a time.
-/

namespace Letterpress.Value

/-- A value that JSON has; its numbers may be infinite, or no number. -/
inductive IsJson : Value → Prop
  | none : IsJson .none
  | bool (b : Bool) : IsJson (.bool b)
  | int (i : Int) : IsJson (.int i)
  | float {x : Binary64} (proper : x.IsProper) : IsJson (.float x)
  | text (s : String) : IsJson (.text s)
  | list {xs : List Value} (items : ∀ x ∈ xs, IsJson x) : IsJson (.list xs)
  | record {fields : Fields} (values : ∀ f ∈ fields, IsJson f.2) : IsJson (.record fields)

namespace IsJson

variable {v : Value}

theorem isProper (json : v.IsJson) {n : Numeral} (counts : v.numeral? = some n) : n.IsProper := by
  cases json <;> cases counts
  case float proper => exact proper
  all_goals trivial

/-- What an object holds is a value of JSON, also what it holds under a key that is missing. -/
theorem get? {fields : Fields} (json : IsJson (.record fields)) (k : String) :
    IsJson ((fields.get? k).getD .none) := by
  cases json with
  | record values =>
    cases found : fields.get? k with
    | none => exact .none
    | some w =>
      obtain ⟨before, after, rfl, -⟩ := List.lookup_eq_some_iff.mp found
      exact values (k, w) (by simp)

end IsJson

/-- What callers hand over as a date or a time: a value of JSON, a date or a moment. -/
inductive IsDatum : Value → Prop
  | json {v : Value} (json : v.IsJson) : IsDatum v
  | date (d : Date) : IsDatum (.date d)
  | moment (t : Moment) : IsDatum (.moment t)

namespace IsDatum

variable {v : Value}

theorem refusal? (datum : v.IsDatum) : v.refusal? = Option.none := by
  cases datum with
  | json json => cases json <;> rfl
  | date => rfl
  | moment => rfl

theorem isProper (datum : v.IsDatum) {n : Numeral} (counts : v.numeral? = some n) : n.IsProper := by
  cases datum with
  | json json => exact json.isProper counts
  | date => cases counts
  | moment => cases counts

end IsDatum

end Letterpress.Value
