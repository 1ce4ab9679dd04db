import Letterpress.Helper
import Letterpress.Proofs.Value

/-!
# Sorting

The items of a list are sorted by keys of all kinds: numbers by what they stand for, then text by its characters, and
what is missing at the end. Items whose keys tie stay in the order in which they came, in both directions.

* `Helper.SortKey.AtMost`: the order of keys, in which any two can be compared.
* `filter_ties_mergeSort`: sorting leaves the order of what ties alone.
* `Helper.sortItems_eq`: items are sorted by their keys.
* `Helper.sort_orders`: what becomes of a list or a tuple of JSON values.
-/

namespace Letterpress

/-! ## Stability -/

section

variable {α : Type} {r : α → α → Prop} [DecidableRel r]

/-- What ties with something comes out of sorting in the order in which it went in. -/
theorem filter_ties_mergeSort (trans : ∀ a b c, r a b → r b c → r a c) (total : ∀ a b, r a b ∨ r b a) (xs : List α)
    (k : α) :
    (xs.mergeSort fun a b => r a b).filter (fun x => r x k ∧ r k x) = xs.filter fun x => r x k ∧ r k x := by
  have trans' : ∀ a b c, decide (r a b) = true → decide (r b c) = true → decide (r a c) = true := by
    simpa using trans
  have total' : ∀ a b, (decide (r a b) || decide (r b a)) = true := by simpa using total
  have ties : (xs.filter fun x => r x k ∧ r k x).Pairwise fun a b => decide (r a b) = true := by
    refine List.pairwise_of_forall_mem_list fun a here b there => ?_
    simp only [List.mem_filter, decide_eq_true_eq] at here there ⊢
    exact trans a k b here.2.1 there.2.2
  have kept := (List.sublist_mergeSort trans' total' ties List.filter_sublist).filter fun x => r x k ∧ r k x
  simp only [List.filter_filter, Bool.and_self] at kept
  exact (kept.eq_of_length ((List.mergeSort_perm xs _).filter _).length_eq.symm).symm

end

namespace Helper

/-! ## The order of keys -/

namespace SortKey

/-- Whether a key comes before another one or ties with it. -/
def AtMost : SortKey → SortKey → Prop
  | number a, number b => a.value ≤ b.value
  | text s, text t => s ≤ t
  | a, b => a.rank ≤ b.rank

instance : DecidableRel AtMost
  | number a, number b => inferInstanceAs (Decidable (a.value ≤ b.value))
  | text s, text t => inferInstanceAs (Decidable (s ≤ t))
  | number _, text _ | number _, missing | text _, number _ | text _, missing | missing, _ => Nat.decLe _ _

theorem AtMost.total (a b : SortKey) : a.AtMost b ∨ b.AtMost a := by
  cases a <;> cases b
  case text.text s t => exact String.le_total s t
  all_goals simp [AtMost, rank, le_total]

theorem AtMost.trans {a b c : SortKey} (first : a.AtMost b) (second : b.AtMost c) : a.AtMost c := by
  cases a <;> cases b <;> cases c
  case number.number.number => exact le_trans first second
  case text.text.text => exact String.le_trans first second
  all_goals simp_all [AtMost, rank]

/-- A number of the format, and not the one that is no number. -/
def IsOrdered : SortKey → Prop
  | number n => n.IsProper ∧ n ≠ .float .nan
  | _ => True

theorem not_before_eq {a b : SortKey} (here : a.IsOrdered) (there : b.IsOrdered) :
    (!b.before a) = decide (a.AtMost b) := by
  cases a <;> cases b
  case number.number m n =>
    have less := Value.Numeral.cmp?_lt_iff there.1 here.1 there.2 here.2
    refine Bool.eq_iff_iff.mpr (Iff.trans ?_ decide_eq_true_iff.symm)
    simp only [before, AtMost, Bool.not_eq_true', beq_eq_false_iff_ne, ne_eq, less, not_lt]
  case text.text s t =>
    refine Bool.eq_iff_iff.mpr (Iff.trans ?_ decide_eq_true_iff.symm)
    simp only [before, AtMost, Value.textBefore, Bool.not_eq_true', decide_eq_false_iff_not, String.not_lt]
  all_goals rfl

end SortKey

/-! ## Items by their keys -/

/-- What an item is sorted by: the field of an object if a property is named, else the item itself. -/
def sortedBy (property : Option String) (x : Value) : Value :=
  match property, x with
  | some k, .record fields => if k = "" then x else (Fields.get? k fields).getD .none
  | _, _ => x

/-- The key of a value: the number that it counts as, or else its text. -/
def SortKey.of (v : Value) : SortKey :=
  match v, v.numeral? with
  | .none, _ => missing
  | _, some n => number n
  | v, none => text (String.ofList v.display)

/-- The argument that names a property, or none. -/
def propertyValue (property : Option String) : Value := property.elim .none .text

theorem ofValue_eq {v : Value} (json : v.IsJson) : SortKey.ofValue v = .ok (SortKey.of v) := by
  cases json <;> rfl

theorem isJson_sortedBy {x : Value} (json : x.IsJson) (property : Option String) : (sortedBy property x).IsJson := by
  unfold sortedBy
  split
  · split
    · exact json
    · exact json.get? _
  · exact json

theorem sortKey_eq {x : Value} (json : x.IsJson) (property : Option String) :
    sortKey (propertyValue property) x = .ok (SortKey.of (sortedBy property x)) := by
  rw [← ofValue_eq (isJson_sortedBy json property)]
  cases property with
  | none => rfl
  | some k =>
    by_cases empty : k = ""
    · subst empty
      cases json <;> rfl
    · have named : (Value.text k).truth? = .ok true := by simp [Value.truth?, empty]
      rw [sortKey, propertyValue, Option.elim_some, named]
      cases json
      case record fields values => simp [sortedBy, empty, fieldOf?, field, bind, Except.bind, Functor.map, Except.map]
      all_goals rfl

theorem isOrdered_of {v : Value} (json : v.IsJson) (number : v ≠ .float .nan) : (SortKey.of v).IsOrdered := by
  cases json
  case float x proper => exact ⟨proper, fun same => number (by cases same; rfl)⟩
  all_goals simp [SortKey.of, Value.numeral?, SortKey.IsOrdered, Value.Numeral.IsProper]

/-- Whether an item may stand in front of another one. -/
def Precedes (property : Option String) (ascending : Bool) (x y : Value) : Prop :=
  if ascending then (SortKey.of (sortedBy property x)).AtMost (SortKey.of (sortedBy property y))
  else (SortKey.of (sortedBy property y)).AtMost (SortKey.of (sortedBy property x))

instance (property : Option String) (ascending : Bool) : DecidableRel (Precedes property ascending) := fun x y =>
  inferInstanceAs <| Decidable <|
    if ascending then (SortKey.of (sortedBy property x)).AtMost (SortKey.of (sortedBy property y))
    else (SortKey.of (sortedBy property y)).AtMost (SortKey.of (sortedBy property x))

theorem Precedes.total (property : Option String) (ascending : Bool) (x y : Value) :
    Precedes property ascending x y ∨ Precedes property ascending y x := by
  cases ascending
  case true => exact SortKey.AtMost.total _ _
  case false => exact SortKey.AtMost.total _ _

theorem Precedes.trans {property : Option String} {ascending : Bool} {x y z : Value}
    (first : Precedes property ascending x y) (second : Precedes property ascending y z) :
    Precedes property ascending x z := by
  cases ascending
  case true => exact SortKey.AtMost.trans first second
  case false => exact SortKey.AtMost.trans second first

section

variable {property : Option String} {xs : List Value} (json : ∀ x ∈ xs, x.IsJson)
  (numbers : ∀ x ∈ xs, sortedBy property x ≠ .float .nan)

include json numbers

/-- Pairs of a key and an item are sorted as the items are by what they are sorted by. -/
theorem sortPairs_eq (ascending : Bool) :
    (sortPairs ascending (xs.map fun x => (SortKey.of (sortedBy property x), x))).map (·.2) =
      xs.mergeSort fun x y => Precedes property ascending x y := by
  have items : (xs.map fun x => (SortKey.of (sortedBy property x), x)).map (·.2) = xs := by
    rw [List.map_map]
    exact List.map_id xs
  rw [sortPairs, List.map_mergeSort, items]
  intro a here b there
  obtain ⟨x, mem, rfl⟩ := List.mem_map.mp here
  obtain ⟨y, mem', rfl⟩ := List.mem_map.mp there
  have ordered := isOrdered_of (isJson_sortedBy (json x mem) property) (numbers x mem)
  have ordered' := isOrdered_of (isJson_sortedBy (json y mem') property) (numbers y mem')
  cases ascending
  case true => exact SortKey.not_before_eq ordered ordered'
  case false => exact SortKey.not_before_eq ordered' ordered

/-- Items are sorted by their keys, and nothing can go wrong. -/
theorem sortItems_eq {v : Value} (items : items? v = some xs) (direction : String) :
    sortItems v (propertyValue property) (.text direction) =
      .ok (.list (xs.mergeSort fun x y =>
        Precedes property (Text.lower direction.toList == ['a', 's', 'c']) x y)) := by
  have keys : (xs.mapM fun x => do return (← sortKey (propertyValue property) x, x)) =
      .ok (xs.map fun x => (SortKey.of (sortedBy property x), x)) := by
    clear numbers items
    induction xs with
    | nil => rfl
    | cons x xs ih =>
      obtain ⟨first, rest⟩ := List.forall_mem_cons.mp json
      rw [List.mapM_cons, sortKey_eq first, ih rest]
      rfl
  rw [sortItems, items, ← sortPairs_eq json numbers]
  change ((xs.mapM fun x => do return (← sortKey (propertyValue property) x, x)) >>= _) = _
  rw [keys]
  rfl

end

/-- A list or a tuple of JSON values is sorted, whatever is in it: the items are the same, each may stand in front of
those behind it, those that tie with one another are in the order in which they came, and there is nothing more to be
sorted. In the direction `asc`, in letters of any case, the keys go up, in all others they go down. -/
theorem sort_orders (s : Setting) {v : Value} {xs : List Value} (sequence : v = .list xs ∨ v = .tuple xs)
    (json : ∀ x ∈ xs, x.IsJson) (property : Option String) (numbers : ∀ x ∈ xs, sortedBy property x ≠ .float .nan)
    (direction : String) :
    let ascending := Text.lower direction.toList == ['a', 's', 'c']
    ∃ ys : List Value,
      call s .sort [v, propertyValue property, .text direction] [] = .ok (.list ys) ∧ ys.Perm xs ∧
      ys.Pairwise (Precedes property ascending) ∧
      (∀ x, ys.filter (fun y => Precedes property ascending y x ∧ Precedes property ascending x y) =
        xs.filter fun y => Precedes property ascending y x ∧ Precedes property ascending x y) ∧
      call s .sort [.list ys, propertyValue property, .text direction] [] = .ok (.list ys) := by
  intro ascending
  have perm := List.mergeSort_perm xs fun x y => Precedes property ascending x y
  have trans : ∀ x y z, Precedes property ascending x y → Precedes property ascending y z →
      Precedes property ascending x z := fun _ _ _ => Precedes.trans
  have sorted : (xs.mergeSort fun x y => Precedes property ascending x y).Pairwise fun x y =>
      decide (Precedes property ascending x y) = true :=
    List.pairwise_mergeSort (by simpa using trans) (by simpa using Precedes.total property ascending) xs
  refine ⟨xs.mergeSort fun x y => Precedes property ascending x y, ?_, perm, ?_, ?_, ?_⟩
  · have items : items? v = some xs := by rcases sequence with rfl | rfl <;> rfl
    exact sortItems_eq json numbers items direction
  · simpa using sorted
  · exact filter_ties_mergeSort trans (Precedes.total property ascending) xs
  · have json' : ∀ x ∈ xs.mergeSort _, x.IsJson := fun x mem => json x (perm.mem_iff.mp mem)
    have numbers' : ∀ x ∈ xs.mergeSort _, sortedBy property x ≠ .float .nan := fun x mem =>
      numbers x (perm.mem_iff.mp mem)
    have again := sortItems_eq (v := .list _) json' numbers' rfl direction
    rwa [List.mergeSort_of_pairwise sorted] at again

/-- Rows of a table with numbers, a text and nothing in one of its columns. -/
def rows : List Value :=
  [.record [("code", .text "X")], .record [("code", .int 2), ("name", .text "a")], .record [],
    .record [("code", .bool true)], .record [("code", .float (.finite false 4503599627370496 (-51))), ("name", .text "b")]]

theorem isJson_rows : ∀ x ∈ rows, x.IsJson := by
  have field {k : String} {v : Value} (json : v.IsJson) : Value.IsJson (.record [(k, v)]) :=
    .record (by simpa using json)
  have fields {j k : String} {v w : Value} (first : v.IsJson) (second : w.IsJson) :
      Value.IsJson (.record [(j, v), (k, w)]) := .record (by simpa using ⟨first, second⟩)
  simp only [rows, List.forall_mem_cons, List.not_mem_nil, false_implies, implies_true, and_true]
  exact ⟨field (.text _), fields (.int _) (.text _), .record (by simp), field (.bool _),
    fields (.float (by decide)) (.text _)⟩

theorem sort_orders_rows :
    (∀ x ∈ rows, sortedBy (some "code") x ≠ .float .nan) ∧
      ∃ ys : List Value,
        call default .sort [.list rows, propertyValue (some "code"), .text "Desc"] [] = .ok (.list ys) ∧ ys.Perm rows ∧
        ys.Pairwise (Precedes (some "code") false) ∧
        (∀ x, ys.filter (fun y => Precedes (some "code") false y x ∧ Precedes (some "code") false x y) =
          rows.filter fun y => Precedes (some "code") false y x ∧ Precedes (some "code") false x y) ∧
        call default .sort [.list ys, propertyValue (some "code"), .text "Desc"] [] = .ok (.list ys) := by
  have numbers : ∀ x ∈ rows, sortedBy (some "code") x ≠ .float .nan := by
    simp [rows, sortedBy, Fields.get?]
  have descending : (Text.lower "Desc".toList == ['a', 's', 'c']) = false := by decide
  have sorted := sort_orders default (.inl rfl) isJson_rows (some "code") numbers "Desc"
  rw [descending] at sorted
  exact ⟨numbers, sorted⟩

end Helper

end Letterpress
