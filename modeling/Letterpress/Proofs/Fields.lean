import Letterpress.Proofs.Lookup
import Letterpress.Value

/-!
# Fields after they are set

* `Fields.get?_set`: what a key holds once a key is set.
* `Fields.get?_overlay`: what a key holds in fields over others; the last of the upper ones counts.
* `Fields.get?_overlay_of_nodup`: the same for upper ones that do not repeat a key.
* `Fields.overlay_of_nodup`: fields over others of which no key comes again are behind them.
-/

namespace Letterpress.Fields

@[simp]
theorem get?_nil (k : String) : get? k [] = none := rfl

theorem get?_cons (j k : String) (v : Value) (fields : Fields) :
    get? j ((k, v) :: fields) = if j = k then some v else get? j fields :=
  lookup_cons_ite j k v fields

theorem get?_append (k : String) (xs ys : Fields) : get? k (xs ++ ys) = (get? k xs).or (get? k ys) :=
  List.lookup_append

theorem isSome_get?_iff {k : String} {fields : Fields} : (get? k fields).isSome ↔ k ∈ fields.map (·.1) := by
  induction fields with
  | nil => simp
  | cons field rest ih =>
    obtain ⟨j, v⟩ := field
    rw [get?_cons, List.map_cons, List.mem_cons, ← ih]
    split
    · rename_i here
      simp [here]
    · rename_i other
      simp [other]

@[simp]
theorem get?_set (j k : String) (v : Value) (fields : Fields) :
    get? j (set fields k v) = if j = k then some v else get? j fields := by
  induction fields with
  | nil => exact get?_cons j k v []
  | cons field rest ih =>
    obtain ⟨i, w⟩ := field
    rw [set]
    split
    · rename_i same
      rw [get?_cons, get?_cons, same]
      split <;> rfl
    · rename_i other
      rw [get?_cons, get?_cons, ih]
      split
      · rename_i here
        rw [if_neg (here ▸ other)]
      · rfl

/-- The last of the upper fields with a key counts, and where there is none, the lower ones. -/
theorem get?_overlay (j : String) (base upper : Fields) :
    get? j (overlay base upper) = (get? j upper.reverse).or (get? j base) := by
  induction upper generalizing base with
  | nil => rfl
  | cons field rest ih =>
    obtain ⟨k, v⟩ := field
    have lower : (if j = k then some v else get? j base) = (get? j [(k, v)]).or (get? j base) := by
      rw [get?_cons]
      split <;> rfl
    change get? j (overlay (set base k v) rest) = _
    rw [ih, get?_set, lower, ← Option.or_assoc, ← get?_append, ← List.reverse_cons]

theorem get?_reverse_of_nodup {fields : Fields} (distinct : (fields.map (·.1)).Nodup) (k : String) :
    get? k fields.reverse = get? k fields := by
  induction fields with
  | nil => rfl
  | cons field rest ih =>
    obtain ⟨j, v⟩ := field
    rw [List.map_cons, List.nodup_cons] at distinct
    rw [List.reverse_cons, get?_append, ih distinct.2, get?_cons, get?_cons, get?_nil]
    split
    · rename_i here
      have missing : get? k rest = none := lookup_eq_none_of_notMem (here ▸ distinct.1)
      rw [missing, Option.none_or]
    · exact Option.or_none

theorem get?_overlay_of_nodup {upper : Fields} (distinct : (upper.map (·.1)).Nodup) (j : String) (base : Fields) :
    get? j (overlay base upper) = (get? j upper).or (get? j base) := by
  rw [get?_overlay, get?_reverse_of_nodup distinct]

theorem set_of_notMem {k : String} {fields : Fields} (new : k ∉ fields.map (·.1)) (v : Value) :
    set fields k v = fields ++ [(k, v)] := by
  induction fields with
  | nil => rfl
  | cons field rest ih =>
    obtain ⟨j, w⟩ := field
    obtain ⟨other, later⟩ := not_or.mp (mt List.mem_cons.mpr new)
    rw [set, if_neg (Ne.symm other), ih later, List.cons_append]

theorem overlay_of_nodup {base upper : Fields} (distinct : ((base ++ upper).map (·.1)).Nodup) :
    overlay base upper = base ++ upper := by
  induction upper generalizing base with
  | nil => rw [List.append_nil]; rfl
  | cons field rest ih =>
    obtain ⟨k, v⟩ := field
    have new : k ∉ base.map (·.1) := fun mem => by
      rw [List.map_append, List.nodup_append] at distinct
      exact distinct.2.2 k mem k (by simp) rfl
    have next : base ++ (k, v) :: rest = (base ++ [(k, v)]) ++ rest := by rw [List.append_assoc, List.singleton_append]
    rw [next] at distinct ⊢
    rw [← ih distinct, ← set_of_notMem new v]
    rfl

end Letterpress.Fields
