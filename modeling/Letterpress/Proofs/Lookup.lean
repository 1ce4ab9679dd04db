/-!
# Looking up in lists of pairs

What a key holds in a list of pairs after one of the changes that stores, fields and file systems make.

* `lookup_cons_ite`, `lookup_modified`, `lookup_filter_ne`: a pair in front, a value changed, a key taken away.
* `lookup_renewed`: a key taken away and put at the end.
* `lookup_foldl`: one change after the other, each of a key of its own.
* `lookup_eq_none_of_notMem`, `eq_nil_of_lookup`: nothing is held by a key, or by any.
-/

namespace Letterpress

/-- Changes of which each concerns one key, and no two the same one. By induction on the changes that are still to
come. -/
theorem lookup_foldl {α β ι : Type} [BEq α] [DecidableEq α] {step : List (α × β) → ι → List (α × β)}
    (key : ι → α) (value : ι → Option β → Option β)
    (one : ∀ xs i j, (step xs i).lookup j = if j = key i then value i (xs.lookup j) else xs.lookup j)
    {changes : List ι} (distinct : (changes.map key).Nodup) (xs : List (α × β)) :
    (∀ i ∈ changes, (changes.foldl step xs).lookup (key i) = value i (xs.lookup (key i))) ∧
      ∀ j ∉ changes.map key, (changes.foldl step xs).lookup j = xs.lookup j := by
  induction changes generalizing xs with
  | nil => exact ⟨fun _ mem => (nomatch mem), fun _ _ => rfl⟩
  | cons i rest ih =>
    rw [List.map_cons, List.nodup_cons] at distinct
    obtain ⟨new, later⟩ := distinct
    obtain ⟨inside, outside⟩ := ih later (step xs i)
    refine ⟨fun j mem => ?_, fun j missing => ?_⟩
    · rw [List.foldl_cons]
      rcases List.mem_cons.mp mem with rfl | behind
      · rw [outside _ new, one, if_pos rfl]
      · have apart : key j ≠ key i := fun same => new (same ▸ List.mem_map_of_mem behind)
        rw [inside j behind, one, if_neg apart]
    · obtain ⟨apart, behind⟩ := not_or.mp (mt List.mem_cons.mpr missing)
      rw [List.foldl_cons, outside j behind, one, if_neg apart]

theorem lookup_eq_none_of_notMem {α β : Type} [BEq α] [LawfulBEq α] {k : α} {xs : List (α × β)}
    (missing : k ∉ xs.map (·.1)) : xs.lookup k = none :=
  List.lookup_eq_none_iff.mpr fun x mem => by
    simpa using fun same : k = x.1 => missing (same ▸ List.mem_map_of_mem mem)

variable {α β : Type} [BEq α] [LawfulBEq α] [DecidableEq α]

theorem lookup_cons_ite (j k : α) (v : β) (xs : List (α × β)) :
    ((k, v) :: xs).lookup j = if j = k then some v else xs.lookup j := by
  rw [List.lookup_cons]
  split
  · rename_i same
    rw [if_pos (beq_iff_eq.mp same)]
  · rename_i apart
    rw [if_neg (beq_eq_false_iff_ne.mp apart)]

theorem eq_nil_of_lookup {xs : List (α × β)} (none : ∀ k, xs.lookup k = none) : xs = [] := by
  cases xs with
  | nil => rfl
  | cons x rest =>
    have here := none x.1
    rw [lookup_cons_ite, if_pos rfl] at here
    cases here

theorem lookup_modified (j k : α) (f : β → β) (xs : List (α × β)) :
    (xs.map fun (i, w) => if i == k then (i, f w) else (i, w)).lookup j =
      if j = k then (xs.lookup k).map f else xs.lookup j := by
  induction xs with
  | nil => simp
  | cons x rest ih =>
    obtain ⟨i, w⟩ := x
    rw [List.map_cons]
    by_cases h : i = k
    · subst h
      simp only [BEq.rfl, if_true, lookup_cons_ite, ih, Option.map_some]
      split <;> rfl
    · have other : (i == k) = false := beq_eq_false_iff_ne.mpr h
      simp only [other, Bool.false_eq_true, if_false, lookup_cons_ite, ih, if_neg (Ne.symm h)]
      by_cases here : j = i
      · rw [if_pos here, if_pos here, if_neg (here ▸ h)]
      · rw [if_neg here, if_neg here]

theorem lookup_replaced (j k : α) (v : β) (xs : List (α × β)) :
    (xs.map fun (i, w) => if i == k then (i, v) else (i, w)).lookup j =
      if j = k then (xs.lookup k).map fun _ => v else xs.lookup j :=
  lookup_modified j k (fun _ => v) xs

theorem lookup_filter_ne (j k : α) (xs : List (α × β)) :
    (xs.filter fun (i, _) => i != k).lookup j = if j = k then none else xs.lookup j := by
  induction xs with
  | nil => simp
  | cons x rest ih =>
    obtain ⟨i, w⟩ := x
    by_cases h : i = k
    · subst h
      rw [List.filter_cons_of_neg (by simp), ih, lookup_cons_ite]
      split <;> rfl
    · rw [List.filter_cons_of_pos (by simpa using h), lookup_cons_ite, lookup_cons_ite, ih]
      by_cases here : j = i
      · rw [if_pos here, if_pos here, if_neg (here ▸ h)]
      · rw [if_neg here, if_neg here]

theorem lookup_renewed (j k : α) (v : β) (xs : List (α × β)) :
    (xs.filter (fun (i, _) => i != k) ++ [(k, v)]).lookup j = if j = k then some v else xs.lookup j := by
  rw [List.lookup_append, lookup_filter_ne, lookup_cons_ite, List.lookup_nil]
  split
  · rfl
  · exact Option.or_none

end Letterpress
