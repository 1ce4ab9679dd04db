import Letterpress.Text.Trim

/-!
# Splitting text

What comes of text that is split at the characters of a class.

* `splitBy_append`: the piece before the first cut.
* `not_cut_of_mem_splitBy`: no piece has a cut in it.
* `splitBy_joinWith`: what is joined is split again into its pieces.
* `normalizeNewlines_of_free`: text without carriage returns has its lines ended by line feeds already.
-/

namespace Letterpress.Text

theorem splitBy_of_none {p : Char → Bool} {cs : List Char} (none_ : ∀ c ∈ cs, p c = false) : splitBy p cs = [cs] := by
  induction cs with
  | nil => rfl
  | cons c cs ih =>
    obtain ⟨here, later⟩ := List.forall_mem_cons.mp none_
    simp [splitBy, ih later, here]

theorem splitBy_ne_nil (p : Char → Bool) (cs : List Char) : splitBy p cs ≠ [] := by
  cases cs with
  | nil => simp [splitBy]
  | cons c cs =>
    rw [splitBy]
    split
    · simp
    · split <;> simp

theorem splitBy_append {p : Char → Bool} {cs ds : List Char} {d : Char} (none_ : ∀ c ∈ cs, p c = false)
    (cut : p d = true) : splitBy p (cs ++ d :: ds) = cs :: splitBy p ds := by
  have behind : splitBy p (d :: ds) = [] :: splitBy p ds := by
    rw [splitBy]
    split
    · rename_i empty
      exact absurd empty (splitBy_ne_nil p ds)
    · rename_i same
      rw [if_pos cut, same]
  induction cs with
  | nil => exact behind
  | cons c cs ih =>
    obtain ⟨here, later⟩ := List.forall_mem_cons.mp none_
    rw [List.cons_append, splitBy, ih later]
    simp [here]

/-- The characters that text is split at are in none of its pieces. -/
theorem not_cut_of_mem_splitBy {p : Char → Bool} {cs piece : List Char} {c : Char} (between : piece ∈ splitBy p cs)
    (member : c ∈ piece) : p c = false := by
  induction cs generalizing piece with
  | nil =>
    obtain rfl : piece = [] := by simpa [splitBy] using between
    cases member
  | cons d cs ih =>
    cases behind : splitBy p cs with
    | nil => exact absurd behind (splitBy_ne_nil p cs)
    | cons first rest =>
      rw [behind] at ih
      cases cut : p d with
      | true =>
        simp only [splitBy, behind, cut, if_true, List.mem_cons] at between
        obtain rfl | between := between
        · cases member
        · exact ih (List.mem_cons.mpr between) member
      | false =>
        simp only [splitBy, behind, cut, Bool.false_eq_true, if_false, List.mem_cons] at between
        obtain rfl | between := between
        · obtain rfl | member := List.mem_cons.mp member
          · exact cut
          · exact ih List.mem_cons_self member
        · exact ih (List.mem_cons_of_mem _ between) member

/-- Joined lines are split again into themselves. -/
theorem splitBy_joinWith {d : Char} {xs : List (List Char)} (filled : xs ≠ []) (single : ∀ x ∈ xs, d ∉ x) :
    splitBy (· == d) (joinWith [d] xs) = xs := by
  have apart {x : List Char} (free : d ∉ x) : ∀ c ∈ x, (c == d) = false := fun c member => by
    simpa using fun same : c = d => free (same ▸ member)
  induction xs with
  | nil => exact absurd rfl filled
  | cons x xs ih =>
    obtain ⟨here, later⟩ := List.forall_mem_cons.mp single
    cases xs with
    | nil => exact splitBy_of_none (apart here)
    | cons y ys =>
      rw [joinWith, List.append_assoc, List.singleton_append, splitBy_append (apart here) (by simp),
        ih (List.cons_ne_nil _ _) later]

/-! ## Line ends -/

theorem normalizeNewlines_of_free {cs : List Char} (free : '\r' ∉ cs) : normalizeNewlines cs = cs := by
  induction cs with
  | nil => rfl
  | cons c cs ih =>
    obtain ⟨other, later⟩ := not_or.mp (mt List.mem_cons.mpr free)
    rw [normalizeNewlines, ih later]
    · rintro ds rfl
      exact absurd rfl other
    · rintro rfl
      exact absurd rfl other

end Letterpress.Text
