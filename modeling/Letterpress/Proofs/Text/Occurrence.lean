import Letterpress.Text.Trim
import Mathlib.Data.List.Infix

/-!
# Occurrences of a word

Where a word stands first in a text that is put together from parts.

* `breakOn?_le`: a first occurrence is not behind another one.
* `avoids`: a text in which no occurrence begins, whatever follows it.
* `breakOn?_behind`: behind such a text, the first occurrence is the first one of the rest.
* `avoids_concat`: a text without the word, closed by a character that is not in the word.
-/

namespace Letterpress.Text

variable {word cs ds before rest : List Char} {c : Char}

theorem dropPrefix?_eq_some_iff : dropPrefix? word cs = some rest ↔ cs = word ++ rest := by
  fun_induction dropPrefix? word cs with
  | case1 cs => simp
  | case2 w ws => simp
  | case3 w ws cs ih => simp [ih]
  | case4 w ws c cs differs => simp [differs, eq_comm]

theorem breakOn?_of_dropPrefix? (filled : word ≠ []) (here : dropPrefix? word cs = some rest) :
    breakOn? word cs = some ([], rest) := by
  cases cs with
  | nil =>
    obtain ⟨none_, -⟩ := List.append_eq_nil_iff.mp (dropPrefix?_eq_some_iff.mp here).symm
    exact absurd none_ filled
  | cons c cs => simp [breakOn?, here]

theorem breakOn?_cons : breakOn? word (c :: cs) =
    match dropPrefix? word (c :: cs) with
    | some rest => some ([], rest)
    | none => (breakOn? word cs).map fun (before, rest) => (c :: before, rest) := rfl

/-- A word that stands somewhere is found, not behind that place. -/
theorem breakOn?_le (filled : word ≠ []) (cs ds : List Char) :
    ∃ before rest, breakOn? word (cs ++ word ++ ds) = some (before, rest) ∧ before.length ≤ cs.length := by
  induction cs with
  | nil => exact ⟨[], ds, breakOn?_of_dropPrefix? filled (dropPrefix?_eq_some_iff.mpr rfl), Nat.le_refl 0⟩
  | cons c cs ih =>
    obtain ⟨before, rest, found, le⟩ := ih
    rw [List.cons_append, List.cons_append, breakOn?_cons]
    cases dropPrefix? word (c :: (cs ++ word ++ ds)) with
    | some rest => exact ⟨[], rest, rfl, Nat.zero_le _⟩
    | none => exact ⟨c :: before, rest, by rw [found]; rfl, Nat.succ_le_succ le⟩

/-! ## Texts in which no occurrence begins -/

/-- Whether a word and a text differ in a place that both have. -/
def clashes : List Char → List Char → Bool
  | w :: ws, c :: cs => w != c || clashes ws cs
  | _, _ => false

/-- Whether no occurrence of a word begins in a text, whatever follows the text. -/
def avoids (word : List Char) : List Char → Bool
  | [] => true
  | c :: cs => clashes word (c :: cs) && avoids word cs

theorem clashes_cons {w : Char} : clashes (w :: word) (c :: cs) = (w != c || clashes word cs) := rfl

theorem avoids_cons : avoids word (c :: cs) = (clashes word (c :: cs) && avoids word cs) := rfl

theorem clashes_append (differs : clashes word cs = true) (ds : List Char) : clashes word (cs ++ ds) = true := by
  fun_induction clashes word cs with
  | case1 w ws c cs ih =>
    rw [List.cons_append, clashes_cons, Bool.or_eq_true] at *
    exact differs.imp_right ih
  | case2 => cases differs

theorem dropPrefix?_of_clashes (differs : clashes word cs = true) : dropPrefix? word cs = none := by
  fun_induction clashes word cs with
  | case1 w ws c cs ih =>
    rw [dropPrefix?]
    split
    · rename_i same
      exact ih (by simpa [same] using differs)
    · rfl
  | case2 => cases differs

/-- What does not clash with a word is the start of it, or starts with it. -/
theorem prefix_or_prefix_of_not_clashes (agrees : clashes word cs = false) : cs <+: word ∨ word <+: cs := by
  fun_induction clashes word cs with
  | case1 w ws c cs ih =>
    obtain ⟨rfl, same⟩ : w = c ∧ clashes ws cs = false := by simpa using agrees
    exact (ih same).imp (List.prefix_cons_inj w).mpr (List.prefix_cons_inj w).mpr
  | case2 ws cs none_ =>
    cases ws with
    | nil => exact .inr List.nil_prefix
    | cons w ws =>
      cases cs with
      | nil => exact .inl List.nil_prefix
      | cons c cs => exact absurd rfl (none_ w ws c cs rfl)

theorem avoids_append (first : avoids word cs = true) (second : avoids word ds = true) :
    avoids word (cs ++ ds) = true := by
  induction cs with
  | nil => exact second
  | cons c cs ih =>
    rw [avoids_cons, Bool.and_eq_true] at first
    rw [List.cons_append, avoids_cons, Bool.and_eq_true]
    exact ⟨clashes_append first.1 ds, ih first.2⟩

theorem avoids_flatMap {α : Type} {f : α → List Char} {xs : List α} (all : ∀ x ∈ xs, avoids word (f x) = true) :
    avoids word (xs.flatMap f) = true := by
  induction xs with
  | nil => rfl
  | cons x xs ih =>
    rw [List.flatMap_cons]
    exact avoids_append (all x List.mem_cons_self) (ih fun y member => all y (List.mem_cons_of_mem x member))

/-- A text without the first character of a word. -/
theorem avoids_of_not_mem (free : c ∉ cs) : avoids (c :: word) cs = true := by
  induction cs with
  | nil => rfl
  | cons d cs ih =>
    rw [List.mem_cons, not_or] at free
    simp [avoids_cons, clashes_cons, free.1, ih free.2]

/-- A text without a word, closed by a character that is not in the word. -/
theorem avoids_concat (free : ¬word <:+: cs) (foreign : c ∉ word) : avoids word (cs ++ [c]) = true := by
  have differs (ds : List Char) (free : ¬word <+: ds) : clashes word (ds ++ [c]) = true := by
    by_contra agrees
    obtain within | ⟨rest, starts⟩ := prefix_or_prefix_of_not_clashes (Bool.not_eq_true _ ▸ agrees)
    · exact foreign (within.subset (List.mem_append_right _ List.mem_cons_self))
    -- The word may not reach the closing character, so it lies before it.
    · obtain rfl | ⟨rest, d, rfl⟩ := List.eq_nil_or_concat rest
      · rw [List.append_nil] at starts
        exact foreign (starts ▸ List.mem_append_right _ List.mem_cons_self)
      · rw [List.concat_eq_append, ← List.append_assoc] at starts
        exact free ⟨rest, (List.append_inj' starts rfl).1⟩
  induction cs with
  | nil =>
    rw [List.nil_append, avoids_cons, Bool.and_eq_true]
    exact ⟨differs [] fun starts => free starts.isInfix, rfl⟩
  | cons d cs ih =>
    rw [List.cons_append, avoids_cons, Bool.and_eq_true]
    exact ⟨differs (d :: cs) fun starts => free starts.isInfix,
      ih fun within => free (within.trans (List.suffix_cons d cs).isInfix)⟩

/-- Behind a text in which no occurrence begins, the first one is that of the rest. -/
theorem breakOn?_behind (free : avoids word cs = true) (found : breakOn? word ds = some (before, rest)) :
    breakOn? word (cs ++ ds) = some (cs ++ before, rest) := by
  induction cs with
  | nil => exact found
  | cons c cs ih =>
    rw [avoids_cons, Bool.and_eq_true] at free
    have differs : dropPrefix? word (c :: (cs ++ ds)) = none := dropPrefix?_of_clashes (clashes_append free.1 ds)
    rw [List.cons_append, breakOn?_cons, differs, ih free.2]
    rfl

end Letterpress.Text
