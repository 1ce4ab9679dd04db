import Letterpress.Proofs.Fields
import Letterpress.Validation

/-!
# Checks and complaints

A check passes what fits and complains about everything else. The complaints about a record are those about its fields,
each of which names the key that it is about.

* `Checked.Judges`: a check that passes exactly what fits.
* `Checked.Blames`: the keys that complaints are about.
* `Record.blames_field`, `Checked.Blames.app`, `Checked.Blames.andAlso`: the complaints about a record, field by field.
-/

namespace Letterpress

namespace Checked

variable {α β : Type} {p q : Prop} {x : Checked α} {v : Value}

theorem app_eq_ok {f : Checked (α → β)} {b : β} : Checked.app f x = .ok b ↔ ∃ g a, f = .ok g ∧ x = .ok a ∧ g a = b := by
  cases f <;> cases x <;> simp [Checked.app]

theorem text_eq_ok {k s : String} (h : Checked.under (.key k) (Checked.text v) = .ok s) : v.string? = some s := by
  unfold Checked.text at h
  split at h
  · rename_i found
    cases h
    exact found
  · cases h

/-! ## What passes -/

/-- A check passes what fits, and has something to say about everything else. -/
inductive Judges {α : Type} (fits : Prop) : Checked α → Prop where
  | passes (fit : fits) (a : α) : Judges fits (.ok a)
  | complains (unfit : ¬fits) {e : List Issue} (filled : e ≠ []) : Judges fits (.error e)

namespace Judges

theorem complain (unfit : ¬p) (problem : Problem) : Judges p (Checked.complain problem : Checked α) :=
  .complains unfit (List.cons_ne_nil _ _)

theorem congr (h : Judges p x) (same : p ↔ q) : Judges q x := propext same ▸ h

theorem map (h : Judges p x) (f : α → β) : Judges p (x.map f) := by
  cases h with
  | passes fit a => exact .passes fit (f a)
  | complains unfit filled => exact .complains unfit filled

theorem under (h : Judges p x) (s : PlaceStep) : Judges p (Checked.under s x) := by
  cases h with
  | passes fit a => exact .passes fit a
  | complains unfit filled => exact .complains unfit (by simpa using filled)

theorem app {f : Checked (α → β)} (first : Judges p f) (second : Judges q x) : Judges (p ∧ q) (Checked.app f x) := by
  cases first with
  | passes fit g =>
    cases second with
    | passes fit' a => exact .passes ⟨fit, fit'⟩ (g a)
    | complains unfit filled => exact .complains (fun both => unfit both.2) filled
  | complains unfit filled =>
    cases second with
    | passes => exact .complains (fun both => unfit both.1) filled
    | complains => exact .complains (fun both => unfit both.1) (by simp [filled])

/-- The items of a list pass if each of them does. By induction on the list. -/
theorem all {check : Value → Checked α} {fits : Value → Prop} (each : ∀ v, Judges (fits v) (check v)) (i : Nat)
    (xs : List Value) : Judges (∀ v ∈ xs, fits v) (Checked.all check i xs) := by
  induction xs generalizing i with
  | nil => exact .passes (fun v member => nomatch member) []
  | cons v xs ih =>
    have both := (((each v).under (.index i)).map List.cons).app (ih (i + 1))
    exact both.congr List.forall_mem_cons.symm

/-- What is read is checked further. -/
theorem bind {f : α → Checked β} {fits : α → Prop} (talks : x ≠ .error []) (further : ∀ a, Judges (fits a) (f a)) :
    Judges (∃ a, x = .ok a ∧ fits a) (x.bind f) := by
  cases x with
  | ok a =>
    have same : (∃ b, (Except.ok a : Checked α) = .ok b ∧ fits b) ↔ fits a := by simp
    exact (further a).congr same.symm
  | error e => exact .complains (fun ⟨_, same, _⟩ => nomatch same) fun none_ => talks (none_ ▸ rfl)

end Judges

/-- The complaints of a check. -/
def issues : Checked α → List Issue
  | .ok _ => []
  | .error e => e

theorem issues_app (f : Checked (α → β)) (x : Checked α) : issues (Checked.app f x) = issues f ++ issues x := by
  cases f <;> cases x <;> simp [Checked.app, issues]

theorem issues_andAlso (x : Checked α) (others : List Issue) : issues (x.andAlso others) = issues x ++ others := by
  cases others with
  | nil => exact (List.append_nil _).symm
  | cons i others => cases x <;> rfl

/-- Issues that are about a key. -/
def Name (is : List Issue) (k : String) : Prop := ∃ i ∈ is, i.place.head? = some (.key k)

theorem not_name_nil {k : String} : ¬Name [] k := fun ⟨_, member, _⟩ => nomatch member

theorem name_append {is js : List Issue} {k : String} : Name (is ++ js) k ↔ Name is k ∨ Name js k := by
  simp only [Name, List.mem_append, or_and_right, exists_or]

/-- The keys that a check complains about. It has no other complaints. -/
structure Blames (bad : String → Prop) (x : Checked α) : Prop where
  names : ∀ k, Name (issues x) k ↔ bad k
  failed : ∀ e, x = .error e → ∃ k, bad k

namespace Blames

variable {bad bad' : String → Prop}

theorem nothing (a : α) : Blames (fun _ => False) (.ok a) where
  names _ := iff_of_false not_name_nil id
  failed _ same := nomatch same

theorem congr (h : Blames bad x) (same : ∀ k, bad k ↔ bad' k) : Blames bad' x :=
  funext (fun k => propext (same k)) ▸ h

theorem app {f : Checked (α → β)} (first : Blames bad f) (second : Blames bad' x) :
    Blames (fun k => bad k ∨ bad' k) (Checked.app f x) where
  names k := by rw [issues_app, name_append, first.names, second.names]
  failed e failed := by
    cases f with
    | error e => exact (first.failed e rfl).imp fun _ => .inl
    | ok g =>
      cases x with
      | error e => exact (second.failed e rfl).imp fun _ => .inr
      | ok a => cases failed

theorem andAlso (h : Blames bad x) {others : List Issue} (named : others ≠ [] → ∃ k, Name others k) :
    Blames (fun k => bad k ∨ Name others k) (x.andAlso others) where
  names k := by rw [issues_andAlso, name_append, h.names]
  failed e failed := by
    by_cases none_ : others = []
    · subst none_
      exact (h.failed e failed).imp fun _ => .inl
    · exact (named none_).imp fun _ => .inr

end Blames

end Checked

namespace Record

open Checked

/-- The entry under a key fits, if there is one. -/
def EntryFits (fields : Fields) (k : String) (fits : Value → Prop) : Prop := ∀ v, fields.get? k = some v → fits v

variable {α : Type} {fields : Fields} {k : String} {check : Value → Checked α} {fits : Value → Prop}

/-- Issues as they are seen from a record are about the key of their field. -/
theorem name_under {e : List Issue} (filled : e ≠ []) (j : String) :
    Name (issues (Checked.under (.key k) (.error e : Checked α))) j ↔ j = k := by
  obtain ⟨i, is, rfl⟩ := List.exists_cons_of_ne_nil filled
  constructor
  · rintro ⟨i', member, about⟩
    obtain ⟨i, -, rfl⟩ := List.mem_map.mp member
    exact (PlaceStep.key.inj (Option.some.inj about)).symm
  · rintro rfl
    exact ⟨_, List.mem_cons_self .., rfl⟩

theorem blames_field (each : ∀ v, Judges (fits v) (check v)) (default : α) :
    Blames (fun j => j = k ∧ ¬EntryFits fields k fits) (Record.field fields k default check) := by
  unfold Record.field
  split
  · rename_i v found
    have only : EntryFits fields k fits ↔ fits v := by simp [EntryFits, found]
    rw [only]
    have verdict := each v
    generalize check v = x at verdict
    cases verdict with
    | passes fit a =>
      exact (Blames.nothing a).congr fun j => ⟨False.elim, fun h => h.2 fit⟩
    | complains unfit filled =>
      exact ⟨fun j => (name_under filled j).trans (and_iff_left unfit).symm, fun _ _ => ⟨k, rfl, unfit⟩⟩
  · rename_i missing
    refine (Blames.nothing default).congr fun j => ⟨False.elim, fun h => h.2 fun v found => ?_⟩
    cases missing.symm.trans found

/-- The keys that are unknown are named. -/
theorem name_unknown {names : List String} :
    Name (Record.unknown fields names) k ↔ k ∉ names ∧ ∃ v, fields.get? k = some v := by
  rw [← Option.isSome_iff_exists, Fields.isSome_get?_iff, List.mem_map, Name, Record.unknown]
  constructor
  · rintro ⟨i, member, about⟩
    obtain ⟨f, known, rfl⟩ := List.mem_map.mp member
    obtain ⟨inside, foreign⟩ := List.mem_filter.mp known
    obtain rfl := PlaceStep.key.inj (Option.some.inj about)
    exact ⟨by simpa using foreign, f, inside, rfl⟩
  · rintro ⟨foreign, f, inside, rfl⟩
    exact ⟨_, List.mem_map.mpr ⟨f, List.mem_filter.mpr ⟨inside, by simpa using foreign⟩, rfl⟩, rfl⟩

theorem name_of_unknown {names : List String} (some_ : Record.unknown fields names ≠ []) :
    ∃ k, Name (Record.unknown fields names) k := by
  obtain ⟨i, is, same⟩ := List.exists_cons_of_ne_nil some_
  have member : i ∈ Record.unknown fields names := same ▸ List.mem_cons_self ..
  obtain ⟨f, -, rfl⟩ := List.mem_map.mp member
  exact ⟨f.1, _, member, rfl⟩

end Record

namespace Checked.Blames

open Record

variable {α β : Type} {fields : Fields} {fits : String → Value → Prop} {ks : List String}

/-- One more field of a record. -/
theorem entry {f : Checked (α → β)} {check : Value → Checked α} {default : α}
    (h : Blames (fun j => j ∈ ks ∧ ¬EntryFits fields j (fits j)) f) (k : String)
    (each : ∀ v, Judges (fits k v) (check v)) :
    Blames (fun j => j ∈ ks ++ [k] ∧ ¬EntryFits fields j (fits j))
      (Checked.app f (Record.field fields k default check)) := by
  refine (h.app (blames_field each default)).congr fun j => ?_
  constructor
  · rintro (⟨known, unfit⟩ | ⟨rfl, unfit⟩)
    · exact ⟨List.mem_append_left _ known, unfit⟩
    · exact ⟨List.mem_append_right _ (List.mem_singleton_self _), unfit⟩
  · rintro ⟨known, unfit⟩
    rcases List.mem_append.mp known with known | known
    · exact .inl ⟨known, unfit⟩
    · obtain rfl := List.mem_singleton.mp known
      exact .inr ⟨rfl, unfit⟩

/-- All fields of a record that knows no others. -/
theorem closed {x : Checked α} (h : Blames (fun j => j ∈ ks ∧ ¬EntryFits fields j (fits j)) x)
    (foreign : ∀ k v, k ∉ ks → ¬fits k v) :
    Blames (fun j => ¬EntryFits fields j (fits j)) (x.andAlso (Record.unknown fields ks)) := by
  refine (h.andAlso name_of_unknown).congr fun j => ?_
  rw [name_unknown]
  constructor
  · rintro (⟨-, unfit⟩ | ⟨unknown, v, found⟩)
    · exact unfit
    · exact fun fit => foreign j v unknown (fit v found)
  · intro unfit
    by_cases known : j ∈ ks
    · exact .inl ⟨known, unfit⟩
    · refine .inr ⟨known, Option.isSome_iff_exists.mp (Option.isSome_iff_ne_none.mpr fun missing => ?_)⟩
      exact unfit fun v found => nomatch missing.symm.trans found

end Checked.Blames

end Letterpress
