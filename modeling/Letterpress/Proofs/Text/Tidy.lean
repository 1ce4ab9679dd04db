import Letterpress.Text.Trim
import Mathlib.Data.List.Induction
import Mathlib.Data.List.TakeWhile

/-!
# Tidy text

Text with white space collapsed: it starts and ends with ink, and between two runs of ink stands one blank.

* `Tidy`: such text, from its last character on.
* `tidy_collapse`: collapsing makes any text tidy that is not blank.
* `collapse_of_blank`: of blank text it leaves nothing.
* `Tidy.collapse_eq`, `Tidy.trim_eq`: collapsing and trimming leave tidy text alone.
* `Tidy.append`, `Tidy.join`: tidy texts, put together.
* `Tidy.of_gap`: what follows a blank in tidy text is tidy.
-/

namespace Letterpress.Text

/-- Text that starts and ends with ink and has single blanks only. -/
inductive Tidy : List Char → Prop
  | last {c : Char} (ink : isBlank c = false) : Tidy [c]
  | next {c : Char} {cs : List Char} (ink : isBlank c = false) (rest : Tidy cs) : Tidy (c :: cs)
  | gap {c : Char} {cs : List Char} (ink : isBlank c = false) (rest : Tidy cs) : Tidy (c :: ' ' :: cs)

theorem isBlank_space : isBlank ' ' = true := by decide

theorem squeeze_cons {after : Bool} {c : Char} {cs : List Char} : squeeze after (c :: cs) =
    if isBlank c then (if after then squeeze true cs else ' ' :: squeeze true cs) else c :: squeeze false cs := rfl

namespace Tidy

variable {c : Char} {cs ds : List Char}

theorem head (tidy : Tidy cs) : ∃ c rest, cs = c :: rest ∧ isBlank c = false := by
  cases tidy with
  | last ink | next ink _ | gap ink _ => exact ⟨_, _, rfl, ink⟩

theorem ne_nil (tidy : Tidy cs) : cs ≠ [] := by
  obtain ⟨c, rest, rfl, -⟩ := tidy.head
  exact List.cons_ne_nil _ _

theorem append (first : Tidy cs) (second : Tidy ds) : Tidy (cs ++ ds) := by
  induction first with
  | last ink => exact .next ink second
  | next ink _ ih => exact .next ink ih
  | gap ink _ ih => exact .gap ink ih

theorem join (first : Tidy cs) (second : Tidy ds) : Tidy (cs ++ ' ' :: ds) := by
  induction first with
  | last ink => exact .gap ink second
  | next ink _ ih => exact .next ink ih
  | gap ink _ ih => exact .gap ink ih

/-- All white space in tidy text is blanks. -/
theorem eq_space (tidy : Tidy cs) (member : c ∈ cs) (blank : isBlank c = true) : c = ' ' := by
  induction tidy with
  | last ink =>
    obtain rfl := List.mem_singleton.mp member
    rw [ink] at blank
    cases blank
  | next ink _ ih =>
    obtain rfl | later := List.mem_cons.mp member
    · rw [ink] at blank
      cases blank
    · exact ih later
  | gap ink _ ih =>
    obtain rfl | later := List.mem_cons.mp member
    · rw [ink] at blank
      cases blank
    · exact (List.mem_cons.mp later).elim id ih

/-- Behind a blank, tidy text goes on with ink. -/
theorem of_gap (tidy : Tidy (cs ++ c :: ds)) (blank : isBlank c = true) : c = ' ' ∧ Tidy ds := by
  have space : c = ' ' := tidy.eq_space (List.mem_append_right _ List.mem_cons_self) blank
  refine ⟨space, ?_⟩
  subst space
  have ink_ne {d : Char} (ink : isBlank d = false) : d ≠ ' ' := fun same => by
    rw [same, isBlank_space] at ink
    cases ink
  -- The induction follows the text before the blank; the text that is tidy may skip a blank of it.
  induction cs using List.twoStepInduction with
  | nil =>
    cases tidy with
    | last ink | next ink _ | gap ink _ => exact absurd rfl (ink_ne ink)
  | singleton d =>
    cases tidy with
    | next ink rest =>
      obtain ⟨_, _, same, shown⟩ := rest.head
      cases same
      exact absurd rfl (ink_ne shown)
    | gap ink rest => exact rest
  | cons_cons d e cs ih₂ ih₁ =>
    cases tidy with
    | next ink rest => exact ih₁ e rest
    | gap ink rest => exact ih₂ rest

theorem trimLeft_eq (tidy : Tidy cs) : trimLeft cs = cs := by
  obtain ⟨c, rest, rfl, ink⟩ := tidy.head
  simp [trimLeft, trimLeftBy, ink]

theorem reverse (tidy : Tidy cs) : Tidy cs.reverse := by
  induction tidy with
  | last ink => exact .last ink
  | next ink _ ih => simpa using ih.append (.last ink)
  | gap ink _ ih => simpa using ih.join (.last ink)

theorem trim_eq (tidy : Tidy cs) : trim cs = cs := by
  have right : cs.reverse.dropWhile isBlank = cs.reverse := tidy.reverse.trimLeft_eq
  have left : cs.dropWhile isBlank = cs := tidy.trimLeft_eq
  rw [trim, trimBy, trimLeftBy, left, trimRightBy, right, List.reverse_reverse]

theorem squeeze_eq (tidy : Tidy cs) (after : Bool) : squeeze after cs = cs := by
  induction tidy generalizing after with
  | last ink =>
    rw [squeeze_cons, if_neg (by simp [ink])]
    rfl
  | next ink _ ih => simp [squeeze_cons, ink, ih]
  | gap ink _ ih => simp [squeeze_cons, ink, isBlank_space, ih]

theorem collapse_eq (tidy : Tidy cs) : collapse cs = cs := by rw [collapse, tidy.squeeze_eq, tidy.trim_eq]

end Tidy

/-! ## Collapsed text -/

theorem squeeze_of_blank {cs : List Char} (blank : ∀ c ∈ cs, isBlank c = true) (after : Bool) :
    ∀ c ∈ squeeze after cs, isBlank c = true := by
  induction cs generalizing after with
  | nil => exact fun c member => nomatch member
  | cons c cs ih =>
    obtain ⟨here, later⟩ := List.forall_mem_cons.mp blank
    have rest := ih later true
    cases after <;> simp_all [squeeze_cons, isBlank_space]

theorem collapse_of_blank {cs : List Char} (blank : ∀ c ∈ cs, isBlank c = true) : collapse cs = [] := by
  have squeezed : (squeeze false cs).dropWhile isBlank = [] :=
    List.dropWhile_eq_nil_iff.mpr (squeeze_of_blank blank false)
  rw [collapse, trim, trimBy, trimLeftBy, squeezed]
  rfl

theorem trimRight_cons (c : Char) (cs : List Char) :
    trimRight (c :: cs) = if trimRight cs = [] ∧ isBlank c = true then [] else c :: trimRight cs := by
  simp only [trimRight, trimRightBy, List.reverse_cons, List.dropWhile_append, List.reverse_eq_nil_iff]
  by_cases blank : isBlank c = true <;> by_cases empty : cs.reverse.dropWhile isBlank = [] <;> simp [blank, empty]

/-- Text that starts with white space is squeezed to a blank and what is squeezed behind one. -/
theorem squeeze_false (cs : List Char) :
    squeeze false cs = squeeze true cs ∨ squeeze false cs = ' ' :: squeeze true cs := by
  cases cs with
  | nil => exact .inl rfl
  | cons c cs => by_cases blank : isBlank c = true <;> simp [squeeze_cons, blank]

/-- Behind white space, what is squeezed is empty or starts with ink. -/
theorem trimLeft_squeeze (cs : List Char) : trimLeft (squeeze true cs) = squeeze true cs := by
  induction cs with
  | nil => rfl
  | cons c cs ih => by_cases blank : isBlank c = true <;> simp_all [squeeze_cons, trimLeft, trimLeftBy]

theorem collapse_eq_trimRight (cs : List Char) : collapse cs = trimRight (squeeze true cs) := by
  have left : trimLeft (squeeze false cs) = squeeze true cs := by
    obtain same | behind := squeeze_false cs
    · rw [same, trimLeft_squeeze]
    · have dropped : trimLeft (' ' :: squeeze true cs) = trimLeft (squeeze true cs) :=
        List.dropWhile_cons_of_pos isBlank_space
      rw [behind, dropped, trimLeft_squeeze]
  rw [collapse, trim, trimBy, ← trimLeft, left, trimRight]

/-- Collapsing makes text tidy, unless all of it is white space. -/
theorem tidy_collapse {cs : List Char} (filled : collapse cs ≠ []) : Tidy (collapse cs) := by
  have squeezed (cs : List Char) : trimRight (squeeze true cs) = [] ∨ Tidy (trimRight (squeeze true cs)) := by
    induction cs with
    | nil => exact .inl rfl
    | cons c cs ih =>
      cases ink : isBlank c with
      | true => simpa [squeeze_cons, ink] using ih
      | false =>
        have kept (ds : List Char) : trimRight (c :: ds) = c :: trimRight ds := by
          rw [trimRight_cons, if_neg (by simp [ink])]
        have step : squeeze true (c :: cs) = c :: squeeze false cs := by simp [squeeze_cons, ink]
        rw [step, kept]
        right
        obtain same | behind := squeeze_false cs
        · rw [same]
          obtain empty | tidy := ih
          · rw [empty]
            exact .last ink
          · exact .next ink tidy
        · rw [behind, trimRight_cons]
          obtain empty | tidy := ih
          · rw [if_pos ⟨empty, isBlank_space⟩]
            exact .last ink
          · rw [if_neg (fun blank => tidy.ne_nil blank.1)]
            exact .gap ink tidy
  rw [collapse_eq_trimRight] at filled ⊢
  exact (squeezed cs).resolve_left filled

end Letterpress.Text
