import Letterpress.Proofs.Block.Passage

/-!
# Nested events

Events in which each element that starts also stops, within the element around it.

* `Event.Nested`: such events.
* `Event.Nested.levelAfter_eq`, `Event.Nested.depth_eq`: a nested stretch leaves as many elements of some tags open as
  there were, the hidden ones among them.
* `Event.Nested.point`: what a point of nested events can be.
* `Event.Point.levelAfter_eq`: what is before a point of nested events closes nothing that was open in front of them.
* `Event.Point.exists_stop`: the end of an element whose start is known.
* `Event.Point.start_mem`: what stops before a point has started there.
-/

namespace Letterpress.Hypertext.Event

/-- The elements that have no content and no end tag. -/
def voidTags : List String :=
  ["area", "base", "br", "col", "embed", "hr", "img", "input", "link", "meta", "param", "source", "track", "wbr"]

/-- Events of elements that lie within each other or apart. -/
inductive Nested : List Event → Prop
  | nil : Nested []
  | text {es : List Event} (cs : List Char) (rest : Nested es) : Nested (text cs :: es)
  | void {es : List Event} {tag : String} (isVoid : tag ∈ voidTags) (rest : Nested es) : Nested (start tag :: es)
  | element {inner es : List Event} (tag : String) (within : Nested inner) (rest : Nested es) :
      Nested (start tag :: (inner ++ stop tag :: es))

/-- A point of nested events: what is before it, and what is behind it. -/
inductive Point : List Event → List Event → Prop
  | front {es : List Event} (nested : Nested es) : Point [] es
  | text {before after : List Event} (cs : List Char) (rest : Point before after) : Point (text cs :: before) after
  | void {before after : List Event} {tag : String} (isVoid : tag ∈ voidTags) (rest : Point before after) :
      Point (start tag :: before) after
  | within {before after es : List Event} (tag : String) (inner : Point before after) (rest : Nested es) :
      Point (start tag :: before) (after ++ stop tag :: es)
  | behind {before after es : List Event} (tag : String) (inner : Nested es) (rest : Point before after) :
      Point (start tag :: (es ++ stop tag :: before)) after

variable {es fs inner before after : List Event} {tag : String} {tags : List String}

/-- How many elements of some tags are open behind an event, given how many are before it. -/
def level (tags : List String) (n : Nat) : Event → Nat
  | start tag => if tags.contains tag then n + 1 else n
  | stop tag => if tags.contains tag then n - 1 else n
  | text _ => n

/-- How many elements of some tags are open behind events. -/
def levelAfter (tags : List String) (n : Nat) (events : List Event) : Nat :=
  events.foldl (fun n e => e.level tags n) n

@[simp] theorem levelAfter_nil (n : Nat) : levelAfter tags n [] = n := rfl

@[simp] theorem levelAfter_cons (n : Nat) (e : Event) (es : List Event) :
    levelAfter tags n (e :: es) = levelAfter tags (e.level tags n) es := rfl

@[simp] theorem levelAfter_append (n : Nat) (es fs : List Event) :
    levelAfter tags n (es ++ fs) = levelAfter tags (levelAfter tags n es) fs := List.foldl_append

theorem level_stop_start (tag : String) (n : Nat) : (stop tag).level tags ((start tag).level tags n) = n := by
  simp only [level]
  split <;> simp

/-- How many hidden elements are open behind events. -/
def depthAfter (n : Nat) (events : List Event) : Nat := events.foldl (fun n e => e.depth n) n

@[simp] theorem depthAfter_nil (n : Nat) : depthAfter n [] = n := rfl

@[simp] theorem depthAfter_cons (n : Nat) (e : Event) (es : List Event) :
    depthAfter n (e :: es) = depthAfter (e.depth n) es := rfl

@[simp] theorem depthAfter_append (n : Nat) (es fs : List Event) :
    depthAfter n (es ++ fs) = depthAfter (depthAfter n es) fs := List.foldl_append

theorem visibleText_append (n : Nat) (es fs : List Event) :
    visibleText n (es ++ fs) = visibleText n es ++ visibleText (depthAfter n es) fs := by
  induction es generalizing n with
  | nil => rfl
  | cons e es ih => simp only [List.cons_append, visibleText, ih, depthAfter_cons, List.append_assoc]

namespace Nested

theorem levelAfter_eq (filled : ∀ t ∈ voidTags, tags.contains t = false) (nested : Nested es) (n : Nat) :
    levelAfter tags n es = n := by
  induction nested generalizing n with
  | nil => rfl
  | text cs _ ih => exact ih n
  | void isVoid _ ih =>
    rw [levelAfter_cons, level, filled _ isVoid]
    exact ih n
  | element tag _ _ ihWithin ihRest =>
    rw [levelAfter_cons, levelAfter_append, ihWithin, levelAfter_cons, level_stop_start, ihRest]

/-- No void element is hidden. -/
theorem depth_eq (nested : Nested es) (n : Nat) : depthAfter n es = n := by
  have same : (fun (n : Nat) (e : Event) => e.depth n) = fun n e => e.level skippedTags n := by
    funext n e
    cases e <;> rfl
  have levels : depthAfter n es = levelAfter skippedTags n es := congrArg (fun f => es.foldl f n) same
  rw [levels]
  exact nested.levelAfter_eq (by decide) n

/-- Where nested events are split, the first part ends in front of them, or within or behind one of their elements. -/
theorem point (nested : Nested (before ++ after)) : Point before after := by
  generalize whole : before ++ after = all at nested
  induction nested generalizing before after with
  | nil =>
    obtain ⟨rfl, rfl⟩ := List.append_eq_nil_iff.mp whole
    exact .front .nil
  | text cs rest ih =>
    cases before with
    | nil =>
      rw [show after = _ from whole]
      exact .front (.text cs rest)
    | cons e before =>
      obtain ⟨rfl, split⟩ := List.cons.inj whole
      exact .text cs (ih split)
  | void isVoid rest ih =>
    cases before with
    | nil =>
      rw [show after = _ from whole]
      exact .front (.void isVoid rest)
    | cons e before =>
      obtain ⟨rfl, split⟩ := List.cons.inj whole
      exact .void isVoid (ih split)
  | @element inner rest tag within nestedRest ihWithin ihRest =>
    cases before with
    | nil =>
      rw [show after = _ from whole]
      exact .front (.element tag within nestedRest)
    | cons e before =>
      obtain ⟨rfl, split⟩ := List.cons.inj whole
      obtain ⟨last, rfl, rfl⟩ | ⟨last, rfl, behind⟩ := List.append_eq_append_iff.mp split
      · exact .within tag (ihWithin rfl) nestedRest
      · cases last with
        | nil =>
          have ends : Point (start tag :: inner) ([] ++ stop tag :: rest) :=
            .within tag (ihWithin (List.append_nil inner)) nestedRest
          rw [List.append_nil, ← show stop tag :: rest = after from behind]
          exact ends
        | cons f last =>
          obtain ⟨rfl, tail⟩ := List.cons.inj behind
          exact .behind tag within (ihRest tail.symm)

/-- What stops in nested events has started there. -/
theorem start_mem (nested : Nested es) (stops : stop tag ∈ es) : start tag ∈ es := by
  induction nested with
  | nil => exact absurd stops List.not_mem_nil
  | text _ _ ih | void _ _ ih => exact List.mem_cons_of_mem _ (ih ((List.mem_cons.mp stops).resolve_left (by simp)))
  | element t _ _ ihWithin ihRest =>
    obtain inside | outside := List.mem_append.mp ((List.mem_cons.mp stops).resolve_left (by simp))
    · exact List.mem_cons_of_mem _ (List.mem_append_left _ (ihWithin inside))
    · obtain same | beyond := List.mem_cons.mp outside
      · cases same
        exact List.mem_cons_self
      · exact List.mem_cons_of_mem _ (List.mem_append_right _ (List.mem_cons_of_mem _ (ihRest beyond)))

end Nested

namespace Point

/-- The two sides of a point are nested together. -/
theorem nested (point : Point before after) : Nested (before ++ after) := by
  induction point with
  | front nested => exact nested
  | text cs _ ih => exact .text cs ih
  | void isVoid _ ih => exact .void isVoid ih
  | within tag _ rest ih => simpa using Nested.element tag ih rest
  | behind tag inner _ ih => simpa using Nested.element tag inner ih

/-- What is before a point of nested events closes nothing that was open in front of them. -/
theorem levelAfter_eq (filled : ∀ t ∈ voidTags, tags.contains t = false) (point : Point before after) (n : Nat) :
    levelAfter tags n before = levelAfter tags 0 before + n := by
  induction point generalizing n with
  | front _ => exact (Nat.zero_add n).symm
  | text _ _ ih => exact ih n
  | void isVoid _ ih =>
    rw [levelAfter_cons, levelAfter_cons, level, level, filled _ isVoid]
    exact ih n
  | within tag _ _ ih =>
    have opened : (start tag).level tags n = (start tag).level tags 0 + n := by
      simp only [level]
      split <;> omega
    rw [levelAfter_cons, levelAfter_cons, opened, ih, ih ((start tag).level tags 0), Nat.add_assoc]
  | @behind before after es tag inner _ ih =>
    have closed (n : Nat) : levelAfter tags n (start tag :: (es ++ stop tag :: before)) = levelAfter tags n before := by
      rw [levelAfter_cons, levelAfter_append, inner.levelAfter_eq filled, levelAfter_cons, level_stop_start]
    rw [closed, closed, ih]

/-- An element whose start is known stops, with nested events within. -/
theorem exists_stop (point : Point before (start tag :: after)) (filled : tag ∉ voidTags) :
    ∃ inner rest, after = inner ++ stop tag :: rest ∧ Nested inner := by
  generalize behind : start tag :: after = all at point
  induction point generalizing after with
  | front nested =>
    cases nested with
    | nil | text => cases behind
    | void isVoid _ =>
      cases behind
      exact absurd isVoid filled
    | element tag within _ =>
      cases behind
      exact ⟨_, _, rfl, within⟩
  | text _ _ ih | void _ _ ih | behind _ _ _ ih => exact ih behind
  | @within _ inside rest t _ _ ih =>
    cases inside with
    | nil => cases behind
    | cons e inside =>
      obtain ⟨rfl, rfl⟩ := List.cons.inj behind
      obtain ⟨inner, more, rfl, nested⟩ := ih rfl
      exact ⟨inner, more ++ stop t :: rest, by simp, nested⟩

/-- What stops before a point of nested events has started there. -/
theorem start_mem (point : Point before after) (stops : stop tag ∈ before) : start tag ∈ before := by
  induction point with
  | front _ => exact absurd stops List.not_mem_nil
  | text _ _ ih | void _ _ ih | within _ _ _ ih =>
    exact List.mem_cons_of_mem _ (ih ((List.mem_cons.mp stops).resolve_left (by simp)))
  | @behind before after es t inner _ ih =>
    have later : stop tag ∈ es ++ stop t :: before := (List.mem_cons.mp stops).resolve_left (by simp)
    obtain inside | outside := List.mem_append.mp later
    · exact List.mem_cons_of_mem _ (List.mem_append_left _ (inner.start_mem inside))
    · obtain same | beyond := List.mem_cons.mp outside
      · cases same
        exact List.mem_cons_self
      · exact List.mem_cons_of_mem _ (List.mem_append_right _ (List.mem_cons_of_mem _ (ih beyond)))

end Point

end Letterpress.Hypertext.Event
