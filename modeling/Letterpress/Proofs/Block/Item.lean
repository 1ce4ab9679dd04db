import Letterpress.Proofs.Block.Marker
import Mathlib.Data.List.Infix
import Mathlib.Data.Set.Card

/-!
# Items of lists

Where an item opens, it gets a marker. In a numbered list that is its number among the items of its own list, whatever
other lists have started and stopped between them.

* `Event.InList`, `Event.Innermost`: the lists that a point of a document lies in, and the innermost of them.
* `Event.ItemOf`: the items of a list that have opened before a point of it.
* `Event.Point.level_pos_iff`: a point lies in a list exactly if more lists have started before it than have stopped.
* `Flattening.lists_step`: what an event does to the open lists.
* `Flattening.Neutral`: events that leave no list of their own open.
* `Event.Nested.neutral`, `Event.Point.neutral`: nested events are like that, and so are those before a point in no list.
* `items_numbered`: the markers of items.
-/

namespace Letterpress

open Text Hypertext

namespace Hypertext.Event

variable {es before after inner rest : List Event} {tag : String}

/-! ## Lists around a point -/

/-- The elements that are lists. -/
def listTags : List String := ["ul", "ol"]

/-- The point between two parts of a document lies in a list. -/
def InList (before after : List Event) : Prop := ∃ tag ∈ listTags, Inside tag before after

/-- The innermost list that the point between two parts of a document lies in, by its tag and by what stands in it
before the point and behind the point. -/
structure Innermost (tag : String) (inner rest before after : List Event) : Prop where
  isList : tag ∈ listTags
  starts : ∃ front, before = front ++ start tag :: inner
  stops : ∃ back, after = rest ++ stop tag :: back
  nested : Nested (inner ++ rest)
  last : ¬InList inner rest

/-- What stands in a list in front of an item of its own, one that opens before a point of the list and in no other list
within it. -/
def ItemOf (inner rest earlier : List Event) : Prop :=
  ∃ between, inner = earlier ++ start "li" :: between ∧ ¬InList earlier (start "li" :: (between ++ rest))

theorem filled_listTags : ∀ t ∈ voidTags, listTags.contains t = false := by decide

theorem notMem_listTags (isVoid : tag ∈ voidTags) : tag ∉ listTags := by simpa using filled_listTags tag isVoid

theorem Inside.append_left (es : List Event) (inside : Inside tag before after) : Inside tag (es ++ before) after := by
  obtain ⟨front, inner, rest, back, rfl, same, nested⟩ := inside
  exact ⟨es ++ front, inner, rest, back, by simp, same, nested⟩

theorem Inside.append_right (es : List Event) (inside : Inside tag before after) : Inside tag before (after ++ es) := by
  obtain ⟨front, inner, rest, back, same, rfl, nested⟩ := inside
  exact ⟨front, inner, rest, back ++ es, same, by simp, nested⟩

/-- Behind an element of nested events as many lists are open as in front of it. -/
theorem level_behind (nested : Nested es) (n : Nat) :
    levelAfter listTags n (start tag :: (es ++ stop tag :: before)) = levelAfter listTags n before := by
  rw [levelAfter_cons, levelAfter_append, nested.levelAfter_eq filled_listTags, levelAfter_cons, level_stop_start]

theorem level_list (isList : tag ∈ listTags) (n : Nat) : (start tag).level listTags n = n + 1 := by
  simp [level, isList]

theorem level_other (other : tag ∉ listTags) (n : Nat) : (start tag).level listTags n = n := by
  simp [level, other]

/-- A point of nested events lies in a list if and only if one is open there. -/
theorem Point.level_pos_iff (point : Point before after) : 0 < levelAfter listTags 0 before ↔ InList before after := by
  constructor
  · intro isOpen
    induction point with
    | front _ => exact absurd isOpen (Nat.lt_irrefl 0)
    | text _ _ ih =>
      obtain ⟨t, isList, inside⟩ := ih isOpen
      exact ⟨t, isList, inside.append_left [_]⟩
    | @void _ _ tag isVoid _ ih =>
      rw [levelAfter_cons, level_other (notMem_listTags isVoid)] at isOpen
      obtain ⟨t, isList, inside⟩ := ih isOpen
      exact ⟨t, isList, inside.append_left [_]⟩
    | @within before after es tag inner _ ih =>
      by_cases isList : tag ∈ listTags
      · exact ⟨tag, isList, [], before, after, es, rfl, rfl, inner.nested⟩
      · rw [levelAfter_cons, level_other isList] at isOpen
        obtain ⟨t, isList, inside⟩ := ih isOpen
        exact ⟨t, isList, (inside.append_left [_]).append_right _⟩
    | @behind before after es tag nested _ ih =>
      rw [level_behind nested] at isOpen
      obtain ⟨t, isList, inside⟩ := ih isOpen
      exact ⟨t, isList, by simpa using inside.append_left (start tag :: (es ++ [stop tag]))⟩
  · rintro ⟨t, isList, front, inner, rest, back, rfl, -, nested⟩
    rw [levelAfter_append, levelAfter_cons, level_list isList, nested.point.levelAfter_eq filled_listTags]
    omega

theorem Point.level_eq_zero_iff (point : Point before after) : levelAfter listTags 0 before = 0 ↔ ¬InList before after := by
  rw [← point.level_pos_iff, Nat.pos_iff_ne_zero, not_not]

theorem Innermost.append_left (es : List Event) (innermost : Innermost tag inner rest before after) :
    Innermost tag inner rest (es ++ before) after := by
  obtain ⟨isList, ⟨front, rfl⟩, stops, nested, last⟩ := innermost
  exact ⟨isList, ⟨es ++ front, by simp⟩, stops, nested, last⟩

theorem Innermost.append_right (es : List Event) (innermost : Innermost tag inner rest before after) :
    Innermost tag inner rest before (after ++ es) := by
  obtain ⟨isList, starts, ⟨back, rfl⟩, nested, last⟩ := innermost
  exact ⟨isList, starts, ⟨back ++ es, by simp⟩, nested, last⟩

/-- A point that lies in lists lies in an innermost one. -/
theorem Point.exists_innermost (point : Point before after) (inside : InList before after) :
    ∃ tag inner rest, Innermost tag inner rest before after := by
  rw [← point.level_pos_iff] at inside
  induction point with
  | front _ => exact absurd inside (Nat.lt_irrefl 0)
  | text cs _ ih =>
    obtain ⟨t, inner, rest, innermost⟩ := ih inside
    exact ⟨t, inner, rest, innermost.append_left [.text cs]⟩
  | @void _ _ tag isVoid _ ih =>
    rw [levelAfter_cons, level_other (notMem_listTags isVoid)] at inside
    obtain ⟨t, inner, rest, innermost⟩ := ih inside
    exact ⟨t, inner, rest, innermost.append_left [start tag]⟩
  | @within before after es tag point _ ih =>
    by_cases deeper : 0 < levelAfter listTags 0 before
    · obtain ⟨t, inner, rest, innermost⟩ := ih deeper
      exact ⟨t, inner, rest, (innermost.append_left [start tag]).append_right _⟩
    · have isList : tag ∈ listTags := by
        by_contra other
        rw [levelAfter_cons, level_other other] at inside
        exact deeper inside
      exact ⟨tag, before, after, isList, ⟨[], rfl⟩, ⟨es, rfl⟩, point.nested, mt point.level_pos_iff.mpr deeper⟩
  | @behind before after es tag nested _ ih =>
    rw [level_behind nested] at inside
    obtain ⟨t, inner, rest, innermost⟩ := ih inside
    exact ⟨t, inner, rest, by simpa using innermost.append_left (start tag :: (es ++ [stop tag]))⟩

/-! ## Counting items -/

/-- How many items open where no list is open, given how many lists are open in front of the events. -/
def ownItems (n : Nat) : List Event → Nat
  | [] => 0
  | e :: es => (if n = 0 ∧ e = start "li" then 1 else 0) + ownItems (e.level listTags n) es

theorem ownItems_append (n : Nat) (es fs : List Event) :
    ownItems n (es ++ fs) = ownItems n es + ownItems (levelAfter listTags n es) fs := by
  induction es generalizing n with
  | nil => exact (Nat.zero_add _).symm
  | cons e es ih => rw [List.cons_append, ownItems, ownItems, ih, levelAfter_cons, Nat.add_assoc]

/-- The items of nested events within a list are not those of what is around the list. -/
theorem ownItems_succ (nested : Nested es) (n : Nat) : ownItems (n + 1) es = 0 := by
  induction nested generalizing n with
  | nil => rfl
  | text _ _ ih => exact (Nat.zero_add _).trans (ih n)
  | @void _ tag isVoid _ ih =>
    rw [ownItems, level_other (notMem_listTags isVoid), ih, if_neg (by simp)]
  | @element inner es tag within _ ihWithin ihRest =>
    have inside : ownItems ((start tag).level listTags (n + 1)) inner = 0 := by
      rw [level]
      split
      · exact ihWithin (n + 1)
      · exact ihWithin n
    rw [ownItems, ownItems_append, within.levelAfter_eq filled_listTags, ownItems, level_stop_start, ihRest, inside,
      if_neg (by simp), if_neg (by simp)]

/-- What stands in front of the items that open where no list is open. -/
def beforeItems (n : Nat) (es : List Event) : Set (List Event) :=
  {a | ∃ b, es = a ++ start "li" :: b ∧ levelAfter listTags n a = 0}

theorem finite_beforeItems (n : Nat) (es : List Event) : (beforeItems n es).Finite :=
  (List.finite_toSet es.inits).subset fun _ ⟨b, same, _⟩ => (List.mem_inits ..).mpr ⟨start "li" :: b, same.symm⟩

theorem beforeItems_cons (n : Nat) (e : Event) (es : List Event) :
    beforeItems n (e :: es) =
      {a | a = [] ∧ n = 0 ∧ e = start "li"} ∪ List.cons e '' beforeItems (e.level listTags n) es := by
  ext a
  cases a with
  | nil => simp [beforeItems, and_comm]
  | cons f a =>
    constructor
    · rintro ⟨b, same, outside⟩
      obtain ⟨rfl, rfl⟩ := List.cons.inj same
      exact .inr ⟨a, ⟨b, rfl, outside⟩, rfl⟩
    · rintro (⟨none_, -⟩ | ⟨_, ⟨b, rfl, outside⟩, same⟩)
      · cases none_
      · cases same
        exact ⟨b, rfl, outside⟩

theorem ncard_beforeItems (n : Nat) (es : List Event) : (beforeItems n es).ncard = ownItems n es := by
  induction es generalizing n with
  | nil => simp [beforeItems, ownItems]
  | cons e es ih =>
    have first : {a : List Event | a = [] ∧ n = 0 ∧ e = start "li"}.ncard = if n = 0 ∧ e = start "li" then 1 else 0 := by
      split
      · rename_i here
        simp [here]
      · rename_i other
        have none_ : {a : List Event | a = [] ∧ n = 0 ∧ e = start "li"} = ∅ :=
          Set.eq_empty_iff_forall_notMem.mpr fun _ mem => other mem.2
        rw [none_, Set.ncard_empty]
    have finite : {a : List Event | a = [] ∧ n = 0 ∧ e = start "li"}.Finite :=
      (Set.finite_singleton []).subset fun a here => here.1
    have apart : Disjoint {a : List Event | a = [] ∧ n = 0 ∧ e = start "li"}
        (List.cons e '' beforeItems (e.level listTags n) es) := by
      refine Set.disjoint_left.mpr ?_
      rintro a ⟨rfl, -⟩ ⟨_, -, same⟩
      cases same
    rw [beforeItems_cons, Set.ncard_union_eq apart finite ((finite_beforeItems _ es).image _), first,
      Set.ncard_image_of_injective _ List.cons_injective, ih, ownItems]

/-- The items of a list before a point of it are those that open before the point where no list within it is open. -/
theorem ncard_itemOf (nested : Nested (inner ++ rest)) : {a | ItemOf inner rest a}.ncard = ownItems 0 inner := by
  rw [← ncard_beforeItems]
  congr 1
  ext a
  refine exists_congr fun b => and_congr_right fun same => ?_
  rw [same, List.append_assoc, List.cons_append] at nested
  exact nested.point.level_eq_zero_iff.symm

end Hypertext.Event

/-! ## What events do to the open lists -/

namespace Role

/-- The tags of lists and of items. -/
theorem ofTag_list (tag : String) :
    (∀ o, ofTag tag = list o ↔ tag ∈ Event.listTags ∧ o = (tag == "ol")) ∧ (ofTag tag = item ↔ tag = "li") := by
  by_cases known : tag ∈ tags
  · revert tag
    decide
  · have others : ∀ t ∈ "li" :: Event.listTags, t ∈ tags := by decide
    have noList : tag ∉ Event.listTags := fun isList => known (others tag (List.mem_cons_of_mem _ isList))
    have noItem : tag ≠ "li" := fun isItem => known (isItem ▸ others "li" List.mem_cons_self)
    rw [ofTag_of_not_mem known]
    simp [noList, noItem]

end Role

namespace Flattening

open Event

variable {s : Flattening} {es before after : List Event}

/-- The open lists when the innermost has some more items. Only numbered ones are counted. -/
def raise (n : Nat) : List OpenList → List OpenList
  | ⟨true, m⟩ :: outer => ⟨true, m + n⟩ :: outer
  | lists => lists

/-- The open lists behind an event. -/
def track (lists : List OpenList) : Event → List OpenList
  | .start tag =>
    if tag ∈ listTags then ⟨tag == "ol", 0⟩ :: lists else if tag = "li" then raise 1 lists else lists
  | .stop tag => if tag ∈ listTags then lists.tail else lists
  | .text _ => lists

@[simp] theorem lists_flush (s : Flattening) : s.flush.lists = s.lists := by
  obtain ⟨lines, marker, flushed⟩ := s.flush_eq
  rw [flushed]

theorem lists_endCell (s : Flattening) : s.endCell.lists = s.lists := by
  rw [endCell]
  split <;> rfl

theorem lists_openItem (s : Flattening) : s.openItem.lists = raise 1 s.lists := by
  rw [openItem]
  generalize s.lists = lists
  rcases lists with _ | ⟨⟨_ | _, n⟩, outer⟩ <;> rfl

theorem lists_start (s : Flattening) (role : Role) :
    (s.start role).lists =
      match role with
      | .list o => ⟨o, 0⟩ :: s.lists
      | .item => raise 1 s.lists
      | _ => s.lists := by
  cases role with
  | hidden | inline | list => rfl
  | cell => exact lists_endCell s
  | item =>
    rw [start, lists_openItem, lists_flush]
  | lineBreak | row | heading | block => exact lists_flush s

theorem lists_stop (s : Flattening) (role : Role) :
    (s.stop role).lists =
      match role with
      | .list _ => s.lists.tail
      | _ => s.lists := by
  cases role with
  | hidden | inline | lineBreak | list => rfl
  | cell => exact lists_endCell s
  | row =>
    rw [stop]
    split <;> exact lists_flush _
  | item | heading | block => exact lists_flush s

theorem lists_step (s : Flattening) (e : Event) : (s.step e).lists = track s.lists e := by
  cases e with
  | text cs =>
    rw [step]
    split <;> rfl
  | start tag =>
    obtain ⟨list, item⟩ := Role.ofTag_list tag
    rw [step, lists_start, track]
    split
    · rename_i o role
      obtain ⟨isList, rfl⟩ := (list o).mp role
      rw [if_pos isList]
    · rename_i role
      have isItem := item.mp role
      have other : tag ∉ listTags := isItem ▸ by decide
      rw [if_neg other, if_pos isItem]
    · rename_i noList noItem
      rw [if_neg fun isList => noList _ ((list _).mpr ⟨isList, rfl⟩), if_neg fun isItem => noItem (item.mpr isItem)]
  | stop tag =>
    have list := (Role.ofTag_list tag).1
    rw [step, lists_stop, track]
    split
    · rename_i o role
      rw [if_pos ((list o).mp role).1]
    · rename_i noList
      rw [if_neg fun isList => noList _ ((list _).mpr ⟨isList, rfl⟩)]

theorem lists_foldl (s : Flattening) (events : List Event) :
    (events.foldl step s).lists = events.foldl track s.lists := by
  induction events generalizing s with
  | nil => rfl
  | cons e events ih => rw [List.foldl_cons, List.foldl_cons, ih, lists_step]

/-! ## Events that leave no list open -/

@[simp] theorem raise_zero (lists : List OpenList) : raise 0 lists = lists := by
  rcases lists with _ | ⟨⟨_ | _, m⟩, outer⟩ <;> rfl

@[simp] theorem raise_raise (m n : Nat) (lists : List OpenList) : raise n (raise m lists) = raise (m + n) lists := by
  rcases lists with _ | ⟨⟨_ | _, k⟩, outer⟩
  · rfl
  · rfl
  · simp only [raise, Nat.add_assoc]

@[simp] theorem tail_raise (n : Nat) (lists : List OpenList) : (raise n lists).tail = lists.tail := by
  rcases lists with _ | ⟨⟨_ | _, m⟩, outer⟩ <;> rfl

/-- Events that leave none of their own lists open. All that they do to the lists around them is that the innermost has
their own items too. -/
structure Neutral (es : List Event) : Prop where
  level : levelAfter listTags 0 es = 0
  lists : ∀ lists, es.foldl track lists = raise (ownItems 0 es) lists

namespace Neutral

variable {es fs : List Event} {tag : String}

theorem nil : Neutral [] := ⟨rfl, fun lists => (raise_zero lists).symm⟩

theorem append (first : Neutral es) (second : Neutral fs) : Neutral (es ++ fs) where
  level := by rw [levelAfter_append, first.level, second.level]
  lists lists := by
    rw [List.foldl_append, first.lists, second.lists, raise_raise, ownItems_append, first.level]

theorem text (cs : List Char) : Neutral [.text cs] := ⟨rfl, fun lists => (raise_zero lists).symm⟩

theorem start (other : tag ∉ listTags) : Neutral [.start tag] where
  level := level_other other 0
  lists lists := by
    rw [List.foldl_cons, List.foldl_nil, track, if_neg other]
    by_cases isItem : tag = "li" <;> simp [isItem, ownItems]

theorem stop (other : tag ∉ listTags) : Neutral [.stop tag] where
  level := by simp [Event.level, other]
  lists lists := by simp [track, other, ownItems]

/-- The items of a list that has stopped do not count for the lists around it. -/
theorem list (isList : tag ∈ listTags) (nested : Nested es) (within : Neutral es) :
    Neutral (.start tag :: (es ++ [.stop tag])) where
  level := level_behind nested 0
  lists lists := by
    have plain : tag ≠ "li" := fun isItem => absurd (isItem ▸ isList) (by decide)
    have none_ : ownItems 0 (.start tag :: (es ++ [.stop tag])) = 0 := by
      rw [ownItems, level_list isList, ownItems_append, ownItems_succ nested]
      simp [ownItems, plain]
    rw [List.foldl_cons, List.foldl_append, within.lists, List.foldl_cons, List.foldl_nil, track, track, if_pos isList,
      if_pos isList, tail_raise, none_, raise_zero, List.tail_cons]

theorem element (tag : String) (nested : Nested es) (within : Neutral es) :
    Neutral (.start tag :: (es ++ [.stop tag])) := by
  by_cases isList : tag ∈ listTags
  · exact list isList nested within
  · exact (start isList).append (within.append (stop isList))

end Neutral

end Flattening

namespace Hypertext.Event

open Flattening

variable {es before after : List Event}

theorem Nested.neutral (nested : Nested es) : Neutral es := by
  induction nested with
  | nil => exact .nil
  | text cs _ ih => exact (Neutral.text cs).append ih
  | @void _ tag isVoid _ ih =>
    exact (Neutral.start (notMem_listTags isVoid)).append ih
  | element tag within _ ihWithin ihRest => simpa using (Neutral.element tag within ihWithin).append ihRest

theorem Point.neutral (point : Point before after) (outside : ¬InList before after) : Neutral before := by
  rw [← point.level_eq_zero_iff] at outside
  induction point with
  | front _ => exact .nil
  | text cs _ ih => exact (Neutral.text cs).append (ih outside)
  | @void _ _ tag isVoid _ ih =>
    have other := notMem_listTags isVoid
    rw [levelAfter_cons, level_other other] at outside
    exact (Neutral.start other).append (ih outside)
  | within tag point _ ih =>
    have other : tag ∉ listTags := fun isList => by
      rw [levelAfter_cons, level_list isList, point.levelAfter_eq filled_listTags] at outside
      cases outside
    rw [levelAfter_cons, level_other other] at outside
    exact (Neutral.start other).append (ih outside)
  | behind tag nested _ ih =>
    rw [level_behind nested] at outside
    simpa using (Neutral.element tag nested nested.neutral).append (ih outside)

end Hypertext.Event

/-! ## The markers of items -/

open Flattening Event

variable {before after : List Event}

theorem marker_item (s : Flattening) :
    (s.step (.start "li")).marker =
      match s.lists with
      | ⟨true, n⟩ :: _ => .number (n + 1)
      | _ => .bullet := by
  have opened : s.step (.start "li") = s.flush.openItem := rfl
  rw [opened, openItem, lists_flush]
  generalize s.lists = lists
  rcases lists with _ | ⟨⟨_ | _, n⟩, outer⟩ <;> rfl

/-- In nested hypertext, the marker that is set where an item opens is a bullet where there is no list around the item,
and else it depends on the innermost one. If that is not numbered, the marker is a bullet too. If it is, the marker is
the number of the item in it: one more than the items of its own that have opened before. -/
theorem items_numbered (nested : Nested (before ++ Event.start "li" :: after)) :
    let marker := ((before ++ [Event.start "li"]).foldl Flattening.step {}).marker
    (¬InList before (Event.start "li" :: after) ∧ marker.text = ['-', ' '] ∨
      ∃ tag inner rest, Innermost tag inner rest before (Event.start "li" :: after)) ∧
    ∀ tag inner rest, Innermost tag inner rest before (Event.start "li" :: after) →
      marker.text =
        if tag = "ol" then Nat.toDigits 10 ({a | ItemOf inner rest a}.ncard + 1) ++ ['.', ' '] else ['-', ' '] := by
  intro marker
  have point := nested.point
  have last : marker = (Flattening.step (before.foldl Flattening.step {}) (Event.start "li")).marker :=
    congrArg Flattening.marker (List.foldl_concat ..)
  rw [marker_item, lists_foldl] at last
  constructor
  · by_cases inside : InList before (Event.start "li" :: after)
    · exact .inr (point.exists_innermost inside)
    · rw [(point.neutral inside).lists] at last
      exact .inl ⟨inside, congrArg Marker.text last⟩
  · rintro tag inner rest ⟨isList, ⟨front, rfl⟩, -, within, outside⟩
    have counted := (within.point.neutral outside).lists
    rw [List.foldl_append, List.foldl_cons, track, if_pos isList, counted] at last
    rw [last, ncard_itemOf within]
    by_cases numbered : tag = "ol"
    · simp [numbered, raise, Marker.text, Binary64.digits]
    · simp [numbered, raise, Marker.text]

/-- A second item behind a list with an item of its own and a paragraph. -/
theorem items_numbered_second :
    let before : List Event := [.start "ol", .start "li", .text ['a'], .start "ul", .start "li", .stop "li", .stop "ul",
      .stop "li", .start "p", .stop "p"]
    ((before ++ [Event.start "li"]).foldl Flattening.step {}).marker.text = ['2', '.', ' '] := by
  intro before
  have item : Nested [.start "li", .text ['b'], .stop "li"] := .element "li" (.text _ .nil) .nil
  have inner : Nested ([.start "li", .text ['a'], .start "ul", .start "li", .stop "li", .stop "ul", .stop "li",
      .start "p", .stop "p"] ++ [.start "li", .text ['b'], .stop "li"]) :=
    .element "li" (.text _ (.element "ul" (.element "li" .nil .nil) .nil)) (.element "p" .nil item)
  have nested : Nested (before ++ Event.start "li" :: [.text ['b'], .stop "li", .stop "ol"]) := .element "ol" inner .nil
  have innermost : Innermost "ol" [.start "li", .text ['a'], .start "ul", .start "li", .stop "li", .stop "ul", .stop "li",
      .start "p", .stop "p"] [.start "li", .text ['b'], .stop "li"] before
      (Event.start "li" :: [.text ['b'], .stop "li", .stop "ol"]) :=
    ⟨by decide, ⟨[], rfl⟩, ⟨[], rfl⟩, inner, inner.point.level_eq_zero_iff.mp (by decide)⟩
  rw [(items_numbered nested).2 _ _ _ innermost, ncard_itemOf inner]
  decide

end Letterpress
