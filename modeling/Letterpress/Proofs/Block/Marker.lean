import Letterpress.Proofs.Block.Row

/-!
# Markers

Where the marker of a line comes from. The start of a heading or of a list item sets a marker, and the next line that is
made takes it, also when that line's text stands behind the end of the heading or item.

* `Event.scenes`: the passages of a document, each with the headings and items around it and the one that marks it.
* `Event.Point.mem_placeAfter_iff`: which headings and items are around a point of nested events.
* `Flattening.lines_foldl`: the markers and the texts of the lines of a flattening under way.
* `markers_stay_iff`: when all markers stay in the headings and items that they belong to.
-/

namespace Letterpress

open Text Hypertext

/-- The element that a marker stands for. -/
def Marker.tag? : Marker → Option String
  | none => Option.none
  | heading level => some s!"h{level}"
  | bullet | number _ => some "li"

/-! ## Places -/

namespace Hypertext

/-- The elements that mark a line. -/
def markedTags : List String := "li" :: Role.headingTags

namespace Event

variable {e : Event} {es before after : List Event} {tag : String} {outer : List String} {n : Nat} {cs : List Char}

/-- The heading or the item that an event opens. -/
def marks? : Event → Option String
  | start tag => if tag ∈ markedTags then some tag else none
  | stop _ | text _ => none

/-- The headings and items that are open behind an event, given those that are before it, the innermost first. -/
def place (outer : List String) : Event → List String
  | start tag => if tag ∈ markedTags then tag :: outer else outer
  | stop tag => if tag ∈ markedTags then outer.erase tag else outer
  | text _ => outer

/-- The headings and items that are open behind events. -/
def placeAfter (outer : List String) (events : List Event) : List String := events.foldl place outer

@[simp] theorem placeAfter_nil (outer : List String) : placeAfter outer [] = outer := rfl

@[simp] theorem placeAfter_cons (outer : List String) (e : Event) (es : List Event) :
    placeAfter outer (e :: es) = placeAfter (e.place outer) es := rfl

@[simp] theorem placeAfter_append (outer : List String) (es fs : List Event) :
    placeAfter outer (es ++ fs) = placeAfter (placeAfter outer es) fs := List.foldl_append

/-- The point between two parts of a document lies in an element. -/
def Inside (tag : String) (before after : List Event) : Prop :=
  ∃ front inner rest back, before = front ++ start tag :: inner ∧ after = rest ++ stop tag :: back ∧
    Nested (inner ++ rest)

theorem place_stop_start (tag : String) (outer : List String) :
    (stop tag).place ((start tag).place outer) = outer := by
  simp only [place]
  split <;> simp

theorem place_void (isVoid : tag ∈ voidTags) (outer : List String) : (start tag).place outer = outer := by
  have plain : ∀ t ∈ voidTags, t ∉ markedTags := by decide
  rw [place, if_neg (plain tag isVoid)]

/-- Nested events leave open what was open before them. -/
theorem placeAfter_nested (nested : Nested es) (outer : List String) : placeAfter outer es = outer := by
  induction nested generalizing outer with
  | nil => rfl
  | text cs _ ih => exact ih outer
  | void isVoid _ ih => rw [placeAfter_cons, place_void isVoid, ih]
  | element tag _ _ ihWithin ihRest =>
    rw [placeAfter_cons, placeAfter_append, ihWithin, placeAfter_cons, place_stop_start, ihRest]

/-- What is before a point of nested events closes nothing that was open in front of them. -/
theorem Point.placeAfter_eq (point : Point before after) (outer : List String) :
    placeAfter outer before = placeAfter [] before ++ outer := by
  induction point generalizing outer with
  | front _ => rfl
  | text _ _ ih => exact ih outer
  | void isVoid _ ih => rw [placeAfter_cons, placeAfter_cons, place_void isVoid, place_void isVoid, ih]
  | within t _ _ ih =>
    have opened : (start t).place outer = (start t).place [] ++ outer := by
      rw [place, place]
      split <;> rfl
    rw [placeAfter_cons, placeAfter_cons, ih, ih ((start t).place []), opened, List.append_assoc]
  | @behind before after es t inner _ ih =>
    have closed (outer : List String) : placeAfter outer (start t :: (es ++ stop t :: before)) = placeAfter outer before := by
      rw [placeAfter_cons, placeAfter_append, placeAfter_nested inner, placeAfter_cons, place_stop_start]
    rw [closed, closed, ih]

/-- The headings and items that are open at a point of nested events are those that it lies in. -/
theorem Point.mem_placeAfter_iff (point : Point before after) (marked : tag ∈ markedTags) :
    tag ∈ placeAfter [] before ↔ Inside tag before after := by
  constructor
  · intro isOpen
    induction point with
    | front _ => cases isOpen
    | text _ _ ih =>
      obtain ⟨front, inner, more, back, rfl, found⟩ := ih isOpen
      exact ⟨_ :: front, inner, more, back, rfl, found⟩
    | void isVoid _ ih =>
      rw [placeAfter_cons, place_void isVoid] at isOpen
      obtain ⟨front, inner, more, back, rfl, found⟩ := ih isOpen
      exact ⟨_ :: front, inner, more, back, rfl, found⟩
    | @within before after rest t inner _ ih =>
      rw [placeAfter_cons, inner.placeAfter_eq] at isOpen
      obtain inside | own := List.mem_append.mp isOpen
      · obtain ⟨front, deep, more, back, rfl, rfl, found⟩ := ih inside
        exact ⟨start t :: front, deep, more, back ++ stop t :: rest, rfl, by simp, found⟩
      · rw [place] at own
        split at own
        · obtain rfl := List.mem_singleton.mp own
          exact ⟨[], before, after, rest, rfl, rfl, inner.nested⟩
        · cases own
    | @behind before after es t inner _ ih =>
      rw [placeAfter_cons, placeAfter_append, placeAfter_nested inner, placeAfter_cons, place_stop_start] at isOpen
      obtain ⟨front, inside, more, back, rfl, found⟩ := ih isOpen
      exact ⟨start t :: (es ++ stop t :: front), inside, more, back, by simp, found⟩
  · rintro ⟨front, inner, rest, back, rfl, -, nested⟩
    rw [placeAfter_append, placeAfter_cons, nested.point.placeAfter_eq, place, if_pos marked]
    exact List.mem_append_right _ List.mem_cons_self

/-! ## Scenes -/

/-- A passage of visible text, the headings and items around it, and the one that was opened last when no passage with
text came in between. -/
structure Scene where
  opened : Option String
  place : List String
  text : List Char
  deriving DecidableEq, Repr

/-- The passages of events, given what precedes them. -/
def scenes (opened : Option String) (outer : List String) (n : Nat) (cs : List Char) : List Event → List Scene
  | [] => [⟨opened, outer, cs⟩]
  | e :: es =>
    if e.isBoundary then
      ⟨opened, outer, cs⟩ ::
        scenes (e.marks?.or (if hasInk cs then none else opened)) (e.place outer) (e.depth n) [] es
    else scenes opened (e.place outer) (e.depth n) (cs ++ e.visible n) es

/-- The passages that have text. -/
def written (scenes : List Scene) : List Scene := scenes.filter fun s => hasInk s.text

/-- The next visible text is within an element, unless a heading or an item starts before it. -/
def Reaches (tag : String) (outer : List String) (n : Nat) (events : List Event) : Prop :=
  ∀ between e after, events = between ++ e :: after → (∀ f ∈ between, f.marks? = none) →
    hasInk (visibleText n between) = false → hasInk (e.visible (depthAfter n between)) = true →
      tag ∈ placeAfter outer between

/-- The first text behind the start of each heading and item is within it, unless another one starts before it. -/
def Settled (outer : List String) (n : Nat) (events : List Event) : Prop :=
  ∀ before e after tag, events = before ++ e :: after → e.marks? = some tag →
    Reaches tag (e.place (placeAfter outer before)) (e.depth (depthAfter n before)) after

theorem hasInk_nil : hasInk [] = false := rfl

theorem hasInk_append (cs ds : List Char) : hasInk (cs ++ ds) = (hasInk cs || hasInk ds) := by
  rw [hasInk, hasInk, hasInk, inked_append]
  cases inked cs <;> simp

theorem reaches_nil : Reaches tag outer n [] := by
  intro between e after split
  simp at split

theorem reaches_cons :
    Reaches tag outer n (e :: es) ↔
      (hasInk (e.visible n) = true → tag ∈ outer) ∧
        (e.marks? = none → hasInk (e.visible n) = false → Reaches tag (e.place outer) (e.depth n) es) := by
  constructor
  · intro reaches
    refine ⟨fun ink => reaches [] e es rfl (by simp) rfl ink, fun plain blank between f after split free unseen => ?_⟩
    refine reaches (e :: between) f after (by rw [split]; rfl) (List.forall_mem_cons.mpr ⟨plain, free⟩) ?_
    rw [visibleText, hasInk_append, blank, unseen]
    rfl
  · rintro ⟨here, later⟩ between f after split free unseen ink
    cases between with
    | nil =>
      cases split
      exact here ink
    | cons g between =>
      obtain ⟨rfl, rest⟩ := List.cons.inj split
      obtain ⟨plain, free⟩ := List.forall_mem_cons.mp free
      rw [visibleText, hasInk_append, Bool.or_eq_false_iff] at unseen
      exact later plain unseen.1 between f after rest free unseen.2 ink

theorem settled_nil : Settled outer n [] := by
  intro before e after tag split
  simp at split

theorem settled_cons :
    Settled outer n (e :: es) ↔
      (∀ t ∈ e.marks?, Reaches t (e.place outer) (e.depth n) es) ∧ Settled (e.place outer) (e.depth n) es := by
  constructor
  · intro settled
    exact ⟨fun t opens => settled [] e es t rfl opens,
      fun before f after t split opens => settled (e :: before) f after t (by rw [split]; rfl) opens⟩
  · rintro ⟨here, later⟩ before f after t split opens
    cases before with
    | nil =>
      cases split
      exact here t opens
    | cons g before =>
      obtain ⟨rfl, rest⟩ := List.cons.inj split
      exact later before f after t rest opens

/-- Inside a line no heading and no item starts or stops. -/
theorem unmarked_of_within (within : e.isBoundary = false) (outer : List String) :
    e.marks? = none ∧ e.place outer = outer := by
  have boundary : ∀ t ∈ markedTags, (start t).isBoundary = true ∧ (stop t).isBoundary = true := by decide
  cases e with
  | text cs => exact ⟨rfl, rfl⟩
  | start tag =>
    have plain : tag ∉ markedTags := fun marked => by simp [(boundary tag marked).1] at within
    simp [marks?, place, plain]
  | stop tag =>
    have plain : tag ∉ markedTags := fun marked => by simp [(boundary tag marked).2] at within
    simp [marks?, place, plain]

theorem visible_of_boundary (ends : e.isBoundary = true) (n : Nat) : e.visible n = [] := by
  cases e with
  | text cs => cases ends
  | start tag | stop tag => rfl

/-- The passages with text lie in what marks them if and only if what has been opened reaches the text to come. -/
theorem scenes_stay_iff (opened : Option String) (outer : List String) (n : Nat) (cs : List Char) (events : List Event) :
    (∀ s ∈ written (scenes opened outer n cs events), ∀ t ∈ s.opened, t ∈ s.place) ↔
      (∀ t ∈ opened, if hasInk cs then t ∈ outer else Reaches t outer n events) ∧ Settled outer n events := by
  induction events generalizing opened outer n cs with
  | nil =>
    cases ink : hasInk cs <;> simp [scenes, written, ink, reaches_nil, settled_nil]
  | cons e es ih =>
    cases ends : e.isBoundary with
    | true =>
      have unseen := visible_of_boundary ends n
      have later := ih (e.marks?.or (if hasInk cs then none else opened)) (e.place outer) (e.depth n) []
      simp only [hasInk_nil, Bool.false_eq_true, if_false] at later
      rw [scenes, if_pos ends, settled_cons]
      simp only [reaches_cons, unseen, hasInk_nil]
      cases ink : hasInk cs <;> cases marks : e.marks? <;> simp_all [written]
    | false =>
      obtain ⟨unmarked, same⟩ := unmarked_of_within ends outer
      rw [scenes, if_neg (by simp [ends]), ih, settled_cons, same, unmarked, hasInk_append]
      simp only [reaches_cons, same, unmarked]
      cases ink : hasInk cs <;> cases seen : hasInk (e.visible n) <;> simp

/-- The text of a passage stands where the headings and items around the passage are open. -/
theorem exists_of_mem_scenes {p : Scene} {opened : Option String} {events : List Event}
    (member : p ∈ scenes opened outer n cs events) (ink : hasInk p.text = true) :
    hasInk cs = true ∧ p.place = outer ∨
      ∃ before e after, events = before ++ e :: after ∧ hasInk (e.visible (depthAfter n before)) = true ∧
        p.place = placeAfter outer before := by
  induction events generalizing opened outer n cs with
  | nil =>
    obtain rfl := List.mem_singleton.mp member
    exact .inl ⟨ink, rfl⟩
  | cons e es ih =>
    rw [scenes] at member
    cases ends : e.isBoundary with
    | true =>
      rw [ends, if_pos rfl] at member
      obtain rfl | later := List.mem_cons.mp member
      · exact .inl ⟨ink, rfl⟩
      · obtain ⟨none_, -⟩ | ⟨before, f, after, rfl, seen, place⟩ := ih later
        · cases none_
        · exact .inr ⟨e :: before, f, after, rfl, seen, place⟩
    | false =>
      have same := (unmarked_of_within ends outer).2
      rw [ends, if_neg (by simp), same] at member
      obtain ⟨seen, place⟩ | ⟨before, f, after, rfl, seen, place⟩ := ih member
      · rw [hasInk_append, Bool.or_eq_true] at seen
        obtain earlier | here := seen
        · exact .inl ⟨earlier, place⟩
        · exact .inr ⟨[], e, es, rfl, here, place⟩
      · refine .inr ⟨e :: before, f, after, rfl, seen, ?_⟩
        rw [place, placeAfter_cons, same]

/-- In nested events, the headings and items around a passage are those that its text lies in. -/
theorem exists_inside {p : Scene} {events : List Event} (nested : Nested events)
    (member : p ∈ written (scenes none [] 0 [] events)) :
    ∃ before e after, events = before ++ e :: after ∧ hasInk (e.visible (depthAfter 0 before)) = true ∧
      ∀ t ∈ markedTags, t ∈ p.place ↔ Inside t before (e :: after) := by
  obtain ⟨member, ink⟩ := List.mem_filter.mp member
  obtain ⟨none_, -⟩ | ⟨before, e, after, rfl, seen, place⟩ := exists_of_mem_scenes member ink
  · cases none_
  · refine ⟨before, e, after, rfl, seen, fun t marked => ?_⟩
    rw [place]
    exact nested.point.mem_placeAfter_iff marked

theorem hasInk_eq (cs : List Char) : hasInk cs = !(collapse cs).isEmpty := by
  rw [hasInk]
  by_cases blank : ∀ c ∈ cs, isBlank c = true
  · have unseen : inked cs = [] := List.filter_eq_nil_iff.mpr fun c member => by simp [blank c member]
    rw [unseen, collapse_of_blank blank]
  · have seen : inked cs ≠ [] := fun none_ => blank fun c member => by
      simpa using List.filter_eq_nil_iff.mp none_ c member
    have shown : collapse cs ≠ [] := fun none_ => seen (by rw [← inked_collapse, none_]; rfl)
    rw [List.isEmpty_eq_false_iff.mpr seen, List.isEmpty_eq_false_iff.mpr shown]

end Event

end Hypertext

/-! ## What an event does to the marker -/

namespace Role

/-- The heading or the item that the start of an element opens. -/
def marks? : Role → Option String
  | item => some "li"
  | heading level => (Marker.heading level).tag?
  | hidden | lineBreak | cell | row | list _ | block | inline => none

theorem marks?_start (tag : String) : (Event.start tag).marks? = (ofTag tag).marks? := by
  by_cases known : tag ∈ tags
  · revert tag
    decide
  · have marked : ∀ t ∈ markedTags, t ∈ tags := by decide
    rw [ofTag_of_not_mem known, Event.marks?, if_neg fun is => known (marked tag is)]
    rfl

end Role

namespace Flattening

variable {s : Flattening} {e : Event}

theorem lines_flush (s : Flattening) :
    s.flush.lines = if Event.hasInk s.buffer then s.lines ++ [⟨s.marker, collapse s.buffer⟩] else s.lines := by
  rw [flush, Event.hasInk_eq]
  cases collapse s.buffer <;> rfl

theorem marker_flush (s : Flattening) : s.flush.marker = if Event.hasInk s.buffer then .none else s.marker := by
  rw [flush, Event.hasInk_eq]
  cases collapse s.buffer <;> rfl

theorem openItem_marker (s : Flattening) : s.openItem.marker.tag? = some "li" ∧ s.openItem.lines = s.lines := by
  unfold openItem
  split <;> exact ⟨rfl, rfl⟩

/-- Outside rows, a boundary ends the line and sets the marker of what it opens. -/
theorem step_marks (closed : s.cells = none) (ends : e.isBoundary = true) (noRow : e ≠ .start "tr") :
    (s.step e).lines = s.flush.lines ∧ (s.step e).marker.tag? = e.marks?.or s.flush.marker.tag? := by
  cases e with
  | text cs => cases ends
  | start tag =>
    have plain : Role.ofTag tag ≠ .row := fun row => noRow <| by
      have table := (Role.ofTag_table tag).1
      rw [row] at table
      rw [eq_of_beq table]
    rw [(Role.ofTag_spec tag).1] at ends
    rw [Role.marks?_start, step]
    generalize Role.ofTag tag = role at *
    cases role with
    | hidden | cell | inline => cases ends
    | row => exact absurd rfl plain
    | lineBreak | list | block => exact ⟨rfl, rfl⟩
    | heading level => exact ⟨rfl, rfl⟩
    | item => exact ⟨(openItem_marker _).2, (openItem_marker _).1⟩
  | stop tag =>
    rw [(Role.ofTag_spec tag).2.1] at ends
    rw [step]
    generalize Role.ofTag tag = role at *
    cases role with
    | hidden | cell | lineBreak | inline => cases ends
    | row => rw [stop, closed]; exact ⟨rfl, rfl⟩
    | list | item | heading | block => exact ⟨rfl, rfl⟩

/-- Outside rows, only boundaries cut. -/
theorem cut?_eq (noRow : e ≠ .start "tr") : e.cut? false = if e.isBoundary then some .line else none := by
  have cells : ∀ t ∈ Event.cellTags, (Event.start t).isBoundary = false ∧ (Event.stop t).isBoundary = false := by decide
  cases e with
  | text cs => rfl
  | start tag =>
    have other : tag ≠ "tr" := fun row => noRow (congrArg _ row)
    by_cases cell : tag ∈ Event.cellTags
    · simp [Event.cut?, other, cell, (cells tag cell).1]
    · simp [Event.cut?, other, cell]
  | stop tag =>
    by_cases row : tag = "tr"
    · rw [row]
      rfl
    · by_cases cell : tag ∈ Event.cellTags
      · simp [Event.cut?, row, cell, (cells tag cell).2]
      · simp [Event.cut?, row, cell]

theorem inRow_eq (noRow : e ≠ .start "tr") : e.inRow false = false := by
  cases e with
  | text cs | stop tag => rfl
  | start tag => simpa [Event.inRow] using noRow

/-- The markers and the texts of the lines of a flattening under way: of those that it has, and of those to come. -/
theorem lines_foldl {events : List Event} (closed : s.cells = none) (noRow : .start "tr" ∉ events)
    (outer : List String) :
    (events.foldl step s).flush.lines.map (fun l => (l.marker.tag?, l.body)) =
      s.lines.map (fun l => (l.marker.tag?, l.body)) ++
        (Event.written (Event.scenes s.marker.tag? outer s.hidden s.buffer events)).map
          fun p => (p.opened, collapse p.text) := by
  have ended (s : Flattening) (opened : Option String) (same : s.marker.tag? = opened) (place : List String) :
      s.flush.lines.map (fun l => (l.marker.tag?, l.body)) =
        s.lines.map (fun l => (l.marker.tag?, l.body)) ++
          (Event.written [⟨opened, place, s.buffer⟩]).map fun p => (p.opened, collapse p.text) := by
    rw [lines_flush, Event.written]
    cases ink : Event.hasInk s.buffer <;> simp [ink, same]
  induction events generalizing s outer with
  | nil => exact ended s _ rfl outer
  | cons e events ih =>
    have plain : e ≠ .start "tr" := fun row => noRow (row ▸ List.mem_cons_self)
    have later : .start "tr" ∉ events := fun row => noRow (List.mem_cons_of_mem _ row)
    have cuts : e.cut? s.cells.isSome = if e.isBoundary then some .line else none := by rw [closed]; exact cut?_eq plain
    rw [List.foldl_cons, Event.scenes]
    cases ends : e.isBoundary with
    | false =>
      rw [ends, if_neg (by simp)] at cuts
      rw [step_uncut cuts, if_neg (by simp)]
      exact ih (s := { s with buffer := s.buffer ++ e.visible s.hidden, hidden := e.depth s.hidden }) closed later _
    | true =>
      rw [ends, if_pos rfl] at cuts
      obtain ⟨⟨-, -, buffer, hidden⟩, row, depth⟩ := step_cut cuts
      obtain ⟨lines, marker⟩ := step_marks closed ends plain
      have outside : (s.step e).cells = none := by
        rw [closed, Option.isSome_none, inRow_eq plain] at row
        simpa using row
      have marks : (s.step e).marker.tag? =
          e.marks?.or (if Event.hasInk s.buffer then none else s.marker.tag?) := by
        rw [marker, marker_flush]
        split <;> rfl
      rw [ih outside later (e.place outer), lines, ended s _ rfl outer, marks, buffer, hidden, depth, if_pos rfl,
        List.append_assoc, ← List.map_append, Event.written, Event.written, Event.written, ← List.filter_append]
      rfl

end Flattening

/-! ## Markers of nested hypertext -/

namespace Hypertext.Event

variable {events : List Event}

/-- Each heading and item has visible text. -/
def Filled (events : List Event) : Prop :=
  ∀ before tag inner after, events = before ++ start tag :: (inner ++ stop tag :: after) → tag ∈ markedTags →
    Nested inner → hasInk (visibleText (depthAfter 0 before) inner) = true

theorem mem_placeAfter {tag : String} {outer : List String} (isOpen : tag ∈ outer) (runs : stop tag ∉ events) :
    tag ∈ placeAfter outer events := by
  induction events generalizing outer with
  | nil => exact isOpen
  | cons e es ih =>
    obtain ⟨other, later⟩ := not_or.mp (mt List.mem_cons.mpr runs)
    refine ih ?_ later
    cases e with
    | text cs => exact isOpen
    | start t =>
      rw [place]
      split
      · exact List.mem_cons_of_mem _ isOpen
      · exact isOpen
    | stop t =>
      rw [place]
      split
      · exact (List.mem_erase_of_ne fun same => other (congrArg stop same)).mpr isOpen
      · exact isOpen

theorem eq_start_of_marks {e : Event} {tag : String} (opens : e.marks? = some tag) :
    e = start tag ∧ tag ∈ markedTags := by
  cases e with
  | text cs | stop t => cases opens
  | start t =>
    rw [marks?] at opens
    split at opens
    · rename_i marked
      cases opens
      exact ⟨rfl, marked⟩
    · cases opens

/-- When headings and items nest and have text, all text that they mark is within them. -/
theorem settled_of_filled (nested : Nested events) (filled : Filled events) : Settled [] 0 events := by
  rintro before opening after tag rfl opens between e rest rfl free unseen ink
  obtain ⟨rfl, marked⟩ := eq_start_of_marks opens
  have apart : ∀ t ∈ markedTags, t ∉ voidTags ∧ skippedTags.contains t = false := by decide
  obtain ⟨noVoid, visible⟩ := apart tag marked
  have depth : (start tag).depth (depthAfter 0 before) = depthAfter 0 before := by
    rw [Event.depth, visible, if_neg (by simp)]
  rw [depth] at unseen
  obtain ⟨inner, more, split, within⟩ := nested.point.exists_stop noVoid
  have text : hasInk (visibleText (depthAfter 0 before) inner) = true :=
    filled before tag inner more (by rw [split]) marked within
  rw [place, if_pos marked]
  refine mem_placeAfter List.mem_cons_self fun stops => ?_
  obtain ⟨last, rfl, -⟩ | ⟨last, rfl, -⟩ := List.append_eq_append_iff.mp split
  · -- What stops between the start and the text has started there.
    have starts : start tag ∈ between := within.point.start_mem stops
    have opened := free _ starts
    rw [marks?, if_pos marked] at opened
    cases opened
  · -- The element has stopped before the text, but its own text comes first.
    rw [visibleText_append, hasInk_append, text] at unseen
    cases unseen

end Hypertext.Event

/-- A line belongs to a passage: it has its text, and the marker of a heading or an item that the text lies in, or none. -/
def Line.Stays (l : Line) (s : Event.Scene) : Prop := l.body = collapse s.text ∧ ∀ t ∈ l.marker.tag?, t ∈ s.place

theorem stays_iff {lines : List Line} {scenes : List Event.Scene}
    (same : lines.map (fun l => (l.marker.tag?, l.body)) = scenes.map fun s => (s.opened, collapse s.text)) :
    List.Forall₂ Line.Stays lines scenes ↔ ∀ s ∈ scenes, ∀ t ∈ s.opened, t ∈ s.place := by
  induction scenes generalizing lines with
  | nil =>
    rw [List.map_nil, List.map_eq_nil_iff] at same
    simp [same]
  | cons p scenes ih =>
    cases lines with
    | nil => cases same
    | cons l lines =>
      obtain ⟨here, later⟩ := List.cons.inj same
      obtain ⟨marker, body⟩ := Prod.mk.inj here
      rw [List.forall₂_cons, List.forall_mem_cons, ih later, Line.Stays, marker]
      exact and_congr_left fun _ => and_iff_right body

/-- Outside table rows, hypertext comes down to a line for each passage with text. All markers stay in the headings and
items that they belong to if and only if the first text behind the start of each is still within it, unless another one
starts before that text; so they do in nested hypertext whose headings and items all have text. -/
theorem markers_stay_iff {cs : List Char} {events : List Event} (read : Event.ofHypertext cs = .ok events)
    (noRow : .start "tr" ∉ events) :
    ∃ lines passages, Line.ofHypertext cs = .ok lines ∧ passages = Event.written (Event.scenes none [] 0 [] events) ∧
      lines.map Line.body = passages.map (fun p => collapse p.text) ∧
      (List.Forall₂ Line.Stays lines passages ↔ Event.Settled [] 0 events) ∧
      (Event.Nested events → Event.Filled events → List.Forall₂ Line.Stays lines passages) ∧
      (Event.Nested events → ∀ p ∈ passages, ∃ before e after, events = before ++ e :: after ∧
        Event.hasInk (e.visible (Event.depthAfter 0 before)) = true ∧
          ∀ t ∈ markedTags, t ∈ p.place ↔ Event.Inside t before (e :: after)) := by
  have look := Flattening.lines_foldl (s := {}) rfl noRow []
  have settled := Event.scenes_stay_iff none [] 0 [] events
  have unmarked : ∀ t ∈ (none : Option String), if Event.hasInk [] then t ∈ [] else Event.Reaches t [] 0 events := by
    simp
  have stay := (stays_iff look).trans (settled.trans (and_iff_right unmarked))
  refine ⟨Line.ofEvents events, _, ?_, rfl, ?_, stay, fun nested filled => stay.mpr (Event.settled_of_filled nested filled),
    fun nested p member => Event.exists_inside nested member⟩
  · rw [Line.ofHypertext, read]
    rfl
  · have bodies := congrArg (List.map Prod.snd) look
    rw [List.map_nil, List.nil_append, List.map_map, List.map_map] at bodies
    exact bodies

/-- A paragraph in an item, and text behind the item. -/
theorem markers_stay_iff_item :
    ∃ lines passages, Line.ofHypertext "<li><p>a</p>b</li>c".toList = .ok lines ∧
      passages = [⟨some "li", ["li"], ['a']⟩, ⟨none, ["li"], ['b']⟩, ⟨none, [], ['c']⟩] ∧
      List.Forall₂ Line.Stays lines passages := by
  have read : Event.ofHypertext "<li><p>a</p>b</li>c".toList =
      .ok [.start "li", .start "p", .text ['a'], .stop "p", .text ['b'], .stop "li", .text ['c']] := rfl
  obtain ⟨lines, passages, found, rfl, -, -, stay, -⟩ := markers_stay_iff read (by decide)
  refine ⟨lines, _, found, by decide +kernel, stay ?_ ?_⟩
  · exact .element "li" (.element "p" (.text _ .nil) (.text _ .nil)) (.text _ .nil)
  · intro before tag inner after split marked _
    have found : before = [] ∧ tag = "li" ∧ inner ++ .stop tag :: after =
          [.start "p", .text ['a'], .stop "p", .text ['b'], .stop "li", .text ['c']] ∨
        before = [.start "li"] ∧ tag = "p" ∧ inner ++ .stop tag :: after =
          [.text ['a'], .stop "p", .text ['b'], .stop "li", .text ['c']] := by
      simpa [List.cons_eq_append_iff] using split
    obtain ⟨rfl, rfl, ends⟩ | ⟨-, rfl, -⟩ := found
    · obtain ⟨rfl, -⟩ : inner = [.start "p", .text ['a'], .stop "p", .text ['b']] ∧ after = [.text ['c']] := by
        simpa [List.append_eq_cons_iff, List.cons_eq_append_iff] using ends
      rfl
    · simp [markedTags, Role.headingTags] at marked

/-- A heading without text marks the paragraph behind it. -/
theorem markers_leak :
    ∃ events lines, Event.ofHypertext "<h1></h1><p>a</p>".toList = .ok events ∧ Event.Nested events ∧
      Line.ofHypertext "<h1></h1><p>a</p>".toList = .ok lines ∧
      lines = [⟨.heading 1, ['a']⟩] ∧ ∀ before after, events = before ++ .text ['a'] :: after →
        ¬ Event.Inside "h1" before (.text ['a'] :: after) := by
  refine ⟨[.start "h1", .stop "h1", .start "p", .text ['a'], .stop "p"], [⟨.heading 1, ['a']⟩], rfl,
    .element "h1" .nil (.element "p" (.text ['a'] .nil) .nil), rfl, rfl, ?_⟩
  rintro before after split ⟨front, inner, rest, back, rfl, behind, -⟩
  -- The only text stands behind the end of the heading.
  obtain ⟨-, rfl⟩ : front ++ .start "h1" :: inner = [.start "h1", .stop "h1", .start "p"] ∧ after = [.stop "p"] := by
    simpa [List.cons_eq_append_iff, List.append_eq_cons_iff, and_assoc] using split
  simp [List.cons_eq_append_iff] at behind

end Letterpress
