import Letterpress.Proofs.Hypertext.Nesting
import Letterpress.Proofs.Text.Tidy
import Mathlib.Data.List.Nodup
import Mathlib.Data.List.Perm.Subperm

/-!
# Rows

What becomes of text in tables. A row gathers the text of its cells for one line, but what ends a line within a cell
does not wait for the row, text behind the last cell is dropped with the row, and a row within a row takes its place.

* `Event.strips`: the visible text, cut where a line ends and where a cell or a row starts or stops.
* `Cut.layout`: the lines, as the strips that they are made of.
* `Flattening.bodies_foldl_strips`: the lines of a flattening under way.
* `Cut.whole_iff`: when strips stay in their order and none is dropped.
* `Flattening.bodies_row`: a row of cells with inline text is one line.
* `tables_kept_iff`: the lines of hypertext with tables, and when they keep all text in its order.
-/

namespace Letterpress

open Text Hypertext

/-! ## Strips and their layout -/

namespace Hypertext

/-- What ends a strip of text. -/
inductive Cut where
  /-- the end of a line -/
  | line
  /-- the start or the stop of a cell in an open row -/
  | cell
  /-- the start of a row -/
  | row
  /-- the stop of the open row -/
  | rowEnd
  deriving DecidableEq, Repr

namespace Cut

variable {α β : Type}

/-- The lines that are made when a strip is cut, given the cells that the open row has gathered. -/
def made (held : List α) (a : α) : Cut → List (List α)
  | line | row => [[a]]
  | cell => []
  | rowEnd => [held]

/-- The cells that the open row has gathered behind a cut. -/
def gathered (held : List α) (a : α) : Cut → List α
  | line => held
  | cell => held ++ [a]
  | row | rowEnd => []

/-- The lines of strips, each as the strips that it is made of. -/
def layout (held : List α) : List (α × Cut) → List (List α)
  | [] => []
  | (a, cut) :: rest => cut.made held a ++ layout (cut.gathered held a) rest

/-- The open row goes on to its end without a line of its own, except for blank ones. -/
def Finishes (ink : α → Bool) (xs : List (α × Cut)) : Prop :=
  ∃ within last behind, xs = within ++ (last, rowEnd) :: behind ∧
    ∀ x ∈ within, x.2 = cell ∨ x.2 = line ∧ ink x.1 = false

/-- No strip with text is dropped, and none is overtaken: none stands between the last cell of a row and its end, and a
row that has gathered one finishes. -/
def Sequential (ink : α → Bool) (xs : List (α × Cut)) : Prop :=
  ∀ before a cut after, xs = before ++ (a, cut) :: after → ink a = true →
    cut ≠ rowEnd ∧ (cut = cell → Finishes ink after)

end Cut

namespace Event

def cellTags : List String := ["td", "th"]

/-- The cut that an event makes, given whether a row is open. -/
def cut? (inRow : Bool) : Event → Option Cut
  | start tag =>
    if tag == "tr" then some .row
    else if cellTags.contains tag then if inRow then some .cell else none
    else if (start tag).isBoundary then some .line else none
  | stop tag =>
    if tag == "tr" then some (if inRow then .rowEnd else .line)
    else if cellTags.contains tag then if inRow then some .cell else none
    else if (stop tag).isBoundary then some .line else none
  | text _ => none

/-- Whether a row is open behind an event, given whether one is before it. -/
def inRow (before : Bool) : Event → Bool
  | start tag => before || tag == "tr"
  | stop tag => before && tag != "tr"
  | text _ => before

/-- The visible text of events, cut into strips, given the text that precedes them. -/
def strips (open_ : Bool) (n : Nat) (cs : List Char) : List Event → List (List Char × Cut)
  | [] => [(cs, .line)]
  | e :: es =>
    match e.cut? open_ with
    | none => strips open_ (e.depth n) (cs ++ e.visible n) es
    | some cut => (cs, cut) :: strips (e.inRow open_) (e.depth n) [] es

/-- The strips of a document, each with its number. -/
def numbered (events : List Event) : List ((Nat × List Char) × Cut) :=
  (strips false 0 [] events).zipIdx.map fun ((cs, cut), i) => ((i, cs), cut)

/-- The lines of a document, each as the numbered strips that it is made of. -/
def laidOut (events : List Event) : List (List (Nat × List Char)) := Cut.layout [] (numbered events)

/-- Strips do not lose any text. -/
theorem flatten_strips (open_ : Bool) (n : Nat) (cs : List Char) (events : List Event) :
    ((strips open_ n cs events).map Prod.fst).flatten = cs ++ visibleText n events := by
  induction events generalizing open_ n cs with
  | nil => simp [strips, visibleText]
  | cons e es ih =>
    rw [strips, visibleText]
    cases cut : e.cut? open_ with
    | none => rw [ih, List.append_assoc]
    | some c =>
      have unseen : e.visible n = [] := by cases e <;> first | rfl | cases cut
      simp [ih, unseen]

end Event

/-! ## Order -/

namespace Cut

variable {α β : Type} {ink : α → Bool} {a : α} {c : Cut} {held : List α} {xs : List (α × Cut)}

theorem layout_map (f : α → β) (held : List α) (xs : List (α × Cut)) :
    layout (held.map f) (xs.map fun x => (f x.1, x.2)) = (layout held xs).map (List.map f) := by
  induction xs generalizing held with
  | nil => rfl
  | cons x xs ih =>
    obtain ⟨a, c⟩ := x
    have made : c.made (held.map f) (f a) = (c.made held a).map (List.map f) := by cases c <;> rfl
    have gathered : c.gathered (held.map f) (f a) = (c.gathered held a).map f := by cases c <;> simp [gathered]
    rw [List.map_cons, layout, layout, made, gathered, ih, List.map_append]

theorem not_finishes_nil : ¬ Finishes ink [] := by
  rintro ⟨within, last, behind, split, -⟩
  simp at split

theorem finishes_cons :
    Finishes ink ((a, c) :: xs) ↔ c = rowEnd ∨ (c = cell ∨ c = line ∧ ink a = false) ∧ Finishes ink xs := by
  constructor
  · rintro ⟨within, last, behind, split, quiet⟩
    cases within with
    | nil =>
      cases split
      exact .inl rfl
    | cons x within =>
      cases split
      obtain ⟨here, later⟩ := List.forall_mem_cons.mp quiet
      exact .inr ⟨here, within, last, behind, rfl, later⟩
  · rintro (rfl | ⟨here, within, last, behind, rfl, later⟩)
    · exact ⟨[], a, xs, rfl, by simp⟩
    · exact ⟨(a, c) :: within, last, behind, rfl, List.forall_mem_cons.mpr ⟨here, later⟩⟩

theorem sequential_nil : Sequential ink [] := by
  intro before a cut after split
  simp at split

theorem sequential_cons :
    Sequential ink ((a, c) :: xs) ↔
      (ink a = true → c ≠ rowEnd ∧ (c = cell → Finishes ink xs)) ∧ Sequential ink xs := by
  constructor
  · intro sequential
    exact ⟨sequential [] a c xs rfl,
      fun before b cut after split => sequential ((a, c) :: before) b cut after (by rw [split]; rfl)⟩
  · rintro ⟨here, later⟩ before b cut after split
    cases before with
    | nil =>
      cases split
      exact here
    | cons x before => exact later before b cut after (List.cons.inj split).2

theorem finishes_map (f : β → α) {xs : List (β × Cut)} :
    Finishes ink (xs.map fun x => (f x.1, x.2)) ↔ Finishes (ink ∘ f) xs := by
  induction xs with
  | nil => exact iff_of_false not_finishes_nil not_finishes_nil
  | cons x xs ih => rw [List.map_cons, finishes_cons, finishes_cons, ih, Function.comp_apply]

theorem sequential_map (f : β → α) {xs : List (β × Cut)} :
    Sequential ink (xs.map fun x => (f x.1, x.2)) ↔ Sequential (ink ∘ f) xs := by
  induction xs with
  | nil => exact iff_of_true sequential_nil sequential_nil
  | cons x xs ih => rw [List.map_cons, sequential_cons, sequential_cons, ih, finishes_map, Function.comp_apply]

open scoped List in
/-- No text is in two lines. -/
theorem layout_subperm (held : List α) (xs : List (α × Cut)) :
    (layout held xs).flatten <+~ held ++ xs.map Prod.fst := by
  induction xs generalizing held with
  | nil => simp [layout]
  | cons x xs ih =>
    obtain ⟨a, c⟩ := x
    have rest := ih (c.gathered held a)
    rw [layout, List.flatten_append, List.map_cons]
    cases c with
    | line =>
      have moved : a :: (held ++ xs.map Prod.fst) <+~ held ++ a :: xs.map Prod.fst := List.perm_middle.symm.subperm
      exact ((List.subperm_append_left [a]).mpr rest).trans moved
    | cell => simpa [made, gathered] using rest
    | row => exact ((List.subperm_append_left [a]).mpr rest).trans (List.sublist_append_right _ _).subperm
    | rowEnd =>
      have kept : [held].flatten ++ (layout [] xs).flatten <+~ held ++ xs.map Prod.fst := by
        simpa [gathered] using (List.subperm_append_left held).mpr rest
      exact kept.trans ((List.sublist_cons_self _ _).append_left _).subperm

/-- The lines have all text, in its order. -/
def Whole (ink : α → Bool) (held : List α) (xs : List (α × Cut)) : Prop :=
  (layout held xs).flatten.filter ink = held.filter ink ++ (xs.map Prod.fst).filter ink

/-- Lines have no more text than there is. -/
theorem length_layout_le (ink : α → Bool) (held : List α) (xs : List (α × Cut)) :
    ((layout held xs).flatten.filter ink).length ≤
      (held.filter ink).length + ((xs.map Prod.fst).filter ink).length := by
  have fewer := ((layout_subperm held xs).filter ink).length_le
  rwa [List.filter_append, List.length_append] at fewer

theorem whole_nil : Whole ink held [] ↔ held.filter ink = [] := by
  simp only [Whole, layout, List.flatten_nil, List.filter_nil, List.map_nil, List.append_nil]
  exact eq_comm

/-- The line that ends keeps its place unless the row has gathered text, which it overtakes. -/
theorem whole_line (other : ∀ b ∈ held, b ≠ a) :
    Whole ink held ((a, line) :: xs) ↔ (ink a = true → held.filter ink = []) ∧ Whole ink held xs := by
  have others : ∀ b ∈ held.filter ink, b ≠ a := fun b member => other b (List.mem_filter.mp member).1
  simp only [Whole, layout, made, gathered, List.flatten_append, List.flatten_cons, List.flatten_nil, List.append_nil,
    List.filter_append, List.filter_cons, List.filter_nil, List.map_cons]
  cases text : ink a with
  | false => simp
  | true =>
    generalize held.filter ink = h at *
    cases h with
    | nil => simp
    | cons b h =>
      refine iff_of_false (fun same => ?_) (by simp)
      exact others b List.mem_cons_self (List.cons.inj same).1.symm

theorem whole_cell : Whole ink held ((a, cell) :: xs) ↔ Whole ink (held ++ [a]) xs := by
  simp only [Whole, layout, made, gathered, List.nil_append, List.map_cons, List.append_assoc, ← List.filter_append,
    List.singleton_append]

/-- A row that starts drops what the open one has gathered. -/
theorem whole_row : Whole ink held ((a, row) :: xs) ↔ held.filter ink = [] ∧ Whole ink [] xs := by
  have fewer := length_layout_le ink [] xs
  simp only [Whole, layout, made, gathered, List.flatten_append, List.flatten_cons, List.flatten_nil, List.append_nil,
    List.filter_append, List.filter_cons, List.filter_nil, List.map_cons, List.nil_append] at fewer ⊢
  generalize held.filter ink = h at *
  cases h with
  | nil => cases text : ink a <;> simp
  | cons b h =>
    refine iff_of_false (fun same => ?_) (by simp)
    have lengths := congrArg List.length same
    simp only [List.length_append, List.length_cons, List.length_nil] at lengths fewer
    cases text : ink a <;> simp [text] at lengths fewer <;> omega

/-- The end of the row drops the text behind its last cell. -/
theorem whole_rowEnd : Whole ink held ((a, rowEnd) :: xs) ↔ ink a = false ∧ Whole ink [] xs := by
  have fewer := length_layout_le ink [] xs
  simp only [Whole, layout, made, gathered, List.flatten_append, List.flatten_cons, List.flatten_nil, List.append_nil,
    List.filter_append, List.filter_cons, List.filter_nil, List.map_cons, List.nil_append] at fewer ⊢
  cases text : ink a with
  | false => simp
  | true =>
    refine iff_of_false (fun same => ?_) (by simp)
    have lengths := congrArg List.length same
    simp at lengths fewer
    omega

/-- The lines keep all text if and only if no strip with text is dropped and none is overtaken. The strips differ from
each other, as they do when they are numbered. -/
theorem whole_iff (distinct : (held ++ xs.map Prod.fst).Nodup) :
    Whole ink held xs ↔ (held.filter ink ≠ [] → Finishes ink xs) ∧ Sequential ink xs := by
  induction xs generalizing held with
  | nil => simp [whole_nil, not_finishes_nil, sequential_nil]
  | cons x xs ih =>
    obtain ⟨a, c⟩ := x
    rw [List.map_cons] at distinct
    have later : (held ++ xs.map Prod.fst).Nodup :=
      distinct.sublist ((List.sublist_cons_self _ _).append_left _)
    have alone : ([] ++ xs.map Prod.fst).Nodup := later.sublist (List.sublist_append_right _ _)
    have other : ∀ b ∈ held, b ≠ a := fun b member => (List.nodup_append.mp distinct).2.2 b member a List.mem_cons_self
    rw [finishes_cons, sequential_cons]
    cases c with
    | line =>
      rw [whole_line other, ih later]
      cases text : ink a <;> by_cases filled : held.filter ink = [] <;> simp [filled]
    | cell =>
      have moved : (held ++ [a] ++ xs.map Prod.fst).Nodup := by simpa using distinct
      rw [whole_cell, ih moved]
      cases text : ink a with
      | false => simp [text]
      | true =>
        have filled : (held ++ [a]).filter ink ≠ [] := by simp [text]
        constructor
        · rintro ⟨finishes, rest⟩
          have goes := finishes filled
          exact ⟨fun _ => .inr ⟨.inl rfl, goes⟩, fun _ => ⟨by decide, fun _ => goes⟩, rest⟩
        · rintro ⟨-, here, rest⟩
          exact ⟨fun _ => (here rfl).2 rfl, rest⟩
    | row =>
      rw [whole_row, ih alone]
      by_cases filled : held.filter ink = [] <;> simp [filled]
    | rowEnd =>
      rw [whole_rowEnd, ih alone]
      cases text : ink a <;> simp

end Cut

end Hypertext

/-! ## What an event does -/

/-- A row's text is tidy, unless all its cells are blank. -/
theorem tidy_rowText {cells : List (List Char)} (filled : legible cells ≠ []) : Tidy (Flattening.rowText cells) := by
  have joined (xs : List (List Char)) (tidy : ∀ x ∈ xs, Tidy x) (some_ : xs ≠ []) :
      Tidy (joinWith [' ', '|', ' '] xs) := by
    induction xs with
    | nil => exact absurd rfl some_
    | cons x xs ih =>
      obtain ⟨first, others⟩ := List.forall_mem_cons.mp tidy
      cases xs with
      | nil => exact first
      | cons y xs =>
        have rest := ih others (List.cons_ne_nil _ _)
        have bar : isBlank '|' = false := by decide
        rw [joinWith, List.append_assoc]
        exact first.join (.gap bar rest)
  refine joined _ (fun x member => ?_) filled
  obtain ⟨collapsed, shown⟩ := List.mem_filter.mp member
  obtain ⟨cs, -, rfl⟩ := List.mem_map.mp collapsed
  exact tidy_collapse (by simpa using shown)

/-- The texts of lines that are made of strips, without those that are blank. -/
def shown (lines : List (List (List Char))) : List (List Char) :=
  (lines.map Flattening.rowText).filter fun cs => !cs.isEmpty

theorem shown_append (ls ms : List (List (List Char))) : shown (ls ++ ms) = shown ls ++ shown ms := by
  rw [shown, List.map_append, List.filter_append]
  rfl

theorem shown_single (cs : List Char) : shown [[cs]] = legible [cs] := by
  simp only [shown, legible, Flattening.rowText, List.map_singleton]
  cases collapse cs <;> simp [joinWith]

theorem shown_of_filled {cells : List (List Char)} (filled : legible cells ≠ []) :
    shown [cells] = [Flattening.rowText cells] := by
  have text : Flattening.rowText cells ≠ [] := (tidy_rowText filled).ne_nil
  rw [shown, List.map_singleton, List.filter_cons_of_pos (by simpa using text)]
  rfl

theorem shown_row (cells : List (List Char)) : shown [cells] = legible [Flattening.rowText cells] := by
  by_cases empty : legible cells = []
  · have text : Flattening.rowText cells = [] := congrArg (joinWith [' ', '|', ' ']) empty
    rw [shown, legible, List.map_singleton, List.map_singleton, text]
    rfl
  · have tidy := tidy_rowText empty
    have text : Flattening.rowText cells ≠ [] := tidy.ne_nil
    rw [shown_of_filled empty, legible, List.map_singleton, tidy.collapse_eq,
      List.filter_cons_of_pos (by simpa using text)]
    rfl

namespace Role

/-- What tags of tables mean. -/
theorem ofTag_table (tag : String) :
    (tag == "tr") = (ofTag tag == row) ∧ Event.cellTags.contains tag = (ofTag tag == cell) := by
  by_cases known : tag ∈ tags
  · revert tag
    decide
  · rw [ofTag_of_not_mem known]
    simp only [tags, Event.tableTags, Event.cellTags, List.mem_cons, List.mem_append, List.cons_append, not_or] at known ⊢
    obtain ⟨-, -, noRow, noCell, noHead, -⟩ := known
    simp [noRow, noCell, noHead]

/-- The cut that the start of an element makes, given whether a row is open. -/
def cutAtStart (inRow : Bool) : Role → Option Cut
  | row => some .row
  | cell => if inRow then some .cell else none
  | lineBreak | list _ | item | heading _ | block => some .line
  | hidden | inline => none

/-- The cut that the stop of an element makes, given whether a row is open. -/
def cutAtStop (inRow : Bool) : Role → Option Cut
  | row => some (if inRow then .rowEnd else .line)
  | cell => if inRow then some .cell else none
  | list _ | item | heading _ | block => some .line
  | hidden | lineBreak | inline => none

theorem cut?_start (inRow : Bool) (tag : String) : (Event.start tag).cut? inRow = (ofTag tag).cutAtStart inRow := by
  obtain ⟨isRow, isCell⟩ := ofTag_table tag
  rw [Event.cut?, isRow, isCell, (ofTag_spec tag).1]
  cases ofTag tag <;> rfl

theorem cut?_stop (inRow : Bool) (tag : String) : (Event.stop tag).cut? inRow = (ofTag tag).cutAtStop inRow := by
  obtain ⟨isRow, isCell⟩ := ofTag_table tag
  rw [Event.cut?, isRow, isCell, (ofTag_spec tag).2.1]
  cases ofTag tag <;> rfl

end Role

namespace Flattening

variable {s s' : Flattening} {cut : Cut} {role : Role} {e : Event}

/-- The cells that the open row has gathered. -/
def held (s : Flattening) : List (List Char) := s.cells.getD []

/-- What a cut leaves of a flattening. -/
structure Cuts (s s' : Flattening) (cut : Cut) : Prop where
  bodies : s'.bodies = s.bodies ++ shown (cut.made s.held s.buffer)
  held : s'.held = cut.gathered s.held s.buffer
  buffer : s'.buffer = []
  hidden : s'.hidden = s.hidden

@[simp] theorem cells_flush (s : Flattening) : s.flush.cells = s.cells := by
  obtain ⟨lines, marker, flushed⟩ := s.flush_eq
  rw [flushed]

/-- The end of a line cuts one strip, whatever else the event does to markers and lists. -/
theorem Cuts.of_flush (s : Flattening) (lists : List OpenList) (marker : Marker) :
    Cuts s { s.flush with lists, marker } .line := by
  refine ⟨?_, ?_, s.buffer_flush, s.hidden_flush⟩
  · rw [Cut.made, shown_single]
    exact s.bodies_flush
  · exact congrArg (Option.getD · []) s.cells_flush

theorem Cuts.of_endCell (isOpen : s.cells.isSome = true) :
    Cuts s s.endCell .cell ∧ s.endCell.cells.isSome = true := by
  obtain ⟨cells, row⟩ := Option.isSome_iff_exists.mp isOpen
  have ended : s.endCell = { s with cells := some (cells ++ [s.buffer]), buffer := [] } := by rw [endCell, row]
  rw [ended]
  refine ⟨⟨?_, ?_, rfl, rfl⟩, rfl⟩
  · rw [Cut.made]
    exact (List.append_nil _).symm
  · rw [Cut.gathered, Flattening.held, Flattening.held, row]
    rfl

theorem start_cuts (cuts : role.cutAtStart s.cells.isSome = some cut) :
    Cuts s (s.start role) cut ∧ (s.start role).cells.isSome = (s.cells.isSome || role == .row) := by
  cases role with
  | hidden | inline => cases cuts
  | lineBreak | block | heading | list =>
    cases cuts
    exact ⟨.of_flush s _ _, by simp [start]⟩
  | item =>
    cases cuts
    obtain ⟨lists, marker, opened⟩ := s.flush.openItem_eq
    rw [start, opened]
    exact ⟨.of_flush s lists marker, by simp⟩
  | cell =>
    cases isOpen : s.cells.isSome with
    | false => simp [Role.cutAtStart, isOpen] at cuts
    | true =>
      simp only [Role.cutAtStart, isOpen, if_true, Option.some.injEq] at cuts
      subst cuts
      exact Cuts.of_endCell isOpen
  | row =>
    cases cuts
    refine ⟨⟨?_, rfl, s.buffer_flush, s.hidden_flush⟩, by simp [start]⟩
    rw [Cut.made, shown_single]
    exact s.bodies_flush

theorem stop_cuts (cuts : role.cutAtStop s.cells.isSome = some cut) :
    Cuts s (s.stop role) cut ∧ (s.stop role).cells.isSome = (s.cells.isSome && role != .row) := by
  cases role with
  | hidden | lineBreak | inline => cases cuts
  | block | heading | list | item =>
    cases cuts
    exact ⟨.of_flush s _ _, by simp [stop]⟩
  | cell =>
    cases isOpen : s.cells.isSome with
    | false => simp [Role.cutAtStop, isOpen] at cuts
    | true =>
      simp only [Role.cutAtStop, isOpen, if_true, Option.some.injEq] at cuts
      subst cuts
      exact Cuts.of_endCell isOpen
  | row =>
    cases row : s.cells with
    | none =>
      rw [row] at cuts
      cases cuts
      have stopped : s.stop .row = s.flush := by rw [stop, row]
      rw [stopped]
      exact ⟨.of_flush s _ _, by simp [row]⟩
    | some cells =>
      obtain rfl : cut = .rowEnd := by simpa [Role.cutAtStop, row, eq_comm] using cuts
      have stopped : s.stop .row = flush { s with buffer := rowText cells, cells := none } := by rw [stop, row]
      rw [stopped]
      refine ⟨⟨?_, ?_, buffer_flush _, hidden_flush _⟩, by simp⟩
      · rw [bodies_flush, Cut.made, held, row, Option.getD_some, shown_row]
        rfl
      · rw [held, cells_flush]
        rfl

theorem endCell_of_none (closed : s.cells = none) : s.endCell = s := by rw [endCell, closed]

theorem start_uncut (uncut : role.cutAtStart s.cells.isSome = none) :
    s.start role = { s with hidden := if role == .hidden then s.hidden + 1 else s.hidden } := by
  cases role with
  | hidden | inline => rfl
  | cell =>
    have closed : s.cells = none := by simpa [Role.cutAtStart] using uncut
    exact endCell_of_none closed
  | lineBreak | row | list | item | heading | block => cases uncut

theorem stop_uncut (uncut : role.cutAtStop s.cells.isSome = none) :
    s.stop role = { s with hidden := if role == .hidden then s.hidden - 1 else s.hidden } := by
  cases role with
  | hidden | inline | lineBreak => rfl
  | cell =>
    have closed : s.cells = none := by simpa [Role.cutAtStop] using uncut
    exact endCell_of_none closed
  | row | list | item | heading | block => cases uncut

/-- Between two cuts the text that is visible is gathered. -/
theorem step_uncut (uncut : e.cut? s.cells.isSome = none) :
    s.step e = { s with buffer := s.buffer ++ e.visible s.hidden, hidden := e.depth s.hidden } := by
  cases e with
  | text cs =>
    rw [step, Event.visible, Event.depth]
    split <;> simp
  | start tag =>
    obtain ⟨-, -, skipped, -⟩ := Role.ofTag_spec tag
    rw [Role.cut?_start] at uncut
    rw [step, start_uncut uncut, Event.visible, Event.depth, skipped, List.append_nil]
  | stop tag =>
    obtain ⟨-, -, skipped, -⟩ := Role.ofTag_spec tag
    rw [Role.cut?_stop] at uncut
    rw [step, stop_uncut uncut, Event.visible, Event.depth, skipped, List.append_nil]

theorem step_cut (cuts : e.cut? s.cells.isSome = some cut) :
    Cuts s (s.step e) cut ∧ (s.step e).cells.isSome = e.inRow s.cells.isSome ∧ e.depth s.hidden = s.hidden := by
  have shown {role : Role} (cuts : role.cutAtStart s.cells.isSome = some cut ∨ role.cutAtStop s.cells.isSome = some cut) :
      (role == .hidden) = false := by
    cases role <;> simp_all [Role.cutAtStart, Role.cutAtStop]
  cases e with
  | text cs => cases cuts
  | start tag =>
    obtain ⟨isRow, -⟩ := Role.ofTag_table tag
    obtain ⟨-, -, skipped, -⟩ := Role.ofTag_spec tag
    rw [Role.cut?_start] at cuts
    obtain ⟨leaves, row⟩ := start_cuts cuts
    rw [Event.inRow, Event.depth, isRow, skipped, shown (.inl cuts), if_neg (by simp)]
    exact ⟨leaves, row, rfl⟩
  | stop tag =>
    obtain ⟨isRow, -⟩ := Role.ofTag_table tag
    obtain ⟨-, -, skipped, -⟩ := Role.ofTag_spec tag
    rw [Role.cut?_stop] at cuts
    obtain ⟨leaves, row⟩ := stop_cuts cuts
    rw [Event.inRow, Event.depth, bne, isRow, skipped, shown (.inr cuts), if_neg (by simp)]
    exact ⟨leaves, row, rfl⟩

/-! ## What a run does -/

/-- The lines of a flattening under way: those that it has, and those that the strips to come make, the first of which
begins with what is in the buffer. -/
theorem bodies_foldl_strips (s : Flattening) (events : List Event) :
    (events.foldl step s).flush.bodies =
      s.bodies ++ shown (Cut.layout s.held (Event.strips s.cells.isSome s.hidden s.buffer events)) := by
  induction events generalizing s with
  | nil =>
    rw [List.foldl_nil, bodies_flush, Event.strips, Cut.layout, Cut.layout, Cut.made, List.append_nil, shown_single]
  | cons e events ih =>
    rw [List.foldl_cons, ih, Event.strips]
    cases cuts : e.cut? s.cells.isSome with
    | none =>
      rw [step_uncut cuts]
      rfl
    | some cut =>
      obtain ⟨⟨bodies, held, buffer, hidden⟩, row, depth⟩ := step_cut cuts
      rw [bodies, held, buffer, hidden, row, Cut.layout, shown_append, depth, List.append_assoc]

theorem hidden_foldl (s : Flattening) (events : List Event) :
    (events.foldl step s).hidden = Event.depthAfter s.hidden events := by
  induction events generalizing s with
  | nil => rfl
  | cons e events ih =>
    rw [List.foldl_cons, ih, Event.depthAfter_cons]
    cases cuts : e.cut? s.cells.isSome with
    | none => rw [step_uncut cuts]
    | some cut =>
      obtain ⟨leaves, -, depth⟩ := step_cut cuts
      rw [leaves.hidden, depth]

end Flattening

theorem bodies_ofEvents (events : List Event) :
    (Line.ofEvents events).map Line.body = shown (Cut.layout [] (Event.strips false 0 [] events)) :=
  Flattening.bodies_foldl_strips {} events

/-! ## Rows of inline text -/

namespace Hypertext

/-- Nested events that end no line and are of no table. -/
structure Event.Inline (events : List Event) : Prop where
  nested : Nested events
  within : ∀ e ∈ events, e.isBoundary = false ∧ e.isTabular = false

/-- Events without text of their own, such as those that stand between the cells of a row. -/
structure Event.Spacing (events : List Event) : Prop extends Event.Inline events where
  blank : ∀ d ∈ visibleText 0 events, isBlank d = true

/-- A cell of a row: its tag, what it contains, and what stands behind it. -/
structure Cell where
  tag : String
  content : List Event
  gap : List Event
  deriving Repr

namespace Cell

def events (c : Cell) : List Event := .start c.tag :: (c.content ++ .stop c.tag :: c.gap)

def text (c : Cell) : List Char := Event.visibleText 0 c.content

/-- A cell that holds inline text only. -/
structure IsInline (c : Cell) : Prop where
  isCell : c.tag ∈ Event.cellTags
  content : Event.Inline c.content
  gap : Event.Spacing c.gap

end Cell

/-- A row of cells, and what stands before the first of them. -/
def Event.row (gap : List Event) (cells : List Cell) : List Event :=
  start "tr" :: (gap ++ (cells.flatMap Cell.events ++ [stop "tr"]))

theorem Event.uncut_of_inline {e : Event} (within : e.isBoundary = false) (plain : e.isTabular = false)
    (inRow : Bool) : e.cut? inRow = none := by
  cases e with
  | text cs => rfl
  | start tag | stop tag =>
    simp only [isTabular, tableTags, List.contains_eq_mem, List.mem_cons, List.not_mem_nil, or_false, not_or,
      decide_eq_false_iff_not] at plain
    obtain ⟨noRow, noCell, noHead⟩ := plain
    simp [cut?, cellTags, within, noRow, noCell, noHead]

end Hypertext

theorem legible_of_blank {cs : List Char} (blank : ∀ c ∈ cs, isBlank c = true) : legible [cs] = [] := by
  rw [legible, List.map_singleton, collapse_of_blank blank]
  rfl

namespace Flattening

variable {s : Flattening} {held : List (List Char)}

/-- Inline text is gathered. -/
theorem foldl_inline {content : List Event} (inline : Event.Inline content) (seen : s.hidden = 0) :
    content.foldl step s = { s with buffer := s.buffer ++ Event.visibleText 0 content } := by
  have gathers (content : List Event) (within : ∀ e ∈ content, e.isBoundary = false ∧ e.isTabular = false)
      (s : Flattening) : content.foldl step s =
        { s with buffer := s.buffer ++ Event.visibleText s.hidden content,
                 hidden := Event.depthAfter s.hidden content } := by
    induction content generalizing s with
    | nil => simp [Event.visibleText]
    | cons e content ih =>
      obtain ⟨⟨within, plain⟩, later⟩ := List.forall_mem_cons.mp within
      rw [List.foldl_cons, step_uncut (Event.uncut_of_inline within plain _), ih later, Event.visibleText,
        Event.depthAfter_cons, List.append_assoc]
  rw [gathers content inline.within, inline.nested.depth_eq, seen, ← seen]

/-- A cell adds what stands before it and its text to the row. -/
theorem foldl_cell {c : Cell} (inline : c.IsInline) (row : s.cells = some held) (seen : s.hidden = 0) :
    c.events.foldl step s =
      { s with cells := some (held ++ [s.buffer, c.text]), buffer := Event.visibleText 0 c.gap } := by
  have cell : Role.ofTag c.tag = .cell := by
    have table := (Role.ofTag_table c.tag).2
    simpa [inline.isCell] using table.symm
  have opened : s.step (.start c.tag) = { s with cells := some (held ++ [s.buffer]), buffer := [] } := by
    rw [step, cell, start, endCell, row]
  set inside : Flattening := { s with cells := some (held ++ [s.buffer]), buffer := [] } with inside_eq
  set closed : Flattening := { s with cells := some (held ++ [s.buffer, c.text]), buffer := [] } with closed_eq
  have content : c.content.foldl step inside = { inside with buffer := c.text } := foldl_inline inline.content seen
  have closes : step { inside with buffer := c.text } (.stop c.tag) = closed := by
    rw [step, cell, stop, endCell, inside_eq, closed_eq]
    simp
  have gap : c.gap.foldl step closed = { closed with buffer := Event.visibleText 0 c.gap } :=
    foldl_inline inline.gap.toInline seen
  rw [Cell.events, List.foldl_cons, opened, List.foldl_append, content, List.foldl_cons, closes, gap]

/-- Cells add their texts to the row, with blank text between them. -/
theorem foldl_cells {cells : List Cell} (inline : ∀ c ∈ cells, c.IsInline) (row : s.cells = some held)
    (seen : s.hidden = 0) (blank : ∀ d ∈ s.buffer, isBlank d = true) :
    ∃ added rest, (cells.flatMap Cell.events).foldl step s = { s with cells := some (held ++ added), buffer := rest } ∧
      legible added = legible (cells.map Cell.text) := by
  induction cells generalizing s held with
  | nil =>
    refine ⟨[], s.buffer, ?_, rfl⟩
    rw [List.flatMap_nil, List.foldl_nil, List.append_nil, ← row]
  | cons c cells ih =>
    obtain ⟨here, later⟩ := List.forall_mem_cons.mp inline
    set next : Flattening :=
      { s with cells := some (held ++ [s.buffer, c.text]), buffer := Event.visibleText 0 c.gap } with next_eq
    obtain ⟨added, rest, run, texts⟩ := ih (s := next) later rfl seen here.gap.blank
    refine ⟨[s.buffer, c.text] ++ added, rest, ?_, ?_⟩
    · rw [List.flatMap_cons, List.foldl_append, foldl_cell here row seen, ← next_eq, run, List.append_assoc]
    · rw [List.map_cons, legible_cons, ← texts, List.cons_append, List.cons_append, List.nil_append, legible_cons,
        legible_of_blank blank, List.nil_append, legible_cons]

/-- A row of cells with inline text is one line, between the lines before it and those behind it. -/
theorem bodies_row {gap : List Event} {cells : List Cell} {before : List Event} (seen : Event.depthAfter 0 before = 0)
    (spacing : Event.Spacing gap) (inline : ∀ c ∈ cells, c.IsInline) (after : List Event) :
    (Line.ofEvents (before ++ Event.row gap cells ++ after)).map Line.body =
      (Line.ofEvents before).map Line.body ++ shown [cells.map Cell.text] ++ (Line.ofEvents after).map Line.body := by
  set s : Flattening := before.foldl step {} with run
  have depth : s.flush.hidden = 0 := by
    rw [hidden_flush, run, hidden_foldl]
    exact seen
  set opened : Flattening := { s.flush with cells := some [], buffer := Event.visibleText 0 gap } with opened_eq
  obtain ⟨added, rest, gathered, texts⟩ := foldl_cells (s := opened) inline rfl depth spacing.blank
  set filled : Flattening := { opened with cells := some added, buffer := rest } with filled_eq
  have row : (Event.row gap cells).foldl step s = filled.step (.stop "tr") := by
    have starts : s.step (.start "tr") = { s.flush with cells := some [], buffer := [] } := by
      rw [← buffer_flush s]
      rfl
    have spaced : gap.foldl step { s.flush with cells := some [], buffer := [] } = opened :=
      foldl_inline spacing.toInline depth
    rw [Event.row, List.foldl_cons, starts, List.foldl_append, spaced, List.foldl_append, gathered]
    rfl
  have ends : (Event.stop "tr").cut? filled.cells.isSome = some .rowEnd := rfl
  obtain ⟨⟨bodies, held, buffer, hidden⟩, closed, -⟩ := step_cut ends
  have own : shown (Cut.rowEnd.made filled.held filled.buffer) = shown [cells.map Cell.text] := by
    rw [Cut.made, shown_row, shown_row]
    exact congrArg (fun xs => legible [joinWith [' ', '|', ' '] xs]) texts
  have outside : (filled.step (.stop "tr")).cells.isSome = false := closed
  have shallow : (filled.step (.stop "tr")).hidden = 0 := hidden.trans depth
  have whole : (Line.ofEvents (before ++ Event.row gap cells ++ after)).map Line.body =
      (after.foldl step (filled.step (.stop "tr"))).flush.bodies := by
    rw [Line.ofEvents, Flattening.run, List.foldl_append, List.foldl_append, ← run, row]
    rfl
  rw [whole, bodies_foldl_strips, bodies, held, buffer, outside, shallow, own, bodies_ofEvents after]
  rfl

end Flattening

/-! ## Tables -/

namespace Hypertext.Event

/-- Whether a strip has text other than white space. -/
def hasInk (cs : List Char) : Bool := !(inked cs).isEmpty

theorem numbered_strips (events : List Event) :
    ((numbered events).map fun x => (x.1.2, x.2)) = strips false 0 [] events := by
  rw [numbered, List.map_map]
  exact List.zipIdx_map_fst 0 _

theorem nodup_numbered (events : List Event) : ((numbered events).map Prod.fst).Nodup := by
  refine List.Nodup.of_map Prod.fst ?_
  have numbers : ((numbered events).map Prod.fst).map Prod.fst = (strips false 0 [] events).zipIdx.map Prod.snd := by
    rw [numbered, List.map_map, List.map_map]
    rfl
  rw [numbers, List.zipIdx_map_snd]
  exact List.nodup_range'

end Hypertext.Event

/-- Hypertext comes down to lines that its strips of visible text make, no strip in more than one of them. All strips
with text are there, in their order, if and only if the hypertext is sequential: behind the last cell of a row comes no
text, no row starts in a row that has gathered text, and no line ends there. A row of cells that hold inline text is a
line of its own, between the lines of what is before it and the lines of what is behind it. -/
theorem tables_kept_iff {cs : List Char} {events : List Event} (read : Event.ofHypertext cs = .ok events) :
    ∃ lines, Line.ofHypertext cs = .ok lines ∧
      lines.map Line.body = shown ((Event.laidOut events).map (List.map Prod.snd)) ∧
      (Event.laidOut events).flatten.Nodup ∧
      ((Event.numbered events).flatMap fun x => x.1.2) = Event.visibleText 0 events ∧
      ((Event.laidOut events).flatten.filter (Event.hasInk ∘ Prod.snd) =
          ((Event.numbered events).map Prod.fst).filter (Event.hasInk ∘ Prod.snd) ↔
        Cut.Sequential Event.hasInk (Event.strips false 0 [] events)) ∧
      ∀ before gap cells after, events = before ++ Event.row gap cells ++ after → Event.depthAfter 0 before = 0 →
        Event.Spacing gap → (∀ c ∈ cells, c.IsInline) → legible (cells.map Cell.text) ≠ [] →
          lines.map Line.body =
            (Line.ofEvents before).map Line.body ++
              joinWith [' ', '|', ' '] (legible (cells.map Cell.text)) :: (Line.ofEvents after).map Line.body := by
  refine ⟨Line.ofEvents events, ?_, ?_, ?_, ?_, ?_, ?_⟩
  · rw [Line.ofHypertext, read]
    rfl
  · have plain := Cut.layout_map Prod.snd [] (Event.numbered events)
    rw [Event.numbered_strips, List.map_nil] at plain
    rw [bodies_ofEvents, plain]
    rfl
  · obtain ⟨kept, perm, sub⟩ := Cut.layout_subperm [] (Event.numbered events)
    exact perm.nodup_iff.mp ((Event.nodup_numbered events).sublist sub)
  · have texts := Event.flatten_strips false 0 [] events
    rw [← Event.numbered_strips, List.map_map] at texts
    exact texts
  · have kept := @Cut.whole_iff _ (Event.hasInk ∘ Prod.snd) [] _ (Event.nodup_numbered events)
    rw [← Event.numbered_strips, Cut.sequential_map (fun x : Nat × List Char => x.2)]
    exact kept.trans (and_iff_right fun filled => absurd rfl filled)
  · rintro before gap cells after rfl seen spacing inline filled
    rw [Flattening.bodies_row seen spacing inline, shown_of_filled filled, List.append_assoc, List.singleton_append]
    rfl

/-- A row with a blank between its cells, and text behind the table. -/
theorem tables_kept_iff_row :
    ∃ lines, Line.ofHypertext "<table><tr><td>a</td> <th><b>b</b> c</th></tr></table>d".toList = .ok lines ∧
      lines.map Line.body = [['a', ' ', '|', ' ', 'b', ' ', 'c'], ['d']] := by
  let cells : List Cell :=
    [⟨"td", [.text ['a']], [.text [' ']]⟩, ⟨"th", [.start "b", .text ['b'], .stop "b", .text [' ', 'c']], []⟩]
  have read : Event.ofHypertext "<table><tr><td>a</td> <th><b>b</b> c</th></tr></table>d".toList =
      .ok ([.start "table"] ++ Event.row [] cells ++ [.stop "table", .text ['d']]) := rfl
  obtain ⟨lines, found, -, -, -, -, row⟩ := tables_kept_iff read
  have none_ : Event.Spacing [] := ⟨⟨.nil, by decide⟩, List.all_eq_true.mp rfl⟩
  have blank : Event.Spacing [.text [' ']] := ⟨⟨.text _ .nil, by decide⟩, List.all_eq_true.mp rfl⟩
  have inline : ∀ c ∈ cells, c.IsInline := by
    refine List.forall_mem_cons.mpr ⟨⟨by decide, ⟨.text _ .nil, by decide⟩, blank⟩,
      List.forall_mem_singleton.mpr ⟨by decide, ⟨?_, by decide⟩, none_⟩⟩
    exact .element "b" (.text _ .nil) (.text _ .nil)
  refine ⟨lines, found, (row _ [] cells _ rfl rfl none_ inline ?_).trans ?_⟩
  · decide +kernel
  · decide +kernel

/-- A row in a cell takes the place of the row around it, and the text of that is lost. -/
theorem tables_lose_text :
    ∃ events lines, Event.ofHypertext
        "<table><tr><td>a</td><td><table><tr><td>x</td></tr></table></td></tr></table>".toList = .ok events ∧
      Event.Nested events ∧ Event.visibleText 0 events = ['a', 'x'] ∧
      Line.ofHypertext "<table><tr><td>a</td><td><table><tr><td>x</td></tr></table></td></tr></table>".toList =
        .ok lines ∧
      lines.map Line.body = [['x']] := by
  refine ⟨_, _, rfl, ?_, rfl, rfl, rfl⟩
  exact .element "table" (.element "tr" (.element "td" (.text _ .nil) (.element "td" (.element "table" (.element "tr"
    (.element "td" (.text _ .nil) .nil) .nil) .nil) .nil)) .nil) .nil

/-- A line that ends within a cell overtakes the cells before it. -/
example : (Line.ofEvents [.start "tr", .start "td", .text ['a'], .stop "td", .start "td", .text ['b'], .start "br",
    .text ['c'], .stop "td", .stop "tr"]).map Line.body = [['b'], ['a', ' ', '|', ' ', 'c']] := rfl

end Letterpress
