import Letterpress.Block.Flattening

/-!
# Passages

Outside tables, the lines of hypertext are its visible text, cut where block elements start and stop and at line
breaks.

* `Hypertext.Event.stretches`: what a reader sees of events, one after the other: text, or a boundary.
* `Hypertext.Event.passages`: the visible text between two boundaries, for all that follow each other.
* `Flattening.bodies_foldl`: what a flattening under way has in its buffer belongs to the passage to come.
* `ofEvents_passages`: the lines are the passages that are not blank.
-/

namespace Letterpress

open Text

/-! ## Text without white space -/

namespace Text

/-- The characters of a text that are no white space. -/
def inked (cs : List Char) : List Char := cs.filter fun c => !isBlank c

theorem inked_append (as bs : List Char) : inked (as ++ bs) = inked as ++ inked bs := List.filter_append ..

theorem inked_trimLeft (cs : List Char) : inked (trimLeftBy isBlank cs) = inked cs := by
  induction cs with
  | nil => rfl
  | cons c cs ih =>
    rw [trimLeftBy, List.dropWhile_cons]
    split
    · rename_i blank
      rw [← trimLeftBy, ih]
      simp [inked, blank]
    · rfl

theorem inked_reverse (cs : List Char) : inked cs.reverse = (inked cs).reverse := List.filter_reverse ..

theorem inked_trim (cs : List Char) : inked (trim cs) = inked cs := by
  have right (cs : List Char) : inked (trimRightBy isBlank cs) = inked cs := by
    rw [trimRightBy, inked_reverse, ← trimLeftBy, inked_trimLeft, inked_reverse, List.reverse_reverse]
  rw [trim, trimBy, right, inked_trimLeft]

theorem inked_squeeze (after : Bool) (cs : List Char) : inked (squeeze after cs) = inked cs := by
  induction cs generalizing after with
  | nil => rfl
  | cons c cs ih =>
    rw [squeeze]
    cases blank : isBlank c with
    | true =>
      have space : isBlank ' ' = true := by decide
      cases after <;> simp_all [inked]
    | false =>
      have rest := ih false
      simp_all [inked]

/-- Collapsing white space leaves everything else, in its order. -/
theorem inked_collapse (cs : List Char) : inked (collapse cs) = inked cs := by
  rw [collapse, inked_trim, inked_squeeze]

end Text

/-! ## What a reader sees -/

namespace Hypertext.Event

/-- The elements that stand on lines of their own. -/
def blockTags : List String :=
  ["p", "div", "section", "article", "header", "footer", "blockquote", "pre", "tr", "li", "h1", "h2", "h3", "h4", "h5",
    "h6", "table", "ul", "ol", "dl", "dt", "dd", "hr"]

/-- The elements whose content nobody sees. -/
def skippedTags : List String := ["script", "style", "head", "title"]

/-- The parts of a table that gather text of their own. -/
def tableTags : List String := ["tr", "td", "th"]

/-- Whether a line ends at an event. -/
def isBoundary : Event → Bool
  | start tag => tag == "br" || blockTags.contains tag
  | stop tag => blockTags.contains tag
  | text _ => false

def isTabular : Event → Bool
  | start tag | stop tag => tableTags.contains tag
  | text _ => false

/-- How many skipped elements are open behind an event, given how many are before it. -/
def depth (n : Nat) : Event → Nat
  | start tag => if skippedTags.contains tag then n + 1 else n
  | stop tag => if skippedTags.contains tag then n - 1 else n
  | text _ => n

/-- The text of an event, if no skipped element is open. -/
def visible (n : Nat) : Event → List Char
  | text cs => if n = 0 then cs else []
  | start _ | stop _ => []

/-- What a reader sees of each event: its visible text, or a boundary. -/
def stretches (n : Nat) : List Event → List (Option (List Char))
  | [] => []
  | e :: es => (if e.isBoundary then none else some (e.visible n)) :: stretches (e.depth n) es

/-- The texts between the boundaries. -/
def pieces (xs : List (Option (List Char))) : List (List Char) :=
  (xs.splitOnP Option.isNone).map fun piece => (piece.filterMap id).flatten

/-- The visible text between two boundaries, for all that follow each other. -/
def passages (events : List Event) : List (List Char) := pieces (stretches 0 events)

/-- All text that is visible, boundaries or not. -/
def visibleText (n : Nat) : List Event → List Char
  | [] => []
  | e :: es => e.visible n ++ visibleText (e.depth n) es

section

variable {cs ds : List Char} {xs : List (Option (List Char))}

theorem exists_splitOnP (xs : List (Option (List Char))) : ∃ piece rest, xs.splitOnP Option.isNone = piece :: rest :=
  List.exists_cons_of_ne_nil (List.splitOnP_ne_nil _ xs)

@[simp]
theorem pieces_single : pieces [some cs] = [cs] := by
  simp [pieces, List.splitOnP_cons_eq_if_modifyHead]

theorem pieces_boundary : pieces (some cs :: none :: xs) = cs :: pieces xs := by
  simp [pieces, List.splitOnP_cons_eq_if_modifyHead]

theorem pieces_join : pieces (some cs :: some ds :: xs) = pieces (some (cs ++ ds) :: xs) := by
  obtain ⟨piece, rest, split⟩ := exists_splitOnP xs
  simp [pieces, List.splitOnP_cons_eq_if_modifyHead, split]

/-- A stretch that begins with no text is a stretch. -/
theorem pieces_empty : pieces (some [] :: xs) = pieces xs := by
  obtain ⟨piece, rest, split⟩ := exists_splitOnP xs
  simp [pieces, List.splitOnP_cons_eq_if_modifyHead, split]

/-- All that lies between boundaries. -/
theorem flatten_pieces (xs : List (Option (List Char))) : (pieces xs).flatten = (xs.filterMap id).flatten := by
  induction xs with
  | nil => rfl
  | cons x xs ih =>
    obtain ⟨piece, rest, split⟩ := exists_splitOnP xs
    cases x <;> simp_all [pieces, List.splitOnP_cons_eq_if_modifyHead]

end

theorem flatten_stretches (n : Nat) (events : List Event) :
    ((stretches n events).filterMap id).flatten = visibleText n events := by
  induction events generalizing n with
  | nil => rfl
  | cons e events ih =>
    rw [stretches, visibleText, ← ih]
    cases e <;> simp [isBoundary, visible] <;> split <;> simp

end Hypertext.Event

open Hypertext

/-- Texts with their white space collapsed, without those that are blank. -/
def legible (pieces : List (List Char)) : List (List Char) := (pieces.map collapse).filter fun cs => !cs.isEmpty

theorem legible_cons (cs : List Char) (pieces : List (List Char)) :
    legible (cs :: pieces) = legible [cs] ++ legible pieces := by
  rw [legible, legible, legible, List.map_cons, ← List.filter_append]
  rfl

/-- What is legible of texts is all but their white space. -/
theorem inked_legible (pieces : List (List Char)) : inked (legible pieces).flatten = inked pieces.flatten := by
  induction pieces with
  | nil => rfl
  | cons cs pieces ih =>
    have own : inked (legible [cs]).flatten = inked cs := by
      rw [← inked_collapse cs, legible, List.map_singleton]
      cases collapse cs <;> simp
    rw [legible_cons, List.flatten_append, List.flatten_cons, inked_append, inked_append, own, ih]

/-! ## What an event does -/

namespace Role

/-- Whether a line ends where an element starts. -/
def endsAtStart : Role → Bool
  | lineBreak | row | list _ | item | heading _ | block => true
  | hidden | cell | inline => false

/-- Whether a line ends where an element stops. -/
def endsAtStop : Role → Bool
  | row | list _ | item | heading _ | block => true
  | hidden | lineBreak | cell | inline => false

/-- All tags with a meaning of their own. -/
def tags : List String := "br" :: Event.skippedTags ++ Event.blockTags ++ Event.tableTags

theorem ofTag_of_not_mem {tag : String} (unknown : tag ∉ tags) : ofTag tag = inline := by
  simp only [tags, Event.skippedTags, Event.blockTags, Event.tableTags, List.cons_append, List.nil_append, List.mem_cons,
    List.not_mem_nil, or_false, not_or] at unknown
  have noHeading : headingTags.idxOf? tag = none := List.idxOf?_eq_none_iff.mpr (by simp [headingTags, unknown])
  simp [ofTag, hiddenTags, plainBlockTags, noHeading, unknown]

/-- What a tag means is what the lists of tags say. -/
theorem ofTag_spec (tag : String) :
    (Event.start tag).isBoundary = (ofTag tag).endsAtStart ∧ (Event.stop tag).isBoundary = (ofTag tag).endsAtStop ∧
      Event.skippedTags.contains tag = (ofTag tag == hidden) ∧
      Event.tableTags.contains tag = (ofTag tag == cell || ofTag tag == row) := by
  by_cases known : tag ∈ tags
  · revert tag
    decide
  · rw [ofTag_of_not_mem known]
    simp only [tags, List.mem_cons, List.mem_append, List.cons_append, not_or] at known
    obtain ⟨noBreak, ⟨shown, noBlock⟩, noTable⟩ := known
    simp [Event.isBoundary, noBreak, noBlock, shown, noTable, endsAtStart, endsAtStop]

end Role

namespace Flattening

variable {s : Flattening} {e : Event}

/-- The texts of the lines, without their markers. -/
def bodies (s : Flattening) : List (List Char) := s.lines.map Line.body

theorem bodies_flush (s : Flattening) : s.flush.bodies = s.bodies ++ legible [s.buffer] := by
  simp only [bodies, flush, legible, List.map_singleton]
  cases collapse s.buffer <;> simp

/-- The end of a line concerns lines, buffer and marker only. -/
theorem flush_eq (s : Flattening) : ∃ lines marker, s.flush = { s with lines, marker, buffer := [] } := by
  simp only [flush]
  split
  · exact ⟨s.lines, s.marker, rfl⟩
  · exact ⟨_, _, rfl⟩

@[simp] theorem buffer_flush (s : Flattening) : s.flush.buffer = [] := by
  obtain ⟨lines, marker, flushed⟩ := s.flush_eq
  rw [flushed]

@[simp] theorem hidden_flush (s : Flattening) : s.flush.hidden = s.hidden := by
  obtain ⟨lines, marker, flushed⟩ := s.flush_eq
  rw [flushed]

theorem openItem_eq (s : Flattening) : ∃ lists marker, s.openItem = { s with lists, marker } := by
  unfold openItem
  split
  · exact ⟨_, _, rfl⟩
  · exact ⟨s.lists, .bullet, rfl⟩

/-- What an event leaves of the line before it. -/
structure Ends (s s' : Flattening) : Prop where
  bodies : s'.bodies = s.flush.bodies
  buffer : s'.buffer = []
  hidden : s'.hidden = s.hidden

/-- Markers and lists do not matter here. -/
theorem Ends.of_flush (s : Flattening) (lists : List OpenList) (marker : Marker) :
    Ends s { s.flush with lists, marker } :=
  ⟨rfl, s.buffer_flush, s.hidden_flush⟩

theorem start_ends {role : Role} (ends : role.endsAtStart = true) (plain : role ≠ .row) : Ends s (s.start role) := by
  cases role with
  | hidden | inline | cell => cases ends
  | row => exact absurd rfl plain
  | lineBreak | block | heading | list => exact .of_flush s _ _
  | item =>
    obtain ⟨lists, marker, opened⟩ := s.flush.openItem_eq
    rw [start, opened]
    exact .of_flush s lists marker

theorem stop_ends {role : Role} (ends : role.endsAtStop = true) (plain : role ≠ .row) : Ends s (s.stop role) := by
  cases role with
  | hidden | lineBreak | inline | cell => cases ends
  | row => exact absurd rfl plain
  | block | heading | list | item => exact .of_flush s _ _

theorem start_within {role : Role} (within : role.endsAtStart = false) (plain : role ≠ .cell) :
    s.start role = { s with hidden := if role == .hidden then s.hidden + 1 else s.hidden } := by
  cases role with
  | hidden | inline => rfl
  | cell => exact absurd rfl plain
  | lineBreak | row | list | item | heading | block => cases within

theorem stop_within {role : Role} (within : role.endsAtStop = false) (plain : role ≠ .cell) :
    s.stop role = { s with hidden := if role == .hidden then s.hidden - 1 else s.hidden } := by
  cases role with
  | hidden | inline | lineBreak => rfl
  | cell => exact absurd rfl plain
  | row | list | item | heading | block => cases within

theorem role_of_plain {tag : String} (plain : Event.tableTags.contains tag = false) :
    Role.ofTag tag ≠ .cell ∧ Role.ofTag tag ≠ .row := by
  have tabular := (Role.ofTag_spec tag).2.2.2
  rw [plain] at tabular
  constructor <;> intro meaning <;> simp [meaning] at tabular

/-- At a boundary the line ends. -/
theorem step_boundary (plain : e.isTabular = false) (ends : e.isBoundary = true) : Ends s (s.step e) := by
  cases e with
  | text cs => cases ends
  | start tag => exact start_ends ((Role.ofTag_spec tag).1.symm.trans ends) (role_of_plain plain).2
  | stop tag => exact stop_ends ((Role.ofTag_spec tag).2.1.symm.trans ends) (role_of_plain plain).2

/-- Between two boundaries the text that is visible is gathered. -/
theorem step_within (plain : e.isTabular = false) (within : e.isBoundary = false) :
    s.step e = { s with buffer := s.buffer ++ e.visible s.hidden, hidden := e.depth s.hidden } := by
  cases e with
  | text cs =>
    rw [step, Event.visible, Event.depth]
    split <;> simp
  | start tag =>
    obtain ⟨boundary, -, skipped, -⟩ := Role.ofTag_spec tag
    rw [step, start_within (boundary.symm.trans within) (role_of_plain plain).1, Event.visible, Event.depth, skipped,
      List.append_nil]
  | stop tag =>
    obtain ⟨-, boundary, skipped, -⟩ := Role.ofTag_spec tag
    rw [step, stop_within (boundary.symm.trans within) (role_of_plain plain).1, Event.visible, Event.depth, skipped,
      List.append_nil]

/-- No tag of a skipped element is a boundary. -/
theorem depth_boundary (n : Nat) (ends : e.isBoundary = true) : e.depth n = n := by
  have shown {role : Role} (ends : role.endsAtStart = true ∨ role.endsAtStop = true) : (role == .hidden) = false := by
    cases role <;> simp_all [Role.endsAtStart, Role.endsAtStop]
  cases e with
  | text cs => rfl
  | start tag =>
    obtain ⟨boundary, -, skipped, -⟩ := Role.ofTag_spec tag
    rw [Event.depth, skipped, shown (.inl (boundary.symm.trans ends)), if_neg (by simp)]
  | stop tag =>
    obtain ⟨-, boundary, skipped, -⟩ := Role.ofTag_spec tag
    rw [Event.depth, skipped, shown (.inr (boundary.symm.trans ends)), if_neg (by simp)]

/-! ## What a run does -/

/-- The lines of a flattening under way: those that it has, and the passages to come, the first of which begins with
what is in the buffer. -/
theorem bodies_foldl {events : List Event} (plain : ∀ e ∈ events, e.isTabular = false) :
    (events.foldl step s).flush.bodies =
      s.bodies ++ legible (Event.pieces (some s.buffer :: Event.stretches s.hidden events)) := by
  induction events generalizing s with
  | nil => rw [List.foldl_nil, bodies_flush, Event.stretches, Event.pieces_single]
  | cons e events ih =>
    obtain ⟨here, later⟩ := List.forall_mem_cons.mp plain
    rw [List.foldl_cons, Event.stretches, ih later]
    cases ends : e.isBoundary with
    | true =>
      obtain ⟨bodies, buffer, hidden⟩ := step_boundary (s := s) here ends
      rw [bodies, buffer, hidden, bodies_flush, depth_boundary _ ends, if_pos rfl, Event.pieces_boundary,
        Event.pieces_empty, List.append_assoc, ← legible_cons]
    | false =>
      rw [step_within here ends, if_neg (by simp), Event.pieces_join]
      rfl

end Flattening

/-- Outside tables, hypertext comes down to lines that are its passages of visible text, in order and with their white
space collapsed, except for those that are blank. Each has a marker, which may be empty, before it. No visible text is
lost, repeated or moved, and none is added. -/
theorem ofEvents_passages {events : List Event} (plain : ∀ e ∈ events, e.isTabular = false) :
    (∃ markers : List Marker, markers.length = (legible (Event.passages events)).length ∧
      (Line.ofEvents events).map Line.text =
        List.zipWith (fun m cs => m.text ++ cs) markers (legible (Event.passages events))) ∧
    inked (legible (Event.passages events)).flatten = inked (Event.visibleText 0 events) := by
  have bodies : (Line.ofEvents events).map Line.body = legible (Event.passages events) := by
    have run := Flattening.bodies_foldl (s := {}) plain
    rwa [Event.pieces_empty] at run
  refine ⟨⟨(Line.ofEvents events).map Line.marker, ?_, ?_⟩, ?_⟩
  · rw [← bodies, List.length_map, List.length_map]
  · rw [← bodies, List.zipWith_map, List.zipWith_self]
    rfl
  · rw [inked_legible, Event.passages, Event.flatten_pieces, Event.flatten_stretches]

/-- A style sheet between two passages, with a paragraph that starts inside it and end tags that close nothing. -/
theorem ofEvents_passages_style :
    ∃ markers : List Marker, markers.length = 2 ∧
      (Line.ofEvents [.stop "p", .text [' ', 'a'], .start "style", .text ['x'], .start "p", .text ['y'], .stop "style",
          .text ['b', '\n', 'c'], .start "br", .text [' '], .stop "ul"]).map Line.text =
        List.zipWith (fun m cs => m.text ++ cs) markers [['a'], ['b', ' ', 'c']] := by
  have plain : ∀ e ∈ [Event.stop "p", .text [' ', 'a'], .start "style", .text ['x'], .start "p", .text ['y'],
      .stop "style", .text ['b', '\n', 'c'], .start "br", .text [' '], .stop "ul"], e.isTabular = false := by decide
  obtain ⟨markers, length, texts⟩ := (ofEvents_passages plain).1
  have seen : legible (Event.passages [.stop "p", .text [' ', 'a'], .start "style", .text ['x'], .start "p", .text ['y'],
      .stop "style", .text ['b', '\n', 'c'], .start "br", .text [' '], .stop "ul"]) = [['a'], ['b', ' ', 'c']] := by
    decide +kernel
  rw [seen] at length texts
  exact ⟨markers, length, texts⟩

end Letterpress
