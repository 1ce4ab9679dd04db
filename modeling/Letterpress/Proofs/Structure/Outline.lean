import Letterpress.Proofs.Block.Passage
import Letterpress.Proofs.Hypertext.Token
import Letterpress.Proofs.Text.Tidy
import Letterpress.Structure

/-!
# The outline of a tree

A tree that is projected onto hypertext and flattened again comes down to its outline: a heading for each key, and a line
for each scalar that is not blank.

* `Structure.outline`: the lines of a tree, by recursion on it.
* `Flattening.Yields`: what hypertext adds to the lines of a flattening, given the marker before it.
* `Structure.toHypertext_yields`: a tree adds its outline.
* `Structure.ofHypertext_toHypertext`: the lines of a tree's hypertext.
-/

namespace Letterpress

open Text Hypertext

/-! ## Outlines -/

namespace Structure

/-- A line with a marker, unless it is blank. -/
def lineOf (m : Marker) (cs : List Char) : List Line :=
  if (collapse cs).isEmpty then [] else [⟨m, collapse cs⟩]

mutual

/-- The lines of a tree: a heading for each key, deeper with each object and each array, and what is not blank of each
scalar, with a bullet if it is an item. -/
def outline (level : Nat) : Value → List Line
  | .record fields => outlineEntries level fields
  | .list xs => outlineItems level xs
  | v => lineOf .none (insertText v)

def outlineItems (level : Nat) : List Value → List Line
  | [] => []
  | x :: xs =>
    (match x with
      | .record fields => outline (level + 1) (.record fields)
      | .list ys => outline (level + 1) (.list ys)
      | v => lineOf .bullet (insertText v)) ++ outlineItems level xs

def outlineEntries (level : Nat) : List (String × Value) → List Line
  | [] => []
  | (k, v) :: rest =>
    ⟨.heading (min level 6), collapse (humanize k.toList)⟩ :: outline (level + 1) v ++ outlineEntries level rest

end

mutual

/-- The keys of all objects in a tree. -/
def keys : Value → List String
  | .record fields => keysOfEntries fields
  | .list xs => keysOfItems xs
  | _ => []

def keysOfItems : List Value → List String
  | [] => []
  | x :: xs => keys x ++ keysOfItems xs

def keysOfEntries : List (String × Value) → List String
  | [] => []
  | (k, v) :: rest => k :: keys v ++ keysOfEntries rest

end

mutual

/-- All text of a tree, in its order: its keys as words, and its scalars. -/
def wording : Value → List Char
  | .record fields => wordingOfEntries fields
  | .list xs => wordingOfItems xs
  | v => insertText v

def wordingOfItems : List Value → List Char
  | [] => []
  | x :: xs => wording x ++ wordingOfItems xs

def wordingOfEntries : List (String × Value) → List Char
  | [] => []
  | (k, v) :: rest => humanize k.toList ++ wording v ++ wordingOfEntries rest

end

end Structure

/-! ## Blank text -/

namespace Text

theorem collapse_ne_nil {cs : List Char} (shown : ∃ c ∈ cs, isBlank c = false) : collapse cs ≠ [] := by
  intro empty
  have none_left : inked cs = [] := by rw [← inked_collapse, empty]; rfl
  obtain ⟨c, member, ink⟩ := shown
  have kept : c ∈ inked cs := List.mem_filter.mpr ⟨member, by simp [ink]⟩
  rw [none_left] at kept
  exact List.not_mem_nil kept

end Text

/-! ## Reading -/

namespace Flattening

variable {s s' t : Flattening} {cs ds : List Char} {a b : List Line} {p q r : Marker → Prop} {m : Marker}

/-- Texts that follow each other do the same as one. -/
theorem foldl_fused (cs : List Char) (es : List Event) (s : Flattening) :
    (Event.fused cs es).foldl step s = es.foldl step (s.step (.text cs)) := by
  have ofText (cs : List Char) (s : Flattening) : (Event.ofText cs).foldl step s = s.step (.text cs) := by
    cases cs with
    | nil => simp [Event.ofText, step]
    | cons c cs => rfl
  have nothing (s : Flattening) : s.step (.text []) = s := by simp [step]
  induction es generalizing cs s with
  | nil => exact ofText cs s
  | cons e es ih =>
    cases e with
    | text ds =>
      have joined : s.step (.text (cs ++ ds)) = (s.step (.text cs)).step (.text ds) := by
        by_cases shown : s.hidden = 0 <;> simp [step, shown]
      rw [Event.fused, ih, joined]
      rfl
    | start tag | stop tag => simp only [Event.fused, List.foldl_append, List.foldl_cons, ofText, ih, nothing]

/-- Printed events take a flattening from a state to a state. -/
def Reads (s : Flattening) (cs : List Char) (s' : Flattening) : Prop :=
  ∃ es : List Event, (∀ e ∈ es, e.isPlain = true) ∧ es.flatMap Event.print = cs ∧ es.foldl step s = s'

theorem Reads.append (first : Reads s cs s') (second : Reads s' ds t) : Reads s (cs ++ ds) t := by
  obtain ⟨es, plain, rfl, rfl⟩ := first
  obtain ⟨fs, plain', rfl, rfl⟩ := second
  refine ⟨es ++ fs, fun e member => ?_, List.flatMap_append, List.foldl_append⟩
  exact (List.mem_append.mp member).elim (plain e) (plain' e)

theorem Reads.event {e : Event} (plain : e.isPlain = true) (s : Flattening) : Reads s e.print (s.step e) :=
  ⟨[e], by simpa using plain, by simp, rfl⟩

theorem Reads.ofHypertext (reads : Reads {} cs s) : Line.ofHypertext cs = .ok s.flush.lines := by
  obtain ⟨es, plain, rfl, rfl⟩ := reads
  rw [Line.ofHypertext, Event.ofHypertext_print plain, Except.map, Line.ofEvents, run, foldl_fused]
  rfl

/-- A flattening between two elements: no text is under way, and no open list has numbers. -/
structure Resting (s : Flattening) : Prop where
  blank : ∀ c ∈ s.buffer, isBlank c = true
  shown : s.hidden = 0
  bulleted : ∀ l ∈ s.lists, l.isOrdered = false

/-- A flattening that rests again, with more lines. -/
structure Adds (s : Flattening) (ls : List Line) (s' : Flattening) : Prop where
  lines : s'.lines = s.lines ++ ls
  lists : s'.lists = s.lists
  resting : Resting s'

theorem Adds.trans (first : Adds s a s') (second : Adds s' b t) : Adds s (a ++ b) t :=
  ⟨by rw [second.lines, first.lines, List.append_assoc], second.lists.trans first.lists, second.resting⟩

theorem Resting.flush (resting : Resting s) : s.flush = { s with buffer := [] } := by
  simp [Flattening.flush, collapse_of_blank resting.blank]

theorem Resting.openItem (resting : Resting s) : s.openItem = { s with marker := .bullet } := by
  unfold Flattening.openItem
  split
  · rename_i n outer lists
    have numbered := resting.bulleted ⟨true, n⟩ (by simp [lists])
    cases numbered
  · rfl

/-- An item of a list without numbers gets a bullet. -/
theorem Resting.item (resting : Resting s) : s.step (.start "li") = { s with buffer := [], marker := .bullet } := by
  have rested : Resting { s with buffer := [] } := ⟨by simp, resting.shown, resting.bulleted⟩
  change s.flush.openItem = _
  rw [resting.flush, rested.openItem]

/-- Hypertext that adds lines to a flattening at rest, if the marker before it is as it is to be, and what is said of the
marker behind it. -/
def Yields (p : Marker → Prop) (cs : List Char) (ls : List Line) (q : Marker → Prop) : Prop :=
  ∀ s, Resting s → p s.marker → ∃ s', Reads s cs s' ∧ Adds s ls s' ∧ q s'.marker

theorem Yields.nil : Yields p [] [] p := fun s resting before =>
  ⟨s, ⟨[], by simp, rfl, rfl⟩, ⟨(List.append_nil _).symm, rfl, resting⟩, before⟩

theorem Yields.append (first : Yields p cs a q) (second : Yields q ds b r) : Yields p (cs ++ ds) (a ++ b) r := by
  intro s resting before
  obtain ⟨s', reads, adds, between⟩ := first s resting before
  obtain ⟨t, reads', adds', after⟩ := second s' adds.resting between
  exact ⟨t, reads.append reads', adds.trans adds', after⟩

theorem Yields.newline : Yields p ['\n'] [] p := by
  intro s resting before
  have step : s.step (.text ['\n']) = { s with buffer := s.buffer ++ ['\n'] } := if_pos resting.shown
  refine ⟨_, Reads.event (e := .text ['\n']) rfl s, ?_, ?_⟩
  · rw [step]
    refine ⟨(List.append_nil _).symm, rfl, ⟨?_, resting.shown, resting.bulleted⟩⟩
    intro c member
    obtain old | new := List.mem_append.mp member
    · exact resting.blank c old
    · obtain rfl := List.mem_singleton.mp new
      decide
  · rw [step]
    exact before

/-- Parts on lines of their own. -/
theorem Yields.lines_cons {xs : List (List Char)} (first : Yields p cs a q) (rest : Yields q (Structure.lines xs) b r) :
    Yields p (Structure.lines (cs :: xs)) (a ++ b) r := by
  cases xs with
  | nil => exact List.append_nil cs ▸ first.append rest
  | cons x xs =>
    have joined := (first.append .newline).append rest
    rwa [List.append_nil] at joined

/-- An element with text: its marker stands before the text, if that is not blank. -/
theorem Yields.element (tag : String) (plain : (Event.start tag).isPlain = true)
    (opens : ∀ s, Resting s → p s.marker → s.start (Role.ofTag tag) = { s with buffer := [], marker := m })
    (closes : ∀ s, stop s (Role.ofTag tag) = s.flush) (cs : List Char) :
    Yields p (Structure.element tag.toList (escape cs)) (Structure.lineOf m cs)
      fun after => collapse cs ≠ [] → after = .none := by
  intro s resting before
  have reads : Reads s (Structure.element tag.toList (escape cs))
      (((s.step (.start tag)).step (.text cs)).step (.stop tag)) := by
    have read := ((Reads.event (e := .start tag) plain s).append (Reads.event (e := .text cs) rfl _)).append
      (Reads.event (e := .stop tag) plain _)
    simpa [Structure.element, Event.print] using read
  have filled : (s.step (.start tag)).step (.text cs) = { s with buffer := cs, marker := m } := by
    simp only [step, opens s resting before, resting.shown, if_pos, List.nil_append]
  refine ⟨_, reads, ?_, ?_⟩
  · rw [filled, step, closes, flush]
    split
    · rename_i blank
      exact ⟨by simp [Structure.lineOf, blank], rfl, by simp, resting.shown, resting.bulleted⟩
    · rename_i shown
      exact ⟨by simp [Structure.lineOf, shown], rfl, by simp, resting.shown, resting.bulleted⟩
  · intro shown
    rw [filled, step, closes, flush, if_neg (by simpa using shown)]

theorem Yields.weaken {q' : Marker → Prop} (yields : Yields p cs a q) (weaker : ∀ m, q m → q' m) : Yields p cs a q' := by
  intro s resting before
  obtain ⟨s', reads, adds, after⟩ := yields s resting before
  exact ⟨s', reads, adds, weaker _ after⟩

theorem Yields.strengthen {p' : Marker → Prop} (yields : Yields p cs a q) (stronger : ∀ m, p' m → p m) :
    Yields p' cs a q := fun s resting before => yields s resting (stronger _ before)

/-- A paragraph keeps the marker before it. -/
theorem Yields.paragraph (cs : List Char) :
    Yields (· = .none) (Structure.element ['p'] (escape cs)) (Structure.lineOf .none cs) fun _ => True := by
  have yields := Yields.element (p := (· = .none)) (m := .none) "p" (by decide) (fun s resting before => ?_)
    (fun _ => rfl) cs
  · exact yields.weaken fun _ _ => trivial
  · rw [← before]
    exact resting.flush

/-- An item of a list without numbers has a bullet. -/
theorem Yields.item (cs : List Char) :
    Yields (fun _ => True) (Structure.element ['l', 'i'] (escape cs)) (Structure.lineOf .bullet cs) fun _ => True := by
  have yields := Yields.element (p := fun _ => True) (m := .bullet) "li" (by decide)
    (fun _ resting _ => resting.item) (fun _ => rfl) cs
  exact yields.weaken fun _ _ => trivial

/-- A heading that is not blank uses its marker up. -/
theorem Yields.heading {level : Nat} (deep : 1 ≤ level) (shown : ∃ c ∈ cs, isBlank c = false) :
    Yields (fun _ => True) (Structure.element ('h' :: Literal.intText (min (level : Int) Structure.deepest)) (escape cs))
      [⟨.heading (min level 6), collapse cs⟩] (· = .none) := by
  have tag : ∃ tag : String, tag.toList = 'h' :: Literal.intText (min (level : Int) Structure.deepest) ∧
      (Event.start tag).isPlain = true ∧ Role.ofTag tag = .heading (min level 6) := by
    have cast : min (level : Int) Structure.deepest = ((min level 6 : Nat) : Int) := by
      show min (level : Int) 6 = _
      omega
    rw [cast]
    have few : 1 ≤ min level 6 ∧ min level 6 ≤ 6 := by omega
    generalize min level 6 = n at few
    obtain rfl | rfl | rfl | rfl | rfl | rfl : n = 1 ∨ n = 2 ∨ n = 3 ∨ n = 4 ∨ n = 5 ∨ n = 6 := by omega
    · exact ⟨"h1", by decide, by decide, by decide⟩
    · exact ⟨"h2", by decide, by decide, by decide⟩
    · exact ⟨"h3", by decide, by decide, by decide⟩
    · exact ⟨"h4", by decide, by decide, by decide⟩
    · exact ⟨"h5", by decide, by decide, by decide⟩
    · exact ⟨"h6", by decide, by decide, by decide⟩
  obtain ⟨tag, name, plain, meaning⟩ := tag
  have filled := collapse_ne_nil shown
  have yields := Yields.element (p := fun _ => True) (m := .heading (min level 6)) tag plain
    (fun s resting _ => by rw [meaning, start, resting.flush]) (fun s => by rw [meaning]; rfl) cs
  rw [name, Structure.lineOf, if_neg (by simpa using filled)] at yields
  exact yields.weaken fun m after => after filled

/-- An item with other elements: they put their own markers in the place of its bullet. -/
theorem Yields.container (inner : Yields (fun _ => True) cs a fun _ => True) :
    Yields (fun _ => True) (Structure.element ['l', 'i'] cs) a fun _ => True := by
  intro s resting before
  have opened : Resting (s.step (.start "li")) ∧ (s.step (.start "li")).lines = s.lines ∧
      (s.step (.start "li")).lists = s.lists := by
    rw [resting.item]
    exact ⟨⟨by simp, resting.shown, resting.bulleted⟩, rfl, rfl⟩
  obtain ⟨rested, lines, lists⟩ := opened
  obtain ⟨t, reads, adds, -⟩ := inner _ rested trivial
  refine ⟨t.step (.stop "li"), ?_, ?_, trivial⟩
  · have read := ((Reads.event (e := .start "li") (by decide) s).append reads).append
      (Reads.event (e := .stop "li") (by decide) t)
    simpa [Structure.element, Event.print] using read
  · have step : t.step (.stop "li") = { t with buffer := [] } := adds.resting.flush
    rw [step]
    exact ⟨adds.lines.trans (by rw [lines]), adds.lists.trans lists,
      ⟨by simp, adds.resting.shown, adds.resting.bulleted⟩⟩

/-- A list without numbers around its items. -/
theorem Yields.list (inner : Yields (fun _ => True) cs a fun _ => True) :
    Yields (fun _ => True) (Structure.lines ["<ul>".toList, cs, "</ul>".toList]) a fun _ => True := by
  have between := (Yields.newline.append inner).append (Yields.newline (p := fun _ => True))
  intro s resting before
  have step : s.step (.start "ul") = { s with buffer := [], lists := ⟨false, 0⟩ :: s.lists } := by
    change { s.flush with lists := ⟨false, 0⟩ :: s.lists } = _
    rw [resting.flush]
  have opened : Resting (s.step (.start "ul")) := by
    rw [step]
    refine ⟨by simp, resting.shown, fun l member => ?_⟩
    obtain rfl | outer := List.mem_cons.mp member
    · rfl
    · exact resting.bulleted l outer
  obtain ⟨t, reads, adds, -⟩ := between _ opened trivial
  refine ⟨t.step (.stop "ul"), ?_, ?_, trivial⟩
  · have read := ((Reads.event (e := .start "ul") (by decide) s).append reads).append
      (Reads.event (e := .stop "ul") (by decide) t)
    simpa [Structure.lines, joinWith, Event.print] using read
  · have closed : t.step (.stop "ul") = { t with buffer := [], lists := t.lists.tail } := by
      change { t.flush with lists := t.lists.tail } = _
      rw [adds.resting.flush]
    have lists : t.lists = ⟨false, 0⟩ :: s.lists := by rw [adds.lists, step]
    rw [closed, lists]
    refine ⟨?_, rfl, by simp, adds.resting.shown, resting.bulleted⟩
    have lines := adds.lines
    rw [step] at lines
    simpa using lines

end Flattening

/-! ## Trees -/

namespace Structure

open Flattening

/-- Whether a value is shown as a text of its own. -/
def isScalar : Value → Bool
  | .record _ | .list _ => false
  | _ => true

section

variable {v : Value} (scalar : isScalar v = true)
include scalar

theorem toHypertext_scalar (level : Int) : toHypertext level v = element ['p'] (scalarText v) := by
  cases v <;> first | rfl | cases scalar

theorem itemsToHypertext_scalar (level : Int) (xs : List Value) :
    itemsToHypertext level (v :: xs) = element ['l', 'i'] (scalarText v) :: itemsToHypertext level xs := by
  cases v <;> first | rfl | cases scalar

theorem outline_scalar (level : Nat) : outline level v = lineOf .none (insertText v) := by
  cases v <;> first | rfl | cases scalar

theorem outlineItems_scalar (level : Nat) (xs : List Value) :
    outlineItems level (v :: xs) = lineOf .bullet (insertText v) ++ outlineItems level xs := by
  cases v <;> first | rfl | cases scalar

theorem wording_scalar : wording v = insertText v := by
  cases v <;> first | rfl | cases scalar

end

/-- What is not a scalar puts its own marker in the place of the one before it. -/
theorem exists_of_not_isScalar {v : Value} (composed : isScalar v = false) :
    (∃ fields, v = .record fields) ∨ ∃ xs, v = .list xs := by
  cases v <;> first | exact .inl ⟨_, rfl⟩ | exact .inr ⟨_, rfl⟩ | cases composed

theorem isScalar_of {v : Value} (noRecord : ∀ fields, v ≠ .record fields) (noList : ∀ xs, v ≠ .list xs) :
    isScalar v = true := by
  cases composed : isScalar v with
  | true => rfl
  | false =>
    obtain ⟨fields, same⟩ | ⟨xs, same⟩ := exists_of_not_isScalar composed
    · exact absurd same (noRecord fields)
    · exact absurd same (noList xs)

/-- A key that has words. -/
def Titled (k : String) : Prop := ∃ c ∈ humanize k.toList, isBlank c = false

theorem yields_tree :
    (∀ (level : Int) (v : Value), ∀ n : Nat, level = n → 1 ≤ n → (∀ k ∈ keys v, Titled k) →
      Yields (fun m => isScalar v = true → m = .none) (toHypertext level v) (outline n v) fun _ => True) ∧
    (∀ (level : Int) (xs : List Value), ∀ n : Nat, level = n → 1 ≤ n → (∀ k ∈ keysOfItems xs, Titled k) →
      Yields (fun _ => True) (lines (itemsToHypertext level xs)) (outlineItems n xs) fun _ => True) ∧
    (∀ (level : Int) (fields : List (String × Value)), ∀ n : Nat, level = n → 1 ≤ n →
      (∀ k ∈ keysOfEntries fields, Titled k) →
      Yields (fun _ => True) (lines (entriesToHypertext level fields)) (outlineEntries n fields) fun _ => True) := by
  apply toHypertext.mutual_induct
  case case1 =>
    intro level fields ih n same deep titled
    exact (ih n same deep titled).strengthen fun _ _ => trivial
  case case2 =>
    intro level xs ih n same deep titled
    exact (Yields.list (ih n same deep titled)).strengthen fun _ _ => trivial
  case case3 =>
    intro level v noRecord noList n same deep titled
    have scalar := isScalar_of noRecord noList
    rw [toHypertext_scalar scalar, outline_scalar scalar]
    exact (Yields.paragraph (insertText v)).strengthen fun _ before => before scalar
  case case4 =>
    intro level n same deep titled
    exact .nil
  case case5 =>
    intro level x xs inner ih n same deep titled
    rw [keysOfItems, List.forall_mem_append] at titled
    have rest := ih n same deep titled.2
    cases scalar : isScalar x with
    | true =>
      rw [itemsToHypertext_scalar scalar, outlineItems_scalar scalar]
      exact (Yields.item (insertText x)).lines_cons rest
    | false =>
      have next : level + 1 = ((n + 1 : Nat) : Int) := by omega
      obtain ⟨fields, rfl⟩ | ⟨ys, rfl⟩ := exists_of_not_isScalar scalar
      · have here := inner (n + 1) next (by omega) titled.1
        exact (here.strengthen fun _ _ => by simp [isScalar]).container.lines_cons rest
      · have here := inner (n + 1) next (by omega) titled.1
        exact (here.strengthen fun _ _ => by simp [isScalar]).container.lines_cons rest
  case case6 =>
    intro level n same deep titled
    exact .nil
  case case7 =>
    intro level k v rest inner ih n same deep titled
    rw [keysOfEntries, List.cons_append, List.forall_mem_cons, List.forall_mem_append] at titled
    obtain ⟨here, within, later⟩ := titled
    have value : Yields (· = .none) _ _ _ :=
      (inner (n + 1) (by omega) (by omega) within).strengthen fun _ before _ => before
    have entries := value.lines_cons (ih n same deep later)
    subst same
    exact (Yields.heading deep here).lines_cons entries

/-- The words of an outline are those of its tree. -/
theorem inked_outline :
    (∀ (n : Nat) (v : Value), inked ((outline n v).flatMap Line.body) = inked (wording v)) ∧
    (∀ (n : Nat) (xs : List Value), inked ((outlineItems n xs).flatMap Line.body) = inked (wordingOfItems xs)) ∧
    ∀ (n : Nat) (fields : List (String × Value)),
      inked ((outlineEntries n fields).flatMap Line.body) = inked (wordingOfEntries fields) := by
  have line (m : Marker) (cs : List Char) : inked ((lineOf m cs).flatMap Line.body) = inked cs := by
    rw [← inked_collapse cs, lineOf]
    split
    · rename_i blank
      rw [List.isEmpty_iff.mp blank]
      rfl
    · simp
  apply outline.mutual_induct
  case case1 => exact fun n fields ih => ih
  case case2 => exact fun n xs ih => ih
  case case3 =>
    intro n v noRecord noList
    have scalar := isScalar_of noRecord noList
    rw [outline_scalar scalar, wording_scalar scalar, line]
  case case4 => exact fun n => rfl
  case case5 =>
    intro n x xs inner ih
    rw [wordingOfItems, inked_append, ← ih]
    cases scalar : isScalar x with
    | true => rw [outlineItems_scalar scalar, List.flatMap_append, inked_append, line, wording_scalar scalar]
    | false =>
      obtain ⟨fields, rfl⟩ | ⟨ys, rfl⟩ := exists_of_not_isScalar scalar <;>
        rw [outlineItems, List.flatMap_append, inked_append, inner]
  case case6 => exact fun n => rfl
  case case7 =>
    intro n k v rest inner ih
    rw [outlineEntries, wordingOfEntries]
    simp only [List.cons_append, List.flatMap_cons, List.flatMap_append, inked_append, inked_collapse, inner, ih]
    simp

/-- The hypertext of a tree comes down to the lines of its outline, if each key has words. All words of the tree are in
them, once and in its order. -/
theorem ofHypertext_toHypertext {v : Value} (titled : ∀ k ∈ keys v, ∃ c ∈ humanize k.toList, isBlank c = false) :
    Line.ofHypertext (toHypertext 2 v) = .ok (outline 2 v) ∧
      inked ((outline 2 v).flatMap Line.body) = inked (wording v) := by
  refine ⟨?_, inked_outline.1 2 v⟩
  have rested : Resting {} := ⟨by simp, rfl, by simp⟩
  obtain ⟨s, reads, adds, -⟩ := yields_tree.1 2 v 2 rfl (by omega) titled {} rested fun _ => rfl
  rw [reads.ofHypertext, adds.resting.flush, adds.lines]
  rfl

/-- A scalar that looks like markup, an empty item, and an item with a key of its own. -/
theorem ofHypertext_toHypertext_markup :
    (Line.ofHypertext (toHypertext 2 (.record [("unitPrice", .text "<b> &amp;\n 'c'"),
        ("items", .list [.text "</li>", .none, .record [("x-y", .list [])]])]))).map (·.map fun l => String.ofList l.text) =
      .ok ["## Unit price", "<b> &amp; 'c'", "## Items", "- </li>", "#### X y"] := by
  have evaluated : (keys (.record [("unitPrice", .text "<b> &amp;\n 'c'"),
      ("items", .list [.text "</li>", .none, .record [("x-y", .list [])]])])).all
        (fun k => (humanize k.toList).any fun c => !isBlank c) = true := by decide +kernel
  have titled := List.all_eq_true.mp evaluated
  simp only [List.any_eq_true, Bool.not_eq_true'] at titled
  rw [(ofHypertext_toHypertext titled).1]
  decide +kernel

end Structure

end Letterpress
