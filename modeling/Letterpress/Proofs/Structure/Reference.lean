import Letterpress.Proofs.Context.Route
import Letterpress.Rendering

/-!
# References in a tree

The texts of a tree fall into characters and references. A reference whose path leads to a value is replaced by the text
of the value, one that leads nowhere stays as it is written; a tree fails as a whole if it has a reference whose path
trips.

* `Structure.pieces_source`: the pieces of a text make it up.
* `Structure.filled`: a tree with its references replaced.
* `Structure.substitute_outcome`: what becomes of a tree.
* `Structure.references_settled`: what becomes of a path, of a reference and of structured content.
-/

namespace Letterpress.Structure

open Text

/-! ## Pieces -/

/-- A piece as it is written. -/
def Piece.source : Piece → List Char
  | .literal x => [x]
  | .reference path => '$' :: '\x7b' :: path ++ ['\x7d']

theorem eq_of_referenceBody? {cs body rest : List Char} (found : referenceBody? cs = some (body, rest)) :
    cs = body ++ '\x7d' :: rest := by
  have whole : cs.takeWhile (· != '\x7d') ++ cs.dropWhile (· != '\x7d') = cs := List.takeWhile_append_dropWhile
  have behind : cs.drop (cs.takeWhile (· != '\x7d')).length = cs.dropWhile (· != '\x7d') := by
    have cut (before after : List Char) : (before ++ after).drop before.length = after := List.drop_left
    rw [← cut (cs.takeWhile (· != '\x7d')) (cs.dropWhile (· != '\x7d')), whole]
  unfold referenceBody? at found
  simp only [behind] at found
  split at found
  · rename_i c rest' dropped
    split at found
    · cases found
    · cases found
      have closing : c = '\x7d' := by
        have stops := List.head_dropWhile_not (· != '\x7d') (l := cs) (by rw [dropped]; exact List.cons_ne_nil c rest)
        simpa [dropped] using stops
      rw [closing] at dropped
      rw [← dropped, whole]
  · cases found

/-- The pieces of a text make it up. -/
theorem pieces_source {n : Nat} {cs : List Char} (enough : cs.length ≤ n) : (pieces n cs).flatMap Piece.source = cs := by
  fun_induction pieces n cs with
  | case1 cs =>
    have empty : cs = [] := List.length_eq_zero_iff.mp (by omega)
    rw [empty]
    rfl
  | case2 => rfl
  | case3 n cs body rest found ih =>
    have whole := eq_of_referenceBody? found
    have shorter : cs.length = body.length + (rest.length + 1) := by simp [whole]
    rw [List.flatMap_cons, ih (by simp only [List.length_cons] at enough; omega), Piece.source, whole]
    simp
  | case4 n cs none_ ih =>
    rw [List.flatMap_cons, ih (by simpa using enough)]
    rfl
  | case5 n c cs other ih =>
    rw [List.flatMap_cons, ih (by simpa using enough)]
    rfl

/-! ## What becomes of a tree -/

/-- A piece with a reference replaced, where its path leads to a value. -/
def Piece.filled (c : Context) : Piece → List Char
  | .literal x => [x]
  | .reference path =>
    match c.resolvePath path with
    | .ok (some v) => insertText v
    | _ => (Piece.reference path).source

/-- The path of a reference. -/
def Piece.path? : Piece → Option (List Char)
  | .literal _ => none
  | .reference path => some path

mutual

/-- The paths of all references in the texts of a tree. -/
def paths : Value → List (List Char)
  | .text s => (pieces s.toList.length s.toList).filterMap Piece.path?
  | .list xs => pathsOfItems xs
  | .record fields => pathsOfFields fields
  | _ => []

def pathsOfItems : List Value → List (List Char)
  | [] => []
  | x :: xs => paths x ++ pathsOfItems xs

def pathsOfFields : List (String × Value) → List (List Char)
  | [] => []
  | (_, x) :: rest => paths x ++ pathsOfFields rest

end

mutual

/-- A tree with the references in its texts replaced. -/
def filled (c : Context) : Value → Value
  | .text s => .text (String.ofList ((pieces s.toList.length s.toList).flatMap (Piece.filled c)))
  | .list xs => .list (filledItems c xs)
  | .record fields => .record (filledFields c fields)
  | v => v

def filledItems (c : Context) : List Value → List Value
  | [] => []
  | x :: xs => filled c x :: filledItems c xs

def filledFields (c : Context) : List (String × Value) → List (String × Value)
  | [] => []
  | (k, x) :: rest => (k, filled c x) :: filledFields c rest

end

/-- A computation comes to a result, unless one of the paths trips. -/
inductive Settles {α : Type} (c : Context) (ps : List (List Char)) (y : α) : Except Fault α → Prop where
  | tripped (p : List Char) (member : p ∈ ps) (trips : c.Trips p) : Settles c ps y (.error .badValue)
  | settled (smooth : ∀ p ∈ ps, ¬c.Trips p) : Settles c ps y (.ok y)

namespace Settles

variable {α β : Type} {c : Context} {ps qs : List (List Char)} {x : Except Fault α} {y : α} {f : α → Except Fault β} {z : β}

theorem pure (c : Context) (y : α) : Settles c [] y (.ok y) := .settled fun _ h => nomatch h

theorem bind (first : Settles c ps y x) (rest : Settles c qs z (f y)) : Settles c (ps ++ qs) z (x >>= f) := by
  cases first with
  | tripped p member trips => exact .tripped p (List.mem_append_left qs member) trips
  | settled smooth =>
    change Settles c (ps ++ qs) z (f y)
    generalize f y = r at rest
    cases rest with
    | tripped p member trips => exact .tripped p (List.mem_append_right ps member) trips
    | settled smooth' => exact .settled fun p member => (List.mem_append.mp member).elim (smooth p) (smooth' p)

theorem map (h : Settles c ps y x) (f : α → β) : Settles c ps (f y) (x >>= fun y => .ok (f y)) := by
  have both := h.bind (f := fun y => .ok (f y)) (.pure c (f y))
  rwa [List.append_nil] at both

end Settles

variable {c : Context}

theorem ofPieces_settles (c : Context) (ps : List Piece) :
    Settles c (ps.filterMap Piece.path?) (ps.flatMap (Piece.filled c)) (ofPieces c ps) := by
  induction ps with
  | nil => exact .pure c []
  | cons p ps ih =>
    cases p with
    | literal x => exact ih.map (x :: ·)
    | reference path =>
      -- what stands for the reference, then the rest
      have onward {cs : List Char} (smooth : ¬c.Trips path) (here : Piece.filled c (.reference path) = cs) :
          Settles c (path :: ps.filterMap Piece.path?) (Piece.filled c (.reference path) ++ ps.flatMap (Piece.filled c))
            (ofPieces c ps >>= fun ds => .ok (cs ++ ds)) := by
        have piece : Settles c [path] cs (.ok cs) := .settled fun p member => List.mem_singleton.mp member ▸ smooth
        rw [here]
        exact piece.bind (f := fun cs => ofPieces c ps >>= fun ds => .ok (cs ++ ds)) (ih.map (cs ++ ·))
      have outcome := c.resolvePath_outcome path
      rw [List.flatMap_cons, ofPieces]
      generalize found : c.resolvePath path = r at outcome
      cases outcome with
      | stumbled trips => exact .tripped path (List.mem_cons_self ..) trips
      | found smooth there => exact onward smooth (by rw [Piece.filled, found])
      | missing smooth nowhere => exact onward smooth (by rw [Piece.filled, found]; rfl)

theorem substitute_settles (c : Context) :
    (∀ v, Settles c (paths v) (filled c v) (substitute c v)) ∧
      (∀ fields, Settles c (pathsOfFields fields) (filledFields c fields) (substituteFields c fields)) ∧
      ∀ xs, Settles c (pathsOfItems xs) (filledItems c xs) (substituteAll c xs) := by
  apply substitute.mutual_induct
  case case1 =>
    intro s
    exact (ofPieces_settles c (pieces s.toList.length s.toList)).map fun cs => Value.text (String.ofList cs)
  case case2 => exact fun xs ih => ih.map Value.list
  case case3 => exact fun fields ih => ih.map Value.record
  case case4 =>
    intro v noText noList noRecord
    cases v <;> first | exact .pure c _ | simp_all
  case case5 => exact .pure c []
  case case6 => exact fun x xs first ih => first.bind (ih.map (filled c x :: ·))
  case case7 => exact .pure c []
  case case8 => exact fun k x rest first ih => first.bind (ih.map ((k, filled c x) :: ·))

/-- What stands for a reference whose path does not trip: the text of the value where it leads, or the reference as it is
written. -/
theorem filled_reference {path : List Char} (smooth : ¬c.Trips path) :
    (∃ v, c.Leads path v ∧ Piece.filled c (.reference path) = insertText v) ∨
      (∀ v, ¬c.Leads path v) ∧ Piece.filled c (.reference path) = (Piece.reference path).source := by
  have outcome := c.resolvePath_outcome path
  rw [Piece.filled]
  generalize c.resolvePath path = r at outcome
  cases outcome with
  | stumbled trips => exact absurd trips smooth
  | found _ there => exact .inl ⟨_, there, rfl⟩
  | missing _ nowhere => exact .inr ⟨nowhere, rfl⟩

/-- What becomes of paths and of the references that have them. A path leads to a value, with a default and without;
where it leads nowhere, there is the default, or a fault that names the path. A text is its pieces, in which a reference
is replaced by the text of its value or stays as it is written, and structured content is rendered with its texts filled
like that. There is a fault of another kind exactly where a path trips: it leads to a sequence, with a segment of digits
that is not read as an index, since one of them is no decimal digit or there are too many. -/
theorem references_settled (c : Context) :
    (∀ path, c.Resolves path) ∧
      (∀ cs, (pieces cs.length cs).flatMap Piece.source = cs) ∧
      (∀ path, ¬c.Trips path →
        (∃ v, c.Leads path v ∧ Piece.filled c (.reference path) = insertText v) ∨
          (∀ v, ¬c.Leads path v) ∧ Piece.filled c (.reference path) = (Piece.reference path).source) ∧
      ∀ id content tree, ofContent content = .ok tree →
        (∃ p ∈ paths tree, c.Trips p) ∧
            Rendered.structured id c content = .error (.rendering id (.fault .badValue)) ∨
          (∀ p ∈ paths tree, ¬c.Trips p) ∧ Rendered.structured id c content =
            .ok ⟨.structured, String.ofList (toHypertext 2 (filled c tree)), none, filled c tree⟩ := by
  refine ⟨c.resolves, fun cs => pieces_source (Nat.le_refl _), fun path => filled_reference, ?_⟩
  intro id content tree read
  have settles := (substitute_settles c).1 tree
  rw [Rendered.structured, read, show (Except.ok tree).bind (substitute c) = substitute c tree from rfl]
  generalize substitute c tree = r at settles
  cases settles with
  | tripped p member trips => exact .inl ⟨⟨p, member, trips⟩, rfl⟩
  | settled smooth => exact .inr ⟨smooth, rfl⟩

/-- A list with a single item. -/
def oneItem : Context := ⟨[("items", .list [.text "x"])], default, []⟩

theorem references_settled_items :
    ∃ html, Rendered.structured "t" oneItem (.list [.text "$\x7bitems.0\x7d", .text "$\x7bitems.1\x7d"]) =
      .ok ⟨.structured, html, none, .list [.text "x", .text "$\x7bitems.1\x7d"]⟩ := by
  rcases (references_settled oneItem).2.2.2 "t" (.list [.text "$\x7bitems.0\x7d", .text "$\x7bitems.1\x7d"]) _ rfl
    with ⟨-, fails⟩ | ⟨-, rendered⟩
  · have works : (Rendered.structured "t" oneItem
        (.list [.text "$\x7bitems.0\x7d", .text "$\x7bitems.1\x7d"])).toOption.isSome = true := rfl
    rw [fails] at works
    cases works
  · exact ⟨_, rendered⟩

/-- A superscript counts as a digit, but not as a number: a path with one trips over a list, and structured content with
a reference to it is not rendered. -/
theorem superscript_trips :
    oneItem.valueAt "items.\u00b2".toList (.text "?") = .error .badValue ∧
      oneItem.requiredAt "items.\u00b2".toList = .error .badValue ∧
      Rendered.structured "t" oneItem (.list [.text "$\x7bitems.\u00b2\x7d"]) =
        .error (.rendering "t" (.fault .badValue)) :=
  ⟨rfl, rfl, rfl⟩

end Letterpress.Structure
