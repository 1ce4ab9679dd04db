import Letterpress.FileSystem
import Letterpress.Proofs.Text.Splitting

/-!
# Where paths lead

A path read from left to right, piece by piece between its slashes: an empty piece and a point stay where they are, two
points go up, which the root does not, and any other name goes down.

* `Path.destination`: the place that a path leads to from another.
* `Path.IsPart`: a name that stands between slashes and is kept.
* `Path.components_ofComponents`: what is put together to a path is what the path is taken apart to.
* `Path.resolve_join`: a path that is seen from a directory leads where it leads to from the place of the directory.
-/

namespace Letterpress.Path

open Text

/-- Where a piece between two slashes leads to. -/
def onward (here : Place) (piece : List Char) : Place :=
  if piece = [] ∨ piece = ['.'] then here
  else if piece = ['.', '.'] then here.dropLast
  else here ++ [String.ofList piece]

/-- The place that a path leads to from another. A path that begins with a slash leads there from anywhere. -/
def destination (here : Place) (p : String) : Place :=
  (splitBy (· == '/') p.toList).foldl onward (if isAbsolute p then [] else here)

/-- A name that stands between slashes and is no point. -/
structure IsPart (name : String) : Prop where
  filled : name ≠ ""
  ne_here : name ≠ "."
  noSlash : '/' ∉ name.toList

/-! ## Taking apart and putting together -/

theorem isPart_of_mem_components {p name : String} (member : name ∈ components p) : IsPart name := by
  obtain ⟨piece, kept, rfl⟩ := List.mem_map.mp member
  obtain ⟨between, named⟩ := List.mem_filter.mp kept
  have named : piece ≠ [] ∧ piece ≠ ['.'] := by simpa using named
  refine ⟨?_, ?_, ?_⟩
  · intro empty
    exact named.1 (by simpa using congrArg String.toList empty)
  · intro point
    exact named.2 (by simpa using congrArg String.toList point)
  · rw [String.toList_ofList]
    intro slash
    have other := not_cut_of_mem_splitBy between slash
    simp at other

/-- A component keeps its place. -/
theorem kept_of_isPart {parts : List String} (all : ∀ x ∈ parts, IsPart x) :
    (parts.map String.toList).filter (fun c => !(c.isEmpty || c == ['.'])) = parts.map String.toList := by
  refine List.filter_eq_self.mpr fun x member => ?_
  obtain ⟨name, found, rfl⟩ := List.mem_map.mp member
  have filled : name.toList ≠ [] := by simpa using (all name found).filled
  have ne_here : name.toList ≠ ['.'] := fun same => (all name found).ne_here (String.toList_injective same)
  simp [filled, ne_here]

theorem joinWith_eq_intercalate (sep : List Char) (xs : List (List Char)) : joinWith sep xs = sep.intercalate xs := by
  induction xs with
  | nil => rfl
  | cons x xs ih =>
    cases xs with
    | nil => simp [joinWith]
    | cons y ys => rw [joinWith, ih]; simp

theorem components_intercalate {parts : List String} (all : ∀ x ∈ parts, IsPart x) :
    components ("/".intercalate parts) = parts := by
  cases parts with
  | nil => rfl
  | cons first rest =>
    have text : ("/".intercalate (first :: rest)).toList = joinWith ['/'] ((first :: rest).map String.toList) := by
      rw [String.toList_intercalate, joinWith_eq_intercalate]
      rfl
    have pieces : splitBy (· == '/') ("/".intercalate (first :: rest)).toList = (first :: rest).map String.toList := by
      rw [text]
      refine splitBy_joinWith (List.cons_ne_nil _ _) fun x member => ?_
      obtain ⟨name, found, rfl⟩ := List.mem_map.mp member
      exact (all name found).noSlash
    rw [components, pieces, kept_of_isPart all, List.map_map]
    simp

/-- Slashes in front make no difference. -/
theorem components_slashes {lead : String} (slashes : ∀ c ∈ lead.toList, c = '/') (p : String) :
    components (lead ++ p) = components p := by
  rw [components, components, String.toList_append]
  generalize lead.toList = ls at slashes
  congr 1
  induction ls with
  | nil => rfl
  | cons c ls ih =>
    obtain ⟨rfl, later⟩ := List.forall_mem_cons.mp slashes
    have cut : splitBy (· == '/') ([] ++ '/' :: (ls ++ p.toList)) = [] :: splitBy (· == '/') (ls ++ p.toList) :=
      splitBy_append (by simp) (by simp)
    rw [List.cons_append, show '/' :: (ls ++ p.toList) = [] ++ '/' :: (ls ++ p.toList) from rfl, cut,
      List.filter_cons_of_neg (by simp), ih later]

theorem components_ofComponents {lead : String} (slashes : ∀ c ∈ lead.toList, c = '/') {parts : List String}
    (all : ∀ x ∈ parts, IsPart x) : components (ofComponents lead parts) = parts := by
  unfold ofComponents
  split
  · rename_i empty
    have none_ : parts = [] := by simp_all
    rw [none_]
    rfl
  · rw [components_slashes slashes, components_intercalate all]

theorem eq_slash_of_mem_lead {p : String} {c : Char} (member : c ∈ (lead p).toList) : c = '/' := by
  unfold lead at member
  split at member <;> simp_all

/-- A path that is seen from a directory has the components of both, unless it is absolute. -/
theorem components_join (dir p : String) :
    components (join dir p) = if isAbsolute p then components p else components dir ++ components p := by
  have normal (p : String) : components (normal p) = components p :=
    components_ofComponents (fun _ => eq_slash_of_mem_lead) fun _ => isPart_of_mem_components
  unfold join
  split
  · exact normal p
  · dsimp only
    split
    · rename_i empty
      rw [normal, List.isEmpty_iff.mp empty, List.append_nil]
    · refine components_ofComponents (fun _ => eq_slash_of_mem_lead) fun x member => ?_
      exact (List.mem_append.mp member).elim isPart_of_mem_components isPart_of_mem_components

/-! ## Going up and down -/

/-- Pieces that stay where they are can be left out. -/
theorem foldl_onward (here : Place) (pieces : List (List Char)) :
    pieces.foldl onward here = (pieces.filter fun c => !(c.isEmpty || c == ['.'])).foldl onward here := by
  induction pieces generalizing here with
  | nil => rfl
  | cons piece rest ih =>
    by_cases stays : piece = [] ∨ piece = ['.']
    · have dropped : (!(piece.isEmpty || piece == ['.'])) = false := by rcases stays with rfl | rfl <;> rfl
      rw [List.filter_cons, if_neg (Bool.eq_false_iff.mp dropped), List.foldl_cons, onward, if_pos stays, ih]
    · rw [List.filter_cons_of_pos (by simpa using stays), List.foldl_cons, List.foldl_cons, ih]

/-- The components that are done stand in reverse. -/
theorem climb_eq {names : List String} (all : ∀ x ∈ names, IsPart x) (done : List String) :
    climb done names = (names.map String.toList).foldl onward done.reverse := by
  induction names generalizing done with
  | nil => rfl
  | cons name rest ih =>
    obtain ⟨part, later⟩ := List.forall_mem_cons.mp all
    have filled : name.toList ≠ [] := by simpa using part.filled
    have ne_here : name.toList ≠ ['.'] := fun same => part.ne_here (String.toList_injective same)
    have moves : ¬(name.toList = [] ∨ name.toList = ['.']) := not_or.mpr ⟨filled, ne_here⟩
    rw [List.map_cons, List.foldl_cons, onward, if_neg moves]
    by_cases up : name = ".."
    · subst up
      have above : done.tail.reverse = done.reverse.dropLast := by simp
      rw [climb, ih later, if_pos (by decide), above]
    · have down : name.toList ≠ ['.', '.'] := fun same => up (String.toList_injective same)
      rw [climb, ih later, if_neg down, List.reverse_cons, String.ofList_toList]
      exact up

theorem foldl_components (here : Place) (p : String) :
    ((components p).map String.toList).foldl onward here = (splitBy (· == '/') p.toList).foldl onward here := by
  have pieces : (components p).map String.toList =
      (splitBy (· == '/') p.toList).filter fun c => !(c.isEmpty || c == ['.']) := by
    rw [components, List.map_map]
    exact (List.map_congr_left fun x _ => String.toList_ofList).trans (List.map_id _)
  rw [pieces, ← foldl_onward]

theorem resolve_eq (p : String) : resolve p = destination [] p := by
  rw [resolve, climb_eq fun _ => isPart_of_mem_components, foldl_components, destination]
  simp

/-- A path that is seen from a directory leads where it leads to from the place of the directory. -/
theorem resolve_join (dir p : String) : resolve (join dir p) = destination (destination [] dir) p := by
  rw [resolve, climb_eq fun _ => isPart_of_mem_components, components_join]
  split
  · rename_i absolute
    rw [foldl_components, destination, if_pos absolute, List.reverse_nil]
  · rename_i relative
    rw [List.map_append, List.foldl_append, foldl_components, foldl_components, destination, destination,
      if_neg relative]
    simp

end Letterpress.Path
