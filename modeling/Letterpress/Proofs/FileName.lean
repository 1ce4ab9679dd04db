import Letterpress.FileName
import Letterpress.Proofs.Path
import Letterpress.Proofs.Text.Ascii

/-!
# Names as components of paths

A name that is made for a file is one component of a path and stays where it is put: it holds no separator, and it
stands neither for its own directory nor for the one above. Both kinds of names keep to one contract: what is made is
safe, and what is safe already stays as it is.

* `Path.IsComponent`: a name that is one component. `Path.resolve_join_component`: it leads one step down.
* `FileName.IsSafe`: a name in an alphabet, without a sign of the edge at either end.
* `FileName.Tidies`: the contract; `FileName.tidies_plain`, `FileName.tidies_segment`.
* `FileName.isComponent_segment`: the names that keep letters and numbers of all scripts are components.
-/

namespace Letterpress

open Text

/-! ## Components -/

namespace Path

/-- A name that is a single component of a path, below the directory that it is put in. -/
structure IsComponent (name : String) : Prop where
  filled : name ≠ ""
  ne_here : name ≠ "."
  ne_above : name ≠ ".."
  noSlash : '/' ∉ name.toList
  noBackslash : '\\' ∉ name.toList

variable {name : String}

/-- A component leads one step down from any directory. -/
theorem resolve_join_component (h : IsComponent name) (dir : String) :
    resolve (join dir name) = resolve dir ++ [name] := by
  have relative : isAbsolute name = false := by
    refine beq_eq_false_iff_ne.mpr fun first => h.noSlash ?_
    obtain ⟨_, behind⟩ := List.head?_eq_some_iff.mp first
    rw [behind]
    exact List.mem_cons_self
  have whole : splitBy (· == '/') name.toList = [name.toList] :=
    splitBy_of_none fun c mem => beq_eq_false_iff_ne.mpr fun slash => h.noSlash (slash ▸ mem)
  have stays : ¬(name.toList = [] ∨ name.toList = ['.']) := by
    rintro (empty | point)
    · exact h.filled (String.toList_injective empty)
    · exact h.ne_here (String.toList_injective point)
  have up : name.toList ≠ ['.', '.'] := fun points => h.ne_above (String.toList_injective points)
  rw [resolve_join, destination, relative, whole, resolve_eq, List.foldl_cons, List.foldl_nil, onward, if_neg stays,
    if_neg up, String.ofList_toList]
  rfl

end Path

namespace FileName

variable {name : String} {cs : List Char} {c : Char} {alphabet : Char → Bool} {default : String}

/-- Characters that part the components of a path or end its text. -/
def separators : List Char := ['/', '\\', '\x00']

theorem not_mem_of_separator (letters : ∀ c ∈ cs, isSegment c = true) (separator : c ∈ separators) : c ∉ cs := by
  have foreign : ∀ c ∈ separators, (!isSegment c) = true := List.all_eq_true.mp (by decide)
  intro mem
  have here := foreign c separator
  rw [letters c mem] at here
  cases here

/-- Characters of names separate nothing, and where one of them is no sign for an edge the name has a meaning of its
own. -/
theorem isComponent_of_chars (allowed : ∀ c ∈ name.toList, isSegment c = true)
    (inked : ∃ c ∈ name.toList, isEdge c = false) : Path.IsComponent name := by
  obtain ⟨c, member, inner⟩ := inked
  refine ⟨?_, ?_, ?_, not_mem_of_separator allowed (by decide), not_mem_of_separator allowed (by decide)⟩
  · rintro rfl
    cases member
  · rintro rfl
    obtain rfl : c = '.' := by simpa using member
    cases inner
  · rintro rfl
    obtain rfl : c = '.' := by simpa using member
    cases inner

/-! ## Trimming -/

theorem mem_trimBy {p : Char → Bool} (member : c ∈ trimBy p cs) : c ∈ cs := by
  rw [trimBy, trimRightBy, List.mem_reverse] at member
  have left := (List.dropWhile_sublist p).subset member
  rw [List.mem_reverse] at left
  exact (List.dropWhile_sublist p).subset left

theorem dropWhile_of_head {p : Char → Bool} (stops : ∃ c ∈ cs.head?, p c = false) : cs.dropWhile p = cs := by
  cases cs with
  | nil =>
    obtain ⟨_, none_, -⟩ := stops
    cases none_
  | cons c cs =>
    obtain ⟨_, ⟨⟩, stop⟩ := stops
    exact List.dropWhile_cons_of_neg (by simp [stop])

/-- Only what stands at the edges is taken off. -/
theorem trimBy_eq_self {p : Char → Bool} (start : ∃ c ∈ cs.head?, p c = false)
    (stop : ∃ c ∈ cs.getLast?, p c = false) : trimBy p cs = cs := by
  have right : cs.reverse.dropWhile p = cs.reverse := dropWhile_of_head (by rwa [List.head?_reverse])
  rw [trimBy, trimLeftBy, dropWhile_of_head start, trimRightBy, right, List.reverse_reverse]

/-- What stands behind a character that is not taken off does not reach it from the other end. -/
theorem trimRightBy_cons {p : Char → Bool} (stop : p c = false) (cs : List Char) :
    trimRightBy p (c :: cs) = c :: trimRightBy p cs := by
  have last : [c].dropWhile p = [c] := List.dropWhile_cons_of_neg (by simp [stop])
  rw [trimRightBy, trimRightBy, List.reverse_cons, List.dropWhile_append, last]
  split
  · rename_i empty
    rw [List.isEmpty_iff.mp empty]
    rfl
  · rw [List.reverse_append]
    rfl

/-- What is left after trimming begins and ends with characters that are not trimmed. -/
theorem edges_trimBy {p : Char → Bool} (left : trimBy p cs ≠ []) :
    (∃ c ∈ (trimBy p cs).head?, p c = false) ∧ ∃ c ∈ (trimBy p cs).getLast?, p c = false := by
  constructor
  · cases same : trimLeftBy p cs with
    | nil =>
      rw [trimBy, same] at left
      exact absurd rfl left
    | cons d ds =>
      have stop : p d = false := by
        have first := List.head?_dropWhile_not p cs
        rwa [show cs.dropWhile p = d :: ds from same] at first
      rw [trimBy, same, trimRightBy_cons stop]
      exact ⟨d, rfl, stop⟩
  · have filled : (trimLeftBy p cs).reverse.dropWhile p ≠ [] := by simpa [trimBy, trimRightBy] using left
    rw [trimBy, trimRightBy, List.getLast?_reverse, List.head?_eq_some_head filled]
    exact ⟨_, rfl, List.head_dropWhile_not p filled⟩

/-! ## Safe names -/

/-- A name in an alphabet that has characters of other kinds than points and hyphens at both ends. -/
structure IsSafe (alphabet : Char → Bool) (cs : List Char) : Prop where
  letters : ∀ c ∈ cs, alphabet c = true
  start : ∃ c ∈ cs.head?, isEdge c = false
  stop : ∃ c ∈ cs.getLast?, isEdge c = false

theorem IsSafe.ne_nil (h : IsSafe alphabet cs) : cs ≠ [] := by
  rintro rfl
  obtain ⟨_, none_, -⟩ := h.start
  cases none_

theorem IsSafe.inked (h : IsSafe alphabet cs) : ∃ c ∈ cs, isEdge c = false := by
  obtain ⟨c, first, inner⟩ := h.start
  exact ⟨c, List.mem_of_mem_head? first, inner⟩

theorem IsSafe.mono {wider : Char → Bool} (h : IsSafe alphabet cs) (all : ∀ c, alphabet c = true → wider c = true) :
    IsSafe wider cs := ⟨fun c mem => all c (h.letters c mem), h.start, h.stop⟩

theorem IsSafe.trimmed_eq (h : IsSafe alphabet cs) (default : String) : trimmed default cs = cs := by
  have same : trimBy isEdge cs = cs := trimBy_eq_self h.start h.stop
  simp only [trimmed, same, List.isEmpty_iff, if_neg h.ne_nil]

theorem isSafe_trimmed (letters : ∀ c ∈ cs, alphabet c = true) (otherwise : IsSafe alphabet default.toList) :
    IsSafe alphabet (trimmed default cs) := by
  unfold trimmed
  dsimp only
  split
  · exact otherwise
  · rename_i left
    obtain ⟨start, stop⟩ := edges_trimBy (mt List.isEmpty_iff.mpr left)
    exact ⟨fun c mem => letters c (mem_trimBy mem), start, stop⟩

/-! ## Names that are made -/

/-- What makes names makes safe ones, and leaves exactly those as they are that are safe. -/
structure Tidies (alphabet : Char → Bool) (make : List Char → List Char) : Prop where
  safe : ∀ cs, IsSafe alphabet (make cs)
  eq_self_iff : ∀ cs, make cs = cs ↔ IsSafe alphabet cs

/-- A name that is made from characters of an alphabet, by what changes no other text than one with foreign ones. -/
theorem Tidies.of_trimmed {clean : List Char → List Char} (otherwise : IsSafe alphabet default.toList)
    (letters : ∀ cs, ∀ c ∈ clean cs, alphabet c = true)
    (keeps : ∀ cs, (∀ c ∈ cs, alphabet c = true) → clean cs = cs) :
    Tidies alphabet fun cs => trimmed default (clean cs) where
  safe cs := isSafe_trimmed (letters cs) otherwise
  eq_self_iff cs := by
    constructor
    · intro same
      rw [← same]
      exact isSafe_trimmed (letters cs) otherwise
    · intro safe
      rw [keeps cs safe.letters, safe.trimmed_eq]

theorem Tidies.idem {make : List Char → List Char} (h : Tidies alphabet make) (cs : List Char) :
    make (make cs) = make cs := (h.eq_self_iff _).mpr (h.safe cs)

theorem isPlain_of_mem_squash {after : Bool} (mem : c ∈ squash after cs) : isPlain c = true := by
  induction cs generalizing after with
  | nil => cases mem
  | cons d ds ih =>
    rw [squash] at mem
    split at mem
    · rename_i here
      exact (List.mem_cons.mp mem).elim (fun same => same ▸ here) ih
    · split at mem
      · exact ih mem
      · rcases List.mem_cons.mp mem with rfl | later
        · rfl
        · exact ih later

theorem squash_of_plain (all : ∀ c ∈ cs, isPlain c = true) (after : Bool) : squash after cs = cs := by
  induction cs generalizing after with
  | nil => rfl
  | cons c cs ih =>
    obtain ⟨here, later⟩ := List.forall_mem_cons.mp all
    rw [squash, if_pos here, ih later]

theorem tidies_plain : Tidies isPlain plain :=
  .of_trimmed ⟨List.all_eq_true.mp (by decide), ⟨'d', rfl, rfl⟩, 't', rfl, rfl⟩ (fun _ _ => isPlain_of_mem_squash)
    fun _ all => squash_of_plain all false

theorem tidies_segment : Tidies isSegment segment := by
  refine .of_trimmed ⟨List.all_eq_true.mp (by decide), ⟨'u', rfl, rfl⟩, 'n', rfl, rfl⟩ (fun cs c mem => ?_)
    fun cs all => ?_
  · obtain ⟨d, -, rfl⟩ := List.mem_map.mp mem
    split
    · assumption
    · rfl
  · exact (List.map_congr_left fun c mem => if_pos (all c mem)).trans (List.map_id _)

/-! ## Names in paths -/

theorem isSegment_of_isAsciiAlnum (plain : isAsciiAlnum c = true) : isSegment c = true :=
  ascii_induction (p := fun c => isAsciiAlnum c = true → isSegment c = true) (by decide) (lt_of_isAsciiAlnum plain)
    plain

theorem isSegment_of_isPlain (plain : isPlain c = true) : isSegment c = true := by
  simp only [isPlain, Bool.or_eq_true] at plain
  rcases plain with (letter | edge) | low
  · exact isSegment_of_isAsciiAlnum letter
  · simp [isSegment, edge]
  · simp [isSegment, low]

/-- A plain name is a name of the wider kind too. -/
theorem segment_plain (cs : List Char) : segment (plain cs) = plain cs :=
  (tidies_segment.eq_self_iff _).mpr ((tidies_plain.safe cs).mono fun _ => isSegment_of_isPlain)

theorem isSegment_of_isHex (digit : isHex c = true) : isSegment c = true :=
  ascii_induction (p := fun c => isHex c = true → isSegment c = true) (by decide) (lt_of_isHex digit) digit

/-- The characters of digits before a hyphen and a name, and of whatever follows. -/
theorem isSegment_of_mem_marked {mark behind : String} (digits : ∀ c ∈ mark.toList, isHex c = true) (cs : List Char)
    (allowed : ∀ c ∈ behind.toList, isSegment c = true)
    (mem : c ∈ (mark ++ "-" ++ String.ofList (segment cs) ++ behind).toList) : isSegment c = true := by
  simp only [String.toList_append, String.toList_ofList, List.mem_append] at mem
  rcases mem with ((found | found) | found) | found
  · exact isSegment_of_isHex (digits c found)
  · obtain rfl : c = '-' := by simpa using found
    rfl
  · exact (tidies_segment.safe cs).letters c found
  · exact allowed c found

/-- Digits before a hyphen and a name, and whatever follows. -/
theorem isComponent_marked {mark behind : String} (digits : ∀ c ∈ mark.toList, isHex c = true) (cs : List Char)
    (allowed : ∀ c ∈ behind.toList, isSegment c = true) :
    Path.IsComponent (mark ++ "-" ++ String.ofList (segment cs) ++ behind) := by
  obtain ⟨c, member, inner⟩ := (tidies_segment.safe cs).inked
  exact isComponent_of_chars (fun d => isSegment_of_mem_marked digits cs allowed) ⟨c, by simp [member], inner⟩

end FileName

end Letterpress
