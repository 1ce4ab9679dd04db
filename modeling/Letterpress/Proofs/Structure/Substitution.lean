import Mathlib.Data.List.Forall2
import Mathlib.Data.List.TakeWhile
import Letterpress.Proofs.Structure.Reference

/-!
# Substitution in a tree

Substitution replaces the texts of a tree, each in one pass from the left, and leaves everything around them alone. What
comes of a text depends on the values at the ends of its paths and on nothing else.

* `Structure.texts`, `Structure.mapTexts`, `Structure.skeleton`: the texts of a tree, and the tree around them.
* `Structure.Cut`: the pieces of a text, without the procedure that finds them.
* `Structure.Piece.Becomes`, `Structure.TextBecomes`: what a piece and a text become.
* `Structure.substitute_done`: what a substitution comes to.
-/

namespace Letterpress.Structure

open Text

/-! ## The texts of a tree -/

mutual

/-- The texts of a tree, in the order in which they stand there. Keys are none of them. -/
def texts : Value → List String
  | .text s => [s]
  | .list xs => textsOfItems xs
  | .record fields => textsOfFields fields
  | _ => []

def textsOfItems : List Value → List String
  | [] => []
  | x :: xs => texts x ++ textsOfItems xs

def textsOfFields : List (String × Value) → List String
  | [] => []
  | (_, x) :: rest => texts x ++ textsOfFields rest

end

mutual

/-- A tree with a function applied to its texts. -/
def mapTexts (f : String → String) : Value → Value
  | .text s => .text (f s)
  | .list xs => .list (mapTextsOfItems f xs)
  | .record fields => .record (mapTextsOfFields f fields)
  | v => v

def mapTextsOfItems (f : String → String) : List Value → List Value
  | [] => []
  | x :: xs => mapTexts f x :: mapTextsOfItems f xs

def mapTextsOfFields (f : String → String) : List (String × Value) → List (String × Value)
  | [] => []
  | (k, x) :: rest => (k, mapTexts f x) :: mapTextsOfFields f rest

end

/-- A tree with its texts blank: its objects with their keys, the lengths of its arrays and all other scalars. -/
def skeleton (t : Value) : Value := mapTexts (fun _ => "") t

/-- A value that is no text and has nothing below it. -/
structure IsLeaf (v : Value) : Prop where
  no_text : ∀ s, v ≠ .text s
  no_list : ∀ xs, v ≠ .list xs
  no_record : ∀ fields, v ≠ .record fields

/-- Induction over a tree, from the items of its arrays and the fields of its objects. -/
theorem tree_induction {motive : Value → Prop} (text : ∀ s, motive (.text s))
    (list : ∀ xs, (∀ x ∈ xs, motive x) → motive (.list xs))
    (record : ∀ fields, (∀ f ∈ fields, motive f.2) → motive (.record fields))
    (leaf : ∀ v, IsLeaf v → motive v) (t : Value) : motive t := by
  refine texts.induct motive (fun fields => ∀ f ∈ fields, motive f.2) (fun xs => ∀ x ∈ xs, motive x) text list record
    (fun v noText noList noRecord => leaf v ⟨noText, noList, noRecord⟩) (fun x h => nomatch h) ?_ (fun f h => nomatch h)
    ?_ t
  · exact fun x xs first rest => List.forall_mem_cons.mpr ⟨first, rest⟩
  · exact fun k x fields first rest => List.forall_mem_cons.mpr ⟨first, rest⟩

section

variable (f g : String → String) (c : Context)

@[simp]
theorem textsOfItems_eq (xs : List Value) : textsOfItems xs = xs.flatMap texts := by
  induction xs with
  | nil => rfl
  | cons x xs ih => exact congrArg (texts x ++ ·) ih

@[simp]
theorem textsOfFields_eq (fields : Fields) : textsOfFields fields = fields.flatMap fun f => texts f.2 := by
  induction fields with
  | nil => rfl
  | cons field rest ih => exact congrArg (texts field.2 ++ ·) ih

@[simp]
theorem mapTextsOfItems_eq (xs : List Value) : mapTextsOfItems f xs = xs.map (mapTexts f) := by
  induction xs with
  | nil => rfl
  | cons x xs ih => exact congrArg (mapTexts f x :: ·) ih

@[simp]
theorem mapTextsOfFields_eq (fields : Fields) :
    mapTextsOfFields f fields = fields.map fun x => (x.1, mapTexts f x.2) := by
  induction fields with
  | nil => rfl
  | cons field rest ih => exact congrArg ((field.1, mapTexts f field.2) :: ·) ih

theorem texts_list (xs : List Value) : texts (.list xs) = xs.flatMap texts := textsOfItems_eq xs

theorem texts_record (fields : Fields) : texts (.record fields) = fields.flatMap fun f => texts f.2 :=
  textsOfFields_eq fields

theorem mapTexts_list (xs : List Value) : mapTexts f (.list xs) = .list (xs.map (mapTexts f)) :=
  congrArg Value.list (mapTextsOfItems_eq f xs)

theorem mapTexts_record (fields : Fields) :
    mapTexts f (.record fields) = .record (fields.map fun x => (x.1, mapTexts f x.2)) :=
  congrArg Value.record (mapTextsOfFields_eq f fields)

variable {v : Value}

theorem IsLeaf.texts_eq (leaf : IsLeaf v) : texts v = [] :=
  texts.eq_4 v leaf.no_text leaf.no_list leaf.no_record

theorem IsLeaf.mapTexts_eq (leaf : IsLeaf v) : mapTexts f v = v :=
  mapTexts.eq_4 f v leaf.no_text leaf.no_list leaf.no_record

theorem mapTexts_mapTexts (t : Value) : mapTexts g (mapTexts f t) = mapTexts (g ∘ f) t := by
  induction t using tree_induction with
  | text s => rfl
  | list xs ih => simpa [mapTexts_list] using ih
  | record fields ih => simpa [mapTexts_record] using fun k x => ih (k, x)
  | leaf v h => simp only [h.mapTexts_eq]

theorem mapTexts_id (t : Value) : mapTexts id t = t := by
  induction t using tree_induction with
  | text s => rfl
  | list xs ih =>
    have items : xs.map (mapTexts id) = xs := (List.map_congr_left ih).trans (List.map_id xs)
    rw [mapTexts_list, items]
  | record fields ih =>
    have entries : fields.map (fun x => (x.1, mapTexts id x.2)) = fields.map id :=
      List.map_congr_left fun x member => congrArg (x.1, ·) (ih x member)
    rw [mapTexts_record, entries, List.map_id]
  | leaf v h => exact h.mapTexts_eq id

theorem texts_mapTexts (t : Value) : texts (mapTexts f t) = (texts t).map f := by
  induction t using tree_induction with
  | text s => rfl
  | list xs ih =>
    rw [mapTexts_list, texts_list, texts_list, List.flatMap_map, List.map_flatMap]
    exact List.flatMap_congr ih
  | record fields ih =>
    rw [mapTexts_record, texts_record, texts_record, List.flatMap_map, List.map_flatMap]
    exact List.flatMap_congr ih
  | leaf v h => rw [h.mapTexts_eq, h.texts_eq, List.map_nil]

variable {f g} in
/-- Functions that agree on the texts of a tree do the same to it. -/
theorem mapTexts_congr {t : Value} (same : ∀ s ∈ texts t, f s = g s) : mapTexts f t = mapTexts g t := by
  induction t using tree_induction with
  | text s => exact congrArg Value.text (same s (List.mem_singleton_self s))
  | list xs ih =>
    rw [texts_list] at same
    rw [mapTexts_list, mapTexts_list]
    refine congrArg Value.list (List.map_congr_left fun x member => ?_)
    exact ih x member fun s there => same s (List.mem_flatMap.mpr ⟨x, member, there⟩)
  | record fields ih =>
    rw [texts_record] at same
    rw [mapTexts_record, mapTexts_record]
    refine congrArg Value.record (List.map_congr_left fun x member => Prod.ext rfl ?_)
    exact ih x member fun s there => same s (List.mem_flatMap.mpr ⟨x, member, there⟩)
  | leaf v h => rw [h.mapTexts_eq, h.mapTexts_eq]

/-! ## Substitution as a map -/

/-- A text with its references replaced. -/
def filledText (s : String) : String :=
  String.ofList ((pieces s.toList.length s.toList).flatMap (Piece.filled c))

theorem filledItems_eq (xs : List Value) : filledItems c xs = xs.map (filled c) := by
  induction xs with
  | nil => rfl
  | cons x xs ih => exact congrArg (filled c x :: ·) ih

theorem filledFields_eq (fields : Fields) : filledFields c fields = fields.map fun x => (x.1, filled c x.2) := by
  induction fields with
  | nil => rfl
  | cons field rest ih => exact congrArg ((field.1, filled c field.2) :: ·) ih

theorem pathsOfItems_eq (xs : List Value) : pathsOfItems xs = xs.flatMap paths := by
  induction xs with
  | nil => rfl
  | cons x xs ih => exact congrArg (paths x ++ ·) ih

theorem pathsOfFields_eq (fields : Fields) : pathsOfFields fields = fields.flatMap fun f => paths f.2 := by
  induction fields with
  | nil => rfl
  | cons field rest ih => exact congrArg (paths field.2 ++ ·) ih

theorem filled_list (xs : List Value) : filled c (.list xs) = .list (xs.map (filled c)) :=
  congrArg Value.list (filledItems_eq c xs)

theorem filled_record (fields : Fields) :
    filled c (.record fields) = .record (fields.map fun x => (x.1, filled c x.2)) :=
  congrArg Value.record (filledFields_eq c fields)

theorem paths_list (xs : List Value) : paths (.list xs) = xs.flatMap paths := pathsOfItems_eq xs

theorem paths_record (fields : Fields) : paths (.record fields) = fields.flatMap fun f => paths f.2 :=
  pathsOfFields_eq fields

theorem filled_eq (t : Value) : filled c t = mapTexts (filledText c) t := by
  induction t using tree_induction with
  | text s => rfl
  | list xs ih =>
    rw [filled_list, mapTexts_list]
    exact congrArg Value.list (List.map_congr_left ih)
  | record fields ih =>
    rw [filled_record, mapTexts_record]
    exact congrArg Value.record (List.map_congr_left fun x member => Prod.ext rfl (ih x member))
  | leaf v h => rw [h.mapTexts_eq, filled.eq_4 c v h.no_text h.no_list h.no_record]

theorem paths_eq (t : Value) :
    paths t = (texts t).flatMap fun s => (pieces s.toList.length s.toList).filterMap Piece.path? := by
  induction t using tree_induction with
  | text s => exact (List.append_nil _).symm
  | list xs ih =>
    rw [paths_list, texts_list, List.flatMap_assoc]
    exact List.flatMap_congr ih
  | record fields ih =>
    rw [paths_record, texts_record, List.flatMap_assoc]
    exact List.flatMap_congr ih
  | leaf v h => rw [h.texts_eq, paths.eq_4 v h.no_text h.no_list h.no_record, List.flatMap_nil]

end

/-! ## Pieces without a procedure -/

/-- A text starts with a reference: an opening, a path that is not empty and holds no closing, and a closing. -/
structure Starts (path rest cs : List Char) : Prop where
  written : cs = (Piece.reference path).source ++ rest
  filled : path ≠ []
  closed : '\x7d' ∉ path

/-- The pieces of a text, cut from the left: a reference wherever one starts, and a character elsewhere. -/
inductive Cut : List Char → List Piece → Prop where
  | done : Cut [] []
  | reference {path rest cs : List Char} {ps : List Piece} (starts : Starts path rest cs) (later : Cut rest ps) :
      Cut cs (.reference path :: ps)
  | literal {x : Char} {cs : List Char} {ps : List Piece} (none_starts : ∀ path rest, ¬Starts path rest (x :: cs))
      (later : Cut cs ps) : Cut (x :: cs) (.literal x :: ps)

variable {cs path rest : List Char} {ps qs : List Piece}

/-- The body of a reference is what stands before the first closing. -/
theorem starts_iff : Starts path rest ('$' :: '\x7b' :: cs) ↔ referenceBody? cs = some (path, rest) := by
  constructor
  · rintro ⟨written, filled, closed⟩
    have whole : cs = path ++ '\x7d' :: rest := by simpa [Piece.source] using written
    have body : cs.takeWhile (· != '\x7d') = path := by
      have open_ : ∀ x ∈ path, (x != '\x7d') = true := fun x member => bne_iff_ne.mpr fun h => closed (h ▸ member)
      rw [whole, List.takeWhile_append_of_pos open_, List.takeWhile_cons_of_neg (by decide), List.append_nil]
    rw [referenceBody?, body, whole, List.drop_left]
    simp [filled]
  · intro found
    have whole := eq_of_referenceBody? found
    have body : cs.takeWhile (· != '\x7d') = path ∧ path ≠ [] := by
      unfold referenceBody? at found
      dsimp only at found
      split at found
      · split at found
        · cases found
        · rename_i filled
          cases found
          exact ⟨rfl, by simpa using filled⟩
      · cases found
    refine ⟨by simp [whole, Piece.source], body.2, fun member => ?_⟩
    rw [← body.1] at member
    simpa using List.mem_takeWhile_imp member

theorem Starts.opened (h : Starts path rest cs) : ∃ ds, cs = '$' :: '\x7b' :: ds := ⟨_, h.written⟩

theorem Starts.unique {path' rest' : List Char} (h : Starts path rest cs) (h' : Starts path' rest' cs) :
    path' = path ∧ rest' = rest := by
  obtain ⟨ds, rfl⟩ := h.opened
  have same := (starts_iff.mp h').symm.trans (starts_iff.mp h)
  simpa using same

theorem Cut.source (h : Cut cs ps) : ps.flatMap Piece.source = cs := by
  induction h with
  | done => rfl
  | reference starts later ih => rw [List.flatMap_cons, ih, starts.written]
  | literal none_starts later ih => rw [List.flatMap_cons, ih]; rfl

theorem Cut.unique (h : Cut cs ps) (h' : Cut cs qs) : qs = ps := by
  induction h generalizing qs with
  | done =>
    cases h' with
    | done => rfl
    | reference starts => cases starts.written
  | reference starts later ih =>
    cases h' with
    | done => cases starts.written
    | reference starts' later' =>
      obtain ⟨rfl, rfl⟩ := starts.unique starts'
      rw [ih later']
    | literal none_starts => exact absurd starts (none_starts _ _)
  | literal none_starts later ih =>
    cases h' with
    | reference starts => exact absurd starts (none_starts _ _)
    | literal _ later' => rw [ih later']

/-- The procedure finds the pieces. -/
theorem pieces_cut {n : Nat} (enough : cs.length ≤ n) : Cut cs (pieces n cs) := by
  fun_induction pieces n cs with
  | case1 cs =>
    have empty : cs = [] := List.length_eq_zero_iff.mp (by omega)
    exact empty ▸ .done
  | case2 => exact .done
  | case3 n cs body rest found ih =>
    have shorter : cs.length = body.length + (rest.length + 1) := by simp [eq_of_referenceBody? found]
    exact .reference (starts_iff.mpr found) (ih (by simp only [List.length_cons] at enough; omega))
  | case4 n cs nothing ih =>
    refine .literal (fun path rest starts => ?_) (ih (by simpa using enough))
    have found := starts_iff.mp starts
    rw [nothing] at found
    cases found
  | case5 n c cs other ih =>
    refine .literal (fun path rest starts => ?_) (ih (by simpa using enough))
    obtain ⟨ds, opened⟩ := starts.opened
    obtain ⟨rfl, rfl⟩ := List.cons.inj opened
    exact other ds rfl rfl

/-! ## What comes of a text -/

variable {c : Context}

/-- What a piece becomes: a reference that leads to a value becomes the text of the value, one that leads nowhere stays
as it is written. -/
inductive Piece.Becomes (c : Context) : Piece → List Char → Prop where
  | literal (x : Char) : Becomes c (.literal x) [x]
  | unresolved {path : List Char} (nowhere : ∀ v, ¬c.Leads path v) :
      Becomes c (.reference path) (Piece.reference path).source
  | nothing {path : List Char} (there : c.Leads path .none) : Becomes c (.reference path) []
  | truth {path : List Char} {b : Bool} (there : c.Leads path (.bool b)) :
      Becomes c (.reference path) (if b then "true".toList else "false".toList)
  | list {path : List Char} {xs : List Value} (there : c.Leads path (.list xs)) :
      Becomes c (.reference path) (Json.compact false (.list xs))
  | record {path : List Char} {fields : Fields} (there : c.Leads path (.record fields)) :
      Becomes c (.reference path) (Json.compact false (.record fields))
  | other {path : List Char} {v : Value} (there : c.Leads path v) (some_ : v ≠ .none) (no_truth : ∀ b, v ≠ .bool b)
      (no_list : ∀ xs, v ≠ .list xs) (no_record : ∀ fields, v ≠ .record fields) : Becomes c (.reference path) v.display

/-- What a text becomes: the pieces of it, each replaced once, one behind the other. -/
def TextBecomes (c : Context) (s s' : String) : Prop :=
  ∃ ps parts, Cut s.toList ps ∧ List.Forall₂ (Piece.Becomes c) ps parts ∧ s'.toList = parts.flatten

/-- A tree has a reference with a path. -/
def Mentions (t : Value) (path : List Char) : Prop :=
  ∃ s ∈ texts t, ∃ ps, Cut s.toList ps ∧ .reference path ∈ ps

theorem mem_paths_iff {t : Value} : path ∈ paths t ↔ Mentions t path := by
  have piece (p : Piece) : p.path? = some path ↔ p = .reference path := by cases p <;> simp [Piece.path?]
  rw [paths_eq, List.mem_flatMap]
  refine exists_congr fun s => and_congr_right fun _ => ?_
  simp only [List.mem_filterMap, piece, exists_eq_right]
  have cut : Cut s.toList (pieces s.toList.length s.toList) := pieces_cut (Nat.le_refl _)
  constructor
  · exact fun member => ⟨_, cut, member⟩
  · rintro ⟨ps, cut', member⟩
    exact cut.unique cut' ▸ member

theorem Piece.becomes_filled {p : Piece} (smooth : ∀ path, p = .reference path → ¬c.Trips path) :
    p.Becomes c (p.filled c) := by
  cases p with
  | literal x => exact .literal x
  | reference path =>
    rcases filled_reference (smooth path rfl) with ⟨v, there, text⟩ | ⟨nowhere, text⟩
    · rw [text]
      cases v <;> first
        | exact .nothing there
        | exact .truth there
        | exact .list there
        | exact .record there
        | exact .other there nofun nofun nofun nofun
    · exact text ▸ .unresolved nowhere

theorem textBecomes_filledText {s : String}
    (smooth : ∀ ps, Cut s.toList ps → ∀ path, .reference path ∈ ps → ¬c.Trips path) :
    TextBecomes c s (filledText c s) := by
  have cut : Cut s.toList (pieces s.toList.length s.toList) := pieces_cut (Nat.le_refl _)
  refine ⟨_, _, cut, ?_, String.toList_ofList.trans List.flatMap_def⟩
  refine List.forall₂_map_right_iff.mpr (List.forall₂_same.mpr fun p member => ?_)
  exact Piece.becomes_filled fun path is => smooth _ cut path (is ▸ member)

/-! ## What comes of a tree -/

theorem mapTexts_of_substitute {t t' : Value} (done : substitute c t = .ok t') :
    t' = mapTexts (filledText c) t ∧ ∀ path, Mentions t path → ¬c.Trips path := by
  have settles := (substitute_settles c).1 t
  rw [done] at settles
  cases settles with
  | settled smooth => exact ⟨filled_eq c t, fun path mentioned => smooth path (mem_paths_iff.mpr mentioned)⟩

theorem Piece.filled_of_not_leads (nowhere : ∀ v, ¬c.Leads path v) :
    (Piece.reference path).filled c = (Piece.reference path).source := by
  have outcome := c.resolvePath_outcome path
  rw [Piece.filled]
  generalize c.resolvePath path = r at outcome
  cases outcome with
  | stumbled => rfl
  | found _ there => exact absurd there (nowhere _)
  | missing => rfl

/-- A text that mentions no path that leads anywhere stays. -/
theorem filledText_of_not_leads {s : String}
    (nowhere : ∀ ps, Cut s.toList ps → ∀ path, .reference path ∈ ps → ∀ v, ¬c.Leads path v) : filledText c s = s := by
  have cut : Cut s.toList (pieces s.toList.length s.toList) := pieces_cut (Nat.le_refl _)
  have same : (pieces s.toList.length s.toList).flatMap (Piece.filled c) = s.toList := by
    refine (List.flatMap_congr fun p member => ?_).trans cut.source
    cases p with
    | literal x => rfl
    | reference path => exact Piece.filled_of_not_leads (nowhere _ cut path member)
  rw [filledText, same, String.ofList_toList]

/-- Contexts with the same values at the paths of a text make the same of it. -/
theorem filledText_congr {c' : Context} {s : String}
    (alike : ∀ ps, Cut s.toList ps → ∀ path, .reference path ∈ ps → c'.resolvePath path = c.resolvePath path) :
    filledText c' s = filledText c s := by
  have cut : Cut s.toList (pieces s.toList.length s.toList) := pieces_cut (Nat.le_refl _)
  refine congrArg String.ofList (List.flatMap_congr fun p member => ?_)
  cases p with
  | literal x => rfl
  | reference path => rw [Piece.filled, Piece.filled, alike _ cut path member]

/-- A path trips exactly where its walk fails. -/
theorem trips_iff : c.Trips path ↔ c.resolvePath path = .error .badValue := by
  have outcome := c.resolvePath_outcome path
  generalize c.resolvePath path = r at outcome
  cases outcome with
  | stumbled trips => exact ⟨fun _ => rfl, fun _ => trips⟩
  | found smooth => exact ⟨fun trips => absurd trips smooth, nofun⟩
  | missing smooth => exact ⟨fun trips => absurd trips smooth, nofun⟩

theorem substitute_congr {c' : Context} {t : Value}
    (alike : ∀ path, Mentions t path → c'.resolvePath path = c.resolvePath path) :
    substitute c' t = substitute c t := by
  have trips (path : List Char) (member : path ∈ paths t) : c'.Trips path ↔ c.Trips path := by
    rw [trips_iff, trips_iff, alike path (mem_paths_iff.mp member)]
  have same : filled c' t = filled c t := by
    rw [filled_eq, filled_eq]
    refine mapTexts_congr fun s member => filledText_congr fun ps cut path there => ?_
    exact alike path ⟨s, member, ps, cut, there⟩
  have settles := (substitute_settles c).1 t
  have settles' := (substitute_settles c').1 t
  generalize substitute c t = r at settles
  generalize substitute c' t = r' at settles'
  cases settles with
  | tripped path member bad =>
    cases settles' with
    | tripped => rfl
    | settled smooth => exact absurd ((trips path member).mpr bad) (smooth path member)
  | settled smooth =>
    cases settles' with
    | tripped path member bad => exact absurd ((trips path member).mp bad) (smooth path member)
    | settled => rw [same]

/-- What a substitution comes to. The tree around the texts stays: the objects with their keys in their order, the
lengths of the arrays and all other scalars. Each text is cut into characters and references from the left; a reference
becomes the text of its value, or stays as it is written, and that is not looked at again. A tree all of whose
references lead nowhere stays, and other values in the context than those at the ends of the tree's paths do not
matter. -/
theorem substitute_done {t t' : Value} (done : substitute c t = .ok t') :
    skeleton t' = skeleton t ∧
      List.Forall₂ (TextBecomes c) (texts t) (texts t') ∧
      ((∀ path, Mentions t path → ∀ v, ¬c.Leads path v) → t' = t) ∧
      ∀ c' : Context, (∀ path, Mentions t path → c'.resolvePath path = c.resolvePath path) →
        substitute c' t = .ok t' := by
  obtain ⟨rfl, smooth⟩ := mapTexts_of_substitute done
  refine ⟨mapTexts_mapTexts _ _ t, ?_, fun nowhere => ?_, fun c' alike => (substitute_congr alike).trans done⟩
  · rw [texts_mapTexts]
    refine List.forall₂_map_right_iff.mpr (List.forall₂_same.mpr fun s member => ?_)
    exact textBecomes_filledText fun ps cut path there => smooth path ⟨s, member, ps, cut, there⟩
  · refine (mapTexts_congr fun s member => ?_).trans (mapTexts_id t)
    exact filledText_of_not_leads fun ps cut path there => nowhere path ⟨s, member, ps, cut, there⟩

/-- A name that looks like a reference, and a list. -/
def lookalike : Context := ⟨[("name", .text "$\x7bitems\x7d"), ("items", .list [.none, .bool true])], default, []⟩

/-- References in an object: as a key, to a text, to nothing, without a path, and to a list. -/
def draft : Value :=
  .record [("$\x7bname\x7d", .list [.text "$\x7bname\x7d $\x7bgone\x7d", .text "$\x7b\x7d$\x7bitems\x7d", .int 3])]

/-- The draft with its references replaced. -/
def letter : Value :=
  .record [("$\x7bname\x7d", .list [.text "$\x7bitems\x7d $\x7bgone\x7d", .text "$\x7b\x7d[null, true]", .int 3])]

theorem substitute_done_letter :
    substitute lookalike draft = .ok letter ∧ skeleton letter = skeleton draft ∧
      List.Forall₂ (TextBecomes lookalike) (texts draft) (texts letter) := by
  have done : substitute lookalike draft = .ok letter := rfl
  have outcome := substitute_done done
  exact ⟨done, outcome.1, outcome.2.1⟩

/-- A tuple is not written as JSON, unlike a list. -/
theorem tuple_displayed :
    substitute ⟨[("pair", .tuple [.int 1, .int 2])], default, []⟩ (.text "$\x7bpair\x7d") = .ok (.text "(1, 2)") ∧
      Json.compact false (.tuple [.int 1, .int 2]) = "[1, 2]".toList :=
  ⟨rfl, rfl⟩

end Letterpress.Structure
