import Mathlib.Logic.Function.Basic
import Letterpress.Proofs.Lookup
import Letterpress.Workspace

/-!
# Files after a change

Which files there are once one is written or taken away. A place is reached through directories, so a change at one
place matters for those below it too; there are no files below a file, though.

* `FileSystem.node_eq_ok_iff`: what stands at a place, by the entries on the way.
* `FileSystem.file?_write`, `FileSystem.file?_remove`, `Workspace.file?_discard`: the files after a change.
-/

namespace Letterpress

namespace FileSystem

variable {fs fs' : FileSystem} {p q : Place} {n : Node}

/-- The file at a place, if there is one. -/
def file? (fs : FileSystem) (p : Place) : Option Bytes := (fs.read p).toOption

/-! ## The way to a place -/

/-- The way to a place leads through directories, and all names on it have a length that is allowed. -/
def Reaches (fs : FileSystem) (p : Place) : Prop :=
  ∀ q c, q ++ [c] <+: p → isTooLong c = false ∧ fs.entry? q = some .directory

/-- The names on the way: the first one, and those behind it. -/
theorem forall_prefix_cons {c : String} {rest : Place} {P : Place → String → Prop} :
    (∀ q d, q ++ [d] <+: c :: rest → P q d) ↔ P [] c ∧ ∀ q d, q ++ [d] <+: rest → P (c :: q) d := by
  constructor
  · intro h
    exact ⟨h [] c (by simp), fun q d below => h (c :: q) d (by simpa using below)⟩
  · rintro ⟨first, others⟩ q d below
    cases q with
    | nil =>
      obtain rfl : d = c := by simpa using below
      exact first
    | cons a q =>
      obtain ⟨rfl, further⟩ : a = c ∧ q ++ [d] <+: rest := by simpa [List.cons_prefix_cons] using below
      exact others q d further

theorem walk_eq_ok_iff {done rest : Place} {m : Node} (here : fs.entry? done = some m) :
    fs.walk done m rest = .ok n ↔
      fs.entry? (done ++ rest) = some n ∧
        ∀ q c, q ++ [c] <+: rest → isTooLong c = false ∧ fs.entry? (done ++ q) = some .directory := by
  induction rest generalizing done m with
  | nil => simp [walk, here]
  | cons c rest ih =>
    rw [forall_prefix_cons, List.append_nil, here]
    cases m with
    | file content => simp [walk]
    | directory =>
      rw [walk]
      cases long : isTooLong c with
      | true => simp
      | false =>
        cases next : fs.entry? (done ++ [c]) with
        | some m => simp [ih next]
        | none =>
          -- What comes first on the rest of the way is missing, whether it is the end or not.
          refine ⟨fun h => by simp at h, ?_⟩
          rintro ⟨last, -, others⟩
          cases rest with
          | nil => rw [next] at last; cases last
          | cons d rest =>
            have missing := (others [] d (by simp)).2
            rw [next] at missing
            cases missing

/-- What stands at a place is what is entered there, if the place is reached at all. -/
theorem node_eq_ok_iff : fs.node p = .ok n ↔ fs.entry? p = some n ∧ fs.Reaches p :=
  walk_eq_ok_iff rfl

theorem node_ne_of_entry?_ne (h : fs.entry? p ≠ some n) : fs.node p ≠ .ok n :=
  fun there => h (node_eq_ok_iff.mp there).1

theorem file?_eq_some_iff {content : Bytes} :
    fs.file? p = some content ↔ fs.entry? p = some (.file content) ∧ fs.Reaches p := by
  rw [← node_eq_ok_iff, file?, read]
  cases fs.node p with
  | error e => simp [Except.toOption]
  | ok n => cases n <;> simp [Except.toOption]

/-! ## What a change leaves as it is -/

theorem Reaches.of_prefix (h : fs.Reaches q) (above : p <+: q) : fs.Reaches p :=
  fun r c below => h r c (below.trans above)

/-- A place that is not below another one is reached as before if only what stands at the other changes. -/
theorem reaches_congr (same : ∀ r, r ≠ p → fs'.entry? r = fs.entry? r) (apart : ∀ c, ¬p ++ [c] <+: q) :
    fs'.Reaches q ↔ fs.Reaches q := by
  refine forall_congr' fun r => forall_congr' fun c => imp_congr_right fun below => ?_
  rw [same r fun h => apart c (h ▸ below)]

/-- No place below another is reached if there is no directory. -/
theorem not_reaches_below {c : String} (h : fs.node p ≠ .ok .directory) (below : p ++ [c] <+: q) : ¬fs.Reaches q := by
  intro reaches
  refine h (node_eq_ok_iff.mpr ⟨(reaches p c below).2, reaches.of_prefix ?_⟩)
  exact (List.prefix_append p [c]).trans below

/-- Where a place is no directory before and after, a change there is one for no other file. -/
theorem file?_congr (same : ∀ r, r ≠ p → fs'.entry? r = fs.entry? r) (before : fs.node p ≠ .ok .directory)
    (after : fs'.node p ≠ .ok .directory) (apart : q ≠ p) : fs'.file? q = fs.file? q := by
  refine Option.ext fun content => ?_
  rw [file?_eq_some_iff, file?_eq_some_iff, same q apart]
  refine and_congr_right fun _ => ?_
  by_cases below : ∃ c, p ++ [c] <+: q
  · obtain ⟨c, below⟩ := below
    exact iff_of_false (not_reaches_below after below) (not_reaches_below before below)
  · exact reaches_congr same fun c h => below ⟨c, h⟩

/-! ## Writing -/

theorem entry?_set (named : p ≠ []) (n : Node) (r : Place) :
    entry? (fs.set p n) r = if r = p then some n else fs.entry? r := by
  by_cases root : r = []
  · subst root
    simp [ entry?, Ne.symm named]
  · have filled : r.isEmpty = false := by simp [root]
    simp only [ entry?, filled, Bool.false_eq_true, if_false, set]
    cases old : fs.nodes.lookup p with
    | some m =>
      simp only [Option.isSome_some, if_true, lookup_replaced, old, Option.map_some]
    | none =>
      simp only [Option.isSome_none, Bool.false_eq_true, if_false, List.lookup_append, lookup_cons_ite]
      split
      · rename_i here
        simp [here, old]
      · simp

/-- The last name on a way, behind the others. -/
theorem walk_concat (done rest : Place) (m : Node) (c : String) :
    fs.walk done m (rest ++ [c]) = (fs.walk done m rest).bind fun k => fs.walk (done ++ rest) k [c] := by
  induction rest generalizing done m with
  | nil => simp [walk, Except.bind]
  | cons d rest ih =>
    cases m with
    | file content => simp [walk, Except.bind]
    | directory =>
      simp only [List.cons_append, walk]
      split
      · rfl
      · split
        · rw [ih, List.append_assoc]
          rfl
        · rfl

theorem Reaches.concat {c : String} (h : fs.Reaches p) (short : isTooLong c = false)
    (directory : fs.entry? p = some .directory) : fs.Reaches (p ++ [c]) := by
  intro q d below
  rcases List.prefix_concat_iff.mp below with same | above
  · obtain ⟨rfl, rfl⟩ : q = p ∧ d = c := by simpa using List.append_inj' same rfl
    exact ⟨short, directory⟩
  · exact h q d above

/-- Where a new entry is allowed, everything above it is a directory. -/
theorem reaches_of_newEntry (h : fs.newEntry p = .ok ()) : p ≠ [] ∧ fs.Reaches p := by
  rcases List.eq_nil_or_concat p with rfl | ⟨above, c, rfl⟩
  · cases h
  rw [List.concat_eq_append] at h ⊢
  refine ⟨by simp, ?_⟩
  rw [newEntry, List.dropLast_concat] at h
  split at h
  · cases h
  · rename_i missing
    split at h
    · rename_i m there
      obtain ⟨entered, reaches⟩ := node_eq_ok_iff.mp there
      have behind : fs.walk above m [c] = .error .notFound := by
        have whole := @walk_concat fs [] above .directory c
        rw [show fs.walk [] .directory above = .ok m from there,
          show fs.walk [] .directory (above ++ [c]) = .error .notFound from missing] at whole
        exact whole.symm
      cases m with
      | file content => cases behind
      | directory =>
        cases long : isTooLong c with
        | true => simp [walk, long] at behind
        | false => exact reaches.concat long entered
    · cases h
  · cases h

/-- A file is written where its place is reached and no directory stands. -/
theorem reaches_of_write {content : Bytes} (h : fs.write p content = .ok fs') :
    p ≠ [] ∧ fs.Reaches p ∧ fs.node p ≠ .ok .directory ∧ fs' = fs.set p (.file content) := by
  unfold write at h
  split at h
  · rename_i old there
    obtain ⟨entered, reaches⟩ := node_eq_ok_iff.mp there
    refine ⟨?_, reaches, by simp [there], (Except.ok.inj h).symm⟩
    rintro rfl
    cases entered
  · cases h
  · rename_i missing
    split at h
    · rename_i allowed
      obtain ⟨named, reaches⟩ := reaches_of_newEntry allowed
      exact ⟨named, reaches, by simp [missing], (Except.ok.inj h).symm⟩
    · cases h

/-- What is written is at its place, and all other files are as before. -/
theorem file?_write {content : Bytes} (h : fs.write p content = .ok fs') :
    fs'.file? = Function.update fs.file? p (some content) := by
  obtain ⟨named, reaches, before, rfl⟩ := reaches_of_write h
  have same : ∀ r, r ≠ p → entry? (fs.set p (.file content)) r = fs.entry? r := by
    intro r hr
    rw [entry?_set named, if_neg hr]
  have here : entry? (fs.set p (.file content)) p = some (.file content) := by
    rw [entry?_set named, if_pos rfl]
  funext q
  by_cases hq : q = p
  · subst hq
    rw [Function.update_self, file?_eq_some_iff]
    refine ⟨here, (reaches_congr same ?_).mpr reaches⟩
    intro c below
    have longer := below.length_le
    rw [List.length_append, List.length_singleton] at longer
    omega
  · rw [Function.update_of_ne hq]
    exact file?_congr same before (node_ne_of_entry?_ne (by simp [here])) hq

/-! ## Taking away -/

theorem entry?_filter (named : p ≠ []) (r : Place) :
    entry? ⟨fs.nodes.filter fun (q, _) => q != p⟩ r = if r = p then none else fs.entry? r := by
  by_cases root : r = []
  · simp [ entry?, root, Ne.symm named]
  · have filled : r.isEmpty = false := by simp [root]
    simp only [ entry?, filled, Bool.false_eq_true, if_false, lookup_filter_ne]

/-- What is taken away is gone, and all other files are as before. -/
theorem file?_remove (h : fs.remove p = .ok fs') : fs'.file? = Function.update fs.file? p none := by
  unfold remove at h
  split at h
  · rename_i old there
    cases h
    have named : p ≠ [] := by
      rintro rfl
      cases (node_eq_ok_iff.mp there).1
    have entries := @entry?_filter fs p named
    funext q
    by_cases hq : q = p
    · subst hq
      rw [Function.update_self, Option.eq_none_iff_forall_ne_some]
      intro content left
      have entered := (file?_eq_some_iff.mp left).1
      rw [entries, if_pos rfl] at entered
      cases entered
    · rw [Function.update_of_ne hq]
      refine file?_congr (fun r hr => by rw [entries, if_neg hr]) (by simp [there]) ?_ hq
      exact node_ne_of_entry?_ne (by simp [entries])
  · cases h
  · cases h

/-- Where nothing can be taken away, there is no file. -/
theorem file?_of_remove_error {e : Fault} (h : fs.remove p = .error e) : fs.file? p = none := by
  unfold remove at h
  split at h
  · cases h
  · rename_i there
    simp [file?, read, there, Except.toOption]
  · rename_i missing
    simp [file?, read, missing, Except.toOption]

end FileSystem

/-- A file that is discarded is gone, if there was one. -/
theorem Workspace.file?_discard (p : Place) (fs : FileSystem) :
    (Workspace.discard p fs).file? = Function.update fs.file? p none := by
  unfold Workspace.discard
  cases removed : fs.remove p with
  | ok fs' => exact FileSystem.file?_remove removed
  | error e =>
    have missing := FileSystem.file?_of_remove_error removed
    rw [← missing, Function.update_eq_self]

end Letterpress
