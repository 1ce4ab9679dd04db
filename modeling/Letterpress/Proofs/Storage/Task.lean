import Letterpress.Storage.Storeroom
import Letterpress.Proofs.Workspace

/-!
# What tasks do to files

A task of a folder concerns one file at most, however it comes out. Directories that are made, all of them or some, take
no file away, and a disk that is a tree stays one.

* `FileSystem.file?_makeDirectories`: the files are the same when directories are made.
* `FileTask.file?_turn`: all files but the one that a task is about stay as they are.
* `FileTask.file?_of_turn_write`: a write that is answered well has its file.
* `FileTask.isTree_turn`: the disk stays a tree.
-/

namespace Letterpress

namespace FileSystem

variable {fs fs' : FileSystem} {p : Place} {n : Node} {content : Bytes}

/-! ## Trees -/

theorem isTree_empty : IsTree {} := by
  intro q c n there
  simp [ entry?] at there

/-- What is entered at a place that is reached keeps a tree, unless it is put in the place of a directory. -/
theorem IsTree.set (tree : fs.IsTree) (named : p ≠ []) (reaches : fs.Reaches p)
    (kept : n = .directory ∨ fs.entry? p ≠ some .directory) : (fs.set p n).IsTree := by
  intro q c m there
  have above : fs.entry? q = some .directory := by
    rw [entry?_set named] at there
    split at there
    · rename_i here
      exact (reaches q c (here ▸ List.prefix_rfl)).2
    · exact tree q c m there
  rw [entry?_set named]
  split
  · rename_i here
    subst here
    rcases kept with rfl | other
    · rfl
    · exact absurd above other
  · exact above

theorem IsTree.write (tree : fs.IsTree) (h : fs.write p content = .ok fs') : fs'.IsTree := by
  obtain ⟨named, reaches, nowhere, rfl⟩ := reaches_of_write h
  exact tree.set named reaches (.inr fun entered => nowhere (node_eq_ok_iff.mpr ⟨entered, reaches⟩))

theorem IsTree.makeDirectory (tree : fs.IsTree) (h : fs.makeDirectory p = .ok fs') : fs'.IsTree := by
  unfold FileSystem.makeDirectory at h
  cases allowed : fs.newEntry p with
  | error e => rw [allowed] at h; cases h
  | ok _ =>
    rw [allowed] at h
    obtain rfl := Except.ok.inj h
    obtain ⟨named, reaches⟩ := reaches_of_newEntry allowed
    exact tree.set named reaches (.inl rfl)

theorem IsTree.makeReversed (tree : fs.IsTree) {cs : List String} {r : Except Fault Unit}
    (h : fs.makeReversed cs = (fs', r)) : fs'.IsTree := by
  induction cs generalizing fs' r with
  | nil =>
    cases h
    exact tree
  | cons c above ih =>
    rw [makeReversed_cons] at h
    split at h
    · rename_i gs made
      cases h
      exact tree.makeDirectory made
    · split at h
      · rename_i gs e inner
        cases h
        exact ih inner
      · rename_i gs _ inner
        split at h
        · rename_i hs made
          cases h
          exact (ih inner).makeDirectory made
        · cases h
          exact ih inner
    · cases h
      exact tree

/-! ## Files while directories are made -/

/-- A directory that is made is neither a file nor in the way of one. -/
theorem file?_makeDirectories (tree : fs.IsTree) (p q : Place) : (fs.makeDirectories p).1.file? q = fs.file? q := by
  obtain ⟨fs', r, made⟩ : ∃ fs' r, fs.makeDirectories p = (fs', r) := ⟨_, _, rfl⟩
  have stays {q n} (there : fs.entry? q = some n) : fs'.entry? q = some n := by
    obtain same | ⟨missing, -⟩ := entry?_makeReversed made q
    · rw [same, there]
    · cases missing.symm.trans there
  rw [made]
  refine Option.ext fun content => ⟨fun after => ?_, fun before => ?_⟩
  · have there := tree.node_file made (node_eq_ok_iff.mpr (file?_eq_some_iff.mp after))
    exact file?_eq_some_iff.mpr (node_eq_ok_iff.mp there)
  · obtain ⟨entered, reaches⟩ := file?_eq_some_iff.mp before
    exact file?_eq_some_iff.mpr ⟨stays entered, fun r c below => ⟨(reaches r c below).1, stays (reaches r c below).2⟩⟩

end FileSystem

namespace FileTask

variable {fs : FileSystem} {p : Place} {content : Bytes}

/-- The place of the file that a task is about. -/
def target? : FileTask → Option Place
  | makeDirectories _ => none
  | write p _ => some p

theorem target?_beginning (t : FileTask) (extent : Nat) : (t.beginning extent).target? = t.target? := by
  cases t <;> rfl

theorem isTree_serve (tree : fs.IsTree) (t : FileTask) : (t.serve fs).2.IsTree := by
  cases t with
  | makeDirectories p => exact tree.makeReversed rfl
  | write p content =>
    rw [serve]
    split
    · rename_i fs' written
      exact tree.write written
    · exact tree

theorem isTree_turn (tree : fs.IsTree) (t : FileTask) (o : Outcome) : (t.turn fs o).2.IsTree := by
  cases o with
  | served => exact isTree_serve tree t
  | refused f => exact tree
  | brokenOff extent f => exact isTree_serve tree (t.beginning extent)

theorem file?_serve (tree : fs.IsTree) {t : FileTask} (apart : t.target? ≠ some p) :
    (t.serve fs).2.file? p = fs.file? p := by
  cases t with
  | makeDirectories q => exact FileSystem.file?_makeDirectories tree q p
  | write q content =>
    rw [serve]
    split
    · rename_i fs' written
      rw [FileSystem.file?_write written, Function.update_of_ne fun same => apart (congrArg some same.symm)]
    · rfl

/-- A task that comes out in any way leaves all files but its own as they are. -/
theorem file?_turn (tree : fs.IsTree) {t : FileTask} (apart : t.target? ≠ some p) (o : Outcome) :
    (t.turn fs o).2.file? p = fs.file? p := by
  cases o with
  | served => exact file?_serve tree apart
  | refused f => rfl
  | brokenOff extent f => exact file?_serve tree (by rwa [target?_beginning t extent])

/-- A write that is answered well was served, and the file holds the content. -/
theorem file?_of_turn_write {o : Outcome} {u : Unit} (answer : ((write p content).turn fs o).1 = .ok u) :
    ((write p content).turn fs o).2.file? p = some content := by
  cases o with
  | served =>
    rw [turn, serve] at answer ⊢
    split at answer
    · rename_i fs' written
      rw [FileSystem.file?_write written, Function.update_self]
    · cases answer
  | refused f => cases answer
  | brokenOff extent f => cases answer

end FileTask

end Letterpress
