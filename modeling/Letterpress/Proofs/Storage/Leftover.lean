import Letterpress.Proofs.Storage.Storeroom

/-!
# What a failed upload leaves behind

An upload makes a directory, writes its object and then the description of it. Where one of the three fails, what the
others have done stays.

* `FileTask.file?_turn_write`, `FileTask.turn_write_of_not_taken`: what a write leaves, however it comes out.
* `Folder.Begins`: the first byte of an object can come to the disk.
* `Folder.isOk_upload_of_isTooLong`: an upload whose description would have too long a name fails.
* `failed_upload_clean_iff`: a failed upload leaves no file of its own exactly if its object was never begun.
* `failed_upload_leaves_object`: an object whose description has too long a name.
-/

namespace Letterpress

variable {root mark : String} {u : Upload} {ways : FileTask → Outcome} {disk disk' fs : FileSystem} {p : Place}
  {content : Bytes} {o : Outcome}

/-! ## Single writes -/

/-- Whether a file can be written at a place. -/
def FileSystem.takes (fs : FileSystem) (p : Place) : Bool := (fs.write p []).isOk

/-- Whether a file can be written does not depend on what is to be in it. -/
theorem FileSystem.takes_iff (content : Bytes) : fs.takes p = true ↔ ∃ fs', fs.write p content = .ok fs' := by
  unfold takes write
  cases fs.node p with
  | ok n => cases n <;> simp [Except.isOk, Except.toBool]
  | error e => cases fs.newEntry p <;> simp [Except.isOk, Except.toBool]

/-- A new name in a directory is taken if it is not too long. -/
theorem FileSystem.takes_concat {c : String} (above : fs.isDirectory p = true) (short : isTooLong c = false)
    (free : fs.entry? (p ++ [c]) = none) : fs.takes (p ++ [c]) = true := by
  have there : fs.node p = .ok .directory := by
    unfold isDirectory at above
    split at above <;> simp_all
  have missing : fs.node (p ++ [c]) = .error .notFound := by
    rw [node, walk_concat, ← node, there]
    simp [Except.bind, walk, short, free]
  simp [takes, write, newEntry, missing, there, Except.isOk, Except.toBool]

/-- A name that is too long is not taken. -/
theorem FileSystem.takes_of_isTooLong {c : String} (long : isTooLong c = true) : fs.takes (p ++ [c]) = false := by
  refine Bool.eq_false_iff.mpr fun takes => ?_
  obtain ⟨fs', written⟩ := (takes_iff []).mp takes
  have short := ((reaches_of_write written).2.1 p c List.prefix_rfl).1
  exact absurd long (by rw [short]; nofun)

namespace FileTask

/-- A write that the system does not refuse leaves a file with the first bytes of its content, or with all of them. -/
theorem file?_turn_write (content : Bytes) (takes : fs.takes p = true) (allowed : ∀ f, o ≠ .refused f) :
    ∃ n, ((write p content).turn fs o).2.file? p = some (content.take n) := by
  have served (bytes : Bytes) : ((write p bytes).serve fs).2.file? p = some bytes := by
    obtain ⟨fs', written⟩ := (FileSystem.takes_iff bytes).mp takes
    rw [serve, written, FileSystem.file?_write written, Function.update_self]
  cases o with
  | served => exact ⟨content.length, by rw [List.take_length]; exact served content⟩
  | refused f => exact absurd rfl (allowed f)
  | brokenOff extent f => exact ⟨extent, served (content.take extent)⟩

/-- A write that is refused fails and changes nothing. -/
theorem turn_write_of_not_taken (content : Bytes) (kept : ¬(fs.takes p = true ∧ ∀ f, o ≠ .refused f)) :
    ∃ f, (write p content).turn fs o = (.error f, fs) := by
  have unserved (bytes : Bytes) (missing : ¬fs.takes p = true) : ∃ f, (write p bytes).serve fs = (.error f, fs) := by
    cases outcome : fs.write p bytes with
    | ok fs' => exact absurd ((FileSystem.takes_iff bytes).mpr ⟨fs', outcome⟩) missing
    | error f => exact ⟨f, by rw [serve, outcome]⟩
  cases o with
  | served => exact unserved content fun takes => kept ⟨takes, fun f same => by cases same⟩
  | refused f => exact ⟨f, rfl⟩
  | brokenOff extent f =>
    obtain ⟨f', same⟩ := unserved (content.take extent) fun takes => kept ⟨takes, fun f same => by cases same⟩
    exact ⟨f, by rw [turn, beginning, same]⟩

/-- A task leaves all files but its own as they are. -/
theorem file?_serveBy (tree : fs.IsTree) {t : FileTask} (apart : t.target? ≠ some p) :
    (serveBy ways t fs).2.file? p = fs.file? p := file?_turn tree apart (ways t)

theorem isTree_serveBy (tree : fs.IsTree) {t : FileTask} : (serveBy ways t fs).2.IsTree := isTree_turn tree t (ways t)

end FileTask

/-! ## A whole upload -/

namespace Folder

/-- The first task of an upload. -/
def opening (root mark : String) (u : Upload) : FileTask := .makeDirectories (place root mark u).dropLast

/-- The object of an upload is begun: its directory is made, and the system lets it be written there. -/
structure Begins (ways : FileTask → Outcome) (root mark : String) (u : Upload) (disk : FileSystem) : Prop where
  made : (FileTask.serveBy ways (opening root mark u) disk).1.isOk = true
  takes : (FileTask.serveBy ways (opening root mark u) disk).2.takes (place root mark u) = true
  allowed : ∀ f, ways (.write (place root mark u) u.content) ≠ .refused f

/-- The description is the only file that is written behind the object. -/
theorem file?_describe (tree : fs.IsTree) (apart : p ≠ descriptionPlace root mark u) :
    ((describe root mark u).run (FileTask.serveBy ways) fs).2.file? p = fs.file? p := by
  have kept : (FileTask.serveBy ways (.write (descriptionPlace root mark u) (Text.utf8 (description u))) fs).2.file? p =
      fs.file? p := FileTask.file?_serveBy tree fun same => apart (Option.some.inj same).symm
  rw [describe, Dialogue.run]
  cases answer : FileTask.serveBy ways (.write (descriptionPlace root mark u) (Text.utf8 (description u))) fs with
  | mk x fs' =>
    rw [answer] at kept
    cases x <;> exact kept

/-- The object and the description are the only files that are written. -/
theorem file?_store (tree : fs.IsTree) (other : ¬Owns root mark u p) :
    ((store root mark u).run (FileTask.serveBy ways) fs).2.file? p = fs.file? p := by
  have kept : (FileTask.serveBy ways (.write (place root mark u) u.content) fs).2.file? p = fs.file? p :=
    FileTask.file?_serveBy tree fun same => other (.inl (Option.some.inj same).symm)
  have tree' : (FileTask.serveBy ways (.write (place root mark u) u.content) fs).2.IsTree :=
    FileTask.isTree_serveBy tree
  rw [store, Dialogue.run]
  cases answer : FileTask.serveBy ways (.write (place root mark u) u.content) fs with
  | mk x fs' =>
    rw [answer] at kept tree'
    cases x with
    | error f => exact kept
    | ok _ => exact (file?_describe tree' fun same => other (.inr same)).trans kept

/-- An object that is begun is there when its upload is at its end, in whatever way it has ended. -/
theorem file?_store_place (tree : fs.IsTree) (takes : fs.takes (place root mark u) = true)
    (allowed : ∀ f, ways (.write (place root mark u) u.content) ≠ .refused f) :
    ∃ n, ((store root mark u).run (FileTask.serveBy ways) fs).2.file? (place root mark u) =
      some (u.content.take n) := by
  obtain ⟨n, begun⟩ := FileTask.file?_turn_write u.content takes allowed
  have tree' : (FileTask.serveBy ways (.write (place root mark u) u.content) fs).2.IsTree :=
    FileTask.isTree_serveBy tree
  refine ⟨n, ?_⟩
  rw [store, Dialogue.run]
  change (FileTask.serveBy ways _ fs).2.file? _ = _ at begun
  cases answer : FileTask.serveBy ways (.write (place root mark u) u.content) fs with
  | mk x fs' =>
    rw [answer] at begun tree'
    cases x with
    | error f => exact begun
    | ok _ => exact (file?_describe tree' descriptionPlace_ne_place.symm).trans begun

/-- An object that cannot be begun ends its upload, without a trace. -/
theorem store_of_not_begun
    (kept : ¬(fs.takes (place root mark u) = true ∧ ∀ f, ways (.write (place root mark u) u.content) ≠ .refused f)) :
    ((store root mark u).run (FileTask.serveBy ways) fs).2 = fs := by
  obtain ⟨f, same⟩ := FileTask.turn_write_of_not_taken u.content kept
  change FileTask.serveBy ways _ fs = _ at same
  rw [store, Dialogue.run, same]
  rfl

/-- An upload without its directory fails; otherwise it goes on with its object. -/
theorem upload_cases (ways : FileTask → Outcome) (root mark : String) (u : Upload) (disk : FileSystem) :
    let after := FileTask.serveBy ways (opening root mark u) disk
    let whole := (upload root mark u).run (FileTask.serveBy ways) disk
    after.1.isOk = false ∧ whole.1.isOk = false ∧ whole.2 = after.2 ∨
      after.1.isOk = true ∧ whole = (store root mark u).run (FileTask.serveBy ways) after.2 := by
  rw [upload_eq, Dialogue.run, ← opening]
  cases FileTask.serveBy ways (opening root mark u) disk with
  | mk x fs =>
    cases x with
    | error f => exact .inl ⟨rfl, rfl, rfl⟩
    | ok _ => exact .inr ⟨rfl, rfl⟩

/-- What an upload has begun of its object is there at its end, in whatever way it has ended. -/
theorem file?_upload_place (tree : disk.IsTree) (begins : Begins ways root mark u disk) :
    ∃ n, ((upload root mark u).run (FileTask.serveBy ways) disk).2.file? (place root mark u) =
      some (u.content.take n) := by
  obtain ⟨refused, -⟩ | ⟨-, same⟩ := upload_cases ways root mark u disk
  · cases refused.symm.trans begins.made
  · rw [same]
    exact file?_store_place (FileTask.isTree_serveBy tree) begins.takes begins.allowed

/-! ## Names that are too long -/

theorem isTooLong_fileName (mark : String) (u : Upload) (behind : String) :
    FileSystem.isTooLong (fileName mark u behind) = decide (FileSystem.nameLimit <
      (Text.utf8 (mark.toList ++ '-' :: FileName.segment u.filename.toList ++ behind.toList)).length) := by
  simp [FileSystem.isTooLong, fileName, segment]

/-- An upload whose description would have too long a name fails. -/
theorem isOk_upload_of_isTooLong (long : FileSystem.isTooLong (fileName mark u descriptionEnd) = true)
    (ways : FileTask → Outcome) (root : String) (disk : FileSystem) :
    ((upload root mark u).run (FileTask.serveBy ways) disk).1.isOk = false := by
  have undescribed (fs : FileSystem) : ((describe root mark u).run (FileTask.serveBy ways) fs).1.isOk = false := by
    have shut : fs.takes (descriptionPlace root mark u) = false := by
      have parts : descriptionPlace root mark u =
          Place.ofPath root ++ [segment u.clientId, segment u.category] ++ [fileName mark u descriptionEnd] := by
        simp [descriptionPlace_eq, placeBehind]
      rw [parts, FileSystem.takes_of_isTooLong long]
    have kept (o : Outcome) : ¬(fs.takes (descriptionPlace root mark u) = true ∧ ∀ f, o ≠ .refused f) := by
      simp [shut]
    obtain ⟨f, refused⟩ := FileTask.turn_write_of_not_taken (Text.utf8 (description u)) (kept _)
    rw [describe, Dialogue.run, FileTask.serveBy, refused]
    rfl
  obtain ⟨-, failed, -⟩ | ⟨-, same⟩ := upload_cases ways root mark u disk
  · exact failed
  · rw [same, store, Dialogue.run]
    cases FileTask.serveBy ways (.write (place root mark u) u.content) _ with
    | mk x fs =>
      cases x with
      | error f => rfl
      | ok _ => exact undescribed fs

end Folder

open Folder

/-- A failed upload whose files are new, with each of its tasks refused or broken off in any way: a description that
cannot be put in writing is a third task that is refused. Files of others stay as they are. The upload leaves no file
exactly if its object was never begun; else the object is there, or the first bytes of it. -/
theorem failed_upload_clean_iff {e : Failure} (tree : disk.IsTree)
    (new : ∀ p, Owns root mark u p → disk.file? p = none)
    (failed : (upload root mark u).run (FileTask.serveBy ways) disk = (.error e, disk')) :
    (∀ p, ¬Owns root mark u p → disk'.file? p = disk.file? p) ∧
      ((∀ p, Owns root mark u p → disk'.file? p = none) ↔ ¬Begins ways root mark u disk) ∧
      (Begins ways root mark u disk → ∃ n, disk'.file? (place root mark u) = some (u.content.take n)) := by
  have same (p : Place) : (FileTask.serveBy ways (opening root mark u) disk).2.file? p = disk.file? p :=
    FileTask.file?_serveBy tree nofun
  have cases_ := upload_cases ways root mark u disk
  rw [failed] at cases_
  have others (p : Place) (other : ¬Owns root mark u p) : disk'.file? p = disk.file? p := by
    obtain ⟨-, -, rfl⟩ | ⟨-, whole⟩ := cases_
    · exact same p
    · exact (congrArg (·.2.file? p) whole).trans ((file?_store (FileTask.isTree_serveBy tree) other).trans (same p))
  have begun (begins : Begins ways root mark u disk) :
      ∃ n, disk'.file? (place root mark u) = some (u.content.take n) := by
    obtain ⟨n, there⟩ := file?_upload_place tree begins
    exact ⟨n, by rwa [failed] at there⟩
  have clean (not_begun : ¬Begins ways root mark u disk) (p : Place) : disk'.file? p = disk.file? p := by
    obtain ⟨-, -, rfl⟩ | ⟨made, whole⟩ := cases_
    · exact same p
    · have kept := store_of_not_begun fun ⟨takes, allowed⟩ => not_begun ⟨made, takes, allowed⟩
      exact (congrArg (·.2.file? p) whole).trans ((congrArg (FileSystem.file? · p) kept).trans (same p))
  refine ⟨others, ⟨fun left begins => ?_, fun not_begun p owns => (clean not_begun p).trans (new p owns)⟩, begun⟩
  obtain ⟨n, there⟩ := begun begins
  cases (left _ (.inl rfl)).symm.trans there

theorem file?_empty (p : Place) : ({} : FileSystem).file? p = none := by
  refine Option.eq_none_iff_forall_ne_some.mpr fun content there => ?_
  have entered := (FileSystem.file?_eq_some_iff.mp there).1
  unfold FileSystem.entry? at entered
  split at entered <;> cases entered

theorem exists_error {x : Except Failure StoredObject × FileSystem} (bad : x.1.isOk = false) :
    ∃ e, x = (.error e, x.2) := by
  obtain ⟨r, disk⟩ := x
  cases r with
  | error e => exact ⟨e, rfl⟩
  | ok o => cases bad

/-- A disk that is full behind the second byte of an object. -/
theorem failed_upload_clean_iff_cut :
    let u : Upload := ⟨[1, 2, 3], "c", "a.txt", "text/plain", "reports", [], []⟩
    let mark := "0000000000000000000000000000000a"
    let ways (t : FileTask) : Outcome :=
      if t.target?.isSome then .brokenOff 2 (.system 28 "No space left on device") else .served
    ∃ e disk', (upload "/store" mark u).run (FileTask.serveBy ways) {} = (.error e, disk') ∧
      ¬∀ p, Owns "/store" mark u p → disk'.file? p = none := by
  intro u mark ways
  have bad : ((upload "/store" mark u).run (FileTask.serveBy ways) {}).1.isOk = false := by decide +kernel
  obtain ⟨e, failed⟩ := exists_error bad
  have begins : Begins ways "/store" mark u {} := ⟨by decide +kernel, by decide +kernel, fun f same => by cases same⟩
  have spec := failed_upload_clean_iff FileSystem.isTree_empty (fun p _ => file?_empty p) failed
  exact ⟨e, _, failed, fun clean => spec.2.1.mp clean begins⟩

/-- An object with a name that the file system takes, and a description whose name is too long for it. -/
theorem failed_upload_leaves_object :
    let u : Upload := ⟨[120], "c", String.ofList (List.replicate 215 'a'), "text/plain", "reports", [], []⟩
    let mark := "0000000000000000000000000000000a"
    ∃ e disk', (upload "/store" mark u).run (FileTask.serveBy fun _ => .served) {} = (.error e, disk') ∧
      ∃ n, disk'.file? (place "/store" mark u) = some (u.content.take n) := by
  intro u mark
  have filename : u.filename.toList = List.replicate 215 'a' := String.toList_ofList
  have long : FileSystem.isTooLong (fileName mark u descriptionEnd) = true := by
    rw [isTooLong_fileName, filename]
    decide +kernel
  have short : FileSystem.isTooLong (fileName mark u "") = false := by
    rw [isTooLong_fileName, filename]
    decide +kernel
  have parts : place "/store" mark u = ["store", "c", "reports"] ++ [fileName mark u ""] := by
    have root : Place.ofPath "/store" = ["store"] := by decide +kernel
    have client : segment u.clientId = "c" := by decide +kernel
    have category : segment u.category = "reports" := by decide +kernel
    rw [place_eq, placeBehind, root, client, category]
    rfl
  have begins : Begins (fun _ => .served) "/store" mark u {} := by
    refine ⟨by decide +kernel, ?_, fun f same => by cases same⟩
    rw [parts]
    exact FileSystem.takes_concat (by decide +kernel) short (by decide +kernel)
  obtain ⟨e, failed⟩ := exists_error (isOk_upload_of_isTooLong long (fun _ => .served) "/store" {})
  exact ⟨e, _, failed, file?_upload_place FileSystem.isTree_empty begins⟩

end Letterpress
