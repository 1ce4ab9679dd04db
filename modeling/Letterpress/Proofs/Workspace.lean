import Mathlib.Data.List.Induction
import Letterpress.Proofs.FileName
import Letterpress.Proofs.FileSystem

/-!
# Workspaces that are shared

What those who share a workspace see of each other. A file depends on the entries on the way to it, and what happens to
one file changes one entry. The directory comes into being once; where it cannot be made, every further attempt is
refused in the same way.

* `FileSystem.AgreeTo`: two file systems are the same on the way to a place, so that files there behave the same.
* `FileSystem.entry?_write_of_ne`, `Workspace.entry?_discard_of_ne`: what happens to a file concerns no other place.
* `Workspace.enter_again`: how often a workspace is entered makes no difference.
* `Workspace.fileName_ne`: different marks give different names.
* `Workspace.isFileName_fileName`: a name is one component and says what format the file has, whatever is wished for.
* `Workspace.names_stay_below`: the names that are made, and where files with them are put.
-/

namespace Letterpress

/-- Two refusals of the operating system with the same code. -/
def Fault.SameCode (f g : Fault) : Prop := ∃ code text text', f = .system code text ∧ g = .system code text'

namespace FileSystem

variable {fs fs' : FileSystem} {p q : Place} {content : Bytes}

/-! ## The way to a place -/

/-- Two file systems have the same entries on the way to a place. -/
def AgreeTo (p : Place) (fs fs' : FileSystem) : Prop := ∀ q, q <+: p → fs.entry? q = fs'.entry? q

theorem AgreeTo.of_prefix (h : AgreeTo p fs fs') (above : q <+: p) : AgreeTo q fs fs' :=
  fun r below => h r (below.trans above)

theorem walk_congr {done rest : Place} {m : Node}
    (same : ∀ q, q <+: rest → fs.entry? (done ++ q) = fs'.entry? (done ++ q)) :
    fs.walk done m rest = fs'.walk done m rest := by
  induction rest generalizing done m with
  | nil => rfl
  | cons c rest ih =>
    have next := same [c] (by simp)
    have further {k : Node} : fs.walk (done ++ [c]) k rest = fs'.walk (done ++ [c]) k rest := by
      refine ih fun q below => ?_
      rw [List.append_assoc]
      exact same ([c] ++ q) (List.prefix_append_right_inj [c] |>.mpr below)
    simp only [walk, next, further]

theorem AgreeTo.node_eq (h : AgreeTo p fs fs') : fs.node p = fs'.node p := walk_congr fun q below => h q below

theorem AgreeTo.read_eq (h : AgreeTo p fs fs') : fs.read p = fs'.read p := by
  rw [read, read, h.node_eq]

theorem AgreeTo.newEntry_eq (h : AgreeTo p fs fs') : fs.newEntry p = fs'.newEntry p := by
  rw [newEntry, newEntry, h.node_eq, (h.of_prefix p.dropLast_prefix).node_eq]

/-! ## A file changed -/

theorem entry?_write_of_ne (h : fs.write p content = .ok fs') (apart : q ≠ p) : fs'.entry? q = fs.entry? q := by
  obtain ⟨named, -, -, rfl⟩ := reaches_of_write h
  rw [entry?_set named, if_neg apart]

/-- A write goes the same way in both, and leaves them the same on the way. -/
theorem AgreeTo.write (h : AgreeTo p fs fs') (content : Bytes) :
    (∃ f, fs.write p content = .error f ∧ fs'.write p content = .error f) ∨
      ∃ gs gs', fs.write p content = .ok gs ∧ fs'.write p content = .ok gs' ∧ AgreeTo p gs gs' := by
  have same : (fs.write p content).map (fun _ => ()) = (fs'.write p content).map fun _ => () := by
    simp only [FileSystem.write, h.node_eq, h.newEntry_eq]
    split
    · rfl
    · rfl
    · split <;> rfl
  cases first : fs.write p content with
  | error f =>
    cases second : fs'.write p content with
    | error f' =>
      rw [first, second] at same
      cases same
      exact .inl ⟨f, rfl, rfl⟩
    | ok gs' => rw [first, second] at same; cases same
  | ok gs =>
    cases second : fs'.write p content with
    | error f' => rw [first, second] at same; cases same
    | ok gs' =>
      obtain ⟨named, -, -, rfl⟩ := reaches_of_write first
      obtain ⟨-, -, -, rfl⟩ := reaches_of_write second
      refine .inr ⟨_, _, rfl, rfl, fun q below => ?_⟩
      rw [entry?_set named, entry?_set named, h q below]

end FileSystem

namespace Workspace

open FileSystem

variable {fs fs' : FileSystem} {p q : Place}

theorem entry?_discard (p : Place) (fs : FileSystem) (q : Place) :
    entry? (discard p fs) q = if q = p ∧ fs.isFile p = true then none else fs.entry? q := by
  unfold discard remove isFile
  cases there : fs.node p with
  | error e => simp
  | ok n =>
    cases n with
    | directory => simp
    | file content =>
      have named : p ≠ [] := by
        rintro rfl
        cases (node_eq_ok_iff.mp there).1
      simp [entry?_filter named]

/-- What is discarded changes nothing at other places. -/
theorem entry?_discard_of_ne (apart : q ≠ p) : entry? (discard p fs) q = fs.entry? q := by
  rw [entry?_discard, if_neg fun h => apart h.1]

theorem agreeTo_discard (h : AgreeTo p fs fs') : AgreeTo p (discard p fs) (discard p fs') := by
  intro q below
  rw [entry?_discard, entry?_discard, isFile, isFile, h.node_eq, h q below]

/-! ## Directories -/

end Workspace

namespace FileSystem

variable {fs fs' : FileSystem} {p q : Place} {above : List String} {c : String} {f : Fault} {x : Refusal}

/-- Everything that is entered is in a directory. -/
def IsTree (fs : FileSystem) : Prop := ∀ q c n, fs.entry? (q ++ [c]) = some n → fs.entry? q = some .directory

/-- In a tree, what is entered at a place whose names have lengths that are allowed stands there. -/
theorem IsTree.reaches (tree : fs.IsTree) {n : Node} (there : fs.entry? p = some n)
    (short : ∀ q c, q ++ [c] <+: p → isTooLong c = false) : fs.Reaches p := by
  intro q c below
  refine ⟨short q c below, ?_⟩
  obtain ⟨rest, rfl⟩ := below
  -- what is entered at the end has a directory above it, up to the place in question
  induction rest using List.reverseRecOn generalizing n with
  | nil => exact tree q c n (by simpa using there)
  | append_singleton rest d ih =>
    rw [← List.append_assoc] at there
    exact ih (tree _ d n there) fun r e above => short r e (above.trans (by simp))

theorem sameCode_fault (x : Refusal) (p q : Place) : (x.fault p).SameCode (x.fault q) := ⟨_, _, _, rfl, rfl⟩

theorem isDirectory_iff : fs.isDirectory p = true ↔ fs.node p = .ok .directory := by
  unfold isDirectory
  split <;> simp_all

/-- What stands at a place with one more name, by what stands above. -/
theorem node_concat (above : Place) (c : String) :
    fs.node (above ++ [c]) = (fs.node above).bind fun n => fs.walk above n [c] :=
  walk_concat [] above .directory c

/-! ### One directory -/

theorem makeDirectory_ok (h : fs.makeDirectory p = .ok fs') :
    fs'.node p = .ok .directory ∧
      ∀ q, fs'.entry? q = fs.entry? q ∨ fs.entry? q = none ∧ fs'.entry? q = some .directory := by
  unfold makeDirectory at h
  cases allowed : fs.newEntry p with
  | error e => rw [allowed] at h; cases h
  | ok _ =>
    rw [allowed] at h
    obtain rfl := Except.ok.inj h
    obtain ⟨named, reaches⟩ := reaches_of_newEntry allowed
    have entries := @entry?_set fs p named .directory
    refine ⟨node_eq_ok_iff.mpr ⟨by rw [entries, if_pos rfl], ?_⟩, fun q => ?_⟩
    · refine (reaches_congr (fun r hr => by rw [entries, if_neg hr]) fun d below => ?_).mpr reaches
      have longer := below.length_le
      rw [List.length_append, List.length_singleton] at longer
      omega
    · rw [entries]
      split
      · rename_i here
        subst here
        refine .inr ⟨Option.eq_none_iff_forall_ne_some.mpr fun n entered => ?_, rfl⟩
        -- where something stands, no new entry is allowed
        rw [newEntry, node_eq_ok_iff.mpr ⟨entered, reaches⟩] at allowed
        cases allowed
      · exact .inl rfl

theorem makeDirectory_of_node_ok {n : Node} (there : fs.node p = .ok n) : fs.makeDirectory p = .error .exists_ := by
  simp [makeDirectory, newEntry, there, Except.map]

theorem makeDirectory_of_node_error (there : fs.node p = .error x) (other : x ≠ .notFound) :
    fs.makeDirectory p = .error x := by
  cases x <;> simp_all [makeDirectory, newEntry, Except.map]

/-- Below a place at which nothing stands there can be no directory, for the same reason. -/
theorem makeDirectory_below (there : fs.node above = .error x) : fs.makeDirectory (above ++ [c]) = .error x := by
  have behind : fs.node (above ++ [c]) = .error x := by rw [node_concat, there, Except.bind]
  by_cases missing : x = .notFound
  · subst missing
    simp [makeDirectory, newEntry, behind, there, Except.map]
  · exact makeDirectory_of_node_error behind missing

/-! ### Directories one below the other -/

theorem makeReversed_cons {c : String} {above : List String} : fs.makeReversed (c :: above) =
    match fs.makeDirectory (c :: above).reverse with
    | .ok fs => (fs, .ok ())
    | .error .notFound =>
      match fs.makeReversed above with
      | (fs, .error e) => (fs, .error e)
      | (fs, .ok _) =>
        match fs.makeDirectory (c :: above).reverse with
        | .ok fs => (fs, .ok ())
        | .error e => (fs, if fs.isDirectory (c :: above).reverse then .ok () else .error (e.fault (c :: above).reverse))
    | .error e => (fs, if fs.isDirectory (c :: above).reverse then .ok () else .error (e.fault (c :: above).reverse)) :=
  rfl

/-- What was there stays, and only directories are new. -/
theorem entry?_makeReversed {cs : List String} {r : Except Fault Unit} (h : fs.makeReversed cs = (fs', r)) (q : Place) :
    fs'.entry? q = fs.entry? q ∨ fs.entry? q = none ∧ fs'.entry? q = some .directory := by
  induction cs generalizing fs' r with
  | nil =>
    cases h
    exact .inl rfl
  | cons c above ih =>
    rw [makeReversed_cons] at h
    split at h
    · rename_i gs made
      cases h
      exact (makeDirectory_ok made).2 q
    · split at h
      · rename_i gs e inner
        cases h
        exact ih inner
      · rename_i gs _ inner
        have before := ih inner
        split at h
        · rename_i hs made
          cases h
          obtain same | ⟨missing, new⟩ := (makeDirectory_ok made).2 q
          · rw [same]
            exact before
          · obtain old | ⟨missing', -⟩ := before
            · exact .inr ⟨old ▸ missing, new⟩
            · exact .inr ⟨missing', new⟩
        · cases h
          exact before
    · cases h
      exact .inl rfl

theorem makeReversed_of_isDirectory {cs : List String} (there : fs.isDirectory cs.reverse = true) :
    fs.makeReversed cs = (fs, .ok ()) := by
  cases cs with
  | nil => rfl
  | cons c above =>
    have here := makeDirectory_of_node_ok (isDirectory_iff.mp there)
    simp only [makeReversed_cons, here, there, if_true]

theorem isDirectory_of_makeReversed {cs : List String} {u : Unit} (h : fs.makeReversed cs = (fs', .ok u)) :
    fs'.isDirectory cs.reverse = true := by
  cases cs with
  | nil => rfl
  | cons c above =>
    rw [makeReversed_cons] at h
    split at h
    · rename_i gs made
      cases h
      exact isDirectory_iff.mpr (makeDirectory_ok made).1
    · split at h
      · cases h
      · split at h
        · rename_i gs made
          cases h
          exact isDirectory_iff.mpr (makeDirectory_ok made).1
        · split at h
          · rename_i there
            cases h
            exact there
          · cases h
    · split at h
      · rename_i there
        cases h
        exact there
      · cases h

theorem makeReversed_of_refused {cs : List String} (refused : fs.makeDirectory cs.reverse = .error x)
    (other : x ≠ .notFound) (nothing : fs.isDirectory cs.reverse = false) :
    fs.makeReversed cs = (fs, .error (x.fault cs.reverse)) := by
  cases cs with
  | nil => cases nothing
  | cons c above => cases x <;> simp_all [makeReversed_cons]

/-- A file was there before any directories were made. -/
theorem IsTree.node_file (tree : fs.IsTree) {cs : List String} {r : Except Fault Unit} {content : Bytes}
    (h : fs.makeReversed cs = (fs', r)) (there : fs'.node p = .ok (.file content)) : fs.node p = .ok (.file content) := by
  obtain ⟨entered, reaches⟩ := node_eq_ok_iff.mp there
  have before : fs.entry? p = some (.file content) := by
    obtain same | ⟨-, new⟩ := entry?_makeReversed h p
    · rw [← same, entered]
    · cases new.symm.trans entered
  exact node_eq_ok_iff.mpr ⟨before, tree.reaches before fun q c below => (reaches q c below).1⟩

/-- Where there are all directories above, the last one is refused for its own reason. -/
theorem makeReversed_of_outer {cs : List String} (outer : fs.makeReversed cs = (fs, .ok ()))
    (refused : fs.makeDirectory (c :: cs).reverse = .error x) (nothing : fs.isDirectory (c :: cs).reverse = false) :
    fs.makeReversed (c :: cs) = (fs, .error (x.fault (c :: cs).reverse)) := by
  by_cases absent : x = .notFound
  · subst absent
    simp only [makeReversed_cons, refused, outer, nothing]
    rfl
  · exact makeReversed_of_refused refused absent nothing

/-- Where the directories above cannot be made, a further attempt is refused with their code. -/
theorem IsTree.makeReversed_of_inner (tree : fs.IsTree) {cs : List String} {g : Fault}
    (missing : fs.makeDirectory (cs.reverse ++ [c]) = .error .notFound) (inner : fs.makeReversed cs = (fs', .error f))
    (again : fs'.makeReversed cs = (fs', .error g)) (same : f.SameCode g) :
    ∃ g, fs'.makeReversed (c :: cs) = (fs', .error g) ∧ f.SameCode g := by
  cases there : fs'.node cs.reverse with
  | error y =>
    have below : fs'.makeDirectory (c :: cs).reverse = .error y := by
      rw [List.reverse_cons]
      exact makeDirectory_below there
    by_cases absent : y = .notFound
    · subst absent
      refine ⟨_, ?_, same⟩
      simp only [makeReversed_cons, below, again]
    · have nothing : fs'.isDirectory (c :: cs).reverse = false := by
        simp [isDirectory, node_concat, there, Except.bind]
      refine ⟨_, makeReversed_of_refused below absent nothing, ?_⟩
      have outer := makeReversed_of_refused (makeDirectory_of_node_error there absent) absent
        (by simp [isDirectory, there])
      obtain ⟨code, text, text', rfl, rfl⟩ := same
      cases again.symm.trans outer
      exact ⟨_, _, _, rfl, rfl⟩
  | ok n =>
    cases n with
    | directory =>
      cases again.symm.trans (makeReversed_of_isDirectory (isDirectory_iff.mpr there))
    | file content =>
      -- a file was there before, so it was not for want of a directory that the first attempt went on
      have before := tree.node_file inner there
      have refused : fs.node (cs.reverse ++ [c]) = .error .notDirectory := by
        rw [node_concat, before]
        rfl
      cases (makeDirectory_of_node_error refused (by decide)).symm.trans missing

/-- Where directories cannot be made, a further attempt makes no more of them and is refused with the same code. -/
theorem IsTree.makeReversed_again (tree : fs.IsTree) {cs : List String} (h : fs.makeReversed cs = (fs', .error f)) :
    ∃ g, fs'.makeReversed cs = (fs', .error g) ∧ f.SameCode g := by
  induction cs generalizing fs' f with
  | nil => cases h
  | cons c above ih =>
    have start := h
    rw [makeReversed_cons] at h
    split at h
    · cases h
    · rename_i missing
      rw [List.reverse_cons] at missing
      split at h
      · rename_i gs e inner
        cases h
        obtain ⟨g, again, same⟩ := ih inner
        exact tree.makeReversed_of_inner missing inner again same
      · rename_i gs _ inner
        have outer := makeReversed_of_isDirectory (isDirectory_of_makeReversed inner)
        split at h
        · cases h
        · rename_i y refused
          split at h
          · cases h
          · rename_i nothing
            cases h
            exact ⟨_, makeReversed_of_outer outer refused (Bool.eq_false_iff.mpr nothing), sameCode_fault y _ _⟩
    · split at h
      · cases h
      · cases h
        exact ⟨_, start, sameCode_fault _ _ _⟩

end FileSystem

namespace Workspace

open FileSystem

variable {w w' : Workspace} {fs fs' : FileSystem} {newName : String} {p : Place} {f : Fault}

/-! ## Entering a workspace -/

/-- A workspace that has been entered has its directory from then on. -/
theorem root_of_enter (h : w.enter newName fs = (w', fs', .ok p)) : w'.root = some p := by
  unfold enter at h
  split at h
  · rename_i there
    cases h
    exact there
  · dsimp only at h
    split at h
    · cases h
    · split at h <;> cases h
      rfl

theorem enter_of_root (there : w.root = some p) (newName : String) (fs : FileSystem) :
    w.enter newName fs = (w, fs, .ok p) := by
  rw [enter, there]

/-- Where a workspace cannot be entered, a further attempt changes nothing more and is refused with the same code. -/
theorem enter_again (tree : fs.IsTree) (h : w.enter newName fs = (w', fs', .error f)) :
    w' = w ∧ ∃ g, w.enter newName fs' = (w, fs', .error g) ∧ f.SameCode g := by
  have start := h
  unfold enter at h
  split at h
  · cases h
  · rename_i none_
    dsimp only at h
    split at h
    · rename_i gs e above
      cases h
      obtain ⟨g, again, same⟩ := tree.makeReversed_again above
      refine ⟨rfl, g, ?_, same⟩
      simp only [enter, none_, makeDirectories, again]
    · rename_i gs _ above
      have outer := makeReversed_of_isDirectory (isDirectory_of_makeReversed above)
      split at h
      · cases h
      · rename_i e refused
        cases h
        refine ⟨rfl, e.fault (w.parent.getD temporary ++ [nameStart ++ newName]), ?_, sameCode_fault e _ _⟩
        simp only [enter, none_, makeDirectories, outer, refused]

/-! ## Names -/

theorem fileName_ne {m m' : List Char} (size : m.length = m'.length) (apart : m ≠ m') (wish wish' : String)
    (f f' : OutputFormat) : fileName m wish f ≠ fileName m' wish' f' := by
  intro same
  have chars := String.ofList_injective same
  simp only [List.append_assoc] at chars
  exact apart (List.append_inj chars size).1

open Text FileName

variable {mark : List Char}

/-- A name that is one component and ends for a format. From any directory it leads one step down. -/
structure IsFileName (f : OutputFormat) (name : String) : Prop where
  component : Path.IsComponent name
  unparted : ∀ c ∈ separators, c ∉ name.toList
  ending : '.' :: f.extension.toList <:+ name.toList
  below : ∀ dir, Path.resolve (Path.join dir name) = Path.resolve dir ++ [name]

/-- A name with its parts: the mark, the name that is wished for, and the end. -/
theorem fileName_eq (mark : List Char) (wish : String) (f : OutputFormat) :
    fileName mark wish f = String.ofList mark ++ "-" ++ String.ofList (segment (plain wish.toList)) ++
      String.ofList ('.' :: f.extension.toList) := by
  apply String.toList_injective
  simp [fileName, segment_plain]

theorem isSegment_of_mem_ending (f : OutputFormat) : ∀ c ∈ '.' :: f.extension.toList, isSegment c = true :=
  List.all_eq_true.mp (by cases f <;> decide)

theorem isFileName_fileName (digits : ∀ c ∈ mark, isHex c = true) (wish : String) (f : OutputFormat) :
    IsFileName f (fileName mark wish f) := by
  have digits' : ∀ c ∈ (String.ofList mark).toList, isHex c = true := by rwa [String.toList_ofList]
  have ending : ∀ c ∈ (String.ofList ('.' :: f.extension.toList)).toList, isSegment c = true := by
    rw [String.toList_ofList]
    exact isSegment_of_mem_ending f
  have component : Path.IsComponent (fileName mark wish f) := by
    rw [fileName_eq]
    exact isComponent_marked digits' _ ending
  refine ⟨component, fun c separator => ?_, ?_, Path.resolve_join_component component⟩
  · rw [fileName_eq]
    exact not_mem_of_separator (fun d => isSegment_of_mem_marked digits' _ ending) separator
  · rw [fileName_eq, String.toList_append, String.toList_ofList]
    exact List.suffix_append _ _

/-- A place is found in the directory of the workspace, and refused only if that is. -/
theorem allocate_cases (w : Workspace) (newName : String) (mark : List Char) (wish : String) (f : OutputFormat)
    (fs : FileSystem) :
    (∃ root, (w.enter newName fs).2.2 = .ok root ∧ (w.allocate newName mark wish f fs).1.root = some root ∧
      (w.allocate newName mark wish f fs).2.2 = .ok (root ++ [fileName mark wish f])) ∨
    ∃ e, (w.enter newName fs).2.2 = .error e ∧ (w.allocate newName mark wish f fs).2.2 = .error e := by
  rw [allocate]
  rcases entered : w.enter newName fs with ⟨w', fs', e | root⟩
  · exact .inr ⟨e, rfl, rfl⟩
  · exact .inl ⟨root, rfl, root_of_enter entered, rfl⟩

/-- Names of both kinds are safe, and those that are safe already are kept. A place for a file is one step below the
directory of the workspace, with a name that is one component and ends for the format. -/
theorem names_stay_below (w : Workspace) (newName : String) (digits : ∀ c ∈ mark, isHex c = true) (wish : String)
    (f : OutputFormat) (fs : FileSystem) :
    (Tidies isPlain plain ∧ Tidies isSegment segment) ∧
      (∀ cs, plain (plain cs) = plain cs ∧ segment (segment cs) = segment cs) ∧
      (∀ cs, ∀ c ∈ separators, c ∉ plain cs ∧ c ∉ segment cs) ∧
      ∃ name, IsFileName f name ∧
        ((∃ root, (w.enter newName fs).2.2 = .ok root ∧ (w.allocate newName mark wish f fs).1.root = some root ∧
            (w.allocate newName mark wish f fs).2.2 = .ok (root ++ [name])) ∨
          ∃ e, (w.enter newName fs).2.2 = .error e ∧ (w.allocate newName mark wish f fs).2.2 = .error e) := by
  refine ⟨⟨tidies_plain, tidies_segment⟩, fun cs => ⟨tidies_plain.idem cs, tidies_segment.idem cs⟩,
    fun cs c separator => ⟨?_, ?_⟩, fileName mark wish f, isFileName_fileName digits wish f,
    allocate_cases w newName mark wish f fs⟩
  · exact not_mem_of_separator (fun d mem => isSegment_of_isPlain ((tidies_plain.safe cs).letters d mem)) separator
  · exact not_mem_of_separator (tidies_segment.safe cs).letters separator

/-- A name is wished for that would lead out of the workspace. -/
theorem names_stay_below_climbing :
    (∀ c ∈ ['0', 'f'], isHex c = true) ∧ ∃ name, IsFileName .markdown name ∧
      (allocate {} "x" ['0', 'f'] "../../etc/\x00passwd" .markdown {}).2.2 = .ok (["tmp", "docgen-x"] ++ [name]) := by
  have digits : ∀ c ∈ ['0', 'f'], isHex c = true := List.all_eq_true.mp (by decide)
  have entered : (enter {} "x" {}).2.2 = .ok ["tmp", "docgen-x"] := by rfl
  obtain ⟨-, -, -, name, named, placed⟩ :=
    names_stay_below {} "x" digits "../../etc/\x00passwd" .markdown {}
  rcases placed with ⟨root, there, -, place⟩ | ⟨e, refused, -⟩
  · cases entered.symm.trans there
    exact ⟨digits, name, named, place⟩
  · cases entered.symm.trans refused

end Workspace

end Letterpress
