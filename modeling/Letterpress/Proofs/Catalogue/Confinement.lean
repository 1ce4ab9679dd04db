import Letterpress.Proofs.Catalogue.FallThrough
import Letterpress.Proofs.Path

/-!
# Templates stay in their directory

An identifier may be any text: it may begin with a slash, go up and down, and repeat its slashes. The file that is opened
for it is the one that it leads to from the directory of templates, and none is opened if that place is not in the
directory. A directory that is no absolute path is seen from the root.

* `Leads`: an identifier that stands for a file.
* `opening_eq_reading_iff`, `opening_of_not_leads`: where a load begins.
* `Quiet.resolve_congr`: a single reader sees no other file.
* `files_confined`: which file a reader waits for, in whatever order readers and all else come.
-/

namespace Letterpress.Catalogue

variable {c s s' : State} {n k : Nat} {directory id : String} {hasStore : Bool} {file : Place} {p : Phase} {w : Work}

/-- An identifier that stands for a file. It has a point, a slash or a backslash in it, and it leads from the directory
of templates to a place that is below it, or is the directory itself. -/
structure Leads (directory id : String) (file : Place) : Prop where
  marked : '.' ∈ id.toList ∨ '/' ∈ id.toList ∨ '\\' ∈ id.toList
  place : Path.destination (Path.destination [] directory) id = file
  inside : Path.destination [] directory <+: file

theorem isPath_iff (id : String) : isPath id = true ↔ '.' ∈ id.toList ∨ '/' ∈ id.toList ∨ '\\' ∈ id.toList := by
  simp only [isPath, List.any_eq_true, Bool.or_eq_true, beq_iff_eq]
  constructor
  · rintro ⟨x, member, (rfl | rfl) | rfl⟩
    · exact .inl member
    · exact .inr (.inl member)
    · exact .inr (.inr member)
  · rintro (member | member | member)
    · exact ⟨_, member, .inl (.inl rfl)⟩
    · exact ⟨_, member, .inl (.inr rfl)⟩
    · exact ⟨_, member, .inr rfl⟩

/-! ## Where a load begins -/

section

variable (plain : '\x00' ∉ id.toList)
include plain

theorem file?_of_plain (directory : String) :
    file? directory id = .ok (if Path.isWithin directory (Path.join directory id) then
      some (Path.resolve (Path.join directory id)) else none) := by
  have clear : id.toList.contains '\x00' = false := by simpa using plain
  simp only [file?, clear, Bool.false_eq_true, if_false]

theorem file?_eq_ok_some_iff :
    file? directory id = .ok (some file) ↔
      Path.destination (Path.destination [] directory) id = file ∧ Path.destination [] directory <+: file := by
  rw [file?_of_plain plain, Path.isWithin, Path.resolve_join, Path.resolve_eq]
  by_cases inside : Path.destination [] directory <+: Path.destination (Path.destination [] directory) id
  · rw [if_pos (List.isPrefixOf_iff_prefix.mpr inside)]
    constructor
    · rintro ⟨⟩
      exact ⟨rfl, inside⟩
    · rintro ⟨rfl, -⟩
      rfl
  · rw [if_neg (mt List.isPrefixOf_iff_prefix.mp inside)]
    constructor
    · rintro ⟨⟩
    · rintro ⟨rfl, within⟩
      exact absurd within inside

theorem opening_eq_reading_iff (hasStore : Bool) :
    opening directory hasStore id = .ok (.reading file) ↔ Leads directory id file := by
  have store : behindFiles hasStore id ≠ .ok (.reading file) := fun same => by
    cases (stored_of_behindFiles same).1
  unfold opening
  split
  · rename_i path
    have marked := (isPath_iff id).mp path
    split
    · rename_i f fails
      rw [file?_of_plain plain] at fails
      cases fails
    · rename_i there found
      have leads := (file?_eq_ok_some_iff plain).mp found
      constructor
      · rintro ⟨⟩
        exact ⟨marked, leads.1, leads.2⟩
      · rintro ⟨-, place, -⟩
        rw [← place, leads.1]
    · rename_i missing
      refine iff_of_false store fun leads => ?_
      rw [(file?_eq_ok_some_iff plain).mpr ⟨leads.place, leads.inside⟩] at missing
      cases missing
  · rename_i unmarked
    exact iff_of_false store fun leads => unmarked ((isPath_iff id).mpr leads.marked)

/-- Whoever does not stand for a file goes to the store. -/
theorem opening_of_not_leads (elsewhere : ∀ file, ¬Leads directory id file) :
    opening directory hasStore id = behindFiles hasStore id := by
  unfold opening
  split
  · rename_i path
    split
    · rename_i f fails
      rw [file?_of_plain plain] at fails
      cases fails
    · rename_i file found
      have leads := (file?_eq_ok_some_iff plain).mp found
      exact absurd ⟨(isPath_iff id).mp path, leads.1, leads.2⟩ (elsewhere file)
    · rfl
  · rfl

end

/-! ## A single reader -/

section

variable (quiet : Quiet c)
include quiet

theorem Serves.askStore (serves : Serves c s id k (.active n w)) :
    ∃ k' p', Serves c (s.askStore c.readers.length id n) id k' p' := by
  unfold State.askStore
  split
  · exact ⟨_, _, (serves.congr s.entries s.readings 1).work quiet .asking⟩
  · exact ⟨_, _, serves.finish quiet _⟩

/-- What is due to the one who is under way keeps the others at their ends. -/
theorem Serves.step {sources : Sources} {e : Event} (serves : Serves c s id k p)
    (next : nextEvent? sources c.readers.length ⟨id, p⟩ = some e) (go : Catalogue.step s e = some s') :
    ∃ k' p', Serves c s' id k' p' := by
  have there := serves.reader? quiet
  rcases p with n | ⟨n, _ | file | -⟩ | result <;> cases next <;> simp only [Catalogue.step, there] at go <;>
    obtain rfl := Option.some.inj go
  · unfold State.look
    split
    · exact ⟨_, _, serves.finish quiet _⟩
    · unfold State.load
      split
      · split
        · exact ⟨_, _, serves.finish quiet _⟩
        · exact ⟨_, _, serves.work quiet _⟩
        · exact serves.askStore quiet
      · exact serves.askStore quiet
  · unfold State.useFile
    split
    · split
      · exact ⟨_, _, (serves.keep quiet _ _).serves⟩
      · exact ⟨_, _, serves.finish quiet _⟩
    · split
      · exact serves.askStore quiet
      · exact ⟨_, _, serves.finish quiet _⟩
  · unfold State.useStore
    split
    · exact ⟨_, _, (serves.keep quiet s.readings _).serves⟩
    · exact ⟨_, _, serves.finish quiet _⟩
    · exact ⟨_, _, serves.finish quiet _⟩

variable {read read' : List String → Except Fault Bytes} {ask : String → Except Failure (Option Copy)}
  (same : ∀ file, opening c.directory c.hasStore id = .ok (.reading file) → read file = read' file)
include same

/-- A reader that has come this far looks at no file but its own from there on. -/
theorem Serves.settle_congr (serves : Serves c s id k p) (placed : Placed s) (m : Nat) :
    settle ⟨read, ask⟩ s m = settle ⟨read', ask⟩ s m := by
  induction m generalizing s k p with
  | zero => rfl
  | succ m ih =>
    have due : nextEvent? ⟨read, ask⟩ c.readers.length ⟨id, p⟩ = nextEvent? ⟨read', ask⟩ c.readers.length ⟨id, p⟩ := by
      rcases p with n | ⟨n, _ | file | -⟩ | result
      · rfl
      · rfl
      · have opens := (placed _ _ _ _ (serves.reader? quiet)).1 file rfl
        rw [serves.settled.directory, serves.settled.hasStore] at opens
        simp only [nextEvent?, same file opens]
      · rfl
      · rfl
    rw [settle, settle, serves.advance? quiet, serves.advance? quiet, due]
    cases next : nextEvent? ⟨read', ask⟩ c.readers.length ⟨id, p⟩ with
    | none => rfl
    | some e =>
      cases go : Catalogue.step s e with
      | none => simp only [Option.bind_some, go]
      | some s' =>
        obtain ⟨k', p', further⟩ := serves.step quiet next go
        simp only [Option.bind_some, go]
        exact ih further (placed.step serves.orderly go)

/-- A single reader looks at no file but its own. -/
theorem Quiet.resolve_congr (placed : Placed c) :
    Catalogue.resolve ⟨read, ask⟩ c id = Catalogue.resolve ⟨read', ask⟩ c id := by
  obtain ⟨s, k, p, go, serves⟩ : ∃ s k p, step c (.resolve c.readers.length id) = some s ∧ Serves c s id k p := by
    cases disposed : c.isDisposed with
    | true =>
      have go : step c (.resolve c.readers.length id) = some _ := quiet.step_of_disposed disposed
      exact ⟨_, _, _, go, (quiet.resolve_at_once ⟨read, ask⟩ go).2⟩
    | false =>
      cases fresh : c.fresh? id with
      | some y =>
        have go := step_resolve_of_fresh quiet.unknown disposed fresh
        exact ⟨_, _, _, go, (quiet.resolve_at_once ⟨read, ask⟩ go).2⟩
      | none =>
        obtain ⟨n, serves⟩ := quiet.enters disposed id
        exact ⟨_, _, _, quiet.step_of_missing disposed fresh, serves⟩
  have settles : settle ⟨read, ask⟩ s (3 * s.readers.length) = settle ⟨read', ask⟩ s (3 * s.readers.length) :=
    serves.settle_congr quiet same (placed.step quiet.orderly go) _
  simp only [Catalogue.resolve, go, Option.getD_some, run, settles]

end

/-! ## Every reader -/

/-- In whatever order readers and all else come, for an identifier without a zero character: whoever waits for a file
waits for the one that its identifier leads to. Whoever begins to load does so if there is one, and else goes to the
store, if there is a store. A single reader comes to the same whatever any other file holds. -/
theorem files_confined (reached : Reachable s) (plain : '\x00' ∉ id.toList) (r n : Nat) :
    (∀ file, s.reader? r = some ⟨id, .active n (.reading file)⟩ → Leads s.directory id file) ∧
      (s.reader? r = some ⟨id, .active n .looking⟩ → s.fresh? id = none →
        ∃ s', step s (.resume r) = some s' ∧
          (∀ file, s'.reader? r = some ⟨id, .active n (.reading file)⟩ ↔ Leads s.directory id file) ∧
          ((∀ file, ¬Leads s.directory id file) →
            s'.reader? r = some ⟨id, .ofOpening n (behindFiles s.hasStore id)⟩)) ∧
      (Quiet s → ∀ read read' ask, (∀ file, Leads s.directory id file → read file = read' file) →
        resolve ⟨read, ask⟩ s id = resolve ⟨read', ask⟩ s id) := by
  refine ⟨fun file there => ?_, fun there missing => ?_, fun quiet read read' ask same => ?_⟩
  · exact (opening_eq_reading_iff plain _).mp ((reached.placed r id n _ there).1 file rfl)
  · have after := reader?_load reached.orderly there
    have go : step s (.resume r) = some (s.load r id n) := by simp only [step, there, State.look, missing]
    refine ⟨_, go, fun file => ?_, fun elsewhere => ?_⟩
    · rw [after, ← opening_eq_reading_iff plain s.hasStore, Option.some.injEq, Reader.mk.injEq, Phase.ofOpening_eq_active_iff]
      simp
    · rw [after, opening_of_not_leads plain elsewhere]
  · exact quiet.resolve_congr (fun file opens => same file ((opening_eq_reading_iff plain _).mp opens)) reached.placed

/-- An identifier that goes down and up again, and one that goes to a directory beside, whose name begins in the same
way. -/
theorem files_confined_detour :
    let c : State := { directory := "/srv//templates/", hasStore := true, seconds := .ofInt 60, now := .ofInt 1000 }
    (∃ s', step (c.enter 0 "mail//.././letter.md") (.resume 0) = some s' ∧
      s'.reader? 0 = some ⟨"mail//.././letter.md", .active 0 (.reading ["srv", "templates", "letter.md"])⟩) ∧
    ∃ s', step (c.enter 0 "../templates-old/letter.md") (.resume 0) = some s' ∧
      s'.reader? 0 = some ⟨"../templates-old/letter.md", .active 0 .asking⟩ := by
  intro c
  have reached (id : String) : Reachable (c.enter 0 id) := .step (.resolve 0 id) (.new ..) rfl
  have inner := (files_confined (reached "mail//.././letter.md") (by decide) 0 0).2.1 rfl rfl
  have outer := (files_confined (reached "../templates-old/letter.md") (by decide) 0 0).2.1 rfl rfl
  constructor
  · obtain ⟨s', go, leads, -⟩ := inner
    exact ⟨s', go, (leads _).mpr ⟨by decide, by decide, by decide⟩⟩
  · obtain ⟨s', go, -, store⟩ := outer
    refine ⟨s', go, store ?_⟩
    rintro _ ⟨-, rfl, inside⟩
    exact absurd inside (by decide)

end Letterpress.Catalogue
