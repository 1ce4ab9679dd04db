import Letterpress.Proofs.Workshop.Turn
import Letterpress.Proofs.Workspace

/-!
# What a generation sees of a bench

A generation among others is followed by the same generation that has a bench for itself: it makes the same requests and
gets the same answers, as long as the two benches look the same from where it stands.

* `Follows`: a generation on its own has come to where a task is.
* `Sees`: a bench of its own looks like the shared one.
* `Fares`, `Fares.hear`, `Fares.frame`: a task is followed, through what it does itself and through what others do.
* `Shared`: how the workspace and the disk of all generations have come to be, from the bench at the beginning.
-/

namespace Letterpress.Workshop

open Generation Transcript FileSystem

variable {n : Nat} {w : Workshop} {jobs : Fin n → Job} {b β bench bench' : Bench} {s s' : State n} {i j : Fin n}
  {t : Task} {x : Job} {q : Request}

/-! ## Alone -/

/-- The exchanges of a generation that has the bench for itself. -/
def transcript (w : Workshop) (x : Job) (b : Bench) : Transcript := (w.course x).transcript (w.serveAlone x) (b, 0)

/-- A generation that has a bench for itself has made the same requests as a task, with the same answers, and has come
to a bench. -/
structure Follows (w : Workshop) (x : Job) (b : Bench) (t : Task) (β : Bench) : Prop where
  run_eq : (w.course x).run (w.serveAlone x) (b, 0) = t.rest.run (w.serveAlone x) (β, t.past.length)
  transcript_eq : w.transcript x b = t.past ++ t.rest.transcript (w.serveAlone x) (β, t.past.length)

theorem Follows.hear (h : Follows w x b t β) {next : Answer q → Course (Except Failure Descriptor)}
    (rest : t.rest = .ask q next) :
    Follows w x b (t.hear (w.serve x t.past.length q β).1 (next (w.serve x t.past.length q β).1))
      (w.serve x t.past.length q β).2 := by
  refine ⟨?_, ?_⟩
  · rw [h.run_eq, rest]
    simp only [Dialogue.run, serveAlone, Task.hear, List.length_append, List.length_singleton]
  · rw [h.transcript_eq, rest]
    simp only [Dialogue.transcript, serveAlone, Task.hear, List.length_append, List.length_singleton, List.append_assoc,
      List.singleton_append]

/-- From where a generation stands, a bench of its own looks like the one that it shares, when it has begun with another
one at a certain time. -/
def Sees (b : Bench) (now : Binary64) (g : Standing) (β bench : Bench) : Prop :=
  match g with
  | .fresh => β = b.atTime now
  | .resolved => β.workspace = b.workspace ∧ β.disk = b.disk
  | .placed p => AgreeTo p β.disk bench.disk
  | .refused _ => False

/-- A task is followed by the same generation on its own, at the time at which the task asks for its template. The two
part if there is no place for the artifact, and come to the same kind of refusal. -/
inductive Fares (w : Workshop) (x : Job) (b : Bench) (t : Task) (bench : Bench) : Prop where
  | together (follows : ∀ now, t.standing = .fresh ∨ now = t.asked →
      ∃ β, Follows w x (b.atTime now) t β ∧ Sees b now t.standing β bench)
  | apart {f g : Fault} (refused : t.standing = .refused (.fault g)) (same : f.SameCode g)
      (alone : w.alone x (b.atTime t.asked) = .error (.fault f)) (kept : uploads t.past = [])
      (kept_alone : uploads (w.transcript x (b.atTime t.asked)) = [])

theorem Fares.begin_ (w : Workshop) (x : Job) (b : Bench) :
    Fares w x b { rest := w.course x, asked := b.catalogue.now } b := by
  refine .together fun now _ => ⟨b.atTime now, ⟨rfl, ?_⟩, rfl⟩
  rfl

/-- What others do is no concern of a generation, if it leaves the way to its artifact alone. -/
theorem Fares.frame (h : Fares w x b t bench)
    (same : ∀ p, t.standing = .placed p → AgreeTo p bench.disk bench'.disk) : Fares w x b t bench' := by
  cases h with
  | together follows =>
    refine .together fun now open_ => ?_
    obtain ⟨β, follow, sees⟩ := follows now open_
    refine ⟨β, follow, ?_⟩
    cases there : t.standing with
    | placed p =>
      rw [there] at sees
      exact fun q below => (sees q below).trans (same p there q below)
    | _ =>
      rw [there] at sees
      exact sees
  | apart refused code alone kept kept_alone => exact .apart refused code alone kept kept_alone

/-- A request is answered in the same way on both benches, which go on to look the same. -/
theorem Fares.hear (h : Fares w x b t bench) (disciplined : t.Disciplined)
    {next : Answer q → Course (Except Failure Descriptor)} (rest : t.rest = .ask q next) {a : Answer q}
    (agree : ∀ now β, t.standing.after q a = .fresh ∨ now = t.asked → Sees b now t.standing β bench →
      (w.serve x t.past.length q β).1 = a ∧
        Sees b now (t.standing.after q a) (w.serve x t.past.length q β).2 bench') :
    Fares w x b (t.hear a (next a)) bench' := by
  cases h with
  | together follows =>
    refine .together fun now open_ => ?_
    rw [standing_hear] at open_ ⊢
    have before : t.standing = .fresh ∨ now = t.asked :=
      open_.imp_left fun fresh => by_contra fun further => Standing.after_ne_fresh further a fresh
    obtain ⟨β, follow, sees⟩ := follows now before
    obtain ⟨same, seen⟩ := agree now β open_ sees
    have later := follow.hear rest
    rw [same] at later
    exact ⟨_, later, seen⟩
  | apart refused code alone kept kept_alone =>
    have allowed := disciplined.keeps
    rw [rest, refused] at allowed
    refine .apart ?_ code alone ?_ kept_alone
    · rw [standing_hear, refused]
      exact Standing.after_refused allowed.1 a
    · rw [Task.hear, uploads, seen_append, show seen _ t.past = [] from kept]
      cases q with
      | upload u =>
        obtain ⟨p, ⟨⟩⟩ := allowed.1
      | _ => rfl

/-! ## Single requests -/

theorem length_digits (x y : Job) : x.digits.length = y.digits.length := by
  simp [Job.digits, x.length_mark, y.length_mark]

section

variable {p : Place} {k : Nat}

/-- A generation that has a place changes nothing but the file there. -/
theorem serve_elsewhere (allowed : (Standing.placed p).allows q) (bench : Bench) :
    (w.serve x k q bench).2.workspace = bench.workspace ∧
      ∀ r, r ≠ p → entry? (w.serve x k q bench).2.disk r = bench.disk.entry? r := by
  cases q with
  | write r content =>
    obtain rfl : p = r := Standing.placed.inj allowed
    simp only [serve]
    cases written : bench.disk.write p content with
    | ok disk => exact ⟨rfl, fun r apart => entry?_write_of_ne written apart⟩
    | error f => exact ⟨rfl, fun _ _ => rfl⟩
  | discard r =>
    obtain rfl : p = r := Standing.placed.inj allowed
    exact ⟨rfl, fun r apart => Workspace.entry?_discard_of_ne apart⟩
  | resolve | allocate | picture => cases allowed
  | clock | announce | print | upload | read => exact ⟨rfl, fun _ _ => rfl⟩

/-- It is answered by what is on the way there. -/
theorem serve_agrees (allowed : (Standing.placed p).allows q) (same : AgreeTo p β.disk bench.disk) :
    (w.serve x k q β).1 = (w.serve x k q bench).1 ∧
      AgreeTo p (w.serve x k q β).2.disk (w.serve x k q bench).2.disk := by
  cases q with
  | write r content =>
    obtain rfl : p = r := Standing.placed.inj allowed
    simp only [serve]
    obtain ⟨f, left, right⟩ | ⟨_, _, left, right, later⟩ := same.write content
    · rw [left, right]
      exact ⟨rfl, same⟩
    · rw [left, right]
      exact ⟨rfl, later⟩
  | read r =>
    obtain rfl : p = r := Standing.placed.inj allowed
    exact ⟨same.read_eq, same⟩
  | discard r =>
    obtain rfl : p = r := Standing.placed.inj allowed
    exact ⟨rfl, Workspace.agreeTo_discard same⟩
  | resolve | allocate | picture => cases allowed
  | clock | announce | print | upload => exact ⟨rfl, same⟩

/-- Before it has a place, a generation leaves the bench alone but for asking for a template and for the place. -/
theorem serve_neutral {g : Standing} (allowed : g.allows q) (unplaced : ∀ p, g ≠ .placed p)
    (other : ∀ id, q ≠ .resolve id) (further : ∀ wish f, q ≠ .allocate wish f) (bench : Bench) :
    (w.serve x k q bench).2 = bench ∧ (w.serve x k q β).1 = (w.serve x k q bench).1 ∧ ∀ a, g.after q a = g := by
  cases q with
  | resolve id => exact absurd rfl (other id)
  | allocate wish f => exact absurd rfl (further wish f)
  | write p | read p | discard p => exact absurd allowed (unplaced p)
  | upload =>
    obtain ⟨p, there⟩ := allowed
    exact absurd there (unplaced p)
  | clock | announce | picture | print => exact ⟨rfl, rfl, fun _ => rfl⟩

variable {workspace : Workspace} {disk : FileSystem} {wish : String} {f : OutputFormat}

theorem serve_allocate {root : Place}
    (entry : bench.workspace.enter w.newName bench.disk = (workspace, disk, .ok root)) :
    w.serve x k (.allocate wish f) bench =
      (.ok (root ++ [Workspace.fileName x.digits wish f]), { bench with workspace, disk }) := by
  simp only [serve, Workspace.allocate, entry]
  rfl

theorem serve_allocate_error {g : Fault}
    (entry : bench.workspace.enter w.newName bench.disk = (workspace, disk, .error g)) :
    w.serve x k (.allocate wish f) bench = (.error (.fault g), { bench with workspace, disk }) := by
  simp only [serve, Workspace.allocate, entry]
  rfl

/-- A generation on its own that is refused a place does nothing more but own up to that. -/
theorem Follows.of_refused (h : Follows w x b t β) (disciplined : t.Disciplined)
    {next : Answer (.allocate wish f) → Course (Except Failure Descriptor)} (rest : t.rest = .ask (.allocate wish f) next)
    {e : Failure} {β' : Bench} (answer : w.serve x t.past.length (.allocate wish f) β = (.error e, β'))
    (kept : uploads t.past = []) : w.alone x b = .error e ∧ uploads (w.transcript x b) = [] := by
  have later := h.hear rest
  have keeps := (disciplined.hear rest (w.serve x t.past.length (.allocate wish f) β).1).keeps
  rw [standing_hear, answer, Standing.after_allocate rfl] at keeps
  rw [answer] at later
  obtain ⟨result, none_⟩ := keeps.of_refused (w.serveAlone x) (β', _)
  refine ⟨(congrArg Prod.fst later.run_eq).trans result, ?_⟩
  rw [later.transcript_eq, Task.hear, uploads, seen_append, seen_append, show seen _ t.past = [] from kept]
  exact none_

end

/-! ## The bench of all -/

/-- How the workspace and the disk of all generations have come to be: nobody has asked for a place; or the workspace has
been entered, and only the files of generations have changed since; or it could not be entered. -/
inductive Shared (w : Workshop) (jobs : Fin n → Job) (b : Bench) (s : State n) : Prop where
  | untouched (workspace : s.bench.workspace = b.workspace) (disk : s.bench.disk = b.disk)
      (nobody : ∀ i p, (s.tasks i).standing ≠ .placed p)
  | entered {fs : FileSystem} {root : Place}
      (entry : b.workspace.enter w.newName b.disk = (s.bench.workspace, fs, .ok root))
      (others : ∀ p, (∀ i, (s.tasks i).standing ≠ .placed p) → s.bench.disk.entry? p = fs.entry? p)
      (places : ∀ i p, (s.tasks i).standing = .placed p →
        ∃ wish f, p = root ++ [Workspace.fileName (jobs i).digits wish f])
  | refused {f : Fault} (entry : b.workspace.enter w.newName b.disk = (s.bench.workspace, s.bench.disk, .error f))
      (nobody : ∀ i p, (s.tasks i).standing ≠ .placed p)

namespace Shared

variable {p : Place}

/-- Only the files of generations that have places matter. -/
theorem congr (h : Shared w jobs b s) (workspace : s'.bench.workspace = s.bench.workspace)
    (disk : s'.bench.disk = s.bench.disk)
    (placed : ∀ i p, (s'.tasks i).standing = .placed p ↔ (s.tasks i).standing = .placed p) : Shared w jobs b s' := by
  cases h with
  | untouched same same' nobody =>
    exact .untouched (workspace.trans same) (disk.trans same') fun i p there => nobody i p ((placed i p).mp there)
  | entered entry others places =>
    refine .entered (workspace ▸ entry) (fun p free => ?_) fun i p there => places i p ((placed i p).mp there)
    rw [disk]
    exact others p fun i there => free i ((placed i p).mpr there)
  | refused entry nobody =>
    exact .refused (workspace ▸ disk ▸ entry) fun i p there => nobody i p ((placed i p).mp there)

/-- A generation that has a place may change what is there. -/
theorem touch (h : Shared w jobs b s) (there : (s.tasks i).standing = .placed p)
    (workspace : s'.bench.workspace = s.bench.workspace)
    (elsewhere : ∀ r, r ≠ p → s'.bench.disk.entry? r = s.bench.disk.entry? r)
    (placed : ∀ i p, (s'.tasks i).standing = .placed p ↔ (s.tasks i).standing = .placed p) : Shared w jobs b s' := by
  cases h with
  | untouched _ _ nobody => exact absurd there (nobody i p)
  | entered entry others places =>
    refine .entered (workspace ▸ entry) (fun q free => ?_) fun i p there => places i p ((placed i p).mp there)
    rw [elsewhere q fun same => free i ((placed i q).mpr (same ▸ there))]
    exact others q fun i there => free i ((placed i q).mpr there)
  | refused _ nobody => exact absurd there (nobody i p)

/-- Different generations have places of which none is on the way to another. -/
theorem not_prefix (h : Shared w jobs b s) (distinct : ∀ i j, i ≠ j → (jobs i).digits ≠ (jobs j).digits) (apart : i ≠ j)
    {q : Place} (here : (s.tasks i).standing = .placed p) (there : (s.tasks j).standing = .placed q) : ¬ p <+: q := by
  intro above
  cases h with
  | untouched _ _ nobody => exact nobody i p here
  | entered entry others places =>
    obtain ⟨wish, f, rfl⟩ := places i p here
    obtain ⟨wish', f', rfl⟩ := places j q there
    have same := List.append_cancel_left (above.eq_of_length (by simp))
    exact Workspace.fileName_ne (length_digits ..) (distinct i j apart) wish wish' f f' (List.singleton_inj.mp same)
  | refused _ nobody => exact nobody i p here

/-- A workspace is entered as it would have been at the beginning. -/
theorem enter (h : Shared w jobs b s) (tree : b.disk.IsTree) :
    (∃ workspace fs disk root, b.workspace.enter w.newName b.disk = (workspace, fs, .ok root) ∧
      s.bench.workspace.enter w.newName s.bench.disk = (workspace, disk, .ok root) ∧
      (∀ p, (∀ i, (s.tasks i).standing ≠ .placed p) → disk.entry? p = fs.entry? p) ∧
      ∀ i p, (s.tasks i).standing = .placed p →
        disk = s.bench.disk ∧ ∃ wish f, p = root ++ [Workspace.fileName (jobs i).digits wish f]) ∨
    ∃ fs f g, b.workspace.enter w.newName b.disk = (b.workspace, fs, .error f) ∧
      s.bench.workspace.enter w.newName s.bench.disk = (b.workspace, fs, .error g) ∧ f.SameCode g ∧
      ∀ i p, (s.tasks i).standing ≠ .placed p := by
  cases h with
  | untouched workspace disk nobody =>
    rw [workspace, disk]
    rcases entry : b.workspace.enter w.newName b.disk with ⟨ws, fs, f | root⟩
    · obtain ⟨rfl, g, -, same⟩ := Workspace.enter_again tree entry
      obtain ⟨code, text, -, rfl, -⟩ := same
      exact .inr ⟨fs, _, _, rfl, rfl, ⟨code, text, text, rfl, rfl⟩, nobody⟩
    · exact .inl ⟨ws, fs, fs, root, rfl, rfl, fun _ _ => rfl, fun i p there => absurd there (nobody i p)⟩
  | entered entry others places =>
    have again := Workspace.enter_of_root (Workspace.root_of_enter entry) w.newName s.bench.disk
    exact .inl ⟨_, _, _, _, entry, again, others, fun i p there => ⟨rfl, places i p there⟩⟩
  | refused entry nobody =>
    obtain ⟨same, g, again, code⟩ := Workspace.enter_again tree entry
    rw [same] at entry ⊢
    exact .inr ⟨_, _, g, entry, again, code, nobody⟩

end Shared

end Letterpress.Workshop
