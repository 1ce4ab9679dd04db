import Letterpress.Proofs.Workshop.View

/-!
# Generations do not disturb each other

What holds of all generations of a workshop at any time, whoever goes on next.

* `Independent`: each generation has kept to what it is allowed, and is followed by the same one on its own.
* `Independent.start`, `Independent.step`, `Independent.after`: it is so at the beginning, and stays so.
* `Independent.frame`: a generation leaves the way to the artifacts of others alone.
-/

namespace Letterpress.Workshop

open Generation Transcript FileSystem

variable {n : Nat} {w : Workshop} {jobs : Fin n → Job} {b : Bench} {s s' : State n} {e : Event n} {es : List (Event n)}
  {i j : Fin n} {q : Request} {p : Place}

theorem Bench.idle (h : b.isIdle = true) : Catalogue.Idle b.catalogue := by
  simp only [isIdle, Bool.and_eq_true, List.isEmpty_iff, List.all_eq_true] at h
  exact ⟨h.1.1, h.1.2, h.2⟩

/-- All generations of a workshop have kept to what they are allowed, and each is followed by the same generation that
has the bench at the beginning for itself. -/
structure Independent (w : Workshop) (jobs : Fin n → Job) (b : Bench) (s : State n) : Prop where
  consulted : Consulted w b.catalogue s
  disciplined : ∀ i, (s.tasks i).Disciplined
  shared : Shared w jobs b s
  fares : ∀ i, Fares w (jobs i) b (s.tasks i) s.bench

theorem Independent.start (idle : b.isIdle = true) : Independent w jobs b (start w jobs b) where
  consulted := by
    refine ⟨(Bench.idle idle).steady w.sources _ b.catalogue.now, fun r id p there => ?_⟩
    have nobody : (Workshop.start w jobs b).bench.catalogue.readers = [] := (Bench.idle idle).readers
    rw [Catalogue.State.reader?, nobody] at there
    cases there
  disciplined i := ⟨course_keeps .., by simp [Workshop.start], by simp [Workshop.start], by simp [Workshop.start]⟩
  shared := .untouched rfl rfl fun i p there => by cases there
  fares i := .begin_ w (jobs i) b

/-! ## A request of one generation -/

/-- What a generation leaves as it is when one of its requests is answered, and what the answer is to itself. -/
structure Answers (w : Workshop) (jobs : Fin n → Job) (b : Bench) (s : State n) (i : Fin n) {q : Request}
    (next : Answer q → Course (Except Failure Descriptor)) (a : Answer q) (bench : Bench) : Prop where
  shared : Shared w jobs b (s.reply i a next bench)
  frame : ∀ j p, j ≠ i → (s.tasks j).standing = .placed p → AgreeTo p s.bench.disk bench.disk
  fares : Fares w (jobs i) b ((s.tasks i).hear a (next a)) bench

/-- Whoever has a place has it still, and nobody gets one, as long as that is so for the one that goes on. -/
theorem placed_reply_iff {next : Answer q → Course (Except Failure Descriptor)} {a : Answer q} {bench : Bench}
    (own : ∀ p, (s.tasks i).standing.after q a = .placed p ↔ (s.tasks i).standing = .placed p) (j : Fin n) (p : Place) :
    ((s.reply i a next bench).tasks j).standing = .placed p ↔ (s.tasks j).standing = .placed p := by
  rw [State.tasks_reply]
  split
  · rename_i here
    rw [standing_hear, here, own]
  · rfl

section

variable (h : Independent w jobs b s) {next : Answer q → Course (Except Failure Descriptor)}
  (rest : (s.tasks i).rest = .ask q next)
include h rest

theorem Independent.allowed : (s.tasks i).standing.allows q := by
  have keeps := (h.disciplined i).keeps
  rw [rest] at keeps
  exact keeps.1

theorem Independent.answers_of_placed (distinct : ∀ i j, i ≠ j → (jobs i).digits ≠ (jobs j).digits)
    (there : (s.tasks i).standing = .placed p) :
    Answers w jobs b s i next (w.serve (jobs i) (s.tasks i).past.length q s.bench).1
      (w.serve (jobs i) (s.tasks i).past.length q s.bench).2 := by
  have allowed := h.allowed rest
  rw [there] at allowed
  obtain ⟨workspace, elsewhere⟩ := serve_elsewhere (w := w) (x := jobs i) (k := (s.tasks i).past.length) allowed s.bench
  refine ⟨?_, fun j r apart here q below => ?_, ?_⟩
  · refine h.shared.touch there workspace elsewhere (placed_reply_iff fun r => ?_)
    rw [there, Standing.after_placed allowed]
  · refine (elsewhere q ?_).symm
    rintro rfl
    exact h.shared.not_prefix distinct apart.symm there here below
  · refine (h.fares i).hear (h.disciplined i) rest fun now β _ sees => ?_
    rw [there] at sees ⊢
    rw [Standing.after_placed allowed]
    exact serve_agrees allowed sees

theorem Independent.answers_of_neutral (unplaced : ∀ p, (s.tasks i).standing ≠ .placed p)
    (other : ∀ id, q ≠ .resolve id) (further : ∀ wish f, q ≠ .allocate wish f) :
    Answers w jobs b s i next (w.serve (jobs i) (s.tasks i).past.length q s.bench).1
      (w.serve (jobs i) (s.tasks i).past.length q s.bench).2 := by
  have neutral (β bench : Bench) :
      (w.serve (jobs i) (s.tasks i).past.length q bench).2 = bench ∧
        (w.serve (jobs i) (s.tasks i).past.length q β).1 = (w.serve (jobs i) (s.tasks i).past.length q bench).1 ∧
          ∀ a, (s.tasks i).standing.after q a = (s.tasks i).standing :=
    serve_neutral (h.allowed rest) unplaced other further bench
  obtain ⟨same, -, stays⟩ := neutral s.bench s.bench
  rw [same]
  refine ⟨h.shared.congr rfl rfl (placed_reply_iff fun p => by rw [stays]), fun _ _ _ _ _ _ => rfl, ?_⟩
  refine (h.fares i).hear (h.disciplined i) rest fun now β _ sees => ?_
  obtain ⟨unchanged, -, -⟩ := neutral β β
  obtain ⟨-, equal, -⟩ := neutral β s.bench
  rw [unchanged, stays]
  exact ⟨equal, sees⟩

end

section

variable {wish : String} {f : OutputFormat} {next : Answer (.allocate wish f) → Course (Except Failure Descriptor)}
  {a : Answer (.allocate wish f)} {bench : Bench}

/-- A generation is given a place that it would have been given on its own. -/
theorem Independent.answers_of_allotted (distinct : ∀ i j, i ≠ j → (jobs i).digits ≠ (jobs j).digits)
    (h : Independent w jobs b s) (rest : (s.tasks i).rest = .ask (.allocate wish f) next) {workspace : Workspace}
    {fs disk : FileSystem} {root : Place} (first : b.workspace.enter w.newName b.disk = (workspace, fs, .ok root))
    (others : ∀ p, (∀ i, (s.tasks i).standing ≠ .placed p) → disk.entry? p = fs.entry? p)
    (places : ∀ i p, (s.tasks i).standing = .placed p →
      disk = s.bench.disk ∧ ∃ wish f, p = root ++ [Workspace.fileName (jobs i).digits wish f])
    (given : a = Except.ok (root ++ [Workspace.fileName (jobs i).digits wish f])) :
    Answers w jobs b s i next a { s.bench with workspace, disk } := by
  have resolved : (s.tasks i).standing = .resolved := h.allowed rest
  have placed : ((s.tasks i).standing.after (.allocate wish f) a) =
      .placed (root ++ [Workspace.fileName (jobs i).digits wish f]) := Standing.after_allocate given
  refine ⟨.entered first (fun p free => others p fun j there => free j ?_) fun j p there => ?_, fun j p _ there => ?_, ?_⟩
  · rw [State.tasks_reply, if_neg, there]
    rintro rfl
    cases resolved.symm.trans there
  · rw [State.tasks_reply] at there
    split at there
    · rename_i own
      rw [standing_hear, placed] at there
      exact ⟨wish, f, own ▸ (Standing.placed.inj there).symm⟩
    · exact (places j p there).2
  · rw [(places j p there).1]
    exact fun _ _ => rfl
  · refine (h.fares i).hear (h.disciplined i) rest fun now β _ sees => ?_
    rw [resolved] at sees
    obtain ⟨same, same'⟩ : β.workspace = b.workspace ∧ β.disk = b.disk := sees
    have alone : w.serve (jobs i) (s.tasks i).past.length (.allocate wish f) β = _ :=
      serve_allocate (by rw [same, same']; exact first)
    rw [placed, alone, given]
    refine ⟨rfl, fun q below => (others q fun j there => ?_).symm⟩
    -- no other generation has this place, and none has one on the way to it
    obtain ⟨-, wish', f', rfl⟩ := places j q there
    have equal := List.singleton_inj.mp (List.append_cancel_left (below.eq_of_length (by simp)))
    by_cases own : j = i
    · rw [own, resolved] at there
      cases there
    · exact Workspace.fileName_ne (length_digits ..) (distinct j i own) wish' wish f' f equal

/-- A generation is refused a place as it would have been on its own. -/
theorem Independent.answers_of_refused (h : Independent w jobs b s)
    (rest : (s.tasks i).rest = .ask (.allocate wish f) next) {fs : FileSystem} {x y : Fault}
    (first : b.workspace.enter w.newName b.disk = (b.workspace, fs, .error x)) (code : x.SameCode y)
    (nobody : ∀ i p, (s.tasks i).standing ≠ .placed p) (given : a = Except.error (.fault y)) :
    Answers w jobs b s i next a { s.bench with workspace := b.workspace, disk := fs } := by
  have resolved : (s.tasks i).standing = .resolved := h.allowed rest
  have refused : ((s.tasks i).standing.after (.allocate wish f) a) = .refused (.fault y) := Standing.after_allocate given
  refine ⟨.refused first fun j p there => ?_, fun j p _ there => absurd there (nobody j p), ?_⟩
  · rw [State.tasks_reply] at there
    split at there
    · rw [standing_hear, refused] at there
      cases there
    · exact nobody j p there
  · have unkept : uploads (s.tasks i).past = [] := by
      by_contra some_
      obtain ⟨p, there⟩ := (h.disciplined i).handed some_
      exact nobody i p there
    cases h.fares i with
    | apart other => cases resolved.symm.trans other
    | together follows =>
      obtain ⟨β, follow, sees⟩ := follows _ (.inr rfl)
      rw [resolved] at sees
      obtain ⟨same, same'⟩ : β.workspace = b.workspace ∧ β.disk = b.disk := sees
      obtain ⟨alone, kept_alone⟩ := follow.of_refused (h.disciplined i) rest
        (serve_allocate_error (by rw [same, same']; exact first)) unkept
      refine .apart (by rw [standing_hear, refused]) code alone ?_ kept_alone
      rw [Task.hear, uploads, seen_append, show seen _ (s.tasks i).past = [] from unkept]
      rfl

end

/-! ## Every event -/

section

variable (idle : b.isIdle = true) (tree : b.disk.IsTree)
  (distinct : ∀ i j, i ≠ j → (jobs i).digits ≠ (jobs j).digits)
include tree distinct

theorem Independent.answers (h : Independent w jobs b s) {next : Answer q → Course (Except Failure Descriptor)}
    (rest : (s.tasks i).rest = .ask q next) (other : ∀ id, q ≠ .resolve id) :
    Answers w jobs b s i next (w.serve (jobs i) (s.tasks i).past.length q s.bench).1
      (w.serve (jobs i) (s.tasks i).past.length q s.bench).2 := by
  cases there : (s.tasks i).standing with
  | placed p => exact h.answers_of_placed rest distinct there
  | _ =>
    have unplaced : ∀ p, (s.tasks i).standing ≠ .placed p := by simp [there]
    by_cases allocates : ∃ wish f, q = .allocate wish f
    · obtain ⟨wish, f, rfl⟩ := allocates
      obtain ⟨workspace, fs, disk, root, first, now_, others, places⟩ | ⟨fs, x, y, first, now_, code, nobody⟩ :=
        h.shared.enter tree
      · rw [serve_allocate now_]
        exact h.answers_of_allotted distinct rest first others places rfl
      · rw [serve_allocate_error now_]
        exact h.answers_of_refused rest first code nobody rfl
    · exact h.answers_of_neutral rest unplaced other fun wish f same => allocates ⟨wish, f, same⟩

/-- A generation leaves the way to the artifacts of others alone. -/
theorem Independent.frame (h : Independent w jobs b s) (moves : Moves w jobs s e s') (other : e ≠ .go j)
    (there : (s.tasks j).standing = .placed p) : AgreeTo p s.bench.disk s'.bench.disk := by
  cases moves with
  | consults | takes | passes => exact fun _ _ => rfl
  | @asks i q next rest resolves =>
    have apart : j ≠ i := by
      rintro rfl
      exact other rfl
    exact (h.answers tree distinct rest resolves).frame j p apart there

end

theorem Independent.of_answers (h : Independent w jobs b s) {next : Answer q → Course (Except Failure Descriptor)}
    (rest : (s.tasks i).rest = .ask q next) {a : Answer q} {bench : Bench} (answers : Answers w jobs b s i next a bench)
    (consulted : Consulted w b.catalogue (s.reply i a next bench)) : Independent w jobs b (s.reply i a next bench) := by
  refine ⟨consulted, fun j => ?_, answers.shared, fun j => ?_⟩
  · rw [State.tasks_reply]
    split
    · exact (h.disciplined i).hear rest a
    · exact h.disciplined j
  · rw [State.tasks_reply]
    split
    · rename_i own
      rw [own]
      exact answers.fares
    · rename_i other
      exact (h.fares j).frame fun p there => answers.frame j p other there

/-- A generation is given its template. -/
theorem Independent.answers_of_resolve (idle : b.isIdle = true) (h : Independent w jobs b s) {id : String}
    {next : Answer (.resolve id) → Course (Except Failure Descriptor)} (rest : (s.tasks i).rest = .ask (.resolve id) next)
    {r : Except Failure Catalogue.Copy} (came : Catalogue.result? s.bench.catalogue i = some r) :
    Answers w jobs b s i next (r.map Catalogue.Copy.template) s.bench := by
  have fresh : (s.tasks i).standing = .fresh := h.allowed rest
  refine ⟨h.shared.congr rfl rfl (placed_reply_iff fun p => by simp [fresh]), fun _ _ _ _ _ _ => rfl, ?_⟩
  refine (h.fares i).hear (h.disciplined i) rest fun now β time sees => ?_
  obtain rfl : now = (s.tasks i).asked := time.resolve_left (by simp)
  rw [fresh] at sees
  obtain rfl : β = b.atTime (s.tasks i).asked := sees
  exact ⟨(h.consulted.template_eq (Bench.idle idle) (h.disciplined i) rest came).symm, rfl, rfl⟩

/-- A generation that asks for its template may do so at any time. -/
theorem Independent.read (h : Independent w jobs b s) {id : String}
    {next : Answer (.resolve id) → Course (Except Failure Descriptor)} (rest : (s.tasks i).rest = .ask (.resolve id) next)
    {c : Catalogue.State} (consulted : Consulted w b.catalogue (s.read i c)) : Independent w jobs b (s.read i c) := by
  have fresh : (s.tasks i).standing = .fresh := h.allowed rest
  have standing (j : Fin n) : ((s.read i c).tasks j).standing = (s.tasks j).standing := by
    rw [Task.standing, (s.tasks_read i c j).2.1]
    rfl
  refine ⟨consulted, fun j => ?_, h.shared.congr rfl rfl fun j p => by rw [standing], fun j => ?_⟩
  · obtain ⟨same, past, -⟩ := s.tasks_read i c j
    obtain ⟨keeps, used, allotted, handed⟩ := h.disciplined j
    exact ⟨by rw [standing, same]; exact keeps, by rw [standing, past]; exact used,
      by rw [standing, past]; exact allotted, by rw [standing, past]; exact handed⟩
  · by_cases own : j = i
    · subst own
      obtain ⟨same, past, -⟩ := s.tasks_read j c j
      cases h.fares j with
      | apart refused => cases fresh.symm.trans refused
      | together follows =>
        refine .together fun now _ => ?_
        obtain ⟨β, ⟨run_eq, transcript_eq⟩, sees⟩ := follows now (.inl fresh)
        rw [standing]
        rw [fresh] at sees ⊢
        exact ⟨β, ⟨by rw [same, past]; exact run_eq, by rw [same, past]; exact transcript_eq⟩, sees⟩
    · rw [State.tasks_read_of_ne own]
      exact (h.fares j).frame fun _ _ _ _ => rfl

section

variable (idle : b.isIdle = true) (tree : b.disk.IsTree)
  (distinct : ∀ i j, i ≠ j → (jobs i).digits ≠ (jobs j).digits)
include idle tree distinct

theorem Independent.step (h : Independent w jobs b s) (go : w.step jobs s e = some s') : Independent w jobs b s' := by
  have moves := moves_of_step go
  have consulted := h.consulted.step moves
  cases moves with
  | consults rest => exact h.read rest consulted
  | takes rest came => exact h.of_answers rest (h.answers_of_resolve idle rest came) consulted
  | asks rest other => exact h.of_answers rest (h.answers tree distinct rest other) consulted
  | passes =>
    refine ⟨consulted, h.disciplined, h.shared.congr rfl rfl fun _ _ => Iff.rfl, fun j => ?_⟩
    exact (h.fares j).frame fun _ _ _ _ => rfl

theorem Independent.after (h : Independent w jobs b s) (run : w.after jobs s es = some s') : Independent w jobs b s' := by
  induction es generalizing s with
  | nil =>
    obtain rfl := Option.some.inj run
    exact h
  | cons e es ih =>
    obtain ⟨u, go, rest⟩ := Option.bind_eq_some_iff.mp run
    exact ih (h.step idle tree distinct go) rest

end

end Letterpress.Workshop
