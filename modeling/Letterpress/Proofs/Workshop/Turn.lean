import Letterpress.Proofs.Catalogue.Settling
import Letterpress.Proofs.Generation.Discipline
import Letterpress.Workshop

/-!
# Turns

What an event does to a workshop, and what each generation and the catalogue keep to from one event to the next.

* `Moves`: the ways in which an event can go, with all that each of them changes.
* `Task.Disciplined`: a generation that has kept to what it is allowed, and goes on to.
* `Consulted`: a catalogue whose readers are the generations that have asked for their templates.
* `Consulted.template_eq`: such a catalogue hands out what a generation would be given that is on its own.
-/

namespace Letterpress

open Generation Transcript

namespace Generation.Exchange

/-- The place whose file an exchange reads, writes or takes away. -/
@[simp]
def used? : Exchange → Option Place
  | ⟨.write p _, _⟩ | ⟨.read p, _⟩ | ⟨.discard p, _⟩ => some p
  | _ => none

/-- The place that is found for an artifact. -/
@[simp]
def allotted? : Exchange → Option Place
  | ⟨.allocate _ _, .ok p⟩ => some p
  | _ => none

end Generation.Exchange

namespace Workshop

variable {n : Nat} {w : Workshop} {jobs : Fin n → Job} {s s' : State n} {e : Event n} {i j : Fin n} {q : Request}

/-! ## Tasks -/

namespace State

@[simp]
theorem tasks_setTask (s : State n) (i : Fin n) (t : Task) (j : Fin n) :
    (s.setTask i t).tasks j = if j = i then t else s.tasks j := rfl

@[simp]
theorem tasks_reply (s : State n) (i : Fin n) (x : Answer q) (next : Answer q → Course (Except Failure Descriptor))
    (b : Bench) (j : Fin n) :
    (s.reply i x next b).tasks j = if j = i then (s.tasks i).hear x (next x) else s.tasks j := rfl

@[simp]
theorem bench_reply (s : State n) (i : Fin n) (x : Answer q) (next : Answer q → Course (Except Failure Descriptor))
    (b : Bench) : (s.reply i x next b).bench = b := rfl

theorem tasks_read (s : State n) (i : Fin n) (c : Catalogue.State) (j : Fin n) :
    ((s.read i c).tasks j).rest = (s.tasks j).rest ∧ ((s.read i c).tasks j).past = (s.tasks j).past ∧
      ((s.read i c).tasks j).asked =
        if j = i ∧ s.bench.catalogue.reader? i = none then s.bench.catalogue.now else (s.tasks j).asked := by
  by_cases same : j = i
  · subst same
    cases known : s.bench.catalogue.reader? j <;> simp [read, known]
  · simp [read, same]

theorem tasks_read_of_ne (apart : j ≠ i) (s : State n) (c : Catalogue.State) : (s.read i c).tasks j = s.tasks j := by
  simp [read, apart]

/-- The time at which a reader of the catalogue came. -/
def askedAt (s : State n) (r : Nat) : Binary64 := if h : r < n then (s.tasks ⟨r, h⟩).asked else .nan

theorem askedAt_coe (s : State n) (i : Fin n) : s.askedAt i = (s.tasks i).asked := by
  simp [askedAt]

end State

/-- How far a generation is. -/
def Task.standing (t : Task) : Standing := t.past.foldl (fun g x => g.after x.question x.answer) .fresh

@[simp]
theorem standing_hear (t : Task) (x : Answer q) (rest : Course (Except Failure Descriptor)) :
    (t.hear x rest).standing = t.standing.after q x := by
  simp [Task.standing, Task.hear]

/-! ## The ways in which an event can go -/

/-- What an event does, with all that each way changes. -/
inductive Moves (w : Workshop) (jobs : Fin n → Job) (s : State n) : Event n → State n → Prop where
  /-- a reader comes to the catalogue, or goes on in it -/
  | consults {i : Fin n} {id : String} {next : Except Failure Template → Course (Except Failure Descriptor)}
      {c : Catalogue.State} (rest : (s.tasks i).rest = .ask (.resolve id) next)
      (consulted : w.consult s.bench.catalogue i id = some c) : Moves w jobs s (.go i) (s.read i c)
  /-- a reader has come to its end -/
  | takes {i : Fin n} {id : String} {next : Except Failure Template → Course (Except Failure Descriptor)}
      {r : Except Failure Catalogue.Copy} (rest : (s.tasks i).rest = .ask (.resolve id) next)
      (came : Catalogue.result? s.bench.catalogue i = some r) :
      Moves w jobs s (.go i) (s.reply i (q := .resolve id) (r.map Catalogue.Copy.template) next s.bench)
  | asks {i : Fin n} {q : Request} {next : Answer q → Course (Except Failure Descriptor)}
      (rest : (s.tasks i).rest = .ask q next) (other : ∀ id, q ≠ .resolve id) :
      Moves w jobs s (.go i) (s.reply i (w.serve (jobs i) (s.tasks i).past.length q s.bench).1 next
        (w.serve (jobs i) (s.tasks i).past.length q s.bench).2)
  | passes {seconds : Binary64}
      (later : s.bench.catalogue.now.isAtMost (s.bench.catalogue.now.add seconds) = true) :
      Moves w jobs s (.tick seconds) { s with bench := s.bench.atTime (s.bench.catalogue.now.add seconds) }

theorem moves_of_step (go : w.step jobs s e = some s') : Moves w jobs s e s' := by
  cases e with
  | go i =>
    rw [step, Workshop.go] at go
    split at go
    · cases go
    · rename_i id next rest
      unfold seek at go
      dsimp only at go
      split at go
      · rename_i r came
        obtain rfl := Option.some.inj go
        exact .takes rest came
      · obtain ⟨c, consulted, rfl⟩ := Option.map_eq_some_iff.mp go
        exact .consults rest consulted
    · rename_i q next other rest
      obtain rfl := Option.some.inj go
      exact .asks rest fun id same => by subst same; exact other id next rfl HEq.rfl
  | tick seconds =>
    rw [step] at go
    split at go
    · rename_i later
      obtain rfl := Option.some.inj go
      exact .passes later
    · cases go

/-- A request that is no question for a template leaves the catalogue alone. -/
theorem catalogue_serve (other : ∀ id, q ≠ .resolve id) (k : Nat) (x : Job) (b : Bench) :
    (w.serve x k q b).2.catalogue = b.catalogue := by
  cases q with
  | resolve id => exact absurd rfl (other id)
  | write p content =>
    simp only [serve]
    split <;> rfl
  | _ => rfl

/-! ## Generations -/

/-- A generation that makes no request but those that are allowed, where all files that it has had to do with are at the
place that was found for its artifact. -/
structure Task.Disciplined (t : Task) : Prop where
  keeps : Keeps t.standing t.rest OwnsUp
  used : ∀ p ∈ seen Exchange.used? t.past, t.standing = .placed p
  allotted : ∀ p ∈ seen Exchange.allotted? t.past, t.standing = .placed p
  handed : uploads t.past ≠ [] → ∃ p, t.standing = .placed p

theorem Task.Disciplined.hear {t : Task} (h : t.Disciplined) {next : Answer q → Course (Except Failure Descriptor)}
    (rest : t.rest = .ask q next) (x : Answer q) : (t.hear x (next x)).Disciplined := by
  have keeps := h.keeps
  rw [rest] at keeps
  obtain ⟨allowed, further⟩ := keeps
  have still {p : Place} (there : t.standing = .placed p) : (t.hear x (next x)).standing = .placed p := by
    rw [standing_hear, there]
    exact Standing.after_placed (there ▸ allowed) x
  refine ⟨?_, ?_, ?_, ?_⟩
  · rw [standing_hear]
    exact further x
  · intro p used
    rw [Task.hear, seen_append, List.mem_append] at used
    obtain before | now := used
    · exact still (h.used p before)
    · refine still ?_
      cases q <;> simp_all
  · intro p allotted
    rw [Task.hear, seen_append, List.mem_append] at allotted
    obtain before | now := allotted
    · exact still (h.allotted p before)
    · rw [standing_hear]
      cases q with
      | allocate wish f => cases x <;> simp_all
      | _ => simp at now
  · intro uploaded
    rw [Task.hear, uploads, seen_append] at uploaded
    obtain before | now := not_and_or.mp (mt List.append_eq_nil_iff.mpr uploaded)
    · obtain ⟨p, there⟩ := h.handed before
      exact ⟨p, still there⟩
    · cases q with
      | upload u =>
        obtain ⟨p, there⟩ := allowed
        exact ⟨p, still there⟩
      | _ => simp at now

/-! ## The catalogue -/

/-- A catalogue on its way from another one, whose readers are the generations that have asked for their templates. -/
structure Consulted (w : Workshop) (c : Catalogue.State) (s : State n) : Prop where
  steady : Catalogue.Steady w.sources c s.askedAt s.bench.catalogue
  readers : ∀ r id p, s.bench.catalogue.reader? r = some ⟨id, p⟩ →
    ∃ i : Fin n, r = i ∧
      ((∃ next, (s.tasks i).rest = .ask (.resolve id) next) ∨ (s.tasks i).standing ≠ .fresh ∧ p.isEnded = true)

/-- The next step of a reader is one that the sources provide for. -/
theorem occurs_of_consult {c c' : Catalogue.State} {r : Nat} {id : String} (consulted : w.consult c r id = some c') :
    ∃ d, Catalogue.Occurs w.sources c d ∧ Catalogue.step c d = some c' ∧
      (c.reader? r = none ∧ d = .resolve r id ∨ ∃ x, c.reader? r = some x ∧ d.reader? = some r) := by
  unfold consult at consulted
  split at consulted
  · rename_i unknown
    exact ⟨_, .comes r id, consulted, .inl ⟨unknown, rfl⟩⟩
  · rename_i x there
    obtain ⟨d, next, go⟩ := Option.bind_eq_some_iff.mp consulted
    exact ⟨d, .goesOn there next, go, .inr ⟨x, there, Catalogue.reader?_of_nextEvent? next⟩⟩

/-- Where nobody asks for a template, nobody comes to the catalogue. -/
theorem askedAt_congr (same : ∀ i, (s'.tasks i).asked = (s.tasks i).asked) : s'.askedAt = s.askedAt := by
  funext r
  simp only [State.askedAt, same]

theorem Consulted.consults {c c' : Catalogue.State} (h : Consulted w c s) {id : String}
    {next : Except Failure Template → Course (Except Failure Descriptor)}
    (rest : (s.tasks i).rest = .ask (.resolve id) next) (consulted : w.consult s.bench.catalogue i id = some c') :
    Consulted w c (s.read i c') := by
  obtain ⟨d, occurs, go, whose⟩ := occurs_of_consult consulted
  refine ⟨h.steady.step occurs go ⟨?_, ?_⟩, ?_⟩
  · rintro r id' rfl
    obtain ⟨unknown, ⟨⟩⟩ | ⟨x, there, ⟨⟩⟩ := whose
    rw [State.askedAt_coe, (s.tasks_read i c' i).2.2, if_pos ⟨rfl, unknown⟩]
  · intro r x there
    obtain ⟨j, rfl, -⟩ := h.readers r x.id x.phase there
    rw [State.askedAt_coe, State.askedAt_coe, (s.tasks_read i c' j).2.2, if_neg]
    rintro ⟨rfl, unknown⟩
    cases unknown.symm.trans there
  · intro r id' p there
    have moves := Catalogue.moves_of_step go
    cases before : s.bench.catalogue.reader? r with
    | none =>
      obtain ⟨rfl, -⟩ := moves.starts h.steady.orderly before there
      obtain ⟨-, ⟨⟩⟩ | ⟨x, there, ⟨⟩⟩ := whose
      exact ⟨i, rfl, .inl ⟨next, (s.tasks_read i c' i).1.trans rest⟩⟩
    | some y =>
      obtain ⟨j', p'⟩ := y
      obtain ⟨p'', after, far⟩ := moves.advances h.steady.orderly before
      cases after.symm.trans there
      obtain ⟨j, rfl, still⟩ := h.readers r id' p' before
      obtain ⟨same, past, -⟩ := s.tasks_read i c' j
      refine ⟨j, rfl, ?_⟩
      rw [same, Task.standing, past]
      obtain seeks | ⟨further, ended⟩ := still
      · exact .inl seeks
      · refine .inr ⟨further, ?_⟩
        cases far with
        | stays => exact ended
        | _ => cases ended

/-- A request answered, where the catalogue is left alone. -/
theorem Consulted.reply {c : Catalogue.State} (h : Consulted w c s) {next : Answer q → Course (Except Failure Descriptor)}
    (rest : (s.tasks i).rest = .ask q next) (x : Answer q) {b : Bench} (same : b.catalogue = s.bench.catalogue)
    (settled : ∀ id, q = .resolve id → ∃ r, Catalogue.result? s.bench.catalogue i = some r) :
    Consulted w c (s.reply i x next b) := by
  refine ⟨?_, ?_⟩
  · rw [askedAt_congr fun j => ?_, State.bench_reply, same]
    · exact h.steady
    · rw [State.tasks_reply]
      split
      · rename_i here
        rw [here]
        rfl
      · rfl
  · intro r id p there
    rw [State.bench_reply, same] at there
    obtain ⟨j, rfl, whose⟩ := h.readers r id p there
    refine ⟨j, rfl, ?_⟩
    rw [State.tasks_reply]
    split
    · rename_i here
      subst here
      refine .inr ?_
      rw [standing_hear]
      obtain ⟨next', rest'⟩ | ⟨further, ended⟩ := whose
      · cases rest.symm.trans rest'
        obtain ⟨result, came⟩ := settled id rfl
        rw [Catalogue.result?, there] at came
        refine ⟨by simp, ?_⟩
        cases p with
        | ended => rfl
        | _ => cases came
      · exact ⟨Standing.after_ne_fresh further x, ended⟩
    · exact whose

theorem Consulted.step {c : Catalogue.State} (h : Consulted w c s) (moves : Moves w jobs s e s') : Consulted w c s' := by
  cases moves with
  | consults rest consulted => exact h.consults rest consulted
  | takes rest came => exact h.reply rest _ rfl fun _ _ => ⟨_, came⟩
  | asks rest other => exact h.reply rest _ (catalogue_serve other ..) fun id same => absurd same (other id)
  | passes later =>
    refine ⟨h.steady.step (.passes later) rfl ⟨?_, fun _ _ _ => rfl⟩, h.readers⟩
    rintro r id ⟨⟩

/-- A generation is given the template that it would be given on its own at the time at which it has asked. -/
theorem Consulted.template_eq {c : Catalogue.State} (idle : Catalogue.Idle c) (h : Consulted w c s)
    (disciplined : (s.tasks i).Disciplined) {id : String}
    {next : Except Failure Template → Course (Except Failure Descriptor)}
    (rest : (s.tasks i).rest = .ask (.resolve id) next) {r : Except Failure Catalogue.Copy}
    (came : Catalogue.result? s.bench.catalogue i = some r) :
    r.map Catalogue.Copy.template =
      (Catalogue.resolve w.sources (c.atTime (s.tasks i).asked) id).1.map Catalogue.Copy.template := by
  unfold Catalogue.result? at came
  split at came
  · rename_i id' result there
    obtain rfl := Option.some.inj came
    have keeps := disciplined.keeps
    rw [rest] at keeps
    obtain ⟨j, same, whose⟩ := h.readers i id' _ there
    obtain rfl := Fin.ext same
    obtain ⟨next', rest'⟩ | ⟨further, -⟩ := whose
    · cases rest.symm.trans rest'
      cases h.steady.readers i id _ there with
      | ended came => rw [came, State.askedAt_coe, idle.template_resolve]
    · exact absurd keeps.1 further
  · cases came

end Workshop

end Letterpress
