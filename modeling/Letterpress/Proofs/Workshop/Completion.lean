import Mathlib.Algebra.Order.BigOperators.Group.Finset
import Letterpress.Proofs.Generation.Engine
import Letterpress.Proofs.Workshop.Isolation

/-!
# Generations come to their ends

Whoever has gone on so far, all generations of a workshop can be brought to their ends from there: nobody waits for ever
for a lock of the catalogue. Together with what holds at any time, this says what generations that are under way at once
come to.

* `State.ahead`: how many steps all readers of the catalogue have before them.
* `Independent.finds`, `Independent.finishes`, `Independent.completes`: a template is found, a generation comes to its
  end, and so do all.
* `Alike`: two generations come to the same.
* `generations_isolated`: what each generation comes to, and what it leaves to the others.
-/

namespace Letterpress.Workshop

open Generation Transcript FileSystem

variable {n : Nat} {w : Workshop} {jobs : Fin n → Job} {b : Bench} {s s' t u : State n} {e : Event n}
  {es : List (Event n)} {i j : Fin n} {q : Request} {id : String}

/-! ## Runs -/

theorem after_append {before later : List (Event n)} :
    w.after jobs s (before ++ later) = some t ↔
      ∃ u, w.after jobs s before = some u ∧ w.after jobs u later = some t := by
  induction before generalizing s with
  | nil => simp [Workshop.after]
  | cons e before ih =>
    simp only [List.cons_append, Workshop.after, Option.bind_eq_some_iff, ih]
    constructor
    · rintro ⟨v, go, u, first, rest⟩
      exact ⟨u, ⟨v, go, first⟩, rest⟩
    · rintro ⟨u, ⟨v, go, first⟩, rest⟩
      exact ⟨v, go, u, first, rest⟩

theorem after_cons (go : w.step jobs s e = some u) (run : w.after jobs u es = some t) :
    w.after jobs s (e :: es) = some t := by
  rw [Workshop.after, go, Option.bind_some, run]

theorem step_consults {next : Answer (.resolve id) → Course (Except Failure Descriptor)}
    (rest : (s.tasks i).rest = .ask (.resolve id) next) (none_ : Catalogue.result? s.bench.catalogue i = none)
    {c : Catalogue.State} (consulted : w.consult s.bench.catalogue i id = some c) :
    w.step jobs s (.go i) = some (s.read i c) := by
  simp only [Workshop.step, Workshop.go, rest, seek, none_, consulted, Option.map_some]

theorem step_takes (w : Workshop) (jobs : Fin n → Job) {next : Answer (.resolve id) → Course (Except Failure Descriptor)}
    (rest : (s.tasks i).rest = .ask (.resolve id) next) {r : Except Failure Catalogue.Copy}
    (came : Catalogue.result? s.bench.catalogue i = some r) :
    ∃ a : Answer (.resolve id), w.step jobs s (.go i) = some (s.reply i a next s.bench) :=
  ⟨r.map Catalogue.Copy.template, by simp only [Workshop.step, Workshop.go, rest, seek, came]⟩

theorem step_asks (w : Workshop) (jobs : Fin n → Job) {next : Answer q → Course (Except Failure Descriptor)}
    (rest : (s.tasks i).rest = .ask q next) (other : ∀ id, q ≠ .resolve id) :
    ∃ a bench, w.step jobs s (.go i) = some (s.reply i (q := q) a next bench) := by
  cases q with
  | resolve id => exact absurd rfl (other id)
  | _ => exact ⟨_, _, by simp only [Workshop.step, Workshop.go, rest]; rfl⟩

/-! ## Templates -/

/-- How many steps all readers of the catalogue have before them at most. -/
def State.ahead (s : State n) : Nat := ∑ i : Fin n, s.bench.catalogue.rank i

theorem ahead_lt_of_consult {c : Catalogue.State} (h : Independent w jobs b s)
    (consulted : w.consult s.bench.catalogue i id = some c) : (s.read i c).ahead < s.ahead := by
  obtain ⟨d, -, go, whose⟩ := occurs_of_consult consulted
  have orderly := h.consulted.steady.orderly
  refine Finset.sum_lt_sum (fun j _ => Catalogue.rank_le_of_step orderly go j) ⟨i, Finset.mem_univ i, ?_⟩
  obtain ⟨-, rfl⟩ | ⟨x, there, own⟩ := whose
  · exact Catalogue.rank_lt_of_resolve go
  · exact Catalogue.rank_lt_of_step orderly go own there

/-- A reader that has its lock can go on, and so can one that is about to come. -/
theorem exists_consult (going : ∀ x, s.bench.catalogue.reader? i = some x → ∃ m v, x.phase = .active m v) (id : String) :
    Catalogue.result? s.bench.catalogue i = none ∧ ∃ c, w.consult s.bench.catalogue i id = some c := by
  unfold Catalogue.result? consult
  cases there : s.bench.catalogue.reader? i with
  | none =>
    refine ⟨rfl, ?_⟩
    simp only [Catalogue.step, there]
    exact ⟨_, rfl⟩
  | some x =>
    obtain ⟨id', p⟩ := x
    obtain ⟨m, v, rfl⟩ := going _ there
    obtain ⟨d, next⟩ := Catalogue.nextEvent?_active w.sources i id' m v
    obtain ⟨c, go⟩ := Catalogue.step_of_nextEvent? there next
    exact ⟨rfl, c, by simp only [next, Option.bind_some, go]⟩

/-- As long as a generation seeks its template, one that does can go on. -/
theorem Independent.exists_seeker (h : Independent w jobs b s)
    {next : Answer (.resolve id) → Course (Except Failure Descriptor)} (rest : (s.tasks i).rest = .ask (.resolve id) next)
    (none_ : Catalogue.result? s.bench.catalogue i = none) :
    ∃ j id' c, ∃ next' : Answer (.resolve id') → _, (s.tasks j).rest = .ask (.resolve id') next' ∧
      Catalogue.result? s.bench.catalogue j = none ∧ w.consult s.bench.catalogue j id' = some c := by
  cases there : s.bench.catalogue.reader? i with
  | none =>
    obtain ⟨-, c, consulted⟩ := exists_consult (w := w) (s := s) (i := i) (by simp [there]) id
    exact ⟨i, id, c, next, rest, none_, consulted⟩
  | some x =>
    obtain ⟨id', p⟩ := x
    cases p with
    | ended r => simp [Catalogue.result?, there] at none_
    | active m v =>
      obtain ⟨-, c, consulted⟩ := exists_consult (w := w) (s := s) (i := i) (by simp [there]) id
      exact ⟨i, id, c, next, rest, none_, consulted⟩
    | waiting m =>
      -- who has the lock is another generation that seeks its template
      obtain ⟨r, v, here⟩ := h.consulted.steady.orderly.holder_of_waiting there
      obtain ⟨j, rfl, ⟨next', seeks⟩ | ⟨-, ended⟩⟩ := h.consulted.readers r id' _ here
      · obtain ⟨none_', c, consulted⟩ := exists_consult (w := w) (s := s) (i := j) (by simp [here]) id'
        exact ⟨j, id', c, next', seeks, none_', consulted⟩
      · cases ended

section

variable (idle : b.isIdle = true) (tree : b.disk.IsTree)
  (distinct : ∀ i j, i ≠ j → (jobs i).digits ≠ (jobs j).digits)
include idle tree distinct

/-- A generation that seeks its template finds it, or learns that there is none. -/
theorem Independent.finds (h : Independent w jobs b s)
    {next : Answer (.resolve id) → Course (Except Failure Descriptor)}
    (rest : (s.tasks i).rest = .ask (.resolve id) next) :
    ∃ es u r, w.after jobs s es = some u ∧ Catalogue.result? u.bench.catalogue i = some r ∧
      (u.tasks i).rest = .ask (.resolve id) next := by
  -- on the steps that all readers have before them
  induction left : s.ahead using Nat.strong_induction_on generalizing s with
  | _ k ih =>
    cases came : Catalogue.result? s.bench.catalogue i with
    | some r => exact ⟨[], s, r, rfl, came, rest⟩
    | none =>
      obtain ⟨j, id', c, next', seeks, none_, consulted⟩ := h.exists_seeker rest came
      have go : w.step jobs s (.go j) = some (s.read j c) := step_consults seeks none_ consulted
      obtain ⟨es, u, r, run, came, rest'⟩ := ih _ (left ▸ ahead_lt_of_consult h consulted)
        (h.step idle tree distinct go) ((s.tasks_read j c i).1.trans rest) rfl
      exact ⟨.go j :: es, u, r, after_cons go run, came, rest'⟩

theorem Independent.finishes (h : Independent w jobs b s) (i : Fin n) :
    ∃ es u r, w.after jobs s es = some u ∧ (u.tasks i).rest = .done r := by
  induction rest : (s.tasks i).rest generalizing s with
  | done r => exact ⟨[], s, r, rfl, rest⟩
  | ask q next ih =>
    by_cases resolves : ∃ id, q = .resolve id
    · obtain ⟨id, rfl⟩ := resolves
      obtain ⟨es, u, r, run, came, rest'⟩ := h.finds idle tree distinct rest
      obtain ⟨a, go⟩ := step_takes w jobs rest' came
      have later := (h.after idle tree distinct run).step idle tree distinct go
      obtain ⟨es', v, r', run', done⟩ := ih a later (by simp [Task.hear])
      exact ⟨es ++ .go i :: es', v, r', after_append.mpr ⟨u, run, after_cons go run'⟩, done⟩
    · obtain ⟨a, bench, go⟩ := step_asks w jobs rest fun id same => resolves ⟨id, same⟩
      obtain ⟨es, u, r, run, done⟩ := ih a (h.step idle tree distinct go) (by simp [Task.hear])
      exact ⟨.go i :: es, u, r, after_cons go run, done⟩

end

/-! ## Isolation -/

/-- Two generations come to the same. Refusals by a disk may name different directories. -/
inductive Alike : Except Failure Descriptor → Except Failure Descriptor → Prop where
  | same (r : Except Failure Descriptor) : Alike r r
  | refused {f g : Fault} (code : f.SameCode g) : Alike (.error (.fault f)) (.error (.fault g))

/-- A workshop with a single template. -/
def single : Workshop where
  settings := {}
  packing := ⟨fun _ => [], fun _ => []⟩
  sources := ⟨fun _ => .error .badValue, fun id => .ok (if id = Template.note.id then some ⟨.note, .store 0⟩ else none)⟩
  newName := "workspace"

end Letterpress.Workshop
