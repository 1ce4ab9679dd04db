import Letterpress.Proofs.Generation.Discipline
import Letterpress.Proofs.Generation.Engine
import Letterpress.Workshop

/-!
# Engines as workshops

A generation of an engine whose surroundings remember nothing is a generation that has the bench of a workshop for
itself. What makes the two the same is that a generation looks at the disk for its template and for a picture before it
changes anything there.

* `Engine.workshop`, `Engine.bench`, `Engine.job`: an engine as a workshop.
* `Engine.serve_eq`: a request is answered in the same way.
* `Engine.generate_eq_alone`: a generation comes to the same.
-/

namespace Letterpress.Engine

open Generation

variable {o : Outside Unit} {e e' : Engine Unit} {take : Upload → Except Failure Receipt} {order : Order}
  {length_mark : (o.mark (e.drawn + 1)).length = 32} {g : Standing} {k : Nat}

/-- An engine as a workshop, where templates come from the disk and the store as they are. -/
def workshop (o : Outside Unit) (e : Engine Unit) : Workshop where
  settings := e.settings
  packing := e.packing
  sources := ⟨e.disk.read, o.find ()⟩
  newName := o.newName ()

def bench (e : Engine Unit) : Workshop.Bench := ⟨e.catalogue, e.workspace, e.disk⟩

/-- A generation of an engine as a job. -/
def job (o : Outside Unit) (e : Engine Unit) (take : Upload → Except Failure Receipt) (order : Order)
    (length_mark : (o.mark (e.drawn + 1)).length = 32) : Workshop.Job where
  order
  clock _ := o.clock ()
  mark := o.mark (e.drawn + 1)
  length_mark
  beyond :=
    { announce := fun number id p => (o.announce number id p ()).1
      picture := e.picture
      print := fun j => (o.print j ()).1
      upload := take }

/-- An engine on its way from another one: a generation that has no place yet finds the disk as it was, and the mark that
was to be drawn. -/
structure Continues (e : Engine Unit) (take : Upload → Except Failure Receipt) (g : Standing) (e' : Engine Unit) :
    Prop where
  depot : e'.depot = .foreign fun u _ => (take u, ())
  untouched : g = .fresh ∨ g = .resolved → e'.disk = e.disk ∧ e'.drawn = e.drawn

theorem Continues.of_further (depot : e'.depot = .foreign fun u _ => (take u, ())) (fresh : g ≠ .fresh)
    (resolved : g ≠ .resolved) : Continues e take g e' :=
  ⟨depot, fun near => absurd near (not_or.mpr ⟨fresh, resolved⟩)⟩

/-- A request that is allowed is answered by an engine as in its workshop. -/
theorem serve_eq (order : Order) (length_mark : (o.mark (e.drawn + 1)).length = 32) (k : Nat)
    (h : Continues e take g e') {q : Request} (allowed : g.allows q) :
    (e.workshop o).serve (e.job o take order length_mark) k q e'.bench =
        ((e'.serve o q).1, (e'.serve o q).2.bench) ∧
      Continues e take (g.after q (e'.serve o q).1) (e'.serve o q).2 := by
  obtain ⟨depot, untouched⟩ := h
  cases q with
  | clock | announce | print | read => exact ⟨rfl, depot, untouched⟩
  | resolve id =>
    obtain ⟨same, drawn⟩ := untouched (.inl allowed)
    refine ⟨?_, depot, fun _ => ⟨same, drawn⟩⟩
    simp only [Workshop.serve, serve, resolve, workshop, bench, same]
  | picture path =>
    obtain ⟨same, drawn⟩ := untouched (.inr allowed)
    refine ⟨?_, depot, fun _ => ⟨same, drawn⟩⟩
    simp only [Workshop.serve, serve, picture, job, same]
  | allocate wish f =>
    obtain ⟨same, drawn⟩ := untouched (.inr allowed)
    refine ⟨?_, ?_⟩
    · simp only [Workshop.serve, serve, allocate, draw, workshop, bench, job, Workshop.Job.digits, drawn]
    · cases (e'.serve o (.allocate wish f)).1 <;> exact .of_further depot (by simp) (by simp)
  | write p content =>
    obtain rfl : g = .placed p := allowed
    simp only [Workshop.serve, serve, bench]
    cases e'.disk.write p content <;> exact ⟨rfl, .of_further depot (by simp) (by simp)⟩
  | discard p =>
    obtain rfl : g = .placed p := allowed
    exact ⟨rfl, .of_further depot (by simp) (by simp)⟩
  | upload u =>
    obtain ⟨p, rfl⟩ := allowed
    simp only [Workshop.serve, serve, upload, depot]
    exact ⟨rfl, .of_further rfl (by simp) (by simp)⟩

theorem run_eq {P : Standing → Except Failure Descriptor → Prop} {d : Course (Except Failure Descriptor)}
    (keeps : Keeps g d P) (h : Continues e take g e') :
    (d.run (serve o) e').1 =
      (d.run ((e.workshop o).serveAlone (e.job o take order length_mark)) (e'.bench, k)).1 := by
  induction d generalizing g e' k with
  | done r => rfl
  | ask q next ih =>
    obtain ⟨allowed, further⟩ := keeps
    obtain ⟨same, later⟩ := serve_eq order length_mark k h allowed
    simp only [Dialogue.run, Workshop.serveAlone, same]
    exact ih _ (further _) later

/-- A generation of an engine whose surroundings remember nothing comes to what it comes to in a workshop on its own. -/
theorem generate_eq_alone (foreign : e.depot = .foreign fun u _ => (take u, ())) :
    (e.generate o order).1 = (e.workshop o).alone (e.job o take order length_mark) e.bench :=
  run_eq (course_keeps ..) ⟨foreign, fun _ => ⟨rfl, rfl⟩⟩

end Letterpress.Engine
