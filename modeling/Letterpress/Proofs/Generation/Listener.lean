import Letterpress.Proofs.Generation.Engine

/-!
# Listeners of a generation

Whoever listens to the announcements of a generation may answer anything, and something else every time; the
generation does not care. Two generations of one engine that are heard by different listeners come to the same result
and leave the same engine behind.

* `course_ignores`: a generation goes on in the same way whatever is answered to an announcement.
* `Outside.heardBy`, `Engine.heardBy`: an engine with a listener that has a memory of its own.
* `Engine.generate_whoever_listens`: the listener has no influence.
-/

namespace Letterpress

open Dialogue Generation

namespace Generation

/-- Whether a request is an announcement. -/
@[simp]
def Request.IsAnnouncement : Request → Prop
  | .announce _ _ _ => True
  | _ => False

abbrev IgnoresAnswers {α : Type} (c : Course α) : Prop := Ignores Request.IsAnnouncement c

variable {α : Type}

theorem announce_ignores (number id : String) (p : Progress) : IgnoresAnswers (Course.announce number id p) :=
  ⟨fun _ _ _ => rfl, fun _ => trivial⟩

theorem compose_ignores (k : Packing) (d : Draft) (f : OutputFormat) : IgnoresAnswers (Artifact.compose k d f) := by
  cases f with
  | html => exact .pure
  | markdown => exact .pure
  | docx =>
    simp only [Artifact.compose]
    split
    · exact .bind (.put id) fun logo => .pure
    · exact .pure
  | pdf =>
    simp only [Artifact.compose]
    split
    · exact .pure
    · exact .bind (.put id) fun printed => .pure

theorem make_ignores (k : Packing) (d : Draft) (f : OutputFormat) : IgnoresAnswers (Artifact.make k d f) := by
  refine .bind (compose_ignores k d f) fun composed => ?_
  cases composed with
  | error e => exact .pure
  | ok content =>
    refine .bind (.put id) fun place => ?_
    cases place with
    | error e => exact .pure
    | ok p =>
      refine .bind (.put id) fun wrote => ?_
      cases wrote with
      | error e => exact .bind (.put id) fun _ => .pure
      | ok _ => exact .pure

theorem prepare_ignores (s : Settings) (order : Order) (o : Options) (number : String) :
    IgnoresAnswers (prepare s order o number) := by
  refine .bind (.put id) fun resolved => ?_
  cases resolved with
  | error e => exact .pure
  | ok t =>
    refine .bind (.put id) fun reading => ?_
    dsimp only
    split
    · exact .pure
    · refine .bind (announce_ignores _ _ _) fun _ => .bind (.put id) fun reading => ?_
      split
      · exact .pure
      · split
        · exact .pure
        · exact .bind (announce_ignores _ _ _) fun _ => .pure

theorem deliver_ignores (s : Settings) (order : Order) (number : String) (place : Place) (d : Draft)
    (f : OutputFormat) : IgnoresAnswers (deliver s order number place d f) := by
  have delivery : IgnoresAnswers (Delivery.course place d.template d.context d.options s f) := by
    refine .bind (.put id) fun content => ?_
    cases content with
    | error e => exact .pure
    | ok content => exact .bind (.put id) fun reading => .bind (.put id) fun receipt => .pure
  refine .bind (announce_ignores _ _ _) fun _ => .bind delivery fun delivered => ?_
  cases delivered with
  | error e => exact .pure
  | ok document => exact .bind (announce_ignores _ _ _) fun _ => .pure

theorem work_ignores (k : Packing) (s : Settings) (order : Order) (o : Options) (number : String) :
    IgnoresAnswers (work k s order o number) := by
  refine .bind (prepare_ignores s order o number) fun draft => ?_
  cases draft with
  | error e => exact .pure
  | ok draft =>
    refine .bind (make_ignores k draft.1 draft.2) fun place => ?_
    cases place with
    | error e => exact .pure
    | ok place => exact .bind (deliver_ignores s order number place draft.1 draft.2) fun _ => .pure

theorem conclude_ignores (order : Order) (number : String) (place : Option Place) (r : Except Failure Descriptor) :
    IgnoresAnswers (conclude order number place r) := by
  have discards : IgnoresAnswers (discardSome place) := by
    cases place with
    | none => exact .pure
    | some p => exact .put id
  cases r with
  | error e => exact .bind (announce_ignores _ _ _) fun _ => .bind discards fun _ => .pure
  | ok document => exact .bind discards fun _ => .bind (announce_ignores _ _ _) fun _ => .pure

/-- A generation goes on in the same way whatever is answered to an announcement, the last one included. -/
theorem course_ignores (k : Packing) (s : Settings) (order : Order) : IgnoresAnswers (course k s order) := by
  simp only [course]
  split
  · exact conclude_ignores order "" none _
  · refine .bind (.put id) fun reading => .bind (announce_ignores _ _ _) fun _ => ?_
    exact .bind (work_ignores k s order _ _) fun worked => conclude_ignores order _ worked.1 worked.2

/-- What was heard by whom does not show in what is handed over. -/
theorem Transcript.uploads_eq_of_alike {xs ys : Transcript}
    (h : List.Forall₂ (Exchange.Alike Request.IsAnnouncement) xs ys) : uploads xs = uploads ys := by
  induction h with
  | nil => rfl
  | cons alike _ ih =>
    rw [uploads, uploads, seen_cons, seen_cons]
    refine congrArg₂ (· ++ ·) ?_ ih
    cases alike with
    | refl => rfl
    | @ignored q announced x y =>
      cases q with
      | announce number id p => rfl
      | _ => exact absurd announced id

end Generation

/-! ## Engines with a listener -/

/-- Someone who listens to announcements. What is answered to one, a failure or not, may depend on all before it. -/
abbrev Listener (ε : Type) := String → String → Progress → ε → Except Failure Unit × ε

variable {α ω ε : Type}

/-- An act that leaves the memory of a listener alone. -/
def unheard (act : ω → α × ω) (w : ω × ε) : α × (ω × ε) := ((act w.1).1, ((act w.1).2, w.2))

/-- What lies beyond an engine, where someone else listens to the announcements. -/
def Outside.heardBy (o : Outside ω) (l : Listener ε) : Outside (ω × ε) where
  clock w := o.clock w.1
  mark := o.mark
  newName w := o.newName w.1
  find w := o.find w.1
  announce number id p w := ((l number id p w.2).1, (w.1, (l number id p w.2).2))
  print j := unheard (o.print j)
  post r := unheard (o.post r)

def Depot.heardBy (ε : Type) : Depot ω → Depot (ω × ε)
  | .folder root => .folder root
  | .service s => .service s
  | .foreign take => .foreign fun u => unheard (take u)

namespace Engine

/-- An engine with a listener who remembers something. -/
def heardBy (e : Engine ω) (x : ε) : Engine (ω × ε) where
  settings := e.settings
  packing := e.packing
  catalogue := e.catalogue
  workspace := e.workspace
  depot := e.depot.heardBy ε
  disk := e.disk
  drawn := e.drawn
  outside := (e.outside, x)

variable {e : Engine ω} {o : Outside ω} {l : Listener ε} {x : ε}

theorem upload_heardBy (u : Upload) :
    (e.heardBy x).upload (o.heardBy l) u = ((e.upload o u).1, (e.upload o u).2.heardBy x) := by
  obtain ⟨settings, packing, catalogue, workspace, depot, disk, drawn, outside⟩ := e
  have marks : (o.heardBy l).mark = o.mark := rfl
  cases depot with
  | folder root => simp only [upload, heardBy, Depot.heardBy, draw, marks]
  | foreign take => rfl
  | service s =>
    have posted (c : Service.Course (Except Failure StoredObject)) :
        c.run (o.heardBy l).post (outside, x) = ((c.run o.post outside).1, (c.run o.post outside).2, x) :=
      run_map (f := fun w => (w, x)) (fun _ _ => rfl) c outside
    simp only [upload, heardBy, Depot.heardBy, draw, marks]
    rw [posted]

/-- All other requests are answered as if nobody were listening. -/
theorem serve_heardBy {q : Request} (other : ¬q.IsAnnouncement) :
    serve (o.heardBy l) q (e.heardBy x) = ((serve o q e).1, (serve o q e).2.heardBy x) := by
  cases q with
  | announce number id p => exact absurd trivial other
  | write p content =>
    have disk : (e.heardBy x).disk = e.disk := rfl
    simp only [serve, disk]
    cases e.disk.write p content <;> rfl
  | upload u => exact upload_heardBy u
  | clock | resolve | picture | print | allocate | read | discard => rfl

/-- Two engines that are the same but for their listeners. -/
def SameButListeners {ε₁ ε₂ : Type} (a : Engine (ω × ε₁)) (b : Engine (ω × ε₂)) : Prop :=
  ∃ (e : Engine ω) (x₁ : ε₁) (x₂ : ε₂), a = e.heardBy x₁ ∧ b = e.heardBy x₂

namespace SameButListeners

variable {ε₁ ε₂ : Type} {a : Engine (ω × ε₁)} {b : Engine (ω × ε₂)}

/-- They stay so, whatever is requested. -/
theorem serve (h : SameButListeners a b) (l₁ : Listener ε₁) (l₂ : Listener ε₂) (q : Request) :
    SameButListeners (serve (o.heardBy l₁) q a).2 (serve (o.heardBy l₂) q b).2 := by
  obtain ⟨e, x₁, x₂, rfl, rfl⟩ := h
  by_cases announced : q.IsAnnouncement
  · cases q with
    | announce number id p => exact ⟨e, (l₁ number id p x₁).2, (l₂ number id p x₂).2, rfl, rfl⟩
    | _ => exact absurd announced id
  · rw [serve_heardBy announced, serve_heardBy announced]
    exact ⟨_, x₁, x₂, rfl, rfl⟩

theorem answer_eq (h : SameButListeners a b) (l₁ : Listener ε₁) (l₂ : Listener ε₂) {q : Request}
    (other : ¬q.IsAnnouncement) : (Engine.serve (o.heardBy l₁) q a).1 = (Engine.serve (o.heardBy l₂) q b).1 := by
  obtain ⟨e, x₁, x₂, rfl, rfl⟩ := h
  rw [serve_heardBy other, serve_heardBy other]

end SameButListeners

/-- Whoever listens has no influence on a generation. With any two listeners, each with a memory of its own and free to
fail at any announcement, an engine comes to the same descriptor or the same failure, hands over the same uploads, and
is left the same: its workspace and the disk with it. -/
theorem generate_whoever_listens (o : Outside ω) (e : Engine ω) (order : Order) {ε₁ ε₂ : Type} (l₁ : Listener ε₁)
    (x₁ : ε₁) (l₂ : Listener ε₂) (x₂ : ε₂) :
    let first := (e.heardBy x₁).generate (o.heardBy l₁) order
    let second := (e.heardBy x₂).generate (o.heardBy l₂) order
    first.1 = second.1 ∧
      Transcript.uploads ((e.heardBy x₁).transcript (o.heardBy l₁) order) =
        Transcript.uploads ((e.heardBy x₂).transcript (o.heardBy l₂) order) ∧
      SameButListeners first.2 second.2 := by
  have kept (q : Request) (a : Engine (ω × ε₁)) (b : Engine (ω × ε₂)) (same : SameButListeners a b) :
      SameButListeners (serve (o.heardBy l₁) q a).2 (serve (o.heardBy l₂) q b).2 :=
    same.serve l₁ l₂ q
  obtain ⟨result, left, alike⟩ := (course_ignores e.packing e.settings order).run kept
    (fun q _ _ same other => same.answer_eq l₁ l₂ other) ⟨e, x₁, x₂, rfl, rfl⟩
  exact ⟨result, Transcript.uploads_eq_of_alike alike, left⟩

end Engine

end Letterpress
