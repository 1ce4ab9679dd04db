import Letterpress.Proofs.Generation.Transcript

/-!
# What a generation keeps to

A generation shares a catalogue, a workspace and a disk with others. It asks for a template once, then for a picture if
it needs one, then for a place for its artifact once, and all files that it reads, writes or takes away from there on are
at that place; if there is no place for it, it only announces that.

* `Standing`: how far a generation is, with what a request is allowed at each stage.
* `Keeps`: a computation that makes no request but those, whatever it is answered.
* `course_keeps`: every generation does.
-/

namespace Letterpress.Generation

open Dialogue Transcript

/-- How far a generation is with what it shares. -/
inductive Standing where
  | fresh
  | resolved
  | placed (p : Place)
  /-- there is no place for the artifact -/
  | refused (e : Failure)

namespace Standing

/-- Whether a request is allowed. -/
@[simp]
def allows (g : Standing) : Request → Prop
  | .resolve _ => g = fresh
  | .allocate _ _ => g = resolved
  | .write p _ | .read p | .discard p => g = placed p
  | .picture _ => g = resolved
  | .upload _ => ∃ p, g = placed p
  | .clock | .announce _ _ _ | .print _ => True

/-- What an answer leads to. -/
@[simp]
def after (g : Standing) : (q : Request) → Answer q → Standing
  | .resolve _, _ => resolved
  | .allocate _ _, .ok p => placed p
  | .allocate _ _, .error e => refused e
  | .write _ _, _ | .read _, _ | .discard _, _ | .upload _, _ | .clock, _ | .announce _ _ _, _ | .picture _, _
  | .print _, _ => g

variable {q : Request}

/-- A generation that has a place for its artifact keeps it. -/
theorem after_placed {p : Place} (allowed : (placed p).allows q) (x : Answer q) : (placed p).after q x = placed p := by
  cases q <;> simp_all

/-- A generation that has no place for its artifact stays so. -/
theorem after_refused {e : Failure} (allowed : (refused e).allows q) (x : Answer q) :
    (refused e).after q x = refused e := by
  cases q <;> simp_all

theorem after_ne_fresh {g : Standing} (further : g ≠ fresh) (x : Answer q) : g.after q x ≠ fresh := by
  cases q with
  | allocate wish f => cases x <;> simp
  | _ => simp [further]

theorem after_allocate {g : Standing} {wish : String} {f : OutputFormat} {x : Answer (.allocate wish f)}
    {r : Except Failure Place} (same : x = r) :
    g.after (.allocate wish f) x = match r with
      | .ok p => placed p
      | .error e => refused e := by
  subst same
  cases x <;> rfl

end Standing

variable {α β : Type} {g : Standing}

/-- All requests of a computation are allowed, whatever it is answered, and `post` holds of what it comes to. -/
def Keeps (g : Standing) : Course α → (Standing → α → Prop) → Prop
  | .done a, post => post g a
  | .ask q next, post => g.allows q ∧ ∀ x, Keeps (g.after q x) (next x) post

namespace Keeps

variable {P : Standing → β → Prop}

theorem pure {b : β} (h : P g b) : Keeps g (pure b : Course β) P := h

theorem bind {d : Course α} {f : α → Course β} {Q : Standing → α → Prop} (first : Keeps g d Q)
    (rest : ∀ g a, Q g a → Keeps g (f a) P) : Keeps g (d >>= f) P := by
  change Keeps g (Dialogue.bind d f) P
  induction d generalizing g with
  | done a => exact rest g a first
  | ask q next ih => exact ⟨first.1, fun x => ih x (first.2 x)⟩

theorem mono {d : Course α} {Q R : Standing → α → Prop} (h : Keeps g d Q) (weaker : ∀ g a, Q g a → R g a) :
    Keeps g d R := by
  induction d generalizing g with
  | done a => exact weaker g a h
  | ask q next ih => exact ⟨h.1, fun x => ih x (h.2 x)⟩

theorem put_bind {q : Request} {f : Answer q → Course β} (allowed : g.allows q)
    (rest : ∀ x, Keeps (g.after q x) (f x) P) : Keeps g (put q >>= f) P :=
  ⟨allowed, rest⟩

theorem announce_bind {number id : String} {p : Progress} {f : Unit → Course β} (rest : Keeps g (f ()) P) :
    Keeps g (Course.announce number id p >>= f) P :=
  ⟨trivial, fun _ => rest⟩

end Keeps

/-! ## The parts of a generation -/

theorem compose_keeps (k : Packing) (d : Draft) (f : OutputFormat) :
    Keeps .resolved (Artifact.compose k d f) fun g _ => g = .resolved := by
  cases f with
  | html => exact .pure rfl
  | markdown => exact .pure rfl
  | docx =>
    simp only [Artifact.compose]
    split
    · exact .put_bind rfl fun _ => .pure rfl
    · exact .pure rfl
  | pdf =>
    simp only [Artifact.compose]
    split
    · exact .pure rfl
    · exact .put_bind trivial fun _ => .pure rfl

/-- Whoever has no place for the artifact owns up to it. -/
def OwnsUp (g : Standing) (r : Except Failure α) : Prop := ∀ e, g = .refused e → r = .error e

theorem make_keeps (k : Packing) (d : Draft) (f : OutputFormat) :
    Keeps .resolved (Artifact.make k d f) fun g r => OwnsUp g r ∧ ∀ p, r = .ok p → g = .placed p := by
  refine .bind (compose_keeps k d f) ?_
  rintro _ composed rfl
  cases composed with
  | error e => exact .pure ⟨by rintro _ ⟨⟩, by rintro _ ⟨⟩⟩
  | ok content =>
    refine .put_bind rfl fun placed => ?_
    cases placed with
    | error e => exact .pure ⟨by rintro _ ⟨⟩; rfl, by rintro _ ⟨⟩⟩
    | ok p =>
      refine .put_bind rfl fun wrote => ?_
      cases wrote with
      | error e => exact .put_bind rfl fun _ => .pure ⟨by rintro _ ⟨⟩, by rintro _ ⟨⟩⟩
      | ok _ => exact .pure ⟨by rintro _ ⟨⟩, by rintro _ ⟨⟩; rfl⟩

theorem prepare_keeps (s : Settings) (order : Order) (o : Options) (number : String) :
    Keeps .fresh (prepare s order o number) fun g _ => g = .resolved := by
  refine .put_bind rfl fun resolved => ?_
  cases resolved with
  | error e => exact .pure rfl
  | ok t =>
    refine .put_bind trivial fun r => ?_
    dsimp only
    split
    · exact .pure rfl
    · refine .announce_bind (.put_bind trivial fun r => ?_)
      split
      · exact .pure rfl
      · split
        · exact .pure rfl
        · exact .announce_bind (.pure rfl)

theorem deliver_keeps (s : Settings) (order : Order) (number : String) (place : Place) (d : Draft) (f : OutputFormat) :
    Keeps (.placed place) (deliver s order number place d f) fun g _ => g = .placed place := by
  refine .announce_bind (.bind (Q := fun g _ => g = .placed place) ?_ ?_)
  · refine .put_bind rfl fun content => ?_
    cases content with
    | error e => exact .pure rfl
    | ok content => exact .put_bind trivial fun r => .put_bind ⟨place, rfl⟩ fun answer => .pure rfl
  · rintro _ r rfl
    cases r with
    | error e => exact .pure rfl
    | ok document => exact .announce_bind (.pure rfl)

theorem work_keeps (k : Packing) (s : Settings) (order : Order) (o : Options) (number : String) :
    Keeps .fresh (work k s order o number) fun g r => OwnsUp g r.2 ∧ ∀ p, r.1 = some p → g = .placed p := by
  refine .bind (prepare_keeps s order o number) ?_
  rintro _ draft rfl
  cases draft with
  | error e => exact .pure ⟨by rintro _ ⟨⟩, by rintro _ ⟨⟩⟩
  | ok draft =>
    refine .bind (make_keeps k draft.1 draft.2) ?_
    rintro g artifact ⟨owns_up, placed⟩
    cases artifact with
    | error e => exact .pure ⟨fun e' refused => congrArg _ (Except.error.inj (owns_up e' refused)), by rintro _ ⟨⟩⟩
    | ok place =>
      obtain rfl := placed place rfl
      refine .bind (deliver_keeps s order number place draft.1 draft.2) ?_
      rintro _ r rfl
      exact .pure ⟨by rintro _ ⟨⟩, by rintro _ ⟨⟩; rfl⟩

theorem conclude_keeps (order : Order) (number : String) (place : Option Place) (r : Except Failure Descriptor)
    (placed : ∀ p, place = some p → g = .placed p) :
    Keeps g (conclude order number place r) fun g' r' => g' = g ∧ r' = r := by
  have discards {P : Standing → Except Failure Descriptor → Prop} {f : Unit → Course (Except Failure Descriptor)}
      (rest : Keeps g (f ()) P) : Keeps g (discardSome place >>= f) P := by
    cases place with
    | none => exact rest
    | some p => exact .put_bind (placed p rfl) fun _ => rest
  cases r with
  | error e => exact .announce_bind (discards (.pure ⟨rfl, rfl⟩))
  | ok document => exact discards (.announce_bind (.pure ⟨rfl, rfl⟩))

/-- A generation keeps to what is allowed. If there is no place for its artifact, it comes to that. -/
theorem course_keeps (k : Packing) (s : Settings) (order : Order) : Keeps .fresh (course k s order) OwnsUp := by
  simp only [course]
  split
  · refine (conclude_keeps order "" none _ (by rintro _ ⟨⟩)).mono ?_
    rintro _ r ⟨rfl, -⟩
    rintro _ ⟨⟩
  · rename_i o _
    refine .put_bind trivial fun r => .announce_bind (.bind (work_keeps k s order (o.withDefaults s r none) _) ?_)
    rintro g ⟨place, r⟩ ⟨owns_up, placed⟩
    refine (conclude_keeps order _ place r placed).mono ?_
    rintro _ _ ⟨rfl, rfl⟩
    exact owns_up

/-! ## Where there is no place -/

/-- A generation that has no place for its artifact hands nothing over and comes to the refusal. -/
theorem Keeps.of_refused {σ : Type} {e : Failure} {d : Course (Except Failure Descriptor)}
    (h : Keeps (.refused e) d OwnsUp) (serve : (q : Request) → σ → Answer q × σ) (s : σ) :
    (d.run serve s).1 = .error e ∧ uploads (d.transcript serve s) = [] := by
  induction d generalizing s with
  | done r => exact ⟨h e rfl, rfl⟩
  | ask q next ih =>
    obtain ⟨allowed, rest⟩ := h
    have further := ih (serve q s).1 (Standing.after_refused allowed _ ▸ rest _) (serve q s).2
    refine ⟨further.1, ?_⟩
    rw [Dialogue.transcript, uploads, seen_cons, show seen _ _ = [] from further.2]
    cases q <;> simp_all

end Letterpress.Generation
