import Letterpress.Proofs.Generation.Engine
import Letterpress.Proofs.Generation.Stages

/-!
# Failures of the stages

Once a template is resolved, most of what can go wrong becomes a failure of the stage in which it does. Two things do
not: a context that cannot be made, and a refusal of surroundings that no stage takes as its own, such as a workspace
that cannot be entered.

* `Exchange.Breaks`: a refusal that no stage takes as its own.
* `course_strays_iff`: exactly when a failure is of no stage.
-/

namespace Letterpress.Generation

open Dialogue Transcript

/-! ## Refusals -/

/-- A refusal that no stage takes as its own: of the printing engine, when it is one of those that come before all
stages; of the place for an artifact, when it is of no stage already; of writing and reading, when the operating
system has no part in it. -/
def Exchange.Breaks : Exchange → Prop
  | ⟨.print _, .error e⟩ => e.kind = .lookup ∨ e.kind = .options
  | ⟨.allocate _ _, .error e⟩ => e.kind.isOfStage = false
  | ⟨.write _ _, .error e⟩ => e.isSystem = false
  | ⟨.read _, .error e⟩ => e.isSystem = false
  | _ => False

/-- There is such a refusal among some exchanges. -/
def Broken (xs : Transcript) : Prop := ∃ x ∈ xs, x.Breaks

/-- No context can be made for a template with options as they were announced. The first of the readings goes into the
options once more, and the second is the time of the context. -/
def Unenriched (s : Settings) (order : Order) (o : Options) (t : Template) (rs : List Reading) : Prop :=
  ∃ r₁ r₂ rest e, rs = r₁ :: r₂ :: rest ∧
    Context.of order.data t (o.withDefaults s r₁ (some t)) s r₂.now = .error e

section

variable {x : Exchange} {xs ys : Transcript}

@[simp]
theorem not_broken_nil : ¬Broken [] := by simp [Broken]

@[simp]
theorem broken_cons : Broken (x :: xs) ↔ x.Breaks ∨ Broken xs := by simp [Broken]

@[simp]
theorem broken_append : Broken (xs ++ ys) ↔ Broken xs ∨ Broken ys := by
  simp only [Broken, List.mem_append, or_and_right, exists_or]

@[simp]
theorem breaks_print {job : PrintJob} {e : Failure} :
    Exchange.Breaks ⟨.print job, .error e⟩ ↔ e.kind = .lookup ∨ e.kind = .options := .rfl

@[simp]
theorem breaks_allocate {wish : String} {f : OutputFormat} {e : Failure} :
    Exchange.Breaks ⟨.allocate wish f, .error e⟩ ↔ e.kind.isOfStage = false := .rfl

@[simp]
theorem breaks_write {p : Place} {content : Bytes} {e : Fault} :
    Exchange.Breaks ⟨.write p content, .error e⟩ ↔ e.isSystem = false := .rfl

@[simp]
theorem breaks_read {p : Place} {e : Fault} : Exchange.Breaks ⟨.read p, .error e⟩ ↔ e.isSystem = false := .rfl

@[simp]
theorem not_breaks_printed {job : PrintJob} {printed : Printed} : ¬Exchange.Breaks ⟨.print job, .ok printed⟩ := id

@[simp]
theorem not_breaks_allocated {wish : String} {f : OutputFormat} {p : Place} :
    ¬Exchange.Breaks ⟨.allocate wish f, .ok p⟩ := id

@[simp]
theorem not_breaks_written {p : Place} {content : Bytes} : ¬Exchange.Breaks ⟨.write p content, .ok ()⟩ := id

@[simp]
theorem not_breaks_read {p : Place} {content : Bytes} : ¬Exchange.Breaks ⟨.read p, .ok content⟩ := id

@[simp]
theorem not_breaks_clock {reading : Reading} : ¬Exchange.Breaks ⟨.clock, reading⟩ := id

@[simp]
theorem not_breaks_announce {number id : String} {p : Progress} {a : Except Failure Unit} :
    ¬Exchange.Breaks ⟨.announce number id p, a⟩ := False.elim

@[simp]
theorem not_breaks_resolve {templateId : String} {a : Except Failure Template} :
    ¬Exchange.Breaks ⟨.resolve templateId, a⟩ := id

@[simp]
theorem not_breaks_picture {path : String} {content : Answer (.picture path)} :
    ¬Exchange.Breaks ⟨.picture path, content⟩ := id

@[simp]
theorem not_breaks_discard {p : Place} : ¬Exchange.Breaks ⟨.discard p, ()⟩ := id

@[simp]
theorem not_breaks_upload {u : Upload} {a : Except Failure Receipt} : ¬Exchange.Breaks ⟨.upload u, a⟩ := id

@[simp]
theorem not_strays_ok {α : Type} {a : α} : ¬Failure.Strays (.ok a : Except Failure α) := by
  rintro ⟨e, ⟨⟩, -⟩

@[simp]
theorem strays_error {α : Type} {e : Failure} :
    Failure.Strays (.error e : Except Failure α) ↔ e.kind.isOfStage = false := by
  simp [Failure.Strays]

end

/-! ## The stages -/

/-- Bytes that are made of what may be faulty are never a failure of no stage. -/
theorem not_strays_packed {α : Type} (r : Except Fault α) (pack : α → Bytes) (f : OutputFormat) :
    ¬Failure.Strays (((Failure.ofFault r).map pack).mapError (Artifact.uncomposed f)) := by
  cases r with
  | error e =>
    simp only [Failure.ofFault_error, Except.map, Failure.mapError_error, strays_error, Failure.isOfStage_uncomposed]
    rintro (h | h) <;> cases h
  | ok a => simp [Except.map]

theorem strays_compose (k : Packing) (d : Draft) (f : OutputFormat) :
    Always (Artifact.compose k d f) fun xs r => Failure.Strays (r.mapError (Artifact.uncomposed f)) ↔ Broken xs := by
  cases f with
  | html => exact .pure (by simp)
  | markdown => exact .pure (by simp [not_strays_packed])
  | docx =>
    simp only [Artifact.compose]
    split
    · refine .put_bind fun picture => .pure ?_
      simp [not_strays_packed]
    · exact .pure (by simp [not_strays_packed])
  | pdf =>
    simp only [Artifact.compose]
    split
    · rename_i e job
      refine .pure ?_
      simp [Failure.isOfStage_uncomposed, Artifact.kind_of_printJob job]
    · refine .put_bind fun printed => .pure ?_
      cases printed with
      | error e =>
        simp [Except.bind, Except.map, Failure.isOfStage_uncomposed]
      | ok p =>
        cases stamped : Printed.stamp (Artifact.stamp d) p with
        | error e =>
          simp [Except.bind, Except.map, stamped, Failure.isOfStage_uncomposed,
            Printed.kind_of_stamp stamped]
        | ok p => simp [Except.bind, Except.map, stamped]

theorem not_broken_of_composed {k : Packing} {d : Draft} {f : OutputFormat} {xs : Transcript} {content : Bytes}
    (run : Run (Artifact.compose k d f) xs (.ok content)) : ¬Broken xs :=
  fun broken => not_strays_ok ((strays_compose k d f xs _ run).mpr broken)

section

variable {k : Packing} {s : Settings} {order : Order} {o : Options} {number : String} {d : Draft} {f : OutputFormat}
  {xs : Transcript}

theorem Makes.strays_iff {r : Except Failure Place} (h : Makes k d f xs r) : Failure.Strays r ↔ Broken xs := by
  cases h with
  | uncomposed composed => simpa using strays_compose k d f _ _ composed
  | unplaced composed e =>
    simp [not_broken_of_composed composed]
  | unwritten composed p e =>
    simp [not_broken_of_composed composed, Artifact.isOfStage_unwritten]
  | made composed p =>
    simp [not_broken_of_composed composed]

theorem Hands.strays_iff {place : Place} {r : Except Failure Descriptor} (h : Hands s place d f xs r) :
    Failure.Strays r ↔ Broken xs := by
  cases h with
  | unread e => simp [Delivery.isOfStage_unread]
  | handed content reading answer accepted =>
    have kept : ¬Failure.Strays r := by
      rintro ⟨e, rfl, stray⟩
      rw [Delivery.kind_of_accept accepted] at stray
      cases stray
    simp [kept]

theorem Delivers.strays_iff {place : Place} {r : Except Failure Descriptor}
    (h : Delivers s order number place d f xs r) : Failure.Strays r ↔ Broken xs := by
  cases h with
  | undelivered a hands => simpa using hands.strays_iff
  | delivered a₁ a₂ hands => simpa using hands.strays_iff

theorem Prepares.not_broken {r : Except Failure (Draft × OutputFormat)} (h : Prepares s order o number xs r) :
    ¬Broken xs := by
  cases h <;> simp

theorem Concludes.not_broken {place : Option Place} {r : Except Failure Descriptor}
    (h : Concludes order number place xs r) : ¬Broken xs := by
  cases place <;> cases h <;> simp [clearance]

/-- Where the template is resolved, a draft is missing for a failure of no stage only if there is no context. -/
theorem Prepares.strays_iff {t : Template} {r : Except Failure (Draft × OutputFormat)}
    (h : Prepares s order o number xs r) (resolved : .ok t ∈ resolutions xs) :
    Failure.Strays r ↔ Unenriched s order o t (readings xs) := by
  cases h with
  | unresolved e => simp at resolved
  | unsupported u reading => simp [notOffered, Failure.kind, Failure.Kind.isOfStage, Unenriched]
  | unenriched u r₁ r₂ a offered enriched =>
    obtain rfl : t = u := by simpa using resolved
    exact ⟨fun _ => ⟨r₁, r₂, [], _, rfl, enriched⟩, fun _ => ⟨_, rfl, rfl⟩⟩
  | unrendered u r₁ r₂ a offered enriched rendered =>
    obtain rfl : t = u := by simpa using resolved
    simp [Rendered.kind_of rendered, Failure.Kind.isOfStage, Unenriched, enriched]
  | prepared u r₁ r₂ a₁ a₂ offered enriched rendered =>
    obtain rfl : t = u := by simpa using resolved
    simp [Unenriched, enriched]

/-- A draft has a context, whatever the clock says later on. -/
theorem Prepares.not_unenriched {t : Template} {draft : Draft × OutputFormat}
    (h : Prepares s order o number xs (.ok draft)) (resolved : .ok t ∈ resolutions xs) (later : List Reading) :
    ¬Unenriched s order o t (readings xs ++ later) := by
  cases h with
  | prepared u r₁ r₂ a₁ a₂ offered enriched rendered =>
    obtain rfl : t = u := by simpa using resolved
    simp [Unenriched, enriched]

theorem Works.strays_iff {t : Template} {place : Option Place} {r : Except Failure Descriptor}
    (h : Works k s order o number xs (place, r)) (resolved : .ok t ∈ resolutions xs) :
    Failure.Strays r ↔ Unenriched s order o t (readings xs) ∨ Broken xs := by
  cases h with
  | @unprepared xs e prepares =>
    have strays := prepares.strays_iff resolved
    simp only [strays_error] at strays
    simp [strays, prepares.not_broken]
  | @unmade xs ys d f e prepares makes =>
    have resolved : .ok t ∈ resolutions xs := by simpa [makes.views] using resolved
    have strays := makes.strays_iff
    simp only [strays_error] at strays
    have enriched := prepares.not_unenriched resolved []
    simp only [List.append_nil] at enriched
    simp [strays, prepares.not_broken, makes.views, enriched]
  | @made xs ys zs d f place r prepares makes delivers =>
    have resolved : .ok t ∈ resolutions xs := by simpa [makes.views, delivers.views] using resolved
    have unbroken : ¬Broken ys := fun broken => not_strays_ok (makes.strays_iff.mpr broken)
    have enriched := prepares.not_unenriched resolved (readings zs)
    simp [delivers.strays_iff, prepares.not_broken, unbroken, makes.views, enriched]

end

/-! ## Every generation -/

/-- Once the options are accepted and the template is resolved, a generation fails for a failure of no stage exactly
if no context can be made, or if the surroundings refuse something in a way that no stage takes as its own. -/
theorem course_strays_iff {k : Packing} {s : Settings} {order : Order} {xs : Transcript}
    {r : Except Failure Descriptor} {o : Options} {t : Template} (run : Run (course k s order) xs r)
    (chosen : order.choice.accept order.templateId = .ok o) (resolved : .ok t ∈ resolutions xs) :
    Failure.Strays r ↔
      (∃ r₁ rest, readings xs = r₁ :: rest ∧ Unenriched s order (o.withDefaults s r₁ none) t rest) ∨ Broken xs := by
  cases always_conducts k s order xs r run with
  | rejected refused => cases chosen.symm.trans refused
  | @conducted o' reading a number place xs ys result chosen' numbered works concludes =>
    obtain rfl : o = o' := Except.ok.inj (chosen.symm.trans chosen')
    have resolved : .ok t ∈ resolutions xs := by simpa [concludes.views] using resolved
    rw [works.strays_iff resolved]
    simp [concludes.views, concludes.not_broken, Exchange.Breaks, and_assoc]

/-- An engine whose workspace would have to be in a file. -/
def blocked : Engine Unit := .small { workspaceDir := some "/blocked" } ⟨[(["blocked"], .file [])]⟩

/-- There the refusal of the operating system is what a caller gets to see. -/
theorem course_strays_iff_blocked :
    (blocked.generate (.still .note) ⟨"note", [], .checked { format := some .markdown }⟩).1 =
        .error (.fault (.system 17 "File exists: '/blocked'")) ∧
      Broken (blocked.transcript (.still .note) ⟨"note", [], .checked { format := some .markdown }⟩) := by
  have result : (blocked.generate (.still .note) ⟨"note", [], .checked { format := some .markdown }⟩).1 =
      .error (.fault (.system 17 "File exists: '/blocked'")) := by rfl
  have resolved : resolutions (blocked.transcript (.still .note)
      ⟨"note", [], .checked { format := some .markdown }⟩) = [.ok .note] := by rfl
  have readings_eq : readings (blocked.transcript (.still .note)
      ⟨"note", [], .checked { format := some .markdown }⟩) =
      [⟨0, default, 7⟩, ⟨0, default, 7⟩, ⟨0, default, 7⟩] := by rfl
  have exact_condition := course_strays_iff (o := { format := some .markdown }) (t := .note)
    (blocked.run_generate (.still .note) ⟨"note", [], .checked { format := some .markdown }⟩) rfl (by simp [resolved])
  refine ⟨result, (exact_condition.mp ⟨_, result, rfl⟩).resolve_left ?_⟩
  rintro ⟨r, rest, seen, r₁, r₂, more, e, rfl, failed⟩
  rw [readings_eq] at seen
  obtain ⟨rfl, rfl, rfl, rfl⟩ : r = _ ∧ r₁ = _ ∧ r₂ = _ ∧ more = [] := by simpa [eq_comm] using seen
  cases failed

end Letterpress.Generation
