import Letterpress.Proofs.Failure
import Letterpress.Proofs.Generation.Transcript

/-!
# The stages of a generation

Everything that a stage can do, whatever it is answered: each of the relations below has one rule for each way in
which its stage can end, with all requests that are made until then.

* `Makes`: the artifact is composed and written.
* `Prepares`: the template is resolved, checked and rendered.
* `Delivers`: the artifact is read back, stored and described.
* `Conducts`: a generation from beginning to end.
-/

namespace Letterpress.Generation

open Dialogue Transcript

theorem always_announce_bind {number id : String} {p : Progress} {β : Type} {f : Unit → Course β}
    {P : Transcript → β → Prop}
    (rest : ∀ a, Always (f ()) fun ys b => P (⟨.announce number id p, a⟩ :: ys) b) :
    Always (Course.announce number id p >>= f) P := by
  intro xs b run
  obtain ⟨a, ys, rfl, h⟩ := Run.ask_iff.mp (show Run (.ask _ fun _ => f ()) xs b from run)
  exact rest a ys b h

/-! ## The artifact -/

/-- Composing asks for a picture or for printing, if for anything. -/
theorem always_inquiring (k : Packing) (d : Draft) (f : OutputFormat) :
    Always (Artifact.compose k d f) fun xs _ => Inquiring xs := by
  cases f with
  | html => exact .pure (by simp)
  | markdown => exact .pure (by simp)
  | docx =>
    simp only [Artifact.compose]
    split
    · exact .put_bind fun _ => .pure (by simp)
    · exact .pure (by simp)
  | pdf =>
    simp only [Artifact.compose]
    split
    · exact .pure (by simp)
    · exact .put_bind fun _ => .pure (by simp)

/-- The name that is wished for an artifact. -/
def wish (d : Draft) : String := (Options.given? d.options.filename).getD "document"

/-- How an artifact is made, or is not. -/
inductive Makes (k : Packing) (d : Draft) (f : OutputFormat) : Transcript → Except Failure Place → Prop where
  | uncomposed {xs : Transcript} {e : Failure} (composed : Run (Artifact.compose k d f) xs (.error e)) :
      Makes k d f xs (.error (Artifact.uncomposed f e))
  | unplaced {xs : Transcript} {content : Bytes} (composed : Run (Artifact.compose k d f) xs (.ok content))
      (e : Failure) : Makes k d f (xs ++ [⟨.allocate (wish d) f, .error e⟩]) (.error e)
  | unwritten {xs : Transcript} {content : Bytes} (composed : Run (Artifact.compose k d f) xs (.ok content))
      (p : Place) (e : Fault) :
      Makes k d f (xs ++ [⟨.allocate (wish d) f, .ok p⟩, ⟨.write p content, .error e⟩, ⟨.discard p, ()⟩])
        (.error (Artifact.unwritten f e))
  | made {xs : Transcript} {content : Bytes} (composed : Run (Artifact.compose k d f) xs (.ok content))
      (p : Place) :
      Makes k d f (xs ++ [⟨.allocate (wish d) f, .ok p⟩, ⟨.write p content, .ok ()⟩]) (.ok p)

theorem always_makes (k : Packing) (d : Draft) (f : OutputFormat) : Always (Artifact.make k d f) (Makes k d f) := by
  refine .bind (Q := Run (Artifact.compose k d f)) (fun _ _ run => run) fun xs composed run => ?_
  cases composed with
  | error e => exact .pure (by simpa using Makes.uncomposed run)
  | ok content =>
    refine .put_bind fun placed => ?_
    cases placed with
    | error e => exact .pure (.unplaced run e)
    | ok p =>
      refine .put_bind fun wrote => ?_
      cases wrote with
      | error e => exact .put_bind fun _ => .pure (.unwritten run p e)
      | ok _ => exact .pure (.made run p)

theorem Makes.views {k : Packing} {d : Draft} {f : OutputFormat} {xs : Transcript} {r : Except Failure Place}
    (h : Makes k d f xs r) : announcements xs = [] ∧ resolutions xs = [] ∧ readings xs = [] ∧ uploads xs = [] := by
  cases h with
  | uncomposed composed => simp [(always_inquiring k d f _ _ composed).views]
  | unplaced composed => simp [(always_inquiring k d f _ _ composed).views]
  | unwritten composed => simp [(always_inquiring k d f _ _ composed).views]
  | made composed => simp [(always_inquiring k d f _ _ composed).views]

/-! ## The draft -/

/-- The format of a document. -/
def formatOf (s : Settings) (o : Options) : OutputFormat := o.format.getD s.defaultFormat

/-- What is said of a template that does not offer the format of a document. -/
def notOffered (id : String) (t : Template) (f : OutputFormat) : Failure :=
  .unsupportedFormat id f.name t.sortedFormats none

/-- How a draft is prepared, or is not, with the options as they were announced. -/
inductive Prepares (s : Settings) (order : Order) (o : Options) (number : String) :
    Transcript → Except Failure (Draft × OutputFormat) → Prop where
  | unresolved (e : Failure) : Prepares s order o number [⟨.resolve order.templateId, .error e⟩] (.error e)
  | unsupported (t : Template) (r : Reading) (offered : t.supports (formatOf s o) = false) :
      Prepares s order o number [⟨.resolve order.templateId, .ok t⟩, ⟨.clock, r⟩]
        (.error (notOffered order.templateId t (formatOf s o)))
  | unenriched (t : Template) (r₁ r₂ : Reading) (a : Except Failure Unit) {e : Fault}
      (offered : t.supports (formatOf s o) = true)
      (enriched : Context.of order.data t (o.withDefaults s r₁ (some t)) s r₂.now = .error e) :
      Prepares s order o number
        [⟨.resolve order.templateId, .ok t⟩, ⟨.clock, r₁⟩,
          ⟨.announce number order.templateId (.templateResolved t.dialect), a⟩, ⟨.clock, r₂⟩]
        (.error (.fault e))
  | unrendered (t : Template) (r₁ r₂ : Reading) (a : Except Failure Unit) {c : Context} {e : Failure}
      (offered : t.supports (formatOf s o) = true)
      (enriched : Context.of order.data t (o.withDefaults s r₁ (some t)) s r₂.now = .ok c)
      (rendered : Rendered.of t c = .error e) :
      Prepares s order o number
        [⟨.resolve order.templateId, .ok t⟩, ⟨.clock, r₁⟩,
          ⟨.announce number order.templateId (.templateResolved t.dialect), a⟩, ⟨.clock, r₂⟩]
        (.error e)
  | prepared (t : Template) (r₁ r₂ : Reading) (a₁ a₂ : Except Failure Unit) {c : Context} {content : Rendered}
      (offered : t.supports (formatOf s o) = true)
      (enriched : Context.of order.data t (o.withDefaults s r₁ (some t)) s r₂.now = .ok c)
      (rendered : Rendered.of t c = .ok content) :
      Prepares s order o number
        [⟨.resolve order.templateId, .ok t⟩, ⟨.clock, r₁⟩,
          ⟨.announce number order.templateId (.templateResolved t.dialect), a₁⟩, ⟨.clock, r₂⟩,
          ⟨.announce number order.templateId (.contentRendered c.collisions), a₂⟩]
        (.ok (⟨content, c, o.withDefaults s r₁ (some t), t⟩, formatOf s o))

theorem always_prepares (s : Settings) (order : Order) (o : Options) (number : String) :
    Always (prepare s order o number) (Prepares s order o number) := by
  refine .put_bind fun resolved => ?_
  cases resolved with
  | error e => exact .pure (.unresolved e)
  | ok t =>
    refine .put_bind fun r₁ => ?_
    cases offered : t.supports (formatOf s o) with
    | false =>
      have h : t.supports ((o.withDefaults s r₁ (some t)).format.getD s.defaultFormat) = false := offered
      simp only [h, Bool.not_false, if_true]
      exact .pure (.unsupported t r₁ offered)
    | true =>
      have h : t.supports ((o.withDefaults s r₁ (some t)).format.getD s.defaultFormat) = true := offered
      simp only [h, Bool.not_true, Bool.false_eq_true, if_false]
      refine always_announce_bind fun a₁ => .put_bind fun r₂ => ?_
      cases enriched : Context.of order.data t (o.withDefaults s r₁ (some t)) s r₂.now with
      | error e => exact .pure (.unenriched t r₁ r₂ a₁ offered enriched)
      | ok c =>
        simp only [Failure.ofFault_ok]
        cases rendered : Rendered.of t c with
        | error e => exact .pure (.unrendered t r₁ r₂ a₁ offered enriched rendered)
        | ok content =>
          exact always_announce_bind fun a₂ => .pure (.prepared t r₁ r₂ a₁ a₂ offered enriched rendered)

theorem Prepares.views {s : Settings} {order : Order} {o : Options} {number : String} {xs : Transcript}
    {r : Except Failure (Draft × OutputFormat)} (h : Prepares s order o number xs r) :
    uploads xs = [] ∧ touched xs = [] := by
  cases h <;> simp

/-! ## The descriptor -/

/-- An artifact as it is handed to the storage. -/
def parcel (s : Settings) (d : Draft) (f : OutputFormat) (content : Bytes) (r : Reading) : Delivery.Parcel :=
  ⟨d.template, d.context, d.options, s, f, content, { r.now with offset := some 0 }⟩

/-- What can come of an artifact in the workspace: it is not read, or it is handed over. -/
inductive Hands (s : Settings) (place : Place) (d : Draft) (f : OutputFormat) :
    Transcript → Except Failure Descriptor → Prop where
  | unread (e : Fault) : Hands s place d f [⟨.read place, .error e⟩] (.error (Delivery.unread place e))
  | handed (content : Bytes) (r : Reading) (answer : Except Failure Receipt) {result : Except Failure Descriptor}
      (accepted : Delivery.accept (parcel s d f content r) answer = result) :
      Hands s place d f
        [⟨.read place, .ok content⟩, ⟨.clock, r⟩, ⟨.upload (Delivery.upload (parcel s d f content r)), answer⟩]
        result

theorem Hands.views {s : Settings} {place : Place} {d : Draft} {f : OutputFormat} {xs : Transcript}
    {r : Except Failure Descriptor} (h : Hands s place d f xs r) :
    announcements xs = [] ∧ resolutions xs = [] ∧ touched xs = [] := by
  cases h <;> simp

theorem always_hands (s : Settings) (place : Place) (d : Draft) (f : OutputFormat) :
    Always (Delivery.course place d.template d.context d.options s f) (Hands s place d f) := by
  refine .put_bind fun read => ?_
  cases read with
  | error e => exact .pure (.unread e)
  | ok content => exact .put_bind fun r => .put_bind fun answer => .pure (.handed content r answer rfl)

/-- How an artifact is delivered, or is not. -/
inductive Delivers (s : Settings) (order : Order) (number : String) (place : Place) (d : Draft) (f : OutputFormat) :
    Transcript → Except Failure Descriptor → Prop where
  | undelivered (a : Except Failure Unit) {xs : Transcript} {e : Failure} (hands : Hands s place d f xs (.error e)) :
      Delivers s order number place d f
        (⟨.announce number order.templateId (.artifactGenerated f), a⟩ :: xs) (.error e)
  | delivered (a₁ a₂ : Except Failure Unit) {xs : Transcript} {document : Descriptor}
      (hands : Hands s place d f xs (.ok document)) :
      Delivers s order number place d f
        (⟨.announce number order.templateId (.artifactGenerated f), a₁⟩ ::
          (xs ++ [⟨.announce number order.templateId (.documentStored document.path document.size), a₂⟩]))
        (.ok document)

theorem always_delivers (s : Settings) (order : Order) (number : String) (place : Place) (d : Draft)
    (f : OutputFormat) : Always (deliver s order number place d f) (Delivers s order number place d f) := by
  refine always_announce_bind fun a₁ => .bind (always_hands s place d f) fun xs r hands => ?_
  cases r with
  | error e => exact .pure (by simpa using Delivers.undelivered a₁ hands)
  | ok document => exact always_announce_bind fun a₂ => .pure (.delivered a₁ a₂ hands)

theorem Delivers.views {s : Settings} {order : Order} {number : String} {place : Place} {d : Draft} {f : OutputFormat}
    {xs : Transcript} {r : Except Failure Descriptor} (h : Delivers s order number place d f xs r) :
    resolutions xs = [] ∧ touched xs = [] := by
  cases h with
  | undelivered a hands => simp [hands.views]
  | delivered a₁ a₂ hands => simp [hands.views]

/-! ## The whole -/

/-- How the work between the first announcement and the last goes, with the place of the artifact if there is one. -/
inductive Works (k : Packing) (s : Settings) (order : Order) (o : Options) (number : String) :
    Transcript → Option Place × Except Failure Descriptor → Prop where
  | unprepared {xs : Transcript} {e : Failure} (prepares : Prepares s order o number xs (.error e)) :
      Works k s order o number xs (none, .error e)
  | unmade {xs ys : Transcript} {d : Draft} {f : OutputFormat} {e : Failure}
      (prepares : Prepares s order o number xs (.ok (d, f))) (makes : Makes k d f ys (.error e)) :
      Works k s order o number (xs ++ ys) (none, .error e)
  | made {xs ys zs : Transcript} {d : Draft} {f : OutputFormat} {place : Place} {r : Except Failure Descriptor}
      (prepares : Prepares s order o number xs (.ok (d, f))) (makes : Makes k d f ys (.ok place))
      (delivers : Delivers s order number place d f zs r) :
      Works k s order o number (xs ++ (ys ++ zs)) (some place, r)

theorem always_works (k : Packing) (s : Settings) (order : Order) (o : Options) (number : String) :
    Always (work k s order o number) (Works k s order o number) := by
  refine .bind (always_prepares s order o number) fun xs draft prepares => ?_
  cases draft with
  | error e => exact .pure (by simpa using Works.unprepared prepares)
  | ok draft =>
    obtain ⟨d, f⟩ := draft
    refine .bind (always_makes k d f) fun ys artifact makes => ?_
    cases artifact with
    | error e => exact .pure (by simpa using Works.unmade prepares makes)
    | ok place =>
      refine .bind (always_delivers s order number place d f) fun zs r delivers => .pure ?_
      simpa using Works.made prepares makes delivers

/-- Work begins with the preparing, and ends with it where that fails. Templates are resolved there only. -/
theorem Works.prepares {k : Packing} {s : Settings} {order : Order} {o : Options} {number : String} {xs : Transcript}
    {place : Option Place} {r : Except Failure Descriptor} (h : Works k s order o number xs (place, r)) :
    ∃ ys zs prepared, xs = ys ++ zs ∧ Prepares s order o number ys prepared ∧ resolutions zs = [] ∧
      ∀ e, prepared = .error e → zs = [] ∧ place = none ∧ r = .error e := by
  cases h with
  | unprepared prepares => exact ⟨_, [], _, (List.append_nil _).symm, prepares, rfl, by simp⟩
  | unmade prepares makes => exact ⟨_, _, _, rfl, prepares, by simp [makes.views], by simp⟩
  | made prepares makes delivers =>
    exact ⟨_, _, _, rfl, prepares, by simp [makes.views, delivers.views], by simp⟩

/-- An artifact is discarded, if there is one. -/
def clearance : Option Place → Transcript
  | none => []
  | some p => [⟨.discard p, ()⟩]

/-- How a generation ends: a failure is announced before the artifact is discarded, and a success after it. -/
inductive Concludes (order : Order) (number : String) (place : Option Place) :
    Transcript → Except Failure Descriptor → Prop where
  | failed (e : Failure) (a : Except Failure Unit) :
      Concludes order number place (⟨.announce number order.templateId (.failed e), a⟩ :: clearance place) (.error e)
  | completed (document : Descriptor) (a : Except Failure Unit) :
      Concludes order number place
        (clearance place ++ [⟨.announce number order.templateId (.completed document.digest), a⟩]) (.ok document)

theorem Concludes.views {order : Order} {number : String} {place : Option Place} {xs : Transcript}
    {r : Except Failure Descriptor} (h : Concludes order number place xs r) :
    resolutions xs = [] ∧ readings xs = [] ∧ uploads xs = [] := by
  cases place <;> cases h <;> simp [clearance]

theorem always_clearance (place : Option Place) : Always (discardSome place) fun xs _ => xs = clearance place := by
  cases place with
  | none => exact .pure rfl
  | some p => exact .put_bind fun _ => .pure rfl

theorem always_concludes (order : Order) (number : String) (place : Option Place) (r : Except Failure Descriptor) :
    Always (conclude order number place r) fun xs r' => r' = r ∧ Concludes order number place xs r := by
  cases r with
  | error e =>
    refine always_announce_bind fun a => .bind (always_clearance place) ?_
    rintro _ _ rfl
    exact .pure ⟨rfl, by simpa using Concludes.failed e a⟩
  | ok document =>
    refine .bind (always_clearance place) ?_
    rintro _ _ rfl
    exact always_announce_bind fun a => .pure ⟨rfl, .completed document a⟩

/-- How a generation goes. The options that were accepted are filled in before anything else is asked for. -/
inductive Conducts (k : Packing) (s : Settings) (order : Order) : Transcript → Except Failure Descriptor → Prop where
  | rejected {e : Failure} {xs : Transcript} (chosen : order.choice.accept order.templateId = .error e)
      (concludes : Concludes order "" none xs (.error e)) : Conducts k s order xs (.error e)
  | conducted {o : Options} (r : Reading) (a : Except Failure Unit) {number : String} {place : Option Place}
      {xs ys : Transcript} {result : Except Failure Descriptor}
      (chosen : order.choice.accept order.templateId = .ok o)
      (numbered : number = (o.withDefaults s r none).documentNumber.getD "")
      (works : Works k s order (o.withDefaults s r none) number xs (place, result))
      (concludes : Concludes order number place ys result) :
      Conducts k s order
        (⟨.clock, r⟩ :: ⟨.announce number order.templateId (.started (formatOf s o)), a⟩ :: (xs ++ ys)) result

theorem always_conducts (k : Packing) (s : Settings) (order : Order) :
    Always (course k s order) (Conducts k s order) := by
  simp only [course]
  cases chosen : order.choice.accept order.templateId with
  | error e =>
    intro xs r run
    obtain ⟨rfl, concludes⟩ := always_concludes order "" none (.error e) xs r run
    exact .rejected chosen concludes
  | ok o =>
    refine .put_bind fun r => always_announce_bind fun a => ?_
    refine .bind (always_works k s order (o.withDefaults s r none) _) fun xs worked works => ?_
    intro ys result run
    obtain ⟨rfl, concludes⟩ := always_concludes order _ worked.1 worked.2 ys result run
    exact .conducted (o := o) r a chosen rfl works concludes

end Letterpress.Generation
