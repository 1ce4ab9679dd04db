import Letterpress.Generation

/-!
# Kinds of failures

The failures that a generation knows fall into six kinds. Four of them belong to the stages that follow once a
template is resolved; everything else that can go wrong is foreign.

* `Failure.kind`: the kind of a failure.
* `Failure.Strays`: a result that is a failure of no such stage.
* `Rendered.kind_of`, `Artifact.kind_of_printJob`, `Printed.kind_of_stamp`, `Delivery.kind_of_accept`: the failures of
  single steps.
-/

namespace Letterpress

namespace Failure

section

variable {α ε ε' : Type}

@[simp]
theorem mapError_ok (f : ε → ε') (a : α) : (Except.ok a : Except ε α).mapError f = .ok a := rfl

@[simp]
theorem mapError_error (f : ε → ε') (e : ε) : (Except.error e : Except ε α).mapError f = .error (f e) := rfl

@[simp]
theorem ofFault_ok (a : α) : ofFault (.ok a) = .ok a := rfl

@[simp]
theorem ofFault_error (f : Fault) : (ofFault (.error f) : Except Failure α) = .error (fault f) := rfl

end

inductive Kind where
  /-- a template that is not found -/
  | lookup
  /-- a format that is unknown or not offered -/
  | format
  | options
  | rendering
  | making
  | persistence
  /-- what no stage takes as its own -/
  | foreign
  deriving DecidableEq, Repr

namespace Kind

/-- Whether the kind belongs to a stage after the template is resolved. -/
def isOfStage : Kind → Bool
  | format | rendering | making | persistence => true
  | lookup | options | foreign => false

end Kind

def kind : Failure → Kind
  | templateNotFound _ _ => .lookup
  | unsupportedFormat _ _ _ _ => .format
  | invalidOptions _ => .options
  | contentNotText _ _ | rendering _ _ => .rendering
  | making _ _ _ | printing _ => .making
  | unreadableArtifact _ _ | notStored _ _ | sizeMismatch _ _ _ | notDescribed _ _ => .persistence
  | fault _ | invalid _ | notPrintable | disposed _ | unknownStorage _ | objectNotWritten _ _ | serviceUnreachable _ _
  | serviceRefused _ _ _ | invalidResponse _ _ => .foreign

theorem isKnown_iff (e : Failure) : e.isKnown = true ↔ e.kind ≠ .foreign := by
  cases e <;> simp [isKnown, kind]

/-- A failure that is known, or taken for a failure of making, is of no stage only as it was before. -/
theorem isOfStage_uncomposed (f : OutputFormat) (e : Failure) :
    (Artifact.uncomposed f e).kind.isOfStage = false ↔ e.kind = .lookup ∨ e.kind = .options := by
  cases e <;> simp [Artifact.uncomposed, isKnown, kind, Kind.isOfStage]

/-- A result is a failure of no stage after the template is resolved. -/
def Strays {α : Type} (r : Except Failure α) : Prop := ∃ e, r = .error e ∧ e.kind.isOfStage = false

end Failure

open Failure

theorem Rendered.kind_of_hypertext {id : String} {c : Context} {extra : Fields} {source : String} {e : Failure}
    (h : Rendered.hypertext id c extra source = .error e) : e.kind = .rendering := by
  unfold Rendered.hypertext at h
  split at h <;> cases h
  rfl

theorem Rendered.kind_of {t : Template} {c : Context} {e : Failure} (h : Rendered.of t c = .error e) :
    e.kind = .rendering := by
  unfold Rendered.of at h
  split at h
  · cases hypertext : Rendered.hypertext t.id c [] ‹String› with
    | error e' =>
      rw [hypertext] at h
      cases h
      exact Rendered.kind_of_hypertext hypertext
    | ok s => rw [hypertext] at h; cases h
  · unfold Rendered.markupOf at h
    split at h <;> cases h
    rfl
  · unfold Rendered.structured at h
    split at h <;> cases h
    rfl
  · cases h
    rfl

theorem PrintPage.kind_of_header {c : Context} {o : Options} {t : Template} {e : Failure}
    (h : PrintPage.header c o t = .error e) : e.kind = .rendering := by
  unfold PrintPage.header at h
  split at h
  · cases hypertext : Rendered.hypertext t.id c pageTokens ‹String› with
    | error e' =>
      rw [hypertext] at h
      cases h
      exact Rendered.kind_of_hypertext hypertext
    | ok s => rw [hypertext] at h; cases h
  · cases h
  · cases h

theorem PrintPage.kind_of_footer {c : Context} {o : Options} {t : Template} {e : Failure}
    (h : PrintPage.footer c o t = .error e) : e.kind = .rendering := by
  unfold PrintPage.footer at h
  split at h
  · exact Rendered.kind_of_hypertext h
  · cases h

theorem Artifact.kind_of_printJob {d : Draft} {e : Failure} (h : Artifact.printJob d = .error e) :
    e.kind = .rendering := by
  unfold Artifact.printJob at h
  cases header : PrintPage.header d.context d.options d.template with
  | error e' =>
    rw [header] at h
    cases h
    exact PrintPage.kind_of_header header
  | ok top =>
    cases footer : PrintPage.footer d.context d.options d.template with
    | error e' =>
      rw [header, footer] at h
      cases h
      exact PrintPage.kind_of_footer footer
    | ok bottom =>
      rw [header, footer] at h
      cases h

theorem Printed.kind_of_stamp {s : Except Fault Pdf.Stamp} {p : Printed} {e : Failure}
    (h : Printed.stamp s p = .error e) : e.kind = .making := by
  cases p with
  | pdf p =>
    cases s <;> cases h
    rfl
  | other content =>
    cases h
    rfl

theorem Artifact.isOfStage_unwritten (f : OutputFormat) (e : Fault) :
    (Artifact.unwritten f e).kind.isOfStage = e.isSystem := by
  unfold Artifact.unwritten
  split
  · rename_i h
    exact h.symm
  · rename_i h
    exact (Bool.eq_false_iff.mpr h).symm

theorem Delivery.isOfStage_unread (place : Place) (e : Fault) :
    (Delivery.unread place e).kind.isOfStage = e.isSystem := by
  unfold Delivery.unread
  split
  · rename_i h
    exact h.symm
  · rename_i h
    exact (Bool.eq_false_iff.mpr h).symm

theorem Delivery.kind_of_describe {p : Delivery.Parcel} {r : Receipt} {e : Failure}
    (h : Delivery.describe p r = .error e) : e.kind = .persistence := by
  simp only [Delivery.describe] at h
  split at h <;> cases h
  rfl

/-- Whatever a storage answers, what fails from then on is a failure to store. -/
theorem Delivery.kind_of_accept {p : Delivery.Parcel} {answer : Except Failure Receipt} {e : Failure}
    (h : Delivery.accept p answer = .error e) : e.kind = .persistence := by
  unfold Delivery.accept at h
  split at h
  · cases h
    rfl
  · split at h
    · exact Delivery.kind_of_describe h
    · cases h
      rfl

end Letterpress
