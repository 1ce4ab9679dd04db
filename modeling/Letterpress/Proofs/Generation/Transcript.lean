import Letterpress.Generation
import Letterpress.Proofs.Dialogue

/-!
# Transcripts of generations

What can be seen of a generation from outside: its requests with their answers, in order. Most statements look at
some of them only.

* `Transcript.announcements`, `resolutions`, `readings`, `uploads`, `written`, `touched`: parts of a transcript.
* `Transcript.Inquiring`: a transcript in which surroundings are only asked for pictures and for printing.
-/

namespace Letterpress.Generation

abbrev Exchange := Dialogue.Exchange Request Answer

abbrev Transcript := List Exchange

/-- An announcement as it is handed to whoever listens. -/
structure Announcement where
  number : String
  templateId : String
  progress : Progress

/-- Whether a request only wants to know something of a picture or of a printing engine. -/
@[simp]
def Request.isInquiry : Request → Bool
  | picture _ => true
  | print _ => true
  | _ => false

namespace Exchange

@[simp]
def announcement? : Exchange → Option Announcement
  | ⟨.announce number id p, _⟩ => some ⟨number, id, p⟩
  | _ => none

/-- What comes of a template's identifier, where one is resolved. -/
@[simp]
def resolution? : Exchange → Option (Except Failure Template)
  | ⟨.resolve _, r⟩ => some r
  | _ => none

/-- What the clock says, where it is asked. -/
@[simp]
def reading? : Exchange → Option Reading
  | ⟨.clock, r⟩ => some r
  | _ => none

@[simp]
def upload? : Exchange → Option Upload
  | ⟨.upload u, _⟩ => some u
  | _ => none

/-- The place at which an exchange puts a file. -/
@[simp]
def written? : Exchange → Option Place
  | ⟨.write p _, _⟩ => some p
  | _ => none

/-- The place whose file an exchange may change. -/
@[simp]
def touched? : Exchange → Option Place
  | ⟨.write p _, _⟩ => some p
  | ⟨.discard p, _⟩ => some p
  | _ => none

end Exchange

namespace Transcript

variable {β : Type} {f : Exchange → Option β} {x : Exchange} {xs ys : Transcript}

/-- What is seen of a transcript by someone who sees a part of some exchanges. -/
def seen (f : Exchange → Option β) (xs : Transcript) : List β := xs.filterMap f

@[simp]
theorem seen_nil : seen f [] = [] := rfl

@[simp]
theorem seen_cons : seen f (x :: xs) = (f x).toList ++ seen f xs := by
  cases h : f x <;> simp [seen, h]

@[simp]
theorem seen_append : seen f (xs ++ ys) = seen f xs ++ seen f ys := List.filterMap_append

abbrev announcements (xs : Transcript) : List Announcement := seen Exchange.announcement? xs

/-- The stages that are announced, in order. -/
@[simp]
abbrev stages (xs : Transcript) : List Stage := (announcements xs).map fun a => a.progress.stage

abbrev resolutions (xs : Transcript) : List (Except Failure Template) := seen Exchange.resolution? xs

abbrev readings (xs : Transcript) : List Reading := seen Exchange.reading? xs

abbrev uploads (xs : Transcript) : List Upload := seen Exchange.upload? xs

abbrev written (xs : Transcript) : List Place := seen Exchange.written? xs

abbrev touched (xs : Transcript) : List Place := seen Exchange.touched? xs

/-- Surroundings are asked for pictures and for printing, and for nothing else. -/
def Inquiring (xs : Transcript) : Prop := ∀ x ∈ xs, x.question.isInquiry = true

@[simp]
theorem inquiring_nil : Inquiring [] := by simp [Inquiring]

@[simp]
theorem inquiring_cons : Inquiring (x :: xs) ↔ x.question.isInquiry = true ∧ Inquiring xs := List.forall_mem_cons

theorem Inquiring.seen_eq_nil (h : Inquiring xs) (hf : ∀ x : Exchange, x.question.isInquiry = true → f x = none) :
    seen f xs = [] :=
  List.filterMap_eq_nil_iff.mpr fun x hx => hf x (h x hx)

/-- Inquiries leave no trace in the other parts of a transcript. -/
theorem Inquiring.views (h : Inquiring xs) :
    announcements xs = [] ∧ resolutions xs = [] ∧ readings xs = [] ∧ uploads xs = [] ∧ written xs = [] ∧
      touched xs = [] := by
  refine ⟨h.seen_eq_nil ?_, h.seen_eq_nil ?_, h.seen_eq_nil ?_, h.seen_eq_nil ?_, h.seen_eq_nil ?_,
    h.seen_eq_nil ?_⟩ <;>
  · rintro ⟨q, a⟩ hq
    cases q <;> simp_all

end Transcript

end Letterpress.Generation
