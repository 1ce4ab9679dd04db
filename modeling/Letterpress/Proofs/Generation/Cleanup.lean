import Mathlib.Logic.Function.Basic
import Letterpress.Proofs.FileSystem
import Letterpress.Proofs.Generation.Engine
import Letterpress.Proofs.Generation.Stages

/-!
# Nothing is left behind

The files of a workspace, as the requests of a generation change them. Writing may fail halfway, and then there may be
anything in its place. A file that is written is discarded later on, and nothing is put in its place after that, so a
generation leaves no file of its own, however it ends.

* `History.eq_of_not_touched`: a file that no request is about stays as it is.
* `Cleared.swept`: what is discarded at last is gone.
* `course_leaves_nothing`: no generation leaves a file, and it hands over at most one artifact.
-/

namespace Letterpress.Generation

open Dialogue Transcript

/-! ## Files -/

/-- The files of a workspace, each at its place. -/
abbrev Files := Place → Option Bytes

/-- What an exchange may do to the files. Where writing fails, anything may be left in its place, or nothing. -/
inductive Exchange.Turns : Exchange → Files → Files → Prop where
  | wrote (p : Place) (content : Bytes) (files : Files) :
      Turns ⟨.write p content, .ok ()⟩ files (Function.update files p (some content))
  | spoiled (p : Place) (content : Bytes) (e : Fault) (left : Option Bytes) (files : Files) :
      Turns ⟨.write p content, .error e⟩ files (Function.update files p left)
  | discarded (p : Place) (files : Files) : Turns ⟨.discard p, ()⟩ files (Function.update files p none)
  | kept {x : Exchange} (apart : x.touched? = none) (files : Files) : Turns x files files

/-- The files before and after some exchanges. -/
inductive History : Transcript → Files → Files → Prop where
  | nil (files : Files) : History [] files files
  | cons {x : Exchange} {xs : Transcript} {before between after : Files} (turns : x.Turns before between)
      (rest : History xs between after) : History (x :: xs) before after

theorem Exchange.Turns.eq_of_not_touched {x : Exchange} {before after : Files} {p : Place}
    (h : x.Turns before after) (apart : x.touched? ≠ some p) : after p = before p := by
  cases h with
  | wrote q content => exact Function.update_of_ne (fun h => apart (congrArg some h.symm)) _ _
  | spoiled q content e left => exact Function.update_of_ne (fun h => apart (congrArg some h.symm)) _ _
  | discarded q => exact Function.update_of_ne (fun h => apart (congrArg some h.symm)) _ _
  | kept => rfl

theorem Exchange.Turns.discard {p : Place} {answer : Answer (.discard p)} {before after : Files}
    (h : Turns ⟨.discard p, answer⟩ before after) : after = Function.update before p none := by
  cases h with
  | discarded => rfl
  | kept apart => cases apart

/-- The disk of an engine follows these rules, whatever else the engine is asked for than a place or an upload. -/
theorem Exchange.Turns.of_serve {ω : Type} (o : Outside ω) (e : Engine ω) {q : Request}
    (placed : ∀ w f, q ≠ .allocate w f) (stored : ∀ u, q ≠ .upload u) :
    Exchange.Turns ⟨q, (e.serve o q).1⟩ e.disk.file? (e.serve o q).2.disk.file? := by
  cases q with
  | clock => exact .kept rfl _
  | announce => exact .kept rfl _
  | resolve => exact .kept rfl _
  | picture => exact .kept rfl _
  | print => exact .kept rfl _
  | read => exact .kept rfl _
  | allocate w f => exact absurd rfl (placed w f)
  | upload u => exact absurd rfl (stored u)
  | write p content =>
    simp only [Engine.serve]
    cases wrote : e.disk.write p content with
    | ok disk =>
      rw [FileSystem.file?_write wrote]
      exact .wrote p content _
    | error f =>
      have spoiled := Turns.spoiled p content f (e.disk.file? p) e.disk.file?
      rwa [Function.update_eq_self] at spoiled
  | discard p =>
    simp only [Engine.serve, Workspace.file?_discard]
    exact .discarded p _

namespace History

variable {xs ys : Transcript} {before after : Files}

theorem append_iff :
    History (xs ++ ys) before after ↔ ∃ between, History xs before between ∧ History ys between after := by
  induction xs generalizing before with
  | nil =>
    constructor
    · exact fun h => ⟨before, .nil before, h⟩
    · rintro ⟨_, ⟨⟩, h⟩
      exact h
  | cons x xs ih =>
    constructor
    · rintro ⟨⟩
      rename_i turns rest
      obtain ⟨between, first, last⟩ := ih.mp rest
      exact ⟨between, .cons turns first, last⟩
    · rintro ⟨between, ⟨⟩, last⟩
      rename_i turns rest
      exact .cons turns (ih.mpr ⟨between, rest, last⟩)

/-- A file that no exchange is about stays as it is. -/
theorem eq_of_not_touched (h : History xs before after) {p : Place} (apart : p ∉ touched xs) :
    after p = before p := by
  induction h with
  | nil => rfl
  | cons turns rest ih =>
    simp only [seen_cons, List.mem_append, Option.mem_toList, not_or] at apart
    rw [ih apart.2, turns.eq_of_not_touched apart.1]

end History

/-! ## Transcripts that leave nothing -/

/-- Whatever the exchanges do to the files: nothing is left at a place that is written to, and everything else is as
before. -/
def Swept (xs : Transcript) : Prop :=
  ∀ before after, History xs before after → (∀ p ∈ written xs, after p = none) ∧ ∀ p ∉ written xs, after p = before p

/-- No file is touched, or a single one, which is written once and discarded at last. -/
inductive Cleared : Transcript → Prop where
  | untouched {xs : Transcript} (h : touched xs = []) : Cleared xs
  | discarded {xs ys : Transcript} {p : Place} (made : written xs = [p]) (only : touched xs ⊆ [p])
      (rest : touched ys = []) : Cleared (xs ++ ⟨.discard p, ()⟩ :: ys)

theorem written_subset_touched (xs : Transcript) : written xs ⊆ touched xs := by
  intro p h
  obtain ⟨x, hx, hp⟩ := List.mem_filterMap.mp h
  refine List.mem_filterMap.mpr ⟨x, hx, ?_⟩
  obtain ⟨q, a⟩ := x
  cases q <;> simp_all

theorem written_eq_nil {xs : Transcript} (h : touched xs = []) : written xs = [] :=
  List.subset_nil.mp (h ▸ written_subset_touched xs)

/-- What is discarded at last is gone, and all else is as it was. -/
theorem Cleared.swept {xs : Transcript} (h : Cleared xs) : Swept xs := by
  intro before after history
  cases h with
  | untouched h =>
    rw [written_eq_nil h]
    exact ⟨fun p hp => absurd hp List.not_mem_nil, fun p _ => history.eq_of_not_touched (h ▸ List.not_mem_nil)⟩
  | @discarded xs ys p made only rest =>
    have all_written : written (xs ++ ⟨.discard p, ()⟩ :: ys) = [p] := by
      simp [made, written_eq_nil rest]
    rw [all_written]
    obtain ⟨between, first, last⟩ := History.append_iff.mp history
    obtain _ | ⟨turns, last⟩ := last
    have gone : ∀ q, after q = Function.update between p none q := fun q => by
      rw [last.eq_of_not_touched (rest ▸ List.not_mem_nil), turns.discard]
    refine ⟨fun q hq => ?_, fun q hq => ?_⟩
    · rw [gone, List.mem_singleton.mp hq, Function.update_self]
    · rw [gone, Function.update_of_ne fun h => hq (List.mem_singleton.mpr h)]
      exact first.eq_of_not_touched fun h => hq (only h)

namespace Cleared

variable {xs ys : Transcript}

theorem append (h : Cleared xs) (rest : touched ys = []) : Cleared (xs ++ ys) := by
  cases h with
  | untouched h => exact .untouched (by simp [h, rest])
  | discarded made only none_after =>
    rw [List.append_assoc, List.cons_append]
    exact .discarded made only (by simp [none_after, rest])

theorem after (h : touched xs = []) (rest : Cleared ys) : Cleared (xs ++ ys) := by
  cases rest with
  | untouched rest => exact .untouched (by simp [h, rest])
  | discarded made only none_after =>
    rw [← List.append_assoc]
    exact .discarded (by simp [written_eq_nil h, made]) (by simpa [h] using only) none_after

end Cleared

/-! ## What each stage does to the files -/

section

variable {k : Packing} {s : Settings} {order : Order} {o : Options} {number : String} {d : Draft} {f : OutputFormat}
  {xs : Transcript}

/-- Where no artifact comes of it, a file that is half written is gone. -/
theorem Makes.cleared {e : Failure} (h : Makes k d f xs (.error e)) : Cleared xs := by
  cases h with
  | uncomposed composed =>
    exact .untouched (always_inquiring k d f _ _ composed).views.2.2.2.2.2
  | unplaced composed =>
    exact .untouched (by simp [(always_inquiring k d f _ _ composed).views])
  | @unwritten xs content composed p e =>
    have views := (always_inquiring k d f _ _ composed).views
    have split : xs ++ [⟨.allocate (wish d) f, .ok p⟩, ⟨.write p content, .error e⟩, ⟨.discard p, ()⟩] =
        (xs ++ [⟨.allocate (wish d) f, .ok p⟩, ⟨.write p content, .error e⟩]) ++ ⟨.discard p, ()⟩ :: [] := by
      rw [List.append_assoc]
      rfl
    rw [split]
    exact .discarded (by simp [views]) (by simp [views]) seen_nil

theorem Makes.written_eq {p : Place} (h : Makes k d f xs (.ok p)) : written xs = [p] ∧ touched xs = [p] := by
  cases h with
  | made composed => simp [(always_inquiring k d f _ _ composed).views]

/-- An artifact is the only file that is touched as long as there is work. -/
theorem Works.cleared {place : Option Place} {r : Except Failure Descriptor}
    (h : Works k s order o number xs (place, r)) :
    match place with
    | none => Cleared xs
    | some p => written xs = [p] ∧ touched xs = [p] := by
  cases h with
  | unprepared prepares => exact .untouched prepares.views.2
  | unmade prepares makes => exact .after prepares.views.2 makes.cleared
  | made prepares makes delivers =>
    have h₁ := prepares.views.2
    have h₃ := delivers.views.2
    simp [h₁, h₃, written_eq_nil h₁, written_eq_nil h₃, makes.written_eq]

theorem Conducts.cleared {r : Except Failure Descriptor} (h : Conducts k s order xs r) : Cleared xs := by
  cases h with
  | rejected chosen concludes =>
    cases concludes with
    | failed => exact .untouched (by simp [clearance])
  | @conducted o r a number place xs ys result chosen numbered works concludes =>
    have start : touched [⟨.clock, r⟩, ⟨.announce number order.templateId (.started (formatOf s o)), a⟩] = [] := by
      simp
    refine .after start ?_
    cases place with
    | none => cases concludes <;> exact works.cleared.append (by simp [clearance])
    | some p =>
      obtain ⟨made, only⟩ := works.cleared
      cases concludes with
      | failed e a =>
        have ended : Cleared
            ((xs ++ [⟨.announce number order.templateId (.failed e), a⟩]) ++ ⟨.discard p, ()⟩ :: []) :=
          .discarded (by simp [made]) (by simp [only]) seen_nil
        simpa [clearance] using ended
      | completed document a => exact .discarded made (only ▸ List.Subset.refl _) (by simp)

end

/-! ## What is handed over -/

/-- At most one artifact is handed over, exactly one where a document comes of it, and none where anything but the
storing fails. -/
structure HandsOverOnce {α : Type} (r : Except Failure α) (us : List Upload) : Prop where
  at_most : us.length ≤ 1
  of_ok : ∀ a, r = .ok a → us.length = 1
  of_error : ∀ e, r = .error e → e.kind ≠ .persistence → us = []

theorem HandsOverOnce.none_of_error {α : Type} (e : Failure) : HandsOverOnce (.error e : Except Failure α) [] := by
  refine ⟨Nat.zero_le 1, ?_, fun _ _ _ => rfl⟩
  rintro a ⟨⟩

section

variable {k : Packing} {s : Settings} {order : Order} {o : Options} {number : String} {xs : Transcript}
  {r : Except Failure Descriptor}

theorem Hands.hands_over_once {place : Place} {d : Draft} {f : OutputFormat} (h : Hands s place d f xs r) :
    HandsOverOnce r (uploads xs) := by
  cases h with
  | unread e => exact .none_of_error _
  | handed content reading answer accepted =>
    refine ⟨Nat.le_refl 1, fun _ _ => rfl, fun e failed other => ?_⟩
    exact absurd (Delivery.kind_of_accept (accepted.trans failed)) other

theorem Delivers.hands_over_once {place : Place} {d : Draft} {f : OutputFormat}
    (h : Delivers s order number place d f xs r) : HandsOverOnce r (uploads xs) := by
  cases h with
  | undelivered a hands => simpa using hands.hands_over_once
  | delivered a₁ a₂ hands => simpa using hands.hands_over_once

theorem Works.hands_over_once {place : Option Place} (h : Works k s order o number xs (place, r)) :
    HandsOverOnce r (uploads xs) := by
  cases h with
  | unprepared prepares =>
    rw [prepares.views.1]
    exact .none_of_error _
  | unmade prepares makes =>
    simpa [prepares.views, makes.views] using HandsOverOnce.none_of_error _
  | made prepares makes delivers =>
    simpa [prepares.views, makes.views] using delivers.hands_over_once

theorem Conducts.hands_over_once (h : Conducts k s order xs r) : HandsOverOnce r (uploads xs) := by
  cases h with
  | rejected chosen concludes =>
    rw [concludes.views.2.2]
    exact .none_of_error _
  | conducted reading a chosen numbered works concludes =>
    simpa [concludes.views] using works.hands_over_once

/-! ## A format that is not offered -/

/-- Nothing else is asked for once a template turns out not to offer the format. -/
theorem Prepares.of_unsupported {t : Template} {r : Except Failure (Draft × OutputFormat)}
    (h : Prepares s order o number xs r) (resolved : .ok t ∈ resolutions xs)
    (unsupported : t.supports (formatOf s o) = false) :
    xs.map (·.question) = [.resolve order.templateId, .clock] ∧
      r = .error (notOffered order.templateId t (formatOf s o)) := by
  cases h with
  | unresolved e => simp at resolved
  | unsupported u reading =>
    obtain rfl : t = u := by simpa using resolved
    exact ⟨rfl, rfl⟩
  | unenriched u _ _ _ offered | unrendered u _ _ _ offered | prepared u _ _ _ _ offered =>
    obtain rfl : t = u := by simpa using resolved
    cases unsupported.symm.trans offered

theorem Conducts.of_unsupported {t : Template} (h : Conducts k s order xs r)
    (chosen : order.choice.accept order.templateId = .ok o) (resolved : .ok t ∈ resolutions xs)
    (unsupported : t.supports (formatOf s o) = false) :
    (∃ number, xs.map (·.question) =
      [.clock, .announce number order.templateId (.started (formatOf s o)), .resolve order.templateId, .clock,
        .announce number order.templateId (.failed (notOffered order.templateId t (formatOf s o)))]) ∧
      r = .error (notOffered order.templateId t (formatOf s o)) := by
  cases h with
  | rejected refused => cases chosen.symm.trans refused
  | @conducted o' reading a number place xs ys result chosen' numbered works concludes =>
    obtain rfl : o = o' := Except.ok.inj (chosen.symm.trans chosen')
    obtain ⟨xs, zs, prepared, rfl, prepares, unresolved, ends⟩ := works.prepares
    have resolved : .ok t ∈ resolutions xs := by simpa [unresolved, concludes.views] using resolved
    obtain ⟨asked, rfl⟩ := prepares.of_unsupported resolved unsupported
    obtain ⟨rfl, rfl, rfl⟩ := ends _ rfl
    cases concludes with
    | failed e a => exact ⟨⟨number, by simp [asked, clearance]; rfl⟩, rfl⟩

end

/-! ## Every generation -/

/-- However the requests of a generation are answered: nothing that it writes is left, it hands over at most one
artifact, and a format that the template does not offer is refused before anything is rendered, written or handed
over. -/
theorem course_leaves_nothing {k : Packing} {s : Settings} {order : Order} {xs : Transcript}
    {r : Except Failure Descriptor} (run : Run (course k s order) xs r) :
    Swept xs ∧ HandsOverOnce r (uploads xs) ∧
      ∀ o t, order.choice.accept order.templateId = .ok o → .ok t ∈ resolutions xs →
        t.supports (formatOf s o) = false →
          (∃ number, xs.map (·.question) =
            [.clock, .announce number order.templateId (.started (formatOf s o)), .resolve order.templateId, .clock,
              .announce number order.templateId (.failed (notOffered order.templateId t (formatOf s o)))]) ∧
          r = .error (notOffered order.templateId t (formatOf s o)) := by
  have conducts := always_conducts k s order xs r run
  refine ⟨conducts.cleared.swept, conducts.hands_over_once, ?_⟩
  intro o t chosen resolved unsupported
  exact conducts.of_unsupported chosen resolved unsupported

/-- A note is not printed. -/
theorem course_leaves_nothing_not_offered :
    ((Engine.small {} {}).generate (.still .note) ⟨"note", [], .checked { format := some .pdf }⟩).1 =
        .error (notOffered "note" .note .pdf) ∧
      Swept ((Engine.small {} {}).transcript (.still .note) ⟨"note", [], .checked { format := some .pdf }⟩) := by
  obtain ⟨swept, -, refused⟩ := course_leaves_nothing
    (Engine.run_generate (.still .note) (Engine.small {} {}) ⟨"note", [], .checked { format := some .pdf }⟩)
  have resolved : resolutions ((Engine.small {} {}).transcript (.still .note)
      ⟨"note", [], .checked { format := some .pdf }⟩) = [.ok .note] := by rfl
  exact ⟨(refused { format := some .pdf } .note rfl (by simp [resolved]) rfl).2, swept⟩

end Letterpress.Generation
