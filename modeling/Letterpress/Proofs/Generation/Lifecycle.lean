import Letterpress.Proofs.Generation.Engine
import Letterpress.Proofs.Generation.Stages

/-!
# The order of announcements

A generation announces one stage after the other, in a fixed order and without leaving one out, and at last how it
ended. Nobody needs to hear it for that: an announcement that fails changes nothing.

* `Works.stages_of_ok`, `Works.stages_prefix`: what is announced while there is work.
* `course_lifecycle`: what is announced in all, and what that says of the result.
-/

namespace Letterpress

/-- The stages that a document goes through before it is completed. -/
def Stage.way : List Stage := [.started, .templateResolved, .contentRendered, .artifactGenerated, .documentStored]

namespace Generation

open Dialogue Transcript

/-! ## The stages -/

theorem stages_append (xs ys : Transcript) : stages (xs ++ ys) = stages xs ++ stages ys := by
  simp

section

variable {k : Packing} {s : Settings} {order : Order} {o : Options} {number : String} {place : Option Place}
  {xs : Transcript} {r : Except Failure Descriptor} {document : Descriptor} {e : Failure}

theorem Prepares.stages_prefix {r : Except Failure (Draft × OutputFormat)} (h : Prepares s order o number xs r) :
    stages xs <+: [.templateResolved, .contentRendered] := by
  cases h <;> simp [Progress.stage]

theorem Prepares.stages_of_ok {draft : Draft × OutputFormat} (h : Prepares s order o number xs (.ok draft)) :
    stages xs = [.templateResolved, .contentRendered] := by
  cases h
  simp [Progress.stage]

theorem Makes.stages_eq_nil {d : Draft} {f : OutputFormat} {r : Except Failure Place} (h : Makes k d f xs r) :
    stages xs = [] := by
  simp [h.views]

theorem Delivers.stages_of_ok {place : Place} {d : Draft} {f : OutputFormat}
    (h : Delivers s order number place d f xs (.ok document)) :
    stages xs = [.artifactGenerated, .documentStored] := by
  cases h with
  | delivered a₁ a₂ hands => simp [hands.views, Progress.stage]

theorem Delivers.stages_of_error {place : Place} {d : Draft} {f : OutputFormat}
    (h : Delivers s order number place d f xs (.error e)) : stages xs = [.artifactGenerated] := by
  cases h with
  | undelivered a hands => simp [hands.views, Progress.stage]

theorem Works.stages_of_ok (h : Works k s order o number xs (place, .ok document)) :
    stages xs = [.templateResolved, .contentRendered, .artifactGenerated, .documentStored] := by
  cases h with
  | made prepares makes delivers =>
    rw [stages_append, stages_append, prepares.stages_of_ok, makes.stages_eq_nil, delivers.stages_of_ok]
    rfl

/-- Work that fails is announced up to some stage, which is never the last. -/
theorem Works.stages_prefix (h : Works k s order o number xs (place, .error e)) :
    stages xs <+: [.templateResolved, .contentRendered, .artifactGenerated] := by
  cases h with
  | unprepared prepares => exact prepares.stages_prefix.trans (List.prefix_append _ [Stage.artifactGenerated])
  | unmade prepares makes =>
    rw [stages_append, prepares.stages_of_ok, makes.stages_eq_nil]
    exact List.prefix_append _ [Stage.artifactGenerated]
  | made prepares makes delivers =>
    rw [stages_append, stages_append, prepares.stages_of_ok, makes.stages_eq_nil, delivers.stages_of_error]
    exact List.prefix_rfl

theorem Concludes.stages_of_ok (h : Concludes order number place xs (.ok document)) : stages xs = [.completed] := by
  cases place <;> cases h <;> simp [clearance, Progress.stage]

theorem Concludes.stages_of_error (h : Concludes order number place xs (.error e)) : stages xs = [.failed] := by
  cases place <;> cases h <;> simp [clearance, Progress.stage]

end

/-! ## Every generation -/

/-- Stages that are announced in the order of things: some of the way, and how it ended. -/
structure Lifecycle {α : Type} (rejected : Prop) (r : Except Failure α) (before : List Stage) (last : Stage) :
    Prop where
  in_order : before <+: Stage.way
  terminal : last.isTerminal = true
  completed_iff : last = .completed ↔ ∃ a, r = .ok a
  failed_iff : last = .failed ↔ ∃ e, r = .error e
  of_ok : ∀ a, r = .ok a → before = Stage.way
  of_error : ∀ e, r = .error e → .documentStored ∉ before
  nothing_iff : before = [] ↔ rejected

/-- However the requests of a generation are answered, it announces the stages in their order, and then how it ended.
It comes to the last stage exactly if a document comes of it, and to none exactly if the options are rejected. -/
theorem course_lifecycle {k : Packing} {s : Settings} {order : Order} {xs : Transcript}
    {r : Except Failure Descriptor} (run : Run (course k s order) xs r) :
    ∃ before last, stages xs = before ++ [last] ∧
      Lifecycle (∃ e, order.choice.accept order.templateId = .error e) r before last := by
  cases always_conducts k s order xs r run with
  | rejected chosen concludes =>
    refine ⟨[], .failed, concludes.stages_of_error, ?_⟩
    exact ⟨by simp, rfl, by simp, by simp, by simp, by simp, by simp [chosen]⟩
  | @conducted o reading a number place xs ys result chosen numbered works concludes =>
    have started : stages (⟨.clock, reading⟩ :: ⟨.announce number order.templateId (.started (formatOf s o)), a⟩ ::
        (xs ++ ys)) = .started :: (stages xs ++ stages ys) := by
      simp [Progress.stage]
    rw [started]
    cases r with
    | ok document =>
      rw [works.stages_of_ok, concludes.stages_of_ok]
      refine ⟨Stage.way, .completed, rfl, ?_⟩
      exact ⟨List.prefix_rfl, rfl, by simp, by simp, by simp, by simp, by simp [chosen, Stage.way]⟩
    | error e =>
      rw [concludes.stages_of_error]
      refine ⟨.started :: stages xs, .failed, rfl, ?_⟩
      have some_of_way := works.stages_prefix
      refine ⟨?_, rfl, by simp, by simp, by simp, ?_, by simp [chosen]⟩
      · exact (List.prefix_cons_inj _).mpr (some_of_way.trans (List.prefix_append _ [Stage.documentStored]))
      · intro _ _ stored
        have := some_of_way.subset (List.mem_of_ne_of_mem (by decide) stored)
        simp at this

/-- A note that is written down goes all the way. -/
theorem course_lifecycle_note :
    stages ((Engine.small {} {}).transcript (.still .note) ⟨"note", [], .checked { format := some .markdown }⟩) =
        Stage.way ++ [.completed] ∧
      ∃ before last,
        stages ((Engine.small {} {}).transcript (.still .note) ⟨"note", [], .checked { format := some .markdown }⟩) =
            before ++ [last] ∧
          Lifecycle (∃ e, (Choice.checked { format := some .markdown }).accept "note" = .error e)
            ((Engine.small {} {}).generate (.still .note) ⟨"note", [], .checked { format := some .markdown }⟩).1
            before last :=
  ⟨by decide +kernel, course_lifecycle (Engine.run_generate _ _ _)⟩

end Generation

end Letterpress
