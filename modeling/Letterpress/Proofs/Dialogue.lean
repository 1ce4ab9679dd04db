import Mathlib.Data.List.Forall2
import Letterpress.Dialogue

/-!
# Runs of dialogues

What a dialogue may come to, whatever it is answered, taken apart along its making: a run of one computation
followed by another is a run of the first followed by a run of the second.

* `Dialogue.Run.bind_iff`: the runs of a computation followed by another.
* `Dialogue.Always`: what holds of every run, with a rule for each way to make a dialogue.
* `Dialogue.Run.of_run`: what surroundings with a state lead to is a run, and `transcript` says which.
* `Dialogue.run_map`: surroundings that are seen inside larger ones lead to the same.
* `Dialogue.Ignores`: what answers a dialogue does not care for, and `Ignores.run`: two surroundings that differ in
  those only lead to the same.
-/

namespace Letterpress.Dialogue

variable {Question : Type} {Answer : Question → Type} {α β σ : Type}

namespace Run

theorem done_iff {a b : α} {xs : List (Exchange Question Answer)} :
    Run (.done a : Dialogue Question Answer α) xs b ↔ xs = [] ∧ b = a := by
  constructor
  · rintro ⟨⟩
    exact ⟨rfl, rfl⟩
  · rintro ⟨rfl, rfl⟩
    exact .done _

theorem ask_iff {q : Question} {next : Answer q → Dialogue Question Answer α}
    {xs : List (Exchange Question Answer)} {a : α} :
    Run (.ask q next) xs a ↔ ∃ x ys, xs = ⟨q, x⟩ :: ys ∧ Run (next x) ys a := by
  constructor
  · rintro ⟨⟩
    exact ⟨_, _, rfl, ‹_›⟩
  · rintro ⟨x, ys, rfl, rest⟩
    exact .ask x rest

/-- A run of one computation followed by another: the exchanges of the first, then those of the second. -/
theorem bind_iff {d : Dialogue Question Answer α} {f : α → Dialogue Question Answer β}
    {xs : List (Exchange Question Answer)} {b : β} :
    Run (d >>= f) xs b ↔ ∃ ys zs a, xs = ys ++ zs ∧ Run d ys a ∧ Run (f a) zs b := by
  change Run (bind d f) xs b ↔ _
  induction d generalizing xs with
  | done a =>
    simp only [bind, done_iff]
    constructor
    · intro h
      exact ⟨[], xs, a, rfl, ⟨rfl, rfl⟩, h⟩
    · rintro ⟨_, zs, _, rfl, ⟨rfl, rfl⟩, h⟩
      exact h
  | ask q next ih =>
    simp only [bind, ask_iff, ih]
    constructor
    · rintro ⟨x, _, rfl, ys, zs, a, rfl, h₁, h₂⟩
      exact ⟨⟨q, x⟩ :: ys, zs, a, rfl, ⟨x, ys, rfl, h₁⟩, h₂⟩
    · rintro ⟨_, zs, a, rfl, ⟨x, ys, rfl, h₁⟩, h₂⟩
      exact ⟨x, ys ++ zs, rfl, ys, zs, a, rfl, h₁, h₂⟩

end Run

/-! ## What holds of every run -/

/-- Every run of a dialogue has exchanges and a result of which `P` holds. -/
def Always (d : Dialogue Question Answer α) (P : List (Exchange Question Answer) → α → Prop) : Prop :=
  ∀ xs a, Run d xs a → P xs a

namespace Always

variable {P : List (Exchange Question Answer) → β → Prop}

theorem pure {b : β} (h : P [] b) : Always (pure b : Dialogue Question Answer β) P := by
  intro xs c run
  obtain ⟨rfl, rfl⟩ := Run.done_iff.mp run
  exact h

theorem bind {d : Dialogue Question Answer α} {f : α → Dialogue Question Answer β}
    {Q : List (Exchange Question Answer) → α → Prop} (first : Always d Q)
    (rest : ∀ xs a, Q xs a → Always (f a) fun ys b => P (xs ++ ys) b) : Always (d >>= f) P := by
  intro xs b run
  obtain ⟨ys, zs, a, rfl, h₁, h₂⟩ := Run.bind_iff.mp run
  exact rest ys a (first ys a h₁) zs b h₂

theorem put_bind {q : Question} {f : Answer q → Dialogue Question Answer β}
    (rest : ∀ x, Always (f x) fun ys b => P (⟨q, x⟩ :: ys) b) : Always (put q >>= f) P := by
  intro xs b run
  obtain ⟨x, ys, rfl, h⟩ := Run.ask_iff.mp (show Run (.ask q f) xs b from run)
  exact rest x ys b h

end Always

/-! ## Surroundings with a state -/

/-- The exchanges with surroundings that answer out of a state. -/
def transcript (serve : (q : Question) → σ → Answer q × σ) :
    Dialogue Question Answer α → σ → List (Exchange Question Answer)
  | done _, _ => []
  | ask q next, s => ⟨q, (serve q s).1⟩ :: transcript serve (next (serve q s).1) (serve q s).2

/-- What surroundings with a state lead to is among what a dialogue may come to. -/
theorem Run.of_run (serve : (q : Question) → σ → Answer q × σ) (d : Dialogue Question Answer α) (s : σ) :
    Run d (d.transcript serve s) (d.run serve s).1 := by
  induction d generalizing s with
  | done a => exact .done a
  | ask q next ih => exact .ask _ (ih _ _)

variable {τ : Type}

/-- Surroundings that are seen inside larger ones, which answer every question as they do. -/
theorem run_map {serve : (q : Question) → σ → Answer q × σ} {serve' : (q : Question) → τ → Answer q × τ} {f : σ → τ}
    (same : ∀ q s, serve' q (f s) = ((serve q s).1, f (serve q s).2)) (d : Dialogue Question Answer α) (s : σ) :
    d.run serve' (f s) = ((d.run serve s).1, f (d.run serve s).2) := by
  induction d generalizing s with
  | done a => rfl
  | ask q next ih =>
    rw [run, same]
    exact ih _ _

/-! ## What a dialogue does not care for -/

/-- A dialogue goes on in the same way whatever is answered to a question of a kind. -/
def Ignores (kind : Question → Prop) : Dialogue Question Answer α → Prop
  | done _ => True
  | ask q next => (kind q → ∀ x y, next x = next y) ∧ ∀ x, Ignores kind (next x)

namespace Ignores

variable {kind : Question → Prop}

theorem pure {a : α} : Ignores kind (pure a : Dialogue Question Answer α) := trivial

theorem bind {d : Dialogue Question Answer α} {f : α → Dialogue Question Answer β} (first : Ignores kind d)
    (rest : ∀ a, Ignores kind (f a)) : Ignores kind (d >>= f) := by
  change Ignores kind (Dialogue.bind d f)
  induction d with
  | done a => exact rest a
  | ask q next ih =>
    refine ⟨fun ignored x y => ?_, fun x => ih x (first.2 x)⟩
    exact congrArg (Dialogue.bind · f) (first.1 ignored x y)

theorem put {q : Question} (other : ¬kind q) : Ignores kind (put q : Dialogue Question Answer (Answer q)) :=
  ⟨fun ignored => absurd ignored other, fun _ => trivial⟩

end Ignores

/-- Two exchanges that are the same, but for the answer to a question of a kind. -/
inductive Exchange.Alike (kind : Question → Prop) : Exchange Question Answer → Exchange Question Answer → Prop where
  | refl (x : Exchange Question Answer) : Alike kind x x
  | ignored {q : Question} (ignored : kind q) (x y : Answer q) : Alike kind ⟨q, x⟩ ⟨q, y⟩

/-- Two surroundings whose states stay related, whatever they are asked, and that answer all questions alike but those
which a dialogue does not care for. They lead it to the same, by the same questions. -/
theorem Ignores.run {kind : Question → Prop} {serve : (q : Question) → σ → Answer q × σ}
    {serve' : (q : Question) → τ → Answer q × τ} {R : σ → τ → Prop}
    (kept : ∀ q s t, R s t → R (serve q s).2 (serve' q t).2)
    (same : ∀ q s t, R s t → ¬kind q → (serve q s).1 = (serve' q t).1) {d : Dialogue Question Answer α}
    (h : Ignores kind d) {s : σ} {t : τ} (related : R s t) :
    (d.run serve s).1 = (d.run serve' t).1 ∧ R (d.run serve s).2 (d.run serve' t).2 ∧
      List.Forall₂ (Exchange.Alike kind) (d.transcript serve s) (d.transcript serve' t) := by
  induction d generalizing s t with
  | done a => exact ⟨rfl, related, .nil⟩
  | ask q next ih =>
    have further := kept q s t related
    by_cases ignored : kind q
    · have rest := ih (serve q s).1 (h.2 _) further
      have continues : next (serve q s).1 = next (serve' q t).1 := h.1 ignored _ _
      simp only [Dialogue.run, transcript]
      rw [continues] at rest ⊢
      exact ⟨rest.1, rest.2.1, .cons (.ignored ignored _ _) rest.2.2⟩
    · have rest := ih (serve q s).1 (h.2 _) further
      simp only [Dialogue.run, transcript]
      rw [same q s t related ignored] at rest ⊢
      exact ⟨rest.1, rest.2.1, .cons (.refl _) rest.2.2⟩

end Letterpress.Dialogue
