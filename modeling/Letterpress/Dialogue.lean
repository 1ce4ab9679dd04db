/-!
# Dialogues

A computation that puts questions to its surroundings and goes on with the answers. What the surroundings do is not
fixed here: a dialogue can be run against any answers, and its questions can be looked at one by one.

* `Dialogue.run`: the result against surroundings that have a state.
* `Dialogue.Run`: the result, and the questions with their answers, against any surroundings.
-/

namespace Letterpress

inductive Dialogue (Question : Type) (Answer : Question → Type) (α : Type) where
  | done (a : α)
  | ask (q : Question) (next : Answer q → Dialogue Question Answer α)

namespace Dialogue

variable {Question : Type} {Answer : Question → Type} {α β σ : Type}

def bind : Dialogue Question Answer α → (α → Dialogue Question Answer β) → Dialogue Question Answer β
  | done a, f => f a
  | ask q next, f => ask q fun x => bind (next x) f

instance : Monad (Dialogue Question Answer) where
  pure := done
  bind := bind

/-- A single question. -/
def put (q : Question) : Dialogue Question Answer (Answer q) := ask q done

/-- The result against surroundings that answer out of a state and may change it. -/
def run (serve : (q : Question) → σ → Answer q × σ) : Dialogue Question Answer α → σ → α × σ
  | done a, s => (a, s)
  | ask q next, s =>
    let (x, s) := serve q s
    run serve (next x) s

/-- A question with its answer. -/
structure Exchange (Question : Type) (Answer : Question → Type) where
  question : Question
  answer : Answer question

/-- What a dialogue may come to, whatever it is answered: the exchanges in their order, and the result. -/
inductive Run : Dialogue Question Answer α → List (Exchange Question Answer) → α → Prop where
  | done (a : α) : Run (.done a) [] a
  | ask {q : Question} {next : Answer q → Dialogue Question Answer α} {a : α} (x : Answer q)
      {exchanges : List (Exchange Question Answer)} (rest : Run (next x) exchanges a) :
      Run (.ask q next) (⟨q, x⟩ :: exchanges) a

theorem run_bind (serve : (q : Question) → σ → Answer q × σ) (d : Dialogue Question Answer α)
    (f : α → Dialogue Question Answer β) (s : σ) :
    run serve (bind d f) s = run serve (f (run serve d s).1) (run serve d s).2 := by
  induction d generalizing s with
  | done a => rfl
  | ask q next ih => exact ih _ _

end Dialogue

end Letterpress
