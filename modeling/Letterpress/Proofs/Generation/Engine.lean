import Letterpress.Engine
import Letterpress.Proofs.Generation.Transcript

/-!
# Generations of an engine

An engine is one of the surroundings that a generation can have, so what holds of every run holds of its generations.

* `Engine.run_generate`: a generation of an engine is a run, with the exchanges that `Engine.transcript` lists.
-/

namespace Letterpress

open Generation Dialogue

namespace Engine

variable {ω : Type}

/-- The exchanges of a generation. -/
def transcript (o : Outside ω) (e : Engine ω) (order : Order) : Transcript :=
  (course e.packing e.settings order).transcript (serve o) e

theorem run_generate (o : Outside ω) (e : Engine ω) (order : Order) :
    Run (course e.packing e.settings order) (e.transcript o order) (e.generate o order).1 :=
  Run.of_run _ _ _

end Engine

/-! ## A small engine -/

/-- A template that is offered as Markdown only. -/
def Template.note : Template :=
  { id := "note", name := "note", displayName := "note", content := .text "", dialect := .markup
    formats := [.markdown] }

/-- Surroundings in which time stands still and nothing is printed or posted, with a single template. -/
def Outside.still (t : Template) : Outside Unit where
  clock _ := ⟨0, default, 7⟩
  mark n := (Literal.natText n).leftpad 32 '0'
  newName _ := "workspace"
  find _ id := .ok (if id = t.id then some ⟨t, .store 0⟩ else none)
  announce _ _ _ _ := (.ok (), ())
  print _ _ := (.error .notPrintable, ())
  post _ _ := (.error .badValue, ())

/-- An engine with a storage that takes everything. -/
def Engine.small (s : Settings) (disk : FileSystem) : Engine Unit :=
  .ofSettings s ⟨fun _ => [], fun _ => []⟩ true
    (some (.foreign fun u _ => (.ok ⟨.text u.filename, .text u.clientId, u.content.length, .text ""⟩, ())))
    (Binary64.ofInt 0) disk ()

end Letterpress
