import Mathlib.Logic.Function.Basic
import Letterpress.Proofs.Press.Step

/-!
# Lines at the press

Prints stand in two lines, one for a slot and one for the look for the browser. Whoever gives up a slot or the look passes
it to the first in line.

* `Lines`: what the lines have to do with those who stand there, with a lemma for each way in which they change.
* `Orderly`: the lines of a press. `Orderly.step`: no event changes that they are in order.
-/

namespace Letterpress.Press

variable {β : Type}

/-! ## Lines -/

/-- Where a task stands. -/
inductive Spot where
  | line
  | lookLine
  | look
  | elsewhere
  deriving DecidableEq

/-- The lines say of tasks what tasks say of the lines. Nobody waits for what is free. -/
structure Lines (stands : Nat → Option Spot) (queue lookQueue : List Nat) (looker : Option Nat) (free : Nat) : Prop where
  queue_iff : ∀ t, t ∈ queue ↔ stands t = some .line
  queue_nodup : queue.Nodup
  lookQueue_iff : ∀ t, t ∈ lookQueue ↔ stands t = some .lookLine
  lookQueue_nodup : lookQueue.Nodup
  looker_iff : ∀ t, looker = some t ↔ stands t = some .look
  idle : looker = none → lookQueue = []
  full : queue ≠ [] → free = 0

namespace Lines

variable {stands : Nat → Option Spot} {queue lookQueue rest : List Nat} {looker : Option Nat} {free t u : Nat}

/-- The first in line has got a slot. -/
theorem moveUp (h : Lines stands (t :: rest) lookQueue looker free) :
    Lines (Function.update stands t (some .elsewhere)) rest lookQueue looker free := by
  have first := (h.queue_iff t).mp List.mem_cons_self
  obtain ⟨new, nodup⟩ := List.nodup_cons.mp h.queue_nodup
  refine ⟨fun u => ?_, nodup, fun u => ?_, h.lookQueue_nodup, fun u => ?_, h.idle, fun _ => h.full (List.cons_ne_nil _ _)⟩ <;>
    rw [Function.update_apply]
  · grind [h.queue_iff u]
  · grind [h.lookQueue_iff u]
  · grind [h.looker_iff u]

/-- The look is given up, and nobody waits for it. -/
theorem lookAway (h : Lines stands queue [] (some t) free) :
    Lines (Function.update stands t (some .elsewhere)) queue [] none free := by
  have look := (h.looker_iff t).mp rfl
  refine ⟨fun u => ?_, h.queue_nodup, fun u => ?_, List.nodup_nil, fun u => ?_, fun _ => rfl, h.full⟩ <;>
    rw [Function.update_apply]
  · grind [h.queue_iff u]
  · grind [h.lookQueue_iff u]
  · grind [h.looker_iff u]

/-- The look passes to the first who waits for it. -/
theorem passOn (h : Lines stands queue (u :: rest) (some t) free) :
    Lines (Function.update (Function.update stands u (some .look)) t (some .elsewhere)) queue rest (some u) free := by
  have look := (h.looker_iff t).mp rfl
  have first := (h.lookQueue_iff u).mp List.mem_cons_self
  obtain ⟨new, nodup⟩ := List.nodup_cons.mp h.lookQueue_nodup
  refine ⟨fun v => ?_, h.queue_nodup, fun v => ?_, nodup, fun v => ?_, nofun, h.full⟩ <;>
    rw [Function.update_apply, Function.update_apply]
  · grind [h.queue_iff v]
  · grind [h.lookQueue_iff v]
  · grind [h.looker_iff v]

theorem queueUp (h : Lines stands queue lookQueue looker 0) (new : stands t = none) :
    Lines (Function.update stands t (some .line)) (queue ++ [t]) lookQueue looker 0 := by
  refine ⟨fun u => ?_, ?_, fun u => ?_, h.lookQueue_nodup, fun u => ?_, h.idle, fun _ => rfl⟩
  · rw [Function.update_apply]
    grind [h.queue_iff u]
  · grind [h.queue_nodup, h.queue_iff t]
  · rw [Function.update_apply]
    grind [h.lookQueue_iff u]
  · rw [Function.update_apply]
    grind [h.looker_iff u]

/-- A task comes without a place in line. -/
theorem come (h : Lines stands queue lookQueue looker free) (new : stands t = none) {free' : Nat} (fewer : free' ≤ free) :
    Lines (Function.update stands t (some .elsewhere)) queue lookQueue looker free' := by
  refine ⟨fun u => ?_, h.queue_nodup, fun u => ?_, h.lookQueue_nodup, fun u => ?_, h.idle, fun some_ => ?_⟩
  · rw [Function.update_apply]
    grind [h.queue_iff u]
  · rw [Function.update_apply]
    grind [h.lookQueue_iff u]
  · rw [Function.update_apply]
    grind [h.looker_iff u]
  · have none_ := h.full some_
    omega

theorem lookUp (h : Lines stands queue lookQueue (some u) free) (here : stands t = some .elsewhere) :
    Lines (Function.update stands t (some .lookLine)) queue (lookQueue ++ [t]) (some u) free := by
  refine ⟨fun v => ?_, h.queue_nodup, fun v => ?_, ?_, fun v => ?_, nofun, h.full⟩
  · rw [Function.update_apply]
    grind [h.queue_iff v]
  · rw [Function.update_apply]
    grind [h.lookQueue_iff v]
  · grind [h.lookQueue_nodup, h.lookQueue_iff t]
  · rw [Function.update_apply]
    grind [h.looker_iff v]

theorem look (h : Lines stands queue lookQueue none free) (here : stands t = some .elsewhere) :
    Lines (Function.update stands t (some .look)) queue lookQueue (some t) free := by
  refine ⟨fun v => ?_, h.queue_nodup, fun v => ?_, h.lookQueue_nodup, fun v => ?_, nofun, h.full⟩ <;>
    rw [Function.update_apply]
  · grind [h.queue_iff v]
  · grind [h.lookQueue_iff v]
  · grind [h.looker_iff v]

end Lines

/-! ## The lines of a press -/

namespace Phase

def spot : Phase β → Spot
  | queued => .line
  | waiting => .lookLine
  | looking | starting | launching => .look
  | admitted | opening _ | paging _ | filling _ | printing _ | closing _ _ | ended _ | shutting _ | stopping | shut _ =>
    .elsewhere

theorem eq_queued {p : Phase β} (stands : p.spot = .line) : p = .queued := by
  cases p <;> first | rfl | cases stands

theorem eq_waiting {p : Phase β} (stands : p.spot = .lookLine) : p = .waiting := by
  cases p <;> first | rfl | cases stands

end Phase

variable {s s' : State β} {e : Event β} {t u n : Nat} {p q : Phase β}

namespace State

def spot? (s : State β) (t : Nat) : Option Spot := (s.phase? t).map Phase.spot

theorem spot?_of_phase? (there : s.phase? t = some p) : s.spot? t = some p.spot := by
  rw [spot?, there, Option.map_some]

theorem spot?_setPhase (there : s.phase? t = some p) (q : Phase β) :
    (s.setPhase t q).spot? = Function.update s.spot? t (some q.spot) := by
  funext u
  rw [Function.update_apply, spot?, phase?_setPhase_of there]
  split <;> rfl

theorem spot?_add (unknown : s.phase? t = none) (q : Phase β) :
    (s.add t q).spot? = Function.update s.spot? t (some q.spot) := by
  funext u
  rw [Function.update_apply, spot?, phase?_add unknown]
  split <;> rfl

theorem ids_add (ids : s.ids.Nodup) (unknown : s.phase? t = none) (q : Phase β) : (s.add t q).ids.Nodup := by
  simp only [State.ids, add, List.map_append, List.map_singleton]
  refine List.nodup_append.mpr ⟨ids, List.pairwise_singleton _ _, fun u member v same => ?_⟩
  rw [List.mem_singleton.mp same]
  rintro rfl
  obtain ⟨x, found, rfl⟩ := List.mem_map.mp member
  cases unknown.symm.trans (lookup_of_mem ids (p := x.2) found)

end State

theorem State.spot_stop (s : State β) : s.stop.spot = .elsewhere := by
  unfold State.stop
  split <;> rfl

/-- Every task is there once, and the lines are in order. -/
structure Orderly (s : State β) : Prop where
  ids : s.ids.Nodup
  lines : Lines s.spot? s.queue s.lookQueue s.looker s.free

namespace Orderly

theorem ofSize (n : Nat) : Orderly (State.ofSize n : State β) := by
  refine ⟨List.nodup_nil, ?_⟩
  constructor <;> simp [State.ofSize, State.spot?, State.phase?]

/-- Only tasks, lines and free slots matter. -/
theorem congr (h : Orderly s) (hasEngine : Bool) (browser : Option Nat) (connected contexts : List Nat) (launched opened : Nat) :
    Orderly { s with hasEngine, browser, connected, contexts, launched, opened } := ⟨h.ids, h.lines⟩

theorem queued_of_head? (h : Orderly s) (first : s.queue.head? = some t) : s.phase? t = some .queued := by
  obtain ⟨p, there, stands⟩ := Option.map_eq_some_iff.mp ((h.lines.queue_iff t).mp (List.mem_of_head? first))
  rw [there, Phase.eq_queued stands]

theorem waiting_of_head? (h : Orderly s) (first : s.lookQueue.head? = some t) : s.phase? t = some .waiting := by
  obtain ⟨p, there, stands⟩ := Option.map_eq_some_iff.mp ((h.lines.lookQueue_iff t).mp (List.mem_of_head? first))
  rw [there, Phase.eq_waiting stands]

/-- A task goes on where it stands. -/
theorem setPhase (h : Orderly s) (there : s.phase? t = some p) (same : q.spot = p.spot) : Orderly (s.setPhase t q) := by
  refine ⟨by rw [State.ids_setPhase]; exact h.ids, ?_⟩
  rw [State.spot?_setPhase there, same, ← State.spot?_of_phase? there, Function.update_eq_self]
  exact h.lines

theorem leave (h : Orderly s) : Orderly s.leave := by
  refine ⟨by rw [State.ids_leave]; exact h.ids, ?_⟩
  cases waits : s.queue with
  | nil =>
    rw [State.leave_of_nil waits]
    exact { h.lines with full := fun some_ => absurd waits some_ }
  | cons v rest =>
    have first := h.queued_of_head? (t := v) (by rw [waits, List.head?_cons])
    have lines := h.lines
    rw [waits] at lines
    rw [State.leave_of_cons waits, State.spot?_setPhase (s := { s with queue := rest }) first]
    exact lines.moveUp

/-- A task that has the look gives it up. -/
theorem lookAway (h : Orderly s) (there : s.phase? t = some p) (looks : p.spot = .look) (gone : q.spot = .elsewhere) :
    Orderly (s.lookAway.setPhase t q) := by
  refine ⟨by rw [State.ids_setPhase, State.ids_lookAway]; exact h.ids, ?_⟩
  have look := State.spot?_of_phase? there
  have lines := h.lines
  rw [(h.lines.looker_iff t).mpr (looks ▸ look)] at lines
  cases waits : s.lookQueue with
  | nil =>
    rw [waits] at lines
    rw [State.lookAway_of_nil waits, State.spot?_setPhase (s := { s with looker := none }) there, gone]
    change Lines _ s.queue s.lookQueue none s.free
    rw [waits]
    exact lines.lookAway
  | cons v rest =>
    have first := h.waiting_of_head? (t := v) (by rw [waits, List.head?_cons])
    have apart : t ≠ v := by
      rintro rfl
      cases first.symm.trans there
      cases looks
    let passed : State β := { s with looker := some v, lookQueue := rest }
    have still : (passed.setPhase v .looking).phase? t = some p := by
      rw [State.phase?_setPhase_of (s := passed) first, if_neg apart]
      exact there
    rw [waits] at lines
    rw [State.lookAway_of_cons waits, State.spot?_setPhase still, State.spot?_setPhase (s := passed) first, gone]
    exact lines.passOn

theorem finish (h : Orderly s) (there : s.phase? t = some p) (stands : p.spot = .elsewhere) (r : Except Fault β) :
    Orderly (s.finish t r) := (h.setPhase there (q := .ended r) stands.symm).leave

theorem spot?_eq_none (unknown : s.phase? t = none) : s.spot? t = none := by rw [State.spot?, unknown, Option.map_none]

theorem step (h : Orderly s) (go : step s e = some s') : Orderly s' := by
  cases moves_of_step go with
  | @queues t unknown full =>
    refine ⟨State.ids_add (s := { s with queue := s.queue ++ [t] }) h.ids unknown _, ?_⟩
    rw [State.spot?_add (s := { s with queue := s.queue ++ [t] }) unknown]
    change Lines _ (s.queue ++ [t]) s.lookQueue s.looker s.free
    have lines := h.lines
    rw [full] at lines ⊢
    exact lines.queueUp (spot?_eq_none unknown)
  | @enters t unknown room =>
    refine ⟨State.ids_add (s := { s with free := s.free - 1 }) h.ids unknown _, ?_⟩
    rw [State.spot?_add (s := { s with free := s.free - 1 }) unknown]
    exact h.lines.come (spot?_eq_none unknown) (Nat.sub_le ..)
  | closes unknown there =>
    refine ⟨State.ids_add h.ids unknown _, ?_⟩
    rw [State.spot?_add unknown]
    exact h.lines.come (spot?_eq_none unknown) (Nat.le_refl _)
  | closesNothing unknown nothing =>
    refine ⟨State.ids_add h.ids unknown _, ?_⟩
    rw [State.spot?_add unknown, s.spot_stop]
    exact h.lines.come (spot?_eq_none unknown) (Nat.le_refl _)
  | @waits t u there taken =>
    refine ⟨by rw [State.ids_setPhase]; exact h.ids, ?_⟩
    have lines := h.lines
    rw [taken] at lines
    rw [State.spot?_setPhase (s := { s with lookQueue := s.lookQueue ++ [t] }) there]
    change Lines _ s.queue (s.lookQueue ++ [t]) s.looker s.free
    rw [taken]
    exact lines.lookUp (State.spot?_of_phase? there)
  | @looks t there idle =>
    refine ⟨by rw [State.ids_setPhase]; exact h.ids, ?_⟩
    have lines := h.lines
    rw [idle] at lines
    rw [State.spot?_setPhase (s := { s with looker := some t }) there]
    exact lines.look (State.spot?_of_phase? there)
  | finds there usable => exact h.lookAway there rfl rfl
  | misses there unusable next => exact h.setPhase there (by obtain rfl | rfl := next <;> rfl)
  | started there => exact (h.congr true s.browser s.connected s.contexts s.launched s.opened).setPhase there rfl
  | launched there => exact (h.congr ..).lookAway there rfl rfl
  | @givesUp t p f there kind =>
    have looks : p.spot = .look := by obtain rfl | rfl := kind <;> rfl
    exact (h.lookAway there looks (q := .ended (.error f)) rfl).leave
  | opened there => exact (h.congr ..).setPhase there rfl
  | unopened there => exact h.finish there rfl _
  | uses there kind => exact h.setPhase there (by obtain ⟨rfl, rfl⟩ | ⟨rfl, rfl⟩ := kind <;> rfl)
  | leaves there kind => exact h.setPhase there (by obtain rfl | rfl | rfl := kind <;> rfl)
  | @closed t c r x y there =>
    exact (h.congr s.hasEngine s.browser s.connected (s.contexts.filter (· != c)) s.launched s.opened).finish there rfl _
  | shut there => exact (h.congr ..).setPhase there s.spot_stop
  | unshut there kind => exact h.setPhase there (by obtain ⟨b, rfl⟩ | rfl := kind <;> rfl)
  | stopped there => exact (h.congr ..).setPhase there rfl
  | disconnects b => exact h.congr ..

theorem after (h : Orderly s) {es : List (Event β)} (run : Press.after s es = some s') : Orderly s' :=
  after_induction (P := fun _ u => Orderly u) h (fun _ _ _ _ _ before go => before.step go) run

end Orderly

end Letterpress.Press
