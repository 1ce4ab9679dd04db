import Mathlib.Data.List.Induction
import Mathlib.Algebra.Order.BigOperators.Group.List
import Mathlib.Algebra.Order.Ring.Nat
import Letterpress.Press
import Letterpress.Proofs.Lookup

/-!
# What an event changes at the press

A press as its tasks see it, and everything that a single event can do to it.

* `State.phase?_setPhase`, `State.phase?_leave`, `State.phase?_lookAway`: where the tasks are after a change.
* `State.weigh`: what the phases of all tasks come to together; `State.weigh_setPhase` for one of them that changes.
* `Moves`: the ways in which an event can go, with all that each of them changes.
* `after_induction`, `reachable_iff`: what holds behind every run holds of all states that events lead to.
-/

namespace Letterpress.Press

variable {β : Type}

/-! ## Phases -/

namespace Phase

/-- Whether a print has one of the slots. -/
def hasSlot : Phase β → Bool
  | admitted | waiting | looking | starting | launching | opening _ | paging _ | filling _ | printing _ | closing _ _ => true
  | queued | ended _ | shutting _ | stopping | shut _ => false

/-- The context that a print has opened and not closed yet. -/
def context? : Phase β → Option Nat
  | paging c | filling c | printing c | closing c _ => some c
  | queued | admitted | waiting | looking | starting | launching | opening _ | ended _ | shutting _ | stopping
  | shut _ => none

end Phase

namespace State

variable {s : State β} {t u : Nat} {p q : Phase β} {rest : List Nat}

/-! ## Where the tasks are -/

@[simp]
theorem phase?_setPhase (s : State β) (t : Nat) (p : Phase β) (u : Nat) :
    (s.setPhase t p).phase? u = if u = t then (s.phase? t).map fun _ => p else s.phase? u := by
  simpa [phase?, setPhase] using lookup_replaced u t p s.tasks

theorem phase?_setPhase_of (there : s.phase? t = some p) (q : Phase β) (u : Nat) :
    (s.setPhase t q).phase? u = if u = t then some q else s.phase? u := by
  rw [phase?_setPhase, there, Option.map_some]

theorem phase?_add (unknown : s.phase? t = none) (p : Phase β) (u : Nat) :
    (s.add t p).phase? u = if u = t then some p else s.phase? u := by
  simp only [phase?, add, List.lookup_append, lookup_cons_ite, List.lookup_nil]
  split
  · rename_i here
    rw [here, show s.tasks.lookup t = none from unknown, Option.none_or]
  · rw [Option.or_none]

theorem leave_of_nil (alone : s.queue = []) : s.leave = { s with free := s.free + 1 } := by
  simp only [leave, alone]

theorem leave_of_cons (waits : s.queue = t :: rest) : s.leave = { s with queue := rest }.setPhase t .admitted := by
  simp only [leave, waits]

theorem lookAway_of_nil (alone : s.lookQueue = []) : s.lookAway = { s with looker := none } := by
  simp only [lookAway, alone]

theorem lookAway_of_cons (waits : s.lookQueue = t :: rest) :
    s.lookAway = { s with looker := some t, lookQueue := rest }.setPhase t .looking := by
  simp only [lookAway, waits]

theorem phase?_leave (known : ∀ v, s.queue.head? = some v → (s.phase? v).isSome) (u : Nat) :
    s.leave.phase? u = if s.queue.head? = some u then some .admitted else s.phase? u := by
  cases waits : s.queue with
  | nil =>
    rw [leave_of_nil waits]
    rfl
  | cons t rest =>
    obtain ⟨p, there⟩ := Option.isSome_iff_exists.mp (known t (by rw [waits, List.head?_cons]))
    rw [leave_of_cons waits, phase?_setPhase_of (s := { s with queue := rest }) there, List.head?_cons]
    exact if_congr (by rw [Option.some_inj, eq_comm]) rfl rfl

theorem phase?_lookAway (known : ∀ v, s.lookQueue.head? = some v → (s.phase? v).isSome) (u : Nat) :
    s.lookAway.phase? u = if s.lookQueue.head? = some u then some .looking else s.phase? u := by
  cases waits : s.lookQueue with
  | nil =>
    rw [lookAway_of_nil waits]
    rfl
  | cons t rest =>
    obtain ⟨p, there⟩ := Option.isSome_iff_exists.mp (known t (by rw [waits, List.head?_cons]))
    rw [lookAway_of_cons waits, phase?_setPhase_of (s := { s with looker := some t, lookQueue := rest }) there,
      List.head?_cons]
    exact if_congr (by rw [Option.some_inj, eq_comm]) rfl rfl

/-! ## The tasks together -/

def ids (s : State β) : List Nat := s.tasks.map Prod.fst

theorem ids_setPhase (s : State β) (t : Nat) (p : Phase β) : (s.setPhase t p).ids = s.ids := by
  simp only [ids, setPhase, List.map_map]
  refine List.map_congr_left fun x _ => ?_
  simp only [Function.comp_apply]
  split <;> rfl

theorem ids_leave (s : State β) : s.leave.ids = s.ids := by
  cases waits : s.queue with
  | nil =>
    rw [leave_of_nil waits]
    rfl
  | cons t rest =>
    rw [leave_of_cons waits]
    exact ids_setPhase ..

theorem ids_lookAway (s : State β) : s.lookAway.ids = s.ids := by
  cases waits : s.lookQueue with
  | nil =>
    rw [lookAway_of_nil waits]
    rfl
  | cons t rest =>
    rw [lookAway_of_cons waits]
    exact ids_setPhase ..

/-- The sum of what the phases of all tasks count for. -/
def weigh (s : State β) (f : Phase β → Nat) : Nat := (s.tasks.map fun x => f x.2).sum

theorem weigh_add (s : State β) (t : Nat) (p : Phase β) (f : Phase β → Nat) : (s.add t p).weigh f = s.weigh f + f p := by
  simp [weigh, add]

/-- One task changes, and the others count for what they did. -/
theorem weigh_setPhase (ids : s.ids.Nodup) (there : s.phase? t = some p) (q : Phase β) (f : Phase β → Nat) :
    (s.setPhase t q).weigh f + f p = s.weigh f + f q := by
  suffices ∀ tasks : List (Nat × Phase β), (tasks.map Prod.fst).Nodup → tasks.lookup t = some p →
      ((tasks.map fun x => if x.1 = t then (x.1, q) else (x.1, x.2)).map fun x => f x.2).sum + f p =
        (tasks.map fun x => f x.2).sum + f q from this s.tasks ids there
  intro tasks ids there
  induction tasks with
  | nil => cases there
  | cons x rest ih =>
    obtain ⟨v, r⟩ := x
    obtain ⟨new, ids⟩ := List.nodup_cons.mp ids
    rw [lookup_cons_ite] at there
    simp only [List.map_cons, List.sum_cons]
    split at there
    · rename_i here
      obtain rfl := Option.some.inj there
      subst here
      have others : (rest.map fun x => if x.1 = t then (x.1, q) else (x.1, x.2)) = rest := by
        refine (List.map_congr_left fun y member => ?_).trans (List.map_id _)
        exact if_neg fun same => new (List.mem_map.mpr ⟨y, member, same⟩)
      rw [if_pos rfl, others, Nat.add_right_comm, Nat.add_comm (f q), Nat.add_right_comm]
    · rename_i other
      rw [if_neg fun same => other same.symm]
      rw [Nat.add_assoc, ih ids there, Nat.add_assoc]

theorem lookup_of_mem {tasks : List (Nat × Phase β)} (ids : (tasks.map Prod.fst).Nodup) (member : (t, p) ∈ tasks) :
    tasks.lookup t = some p := by
  induction tasks with
  | nil => cases member
  | cons x rest ih =>
    obtain ⟨v, r⟩ := x
    obtain ⟨new, ids⟩ := List.nodup_cons.mp ids
    rw [lookup_cons_ite]
    obtain same | behind := List.mem_cons.mp member
    · cases same
      rw [if_pos rfl]
    · rw [if_neg, ih ids behind]
      rintro rfl
      exact new (List.mem_map.mpr ⟨_, behind, rfl⟩)

/-- If the tasks count for anything, one of them does. -/
theorem exists_of_weigh_pos {f : Phase β → Nat} (ids : s.ids.Nodup) (some_ : 0 < s.weigh f) :
    ∃ t p, s.phase? t = some p ∧ 0 < f p := by
  obtain ⟨n, member, positive⟩ := List.exists_mem_ne_zero_of_sum_ne_zero (Nat.ne_of_gt some_)
  obtain ⟨⟨t, p⟩, found, rfl⟩ := List.mem_map.mp member
  exact ⟨t, p, lookup_of_mem ids found, Nat.pos_of_ne_zero positive⟩

/-- If none of the tasks counts for anything, they do not together. -/
theorem weigh_eq_zero {f : Phase β → Nat} (ids : s.ids.Nodup) (none_ : ∀ t p, s.phase? t = some p → f p = 0) :
    s.weigh f = 0 := by
  by_contra some_
  obtain ⟨t, p, there, counts⟩ := exists_of_weigh_pos ids (Nat.pos_of_ne_zero some_)
  exact Nat.ne_of_gt counts (none_ t p there)

theorem weigh_mono {f g : Phase β → Nat} (le : ∀ p, f p ≤ g p) (s : State β) : s.weigh f ≤ s.weigh g :=
  List.sum_le_sum fun x _ => le x.2

/-- A task counts for no more than all of them. -/
theorem le_weigh (there : s.phase? t = some p) (f : Phase β → Nat) : f p ≤ s.weigh f := by
  obtain ⟨before, behind, same, -⟩ := List.lookup_eq_some_iff.mp there
  rw [weigh, same, List.map_append, List.map_cons, List.sum_append, List.sum_cons]
  exact Nat.le_add_left_of_le (Nat.le_add_right _ _)

end State

/-! ## The ways in which an event can go -/

inductive Moves (s : State β) : Event β → State β → Prop where
  /-- a print that finds no slot -/
  | queues {t : Nat} (unknown : s.phase? t = none) (full : s.free = 0) :
      Moves s (.print t) ({ s with queue := s.queue ++ [t] }.add t .queued)
  | enters {t : Nat} (unknown : s.phase? t = none) (room : s.free ≠ 0) :
      Moves s (.print t) ({ s with free := s.free - 1 }.add t .admitted)
  | closes {t b : Nat} (unknown : s.phase? t = none) (there : s.browser = some b) :
      Moves s (.shutDown t) (s.add t (.shutting b))
  | closesNothing {t : Nat} (unknown : s.phase? t = none) (nothing : s.browser = none) :
      Moves s (.shutDown t) (s.add t s.stop)
  /-- a print that has a slot, while another looks for the browser -/
  | waits {t u : Nat} (there : s.phase? t = some .admitted) (taken : s.looker = some u) :
      Moves s (.resume t) ({ s with lookQueue := s.lookQueue ++ [t] }.setPhase t .waiting)
  | looks {t : Nat} (there : s.phase? t = some .admitted) (idle : s.looker = none) :
      Moves s (.resume t) ({ s with looker := some t }.setPhase t .looking)
  | finds {t b : Nat} (there : s.phase? t = some .looking) (usable : s.usable? = some b) :
      Moves s (.resume t) (s.lookAway.setPhase t (.opening b))
  | misses {t : Nat} {p : Phase β} (there : s.phase? t = some .looking) (unusable : s.usable? = none)
      (next : p = .launching ∨ p = .starting) : Moves s (.resume t) (s.setPhase t p)
  | started {t : Nat} (there : s.phase? t = some .starting) :
      Moves s (.reply t .done) ({ s with hasEngine := true }.setPhase t .launching)
  | launched {t : Nat} (there : s.phase? t = some .launching) :
      Moves s (.reply t .done) ({ s with
        browser := some s.launched, connected := s.connected ++ [s.launched]
        launched := s.launched + 1 }.lookAway.setPhase t (.opening s.launched))
  /-- a print whose browser cannot be launched -/
  | givesUp {t : Nat} {p : Phase β} {f : Fault} (there : s.phase? t = some p) (kind : p = .starting ∨ p = .launching) :
      Moves s (.reply t (.failed f)) (s.lookAway.finish t (.error f))
  | opened {t b : Nat} (there : s.phase? t = some (.opening b)) :
      Moves s (.reply t .done)
        ({ s with contexts := s.contexts ++ [s.opened], opened := s.opened + 1 }.setPhase t (.paging s.opened))
  | unopened {t b : Nat} {f : Fault} (there : s.phase? t = some (.opening b)) :
      Moves s (.reply t (.failed f)) (s.finish t (.error f))
  /-- a print that makes use of its context -/
  | uses {t c : Nat} {p q : Phase β} (there : s.phase? t = some p)
      (kind : (p = .paging c ∧ q = .filling c) ∨ (p = .filling c ∧ q = .printing c)) :
      Moves s (.reply t .done) (s.setPhase t q)
  /-- a print that asks for the close of its context -/
  | leaves {t c : Nat} {p : Phase β} {r : Reply β} {x : Except Fault β} (there : s.phase? t = some p)
      (kind : p = .paging c ∨ p = .filling c ∨ p = .printing c)
      (answer : (∃ b, r = .printed b ∧ x = .ok b) ∨ ∃ f, r = .failed f ∧ x = .error f) :
      Moves s (.reply t r) (s.setPhase t (.closing c x))
  | closed {t c : Nat} {r : Reply β} {x y : Except Fault β} (there : s.phase? t = some (.closing c x))
      (answer : (r = .done ∧ y = x) ∨ ∃ f, r = .failed f ∧ y = .error f) :
      Moves s (.reply t r) ({ s with contexts := s.contexts.filter (· != c) }.finish t y)
  | shut {t b : Nat} (there : s.phase? t = some (.shutting b)) :
      Moves s (.reply t .done)
        ({ s with browser := none, connected := s.connected.filter (· != b) }.setPhase t s.stop)
  | unshut {t : Nat} {p : Phase β} {f : Fault} (there : s.phase? t = some p) (kind : (∃ b, p = .shutting b) ∨ p = .stopping) :
      Moves s (.reply t (.failed f)) (s.setPhase t (.shut (.error f)))
  | stopped {t : Nat} (there : s.phase? t = some .stopping) :
      Moves s (.reply t .done) ({ s with hasEngine := false }.setPhase t (.shut (.ok ())))
  | disconnects (b : Nat) : Moves s (.disconnect b) { s with connected := s.connected.filter (· != b) }

variable {s s' : State β} {e : Event β} {t : Nat} {p : Phase β} {r : Reply β}

theorem moves_of_answer (there : s.phase? t = some p) (h : s.answer t p r = some s') : Moves s (.reply t r) s' := by
  cases p with
  | starting =>
    cases r <;> cases h
    · exact .started there
    · exact .givesUp there (.inl rfl)
  | launching =>
    cases r <;> cases h
    · exact .launched there
    · exact .givesUp there (.inr rfl)
  | opening b =>
    cases r <;> cases h
    · exact .opened there
    · exact .unopened there
  | paging c =>
    cases r <;> cases h
    · exact .uses there (.inl ⟨rfl, rfl⟩)
    · exact .leaves there (.inl rfl) (.inr ⟨_, rfl, rfl⟩)
  | filling c =>
    cases r <;> cases h
    · exact .uses there (.inr ⟨rfl, rfl⟩)
    · exact .leaves there (.inr (.inl rfl)) (.inr ⟨_, rfl, rfl⟩)
  | printing c =>
    cases r <;> cases h
    · exact .leaves there (.inr (.inr rfl)) (.inl ⟨_, rfl, rfl⟩)
    · exact .leaves there (.inr (.inr rfl)) (.inr ⟨_, rfl, rfl⟩)
  | closing c x =>
    cases r <;> cases h
    · exact .closed there (.inl ⟨rfl, rfl⟩)
    · exact .closed there (.inr ⟨_, rfl, rfl⟩)
  | shutting b =>
    cases r <;> cases h
    · exact .shut there
    · exact .unshut there (.inl ⟨b, rfl⟩)
  | stopping =>
    cases r <;> cases h
    · exact .stopped there
    · exact .unshut there (.inr rfl)
  | queued | admitted | waiting | looking | ended | shut => cases r <;> cases h

/-- Every event goes in one of these ways. -/
theorem moves_of_step (h : step s e = some s') : Moves s e s' := by
  cases e with
  | print t =>
    simp only [step, Option.isSome_iff_ne_none, ite_not] at h
    split at h
    · rename_i unknown
      split at h
      · rename_i full
        cases h
        exact .queues unknown full
      · rename_i room
        cases h
        exact .enters unknown room
    · cases h
  | shutDown t =>
    simp only [step, Option.isSome_iff_ne_none, ite_not] at h
    split at h
    · rename_i unknown
      cases h
      split
      · rename_i b there
        exact .closes unknown there
      · rename_i nothing
        exact .closesNothing unknown nothing
    · cases h
  | resume t =>
    simp only [step] at h
    split at h
    · rename_i there
      split at h
      · rename_i idle
        cases h
        exact .looks there idle
      · rename_i u taken
        cases h
        exact .waits there taken
    · rename_i there
      cases h
      unfold State.look
      split
      · rename_i b usable
        exact .finds there usable
      · rename_i unusable
        refine .misses there unusable ?_
        split
        · exact .inl rfl
        · exact .inr rfl
    · cases h
  | reply t r =>
    obtain ⟨p, there, h⟩ := Option.bind_eq_some_iff.mp h
    exact moves_of_answer there h
  | disconnect b =>
    cases h
    exact .disconnects b

/-! ## Runs -/

theorem after_cons {es : List (Event β)} {u : State β} :
    after s (e :: es) = some u ↔ ∃ v, step s e = some v ∧ after v es = some u := by
  rw [after, Option.bind_eq_some_iff]

theorem after_append {before later : List (Event β)} {u : State β} :
    after s (before ++ later) = some u ↔ ∃ v, after s before = some v ∧ after v later = some u := by
  induction before generalizing s with
  | nil => simp [after]
  | cons e before ih =>
    simp only [List.cons_append, after_cons, ih]
    constructor
    · rintro ⟨w, go, v, first, rest⟩
      exact ⟨v, ⟨w, go, first⟩, rest⟩
    · rintro ⟨v, ⟨w, go, first⟩, rest⟩
      exact ⟨w, go, v, first, rest⟩

/-- What holds at the beginning and is kept by each event holds at the end of a run. -/
theorem after_induction {P : List (Event β) → State β → Prop} (start : P [] s)
    (keeps : ∀ es u e u', after s es = some u → P es u → step u e = some u' → P (es ++ [e]) u') {es : List (Event β)}
    {u : State β} (run : after s es = some u) : P es u := by
  induction es using List.reverseRecOn generalizing u with
  | nil =>
    cases run
    exact start
  | append_singleton es e ih =>
    obtain ⟨v, first, last⟩ := after_append.mp run
    obtain ⟨u', go, rest⟩ := after_cons.mp last
    cases rest
    exact keeps es v e u first (ih first) go

/-- The states that events lead to are those behind runs. -/
theorem reachable_iff {n : Nat} : Reachable n s ↔ ∃ es, after (State.ofSize n) es = some s := by
  constructor
  · intro reached
    induction reached with
    | start => exact ⟨[], rfl⟩
    | step e _ go ih =>
      obtain ⟨es, run⟩ := ih
      exact ⟨es ++ [e], after_append.mpr ⟨_, run, after_cons.mpr ⟨_, go, rfl⟩⟩⟩
  · rintro ⟨es, run⟩
    exact after_induction (P := fun _ u => Reachable n u) .start (fun _ _ e _ _ before go => .step e before go) run

end Letterpress.Press
