import Letterpress.Proofs.Press.Order

/-!
# Turns of tasks

An event lets a task come, or go on; when it goes on, the first in each line may move up behind it. Whatever tasks count
for together changes by just that.

* `Shift`: one task goes on, and others move up.
* `Turn`: how a task goes on, and what it does to the contexts.
* `Changes`, `changes_of_step`: all that an event can do to tasks, slots and contexts.
* `slots_after`: slots are free or had by prints, and none is lost.
-/

namespace Letterpress.Press

variable {β : Type} {s s' s₀ : State β} {e : Event β} {t u n d : Nat} {p q : Phase β} {es : List (Event β)}

/-! ## Lines that move up -/

/-- Whoever gives up a slot passes it on, or it is free. -/
theorem Orderly.weigh_leave (h : Orderly s) :
    ∃ k, s.leave.free + k = s.free + 1 ∧ ∀ f, s.leave.weigh f + k * f .queued = s.weigh f + k * f .admitted := by
  cases waits : s.queue with
  | nil =>
    rw [State.leave_of_nil waits]
    exact ⟨0, rfl, fun f => by simp [State.weigh]⟩
  | cons v rest =>
    have first := h.queued_of_head? (t := v) (by rw [waits, List.head?_cons])
    rw [State.leave_of_cons waits]
    refine ⟨1, rfl, fun f => ?_⟩
    rw [Nat.one_mul, Nat.one_mul]
    exact State.weigh_setPhase (s := { s with queue := rest }) h.ids first .admitted f

theorem Orderly.weigh_lookAway (h : Orderly s) :
    s.lookAway.free = s.free ∧ ∃ l, ∀ f, s.lookAway.weigh f + l * f .waiting = s.weigh f + l * f .looking := by
  cases waits : s.lookQueue with
  | nil =>
    rw [State.lookAway_of_nil waits]
    exact ⟨rfl, 0, fun f => by simp [State.weigh]⟩
  | cons v rest =>
    have first := h.waiting_of_head? (t := v) (by rw [waits, List.head?_cons])
    rw [State.lookAway_of_cons waits]
    refine ⟨rfl, 1, fun f => ?_⟩
    rw [Nat.one_mul, Nat.one_mul]
    exact State.weigh_setPhase (s := { s with looker := some v, lookQueue := rest }) h.ids first .looking f

/-- A task stays where it is, or moves up in one of the lines. -/
def StaysOrMovesUp (s s' : State β) (u : Nat) : Prop :=
  s'.phase? u = s.phase? u ∨ (s.phase? u = some .queued ∧ s'.phase? u = some .admitted) ∨
    (s.phase? u = some .waiting ∧ s'.phase? u = some .looking)

/-- Who has not moved up is where he was. -/
theorem StaysOrMovesUp.phase? (stays : StaysOrMovesUp s s' u) (after : s'.phase? u = some q)
    (apart : q ≠ .admitted ∧ q ≠ .looking) : s.phase? u = some q := by
  obtain same | ⟨-, up⟩ | ⟨-, up⟩ := stays
  · exact same.symm.trans after
  · exact absurd (Option.some.inj (after.symm.trans up)) apart.1
  · exact absurd (Option.some.inj (after.symm.trans up)) apart.2

/-- One task goes on and gives up some slots, and others stay or move up. -/
structure Shift (s s' : State β) (t : Nat) (p q : Phase β) (slots : Nat) : Prop where
  there : s.phase? t = some p
  after : s'.phase? t = some q
  others : ∀ u ≠ t, StaysOrMovesUp s s' u
  counts : ∃ k l, s'.free + k = s.free + slots ∧
    ∀ f, s'.weigh f + f p + k * f .queued + l * f .waiting = s.weigh f + f q + k * f .admitted + l * f .looking

namespace Shift

/-- Only tasks and free slots matter. -/
theorem congr (shift : Shift s₀ s' t p q d) (tasks : s₀.tasks = s.tasks) (free : s₀.free = s.free) : Shift s s' t p q d := by
  obtain ⟨there, after, others, counts⟩ := shift
  simp only [StaysOrMovesUp, State.phase?, State.weigh, tasks, free] at there others counts
  exact ⟨there, after, others, counts⟩

theorem setPhase (h : Orderly s) (there : s.phase? t = some p) (tasks : s₀.tasks = s.tasks) (free : s₀.free = s.free)
    (q : Phase β) : Shift s (s₀.setPhase t q) t p q 0 := by
  have still : s₀.phase? t = some p := by rwa [State.phase?, tasks]
  have ids : s₀.ids.Nodup := by
    rw [State.ids, tasks]
    exact h.ids
  refine Shift.congr ⟨still, ?_, fun u other => .inl ?_, 0, 0, rfl, fun f => ?_⟩ tasks free
  · rw [State.phase?_setPhase_of still, if_pos rfl]
  · rw [State.phase?_setPhase, if_neg other]
  · simpa using State.weigh_setPhase ids still q f

theorem lookAway (h : Orderly s) (there : s.phase? t = some p) (other : p ≠ .waiting) (q : Phase β) :
    Shift s (s.lookAway.setPhase t q) t p q 0 := by
  have known (v : Nat) (first : s.lookQueue.head? = some v) : (s.phase? v).isSome := by
    rw [h.waiting_of_head? first, Option.isSome_some]
  have phases := State.phase?_lookAway known
  have apart : s.lookQueue.head? ≠ some t := fun first => other (Option.some.inj (there.symm.trans (h.waiting_of_head? first)))
  have still : s.lookAway.phase? t = some p := by rw [phases, if_neg apart, there]
  obtain ⟨free, l, counts⟩ := h.weigh_lookAway
  have ids : s.lookAway.ids.Nodup := by
    rw [State.ids_lookAway]
    exact h.ids
  refine ⟨there, by rw [State.phase?_setPhase_of still, if_pos rfl], fun u away => ?_, 0, l, free, fun f => ?_⟩
  · rw [StaysOrMovesUp, State.phase?_setPhase, if_neg away, phases]
    split
    · rename_i first
      exact .inr (.inr ⟨h.waiting_of_head? first, rfl⟩)
    · exact .inl rfl
  · have own := State.weigh_setPhase ids still q f
    have up := counts f
    simp only [Nat.zero_mul, Nat.add_zero]
    omega

/-- A task that gives up a slot once it has gone on. -/
theorem leave (shift : Shift s s' t p q 0) (h : Orderly s') (other : q ≠ .queued) : Shift s s'.leave t p q 1 := by
  have known (v : Nat) (first : s'.queue.head? = some v) : (s'.phase? v).isSome := by
    rw [h.queued_of_head? first, Option.isSome_some]
  have phases := State.phase?_leave known
  have apart : s'.queue.head? ≠ some t :=
    fun first => other (Option.some.inj (shift.after.symm.trans (h.queued_of_head? first)))
  obtain ⟨k, l, free, counts⟩ := shift.counts
  obtain ⟨k', free', counts'⟩ := h.weigh_leave
  refine ⟨shift.there, by rw [phases, if_neg apart, shift.after], fun u away => ?_, k + k', l, by omega, fun f => ?_⟩
  · have before := shift.others u away
    rw [StaysOrMovesUp, phases]
    split
    · rename_i first
      rw [StaysOrMovesUp, h.queued_of_head? first] at before
      obtain same | ⟨-, ⟨⟩⟩ | ⟨-, ⟨⟩⟩ := before
      exact .inr (.inl ⟨same.symm, rfl⟩)
    · exact before
  · have own := counts f
    have up := counts' f
    simp only [Nat.add_mul]
    omega

end Shift

/-! ## All that an event does -/

namespace Phase

/-- How many slots a task has. -/
def slots (p : Phase β) : Nat := p.hasSlot.toNat

/-- Whether it is a print that is there, and not a shutdown. -/
def isOfPrint : Phase β → Bool
  | queued | admitted | waiting | looking | starting | launching | opening _ | paging _ | filling _ | printing _
  | closing _ _ | ended _ => true
  | shutting _ | stopping | shut _ => false

/-- What a print comes to, as far as that is settled. -/
def result? : Phase β → Option (Except Fault β)
  | closing _ r | ended r => some r
  | queued | admitted | waiting | looking | starting | launching | opening _ | paging _ | filling _ | printing _
  | shutting _ | stopping | shut _ => none

/-- How many events of its own a task has before it at most. -/
def rank : Phase β → Nat
  | queued => 11
  | admitted => 10
  | waiting => 9
  | looking => 8
  | starting => 7
  | launching => 6
  | opening _ => 5
  | paging _ => 4
  | filling _ => 3
  | printing _ => 2
  | closing _ _ => 1
  | ended _ => 0
  | shutting _ => 2
  | stopping => 1
  | shut _ => 0

theorem rank_le (p : Phase β) : p.rank ≤ 11 := by
  cases p <;> simp [rank]

end Phase

/-- The contexts are what they were. -/
structure SameContexts (s s' : State β) : Prop where
  contexts : s'.contexts = s.contexts
  opened : s'.opened = s.opened

theorem State.contexts_leave (s : State β) : s.leave.contexts = s.contexts ∧ s.leave.opened = s.opened := by
  unfold State.leave
  split <;> exact ⟨rfl, rfl⟩

theorem State.contexts_lookAway (s : State β) : s.lookAway.contexts = s.contexts ∧ s.lookAway.opened = s.opened := by
  unfold State.lookAway
  split <;> exact ⟨rfl, rfl⟩

/-- How a task goes on, and how many slots it gives up. -/
inductive Turn (s s' : State β) (t : Nat) : Event β → Phase β → Phase β → Nat → Prop where
  /-- on the way to a context, or to the end of a shutdown -/
  | seeks {e : Event β} {p q : Phase β} (same : SameContexts s s') (further : q.rank < p.rank)
      (slots : q.hasSlot = p.hasSlot) (before : p.context? = none) (after : q.context? = none)
      (unsettled : q.result? = none) (kind : p.isOfPrint = true → q.isOfPrint = true) : Turn s s' t e p q 0
  /-- a print that comes to its end without a context -/
  | fails {p : Phase β} {f : Fault} (same : SameContexts s s') (further : 0 < p.rank) (slot : p.hasSlot = true)
      (before : p.context? = none) : Turn s s' t (.reply t (.failed f)) p (.ended (.error f)) 1
  | opens {b : Nat} (contexts : s'.contexts = s.contexts ++ [s.opened]) (opened : s'.opened = s.opened + 1) :
      Turn s s' t (.reply t .done) (.opening b) (.paging s.opened) 0
  | uses {c : Nat} {p q : Phase β} (same : SameContexts s s')
      (kind : (p = .paging c ∧ q = .filling c) ∨ (p = .filling c ∧ q = .printing c)) :
      Turn s s' t (.reply t .done) p q 0
  /-- a print that asks for the close of its context -/
  | leaves {c : Nat} {p : Phase β} {r : Reply β} {x : Except Fault β} (same : SameContexts s s')
      (kind : p = .paging c ∨ p = .filling c ∨ p = .printing c)
      (answer : (∃ b, r = .printed b ∧ x = .ok b) ∨ ∃ f, r = .failed f ∧ x = .error f) :
      Turn s s' t (.reply t r) p (.closing c x) 0
  | closed {c : Nat} {r : Reply β} {x y : Except Fault β} (contexts : s'.contexts = s.contexts.filter (· != c))
      (opened : s'.opened = s.opened) (answer : (r = .done ∧ y = x) ∨ ∃ f, r = .failed f ∧ y = .error f) :
      Turn s s' t (.reply t r) (.closing c x) (.ended y) 1

theorem Turn.rank_lt (turn : Turn s s' t e p q d) : q.rank < p.rank := by
  cases turn with
  | seeks _ further => exact further
  | fails _ further => exact further
  | opens | closed => simp [Phase.rank]
  | uses _ kind => obtain ⟨rfl, rfl⟩ | ⟨rfl, rfl⟩ := kind <;> simp [Phase.rank]
  | leaves _ kind => obtain rfl | rfl | rfl := kind <;> simp [Phase.rank]

theorem Turn.slots (turn : Turn s s' t e p q d) : q.slots + d = p.slots := by
  cases turn with
  | seeks _ _ slots => simp [Phase.slots, slots]
  | fails _ _ slot =>
    rw [Phase.slots, Phase.slots, slot]
    rfl
  | opens | closed => rfl
  | uses _ kind => obtain ⟨rfl, rfl⟩ | ⟨rfl, rfl⟩ := kind <;> rfl
  | leaves _ kind => obtain rfl | rfl | rfl := kind <;> rfl

/-- A task that comes. -/
structure Joins (s s' : State β) (t : Nat) (p : Phase β) : Prop where
  unknown : s.phase? t = none
  phases : ∀ u, s'.phase? u = if u = t then some p else s.phase? u
  weigh : ∀ f, s'.weigh f = s.weigh f + f p
  free : s'.free + p.slots = s.free
  same : SameContexts s s'
  context : p.context? = none
  unsettled : p.result? = none

inductive Changes (s s' : State β) (e : Event β) : Prop where
  | joins {t : Nat} {p : Phase β} (kind : (e = .print t ∧ p.isOfPrint = true) ∨ e = .shutDown t) (joins : Joins s s' t p)
  | turns {t : Nat} {p q : Phase β} {d : Nat} (kind : e = .resume t ∨ ∃ r, e = .reply t r) (shift : Shift s s' t p q d)
      (turn : Turn s s' t e p q d)
  | drops {b : Nat} (kind : e = .disconnect b) (tasks : s'.tasks = s.tasks) (free : s'.free = s.free)
      (same : SameContexts s s')

theorem Joins.add (unknown : s.phase? t = none) (tasks : s₀.tasks = s.tasks) (same : SameContexts s s₀)
    (free : s₀.free + p.slots = s.free) (context : p.context? = none) (unsettled : p.result? = none) :
    Joins s (s₀.add t p) t p := by
  have known : s₀.phase? t = none := by rwa [State.phase?, tasks]
  refine ⟨unknown, fun u => ?_, fun f => ?_, free, ⟨same.contexts, same.opened⟩, context, unsettled⟩
  · rw [State.phase?_add known, State.phase?, tasks]
    rfl
  · rw [State.weigh_add, State.weigh, tasks]
    rfl

/-- The end of a shutdown has nothing to do with slots and contexts. -/
structure EndsShutDown (p : Phase β) : Prop where
  further : p.rank < 2
  slot : p.hasSlot = false
  context : p.context? = none
  unsettled : p.result? = none

theorem State.endsShutDown_stop (s : State β) : EndsShutDown s.stop := by
  unfold State.stop
  split <;> constructor <;> simp [Phase.rank, Phase.hasSlot, Phase.context?, Phase.result?]

theorem changes_of_step (h : Orderly s) (go : step s e = some s') : Changes s s' e := by
  have same : SameContexts s s := ⟨rfl, rfl⟩
  have stop := s.endsShutDown_stop
  cases moves_of_step go with
  | queues unknown full => exact .joins (.inl ⟨rfl, rfl⟩) (.add unknown rfl ⟨rfl, rfl⟩ rfl rfl rfl)
  | enters unknown room =>
    refine .joins (.inl ⟨rfl, rfl⟩) (.add unknown rfl ⟨rfl, rfl⟩ ?_ rfl rfl)
    exact Nat.sub_add_cancel (Nat.pos_of_ne_zero room)
  | closes unknown there => exact .joins (.inr rfl) (.add unknown rfl same rfl rfl rfl)
  | closesNothing unknown nothing =>
    have slots : s.free + s.stop.slots = s.free := by rw [Phase.slots, stop.slot, Bool.toNat_false, Nat.add_zero]
    exact .joins (.inr rfl) (.add unknown rfl same slots stop.context stop.unsettled)
  | waits there taken =>
    exact .turns (.inl rfl) (.setPhase h there (by rfl) (by rfl) _)
      (.seeks ⟨rfl, rfl⟩ (by simp [Phase.rank]) rfl rfl rfl rfl id)
  | looks there idle =>
    exact .turns (.inl rfl) (.setPhase h there (by rfl) (by rfl) _)
      (.seeks ⟨rfl, rfl⟩ (by simp [Phase.rank]) rfl rfl rfl rfl id)
  | finds there usable =>
    obtain ⟨contexts, opened⟩ := s.contexts_lookAway
    exact .turns (.inl rfl) (.lookAway h there nofun _) (.seeks ⟨contexts, opened⟩ (by simp [Phase.rank]) rfl rfl rfl rfl id)
  | misses there unusable next =>
    refine .turns (.inl rfl) (.setPhase h there (by rfl) (by rfl) _) (.seeks ⟨rfl, rfl⟩ ?_ ?_ rfl ?_ ?_ ?_) <;>
      obtain rfl | rfl := next <;> simp [Phase.rank, Phase.hasSlot, Phase.context?, Phase.result?, Phase.isOfPrint]
  | started there =>
    exact .turns (.inr ⟨_, rfl⟩) (.setPhase h there (by rfl) (by rfl) _)
      (.seeks ⟨rfl, rfl⟩ (by simp [Phase.rank]) rfl rfl rfl rfl id)
  | @launched t there =>
    let s₀ : State β := { s with
      browser := some s.launched, connected := s.connected ++ [s.launched], launched := s.launched + 1 }
    obtain ⟨contexts, opened⟩ := s₀.contexts_lookAway
    have orderly : Orderly s₀ := h.congr ..
    have shift : Shift s₀ (s₀.lookAway.setPhase t (.opening s.launched)) t .launching _ 0 := .lookAway orderly there nofun _
    exact .turns (.inr ⟨_, rfl⟩) (shift.congr rfl rfl) (.seeks ⟨contexts, opened⟩ (by simp [Phase.rank]) rfl rfl rfl rfl id)
  | @givesUp t p f there kind =>
    have looks : p.spot = .look := by obtain rfl | rfl := kind <;> rfl
    have shift : Shift s (s.lookAway.setPhase t (.ended (.error f))) t p _ 0 :=
      .lookAway h there (by obtain rfl | rfl := kind <;> nofun) _
    have orderly := h.lookAway there looks (q := .ended (.error f)) rfl
    obtain ⟨contexts, opened⟩ := s.contexts_lookAway
    obtain ⟨contexts', opened'⟩ := (s.lookAway.setPhase t (.ended (.error f))).contexts_leave
    refine .turns (.inr ⟨_, rfl⟩) (shift.leave orderly nofun)
      (.fails ⟨contexts'.trans contexts, opened'.trans opened⟩ ?_ ?_ ?_) <;> obtain rfl | rfl := kind <;>
        simp [Phase.rank, Phase.hasSlot, Phase.context?]
  | opened there => exact .turns (.inr ⟨_, rfl⟩) (.setPhase h there (by rfl) (by rfl) _) (.opens rfl rfl)
  | @unopened t b f there =>
    have shift : Shift s (s.setPhase t (.ended (.error f))) t (.opening b) _ 0 := .setPhase h there rfl rfl _
    obtain ⟨contexts, opened⟩ := (s.setPhase t (.ended (.error f))).contexts_leave
    exact .turns (.inr ⟨_, rfl⟩) (shift.leave (h.setPhase there rfl) nofun)
      (.fails ⟨contexts, opened⟩ (by simp [Phase.rank]) rfl rfl)
  | uses there kind => exact .turns (.inr ⟨_, rfl⟩) (.setPhase h there (by rfl) (by rfl) _) (.uses ⟨rfl, rfl⟩ kind)
  | leaves there kind answer =>
    exact .turns (.inr ⟨_, rfl⟩) (.setPhase h there (by rfl) (by rfl) _) (.leaves ⟨rfl, rfl⟩ kind answer)
  | @closed t c r x y there answer =>
    let s₀ : State β := { s with contexts := s.contexts.filter (· != c) }
    have shift : Shift s (s₀.setPhase t (.ended y)) t (.closing c x) _ 0 := .setPhase h there (by rfl) (by rfl) _
    have orderly : Orderly s₀ := h.congr ..
    obtain ⟨contexts, opened⟩ := (s₀.setPhase t (.ended y)).contexts_leave
    exact .turns (.inr ⟨_, rfl⟩) (shift.leave (orderly.setPhase there rfl) nofun) (.closed contexts opened answer)
  | shut there =>
    exact .turns (.inr ⟨_, rfl⟩) (.setPhase h there (by rfl) (by rfl) _)
      (.seeks ⟨rfl, rfl⟩ stop.further stop.slot rfl stop.context stop.unsettled nofun)
  | unshut there kind =>
    refine .turns (.inr ⟨_, rfl⟩) (.setPhase h there (by rfl) (by rfl) _) (.seeks ⟨rfl, rfl⟩ ?_ ?_ ?_ rfl rfl ?_) <;>
      obtain ⟨b, rfl⟩ | rfl := kind <;> simp [Phase.rank, Phase.hasSlot, Phase.context?, Phase.isOfPrint]
  | stopped there =>
    exact .turns (.inr ⟨_, rfl⟩) (.setPhase h there (by rfl) (by rfl) _)
      (.seeks ⟨rfl, rfl⟩ (by simp [Phase.rank]) rfl rfl rfl rfl id)
  | disconnects b => exact .drops rfl rfl rfl ⟨rfl, rfl⟩

/-! ## What tasks count for -/

/-- A count that does not tell whether a task is in line. -/
structure IgnoresLines (f : Phase β → Nat) : Prop where
  queue : f .queued = f .admitted
  lookQueue : f .waiting = f .looking

/-- Who moves up makes no difference to such a count. -/
theorem Shift.weigh (shift : Shift s s' t p q d) {f : Phase β → Nat} (ignores : IgnoresLines f) :
    s'.weigh f + f p = s.weigh f + f q := by
  obtain ⟨k, l, -, counts⟩ := shift.counts
  have all := counts f
  rw [ignores.queue, ignores.lookQueue] at all
  omega

theorem State.weigh_congr (tasks : s'.tasks = s.tasks) (f : Phase β → Nat) : s'.weigh f = s.weigh f := by
  rw [weigh, tasks]
  rfl

/-- A slot is free or had by a print. -/
theorem Changes.slots (changes : Changes s s' e) : s'.free + s'.weigh Phase.slots = s.free + s.weigh Phase.slots := by
  cases changes with
  | joins kind joins =>
    rw [joins.weigh, ← joins.free]
    omega
  | turns kind shift turn =>
    obtain ⟨k, l, free, counts⟩ := shift.counts
    have all := counts Phase.slots
    have own := turn.slots
    simp only [Phase.slots, Phase.hasSlot, Bool.toNat_true, Bool.toNat_false] at all own ⊢
    omega
  | drops kind tasks free => rw [State.weigh_congr tasks, free]

/-- Slots are free or had by prints, and none is lost. -/
theorem slots_after (run : after (State.ofSize n) es = some s) : s.free + s.weigh Phase.slots = n := by
  have both : Orderly s ∧ s.free + s.weigh Phase.slots = n := by
    refine after_induction (P := fun _ u => Orderly u ∧ u.free + u.weigh Phase.slots = n) ⟨.ofSize n, rfl⟩ ?_ run
    rintro es u e u' - ⟨orderly, slots⟩ go
    exact ⟨orderly.step go, (changes_of_step orderly go).slots.trans slots⟩
  exact both.2

end Letterpress.Press
