import Letterpress.Proofs.Catalogue.Step

/-!
# Readers and their locks

Locks are made when a reader finds none listed, and taken off the list by whoever leaves one that nobody has or waits
for. Readers of one identifier meet at one lock all the same, whatever order they come, wait and go in.

* `Orderly`: what readers, locks and the list have to do with each other.
* `Orderly.step`, `Reachable.orderly`: no event changes that.
-/

namespace Letterpress.Catalogue

namespace Phase

/-- The lock that a reader has or waits for. -/
@[simp]
def lock? : Phase → Option Nat
  | waiting n | active n _ => some n
  | ended _ => none

end Phase

namespace State

theorem lock_finish {s : State} {n : Nat} (here : n < s.locks.length) (r : Nat) (id : String) (result : Except Failure Copy)
    (m : Nat) :
    (s.finish r id n result).lock m =
      if m = n then ⟨(s.lock n).queue.head?, (s.lock n).queue.tail⟩ else s.lock m := by
  cases waits : (s.lock n).queue with
  | cons q rest =>
    rw [finish_of_cons waits]
    exact lock_setLock (s := s.setPhase r (.ended result)) here ⟨some q, rest⟩ m
  | nil =>
    rw [finish_of_nil waits]
    exact lock_setLock (s := s.setPhase r (.ended result)) here ⟨none, []⟩ m

theorem lookup_listed_finish (s : State) (r : Nat) (id : String) (n : Nat) (result : Except Failure Copy) (j : String) :
    (s.finish r id n result).listed.lookup j =
      if j = id ∧ (s.lock n).queue = [] then none else s.listed.lookup j := by
  cases waits : (s.lock n).queue with
  | cons q rest =>
    rw [finish_of_cons waits]
    simp [setPhase, setLock]
  | nil =>
    rw [finish_of_nil waits]
    simpa using lookup_filter_ne j id s.listed

theorem isDisposed_finish (s : State) (r : Nat) (id : String) (n : Nat) (result : Except Failure Copy) :
    (s.finish r id n result).isDisposed = s.isDisposed := by
  cases waits : (s.lock n).queue with
  | cons q rest => rw [finish_of_cons waits]; rfl
  | nil => rw [finish_of_nil waits]; rfl

end State

/-- A reader of an identifier has a lock or waits for it. -/
def State.Uses (s : State) (r : Nat) (id : String) (n : Nat) : Prop :=
  ∃ p, s.reader? r = some ⟨id, p⟩ ∧ p.lock? = some n

/-- Locks say of readers what readers say of locks. Readers share a lock exactly if they share their identifier, and
the locks that they use are listed as long as the catalogue is not disposed of. -/
structure Orderly (s : State) : Prop where
  holder_iff : ∀ n r, (s.lock n).holder = some r ↔ ∃ id w, s.reader? r = some ⟨id, .active n w⟩
  queue_iff : ∀ n r, r ∈ (s.lock n).queue ↔ ∃ id, s.reader? r = some ⟨id, .waiting n⟩
  nodup : ∀ n, (s.lock n).queue.Nodup
  queue_eq_nil : ∀ n, (s.lock n).holder = none → (s.lock n).queue = []
  shares_iff : ∀ r q i j n m, s.Uses r i n → s.Uses q j m → (i = j ↔ n = m)
  listed_iff : ∀ id n, s.listed.lookup id = some n ↔ s.isDisposed = false ∧ ∃ r, s.Uses r id n

section

variable {s s' : State} {r q n m : Nat} {id j : String} {w : Work} {p : Phase}

theorem State.Uses.of_active (h : s.reader? r = some ⟨id, .active n w⟩) : s.Uses r id n := ⟨_, h, rfl⟩

theorem State.Uses.of_waiting (h : s.reader? r = some ⟨id, .waiting n⟩) : s.Uses r id n := ⟨_, h, rfl⟩

theorem State.not_uses (unknown : s.reader? r = none) : ¬ s.Uses r id n := by
  rintro ⟨p, there, -⟩
  cases unknown.symm.trans there

/-- One reader comes or goes on, and the others use what they did. -/
theorem State.uses_iff {x : Reader} (readers : ∀ q, s'.reader? q = if q = r then some x else s.reader? q)
    (q : Nat) (j : String) (m : Nat) :
    s'.Uses q j m ↔ if q = r then x.id = j ∧ x.phase.lock? = some m else s.Uses q j m := by
  unfold State.Uses
  rw [readers]
  split
  · constructor
    · rintro ⟨p, there, lock⟩
      obtain rfl := Option.some.inj there
      exact ⟨rfl, lock⟩
    · rintro ⟨rfl, lock⟩
      exact ⟨x.phase, rfl, lock⟩
  · rfl

theorem State.Uses.unique {i : String} (a : s.Uses r i m) (b : s.Uses r j n) : i = j ∧ m = n := by
  obtain ⟨p, here, lock⟩ := a
  obtain ⟨p', here', lock'⟩ := b
  cases here.symm.trans here'
  exact ⟨rfl, Option.some.inj (lock.symm.trans lock')⟩

namespace Orderly

/-- Only readers, locks and the list matter. -/
theorem congr (h : Orderly s) (entries : List (String × Entry)) (now : Binary64) (readings askings : Nat) :
    Orderly { s with entries, now, readings, askings } :=
  ⟨h.holder_iff, h.queue_iff, h.nodup, h.queue_eq_nil, h.shares_iff, h.listed_iff⟩

/-- A lock that a reader uses is not free. -/
theorem not_isFree (h : Orderly s) (uses : s.Uses r id n) : (s.lock n).isFree = false := by
  obtain ⟨p, there, lock⟩ := uses
  cases p with
  | waiting m =>
    obtain rfl : m = n := Option.some.inj lock
    have queued := (h.queue_iff m r).mpr ⟨id, there⟩
    simp [Lock.isFree, List.ne_nil_of_mem queued]
  | active m w =>
    obtain rfl : m = n := Option.some.inj lock
    simp [Lock.isFree, (h.holder_iff m r).mpr ⟨id, w, there⟩]
  | ended => cases lock

theorem holder_unique (h : Orderly s) {w' : Work} (a : s.reader? r = some ⟨id, .active n w⟩)
    (b : s.reader? q = some ⟨j, .active n w'⟩) : q = r := by
  have first := (h.holder_iff n r).mpr ⟨id, w, a⟩
  have second := (h.holder_iff n q).mpr ⟨j, w', b⟩
  exact Option.some.inj (second.symm.trans first)

/-- Who uses the lock of another waits for it. -/
theorem eq_or_mem_queue (h : Orderly s) (there : s.reader? r = some ⟨id, .active n w⟩) (used : s.Uses q j n) :
    q = r ∨ q ∈ (s.lock n).queue := by
  obtain ⟨p, here, lock⟩ := used
  cases p with
  | waiting m =>
    obtain rfl : m = n := Option.some.inj lock
    exact .inr ((h.queue_iff m q).mpr ⟨j, here⟩)
  | active m w' =>
    obtain rfl : m = n := Option.some.inj lock
    exact .inl (h.holder_unique there here)
  | ended => cases lock

/-- A reader that comes to an end at once uses no lock. -/
theorem add_ended (h : Orderly s) (unknown : s.reader? r = none) (id : String) (result : Except Failure Copy) :
    Orderly (s.addReader r id (.ended result)) := by
  have readers := State.reader?_addReader unknown id (.ended result)
  have uses : ∀ q j m, (s.addReader r id (.ended result)).Uses q j m ↔ s.Uses q j m := by
    intro q j m
    rw [State.uses_iff readers]
    split
    · rename_i here
      subst here
      simp [State.not_uses unknown]
    · rfl
  refine ⟨?_, ?_, h.nodup, h.queue_eq_nil, ?_, ?_⟩
  · intro n q
    rw [State.lock_addReader, h.holder_iff, readers]
    grind
  · intro n q
    rw [State.lock_addReader, h.queue_iff, readers]
    grind
  · intro a b i j n m
    rw [uses, uses]
    exact h.shares_iff a b i j n m
  · intro j m
    simp only [uses]
    exact h.listed_iff j m

/-- A reader that waits for a lock that others of its identifier use. -/
theorem queue_up (h : Orderly s) (unknown : s.reader? r = none) (used : s.Uses q id n) :
    Orderly ((s.setLock n { s.lock n with queue := (s.lock n).queue ++ [r] }).addReader r id (.waiting n)) := by
  have here : n < s.locks.length := State.lt_of_not_isFree (h.not_isFree used)
  generalize joined : (s.setLock n { s.lock n with queue := (s.lock n).queue ++ [r] }).addReader r id (.waiting n) = s'
  have readers : ∀ p, s'.reader? p = if p = r then some ⟨id, .waiting n⟩ else s.reader? p := by
    subst joined
    exact State.reader?_addReader unknown id (.waiting n)
  have locks : ∀ m, s'.lock m = if m = n then { s.lock n with queue := (s.lock n).queue ++ [r] } else s.lock m := by
    subst joined
    exact State.lock_setLock here _
  have listed : s'.listed = s.listed ∧ s'.isDisposed = s.isDisposed := by
    subst joined
    exact ⟨rfl, rfl⟩
  have uses : ∀ p j m, s'.Uses p j m ↔ if p = r then id = j ∧ n = m else s.Uses p j m := by
    simpa using State.uses_iff readers
  have apart : ∀ m, r ∉ (s.lock m).queue ∧ (s.lock m).holder ≠ some r := by
    intro m
    simp [h.queue_iff, h.holder_iff, unknown]
  have new : ∀ j m, ¬ s.Uses r j m := fun j m => State.not_uses unknown
  refine ⟨?_, ?_, ?_, ?_, ?_, ?_⟩
  · intro m p
    grind [h.holder_iff m p]
  · intro m p
    grind [h.queue_iff m p]
  · intro m
    grind [h.nodup m]
  · intro m
    grind [h.queue_eq_nil m, h.not_isFree used, Lock.isFree]
  · intro a b i j k m
    simp only [uses]
    grind [h.shares_iff a b i j k m, h.shares_iff a q i id k n, h.shares_iff q b id j n m]
  · intro j m
    have others : (∃ p, s'.Uses p j m) ↔ ∃ p, s.Uses p j m := by
      simp only [uses]
      constructor
      · rintro ⟨p, h⟩
        split at h
        · obtain ⟨rfl, rfl⟩ := h
          exact ⟨q, used⟩
        · exact ⟨p, h⟩
      · rintro ⟨p, h⟩
        refine ⟨p, ?_⟩
        rwa [if_neg]
        rintro rfl
        exact new j m h
    rw [others, listed.1, listed.2]
    exact h.listed_iff j m

/-- The number of a lock that is used is that of a lock that has been made. -/
theorem lt_of_uses (h : Orderly s) (uses : s.Uses r id n) : n < s.locks.length :=
  State.lt_of_not_isFree (h.not_isFree uses)

/-- A reader that nobody of its identifier precedes makes a lock and has it. -/
theorem make (h : Orderly s) (unknown : s.reader? r = none) (live : s.isDisposed = false)
    (unlisted : s.listed.lookup id = none) :
    Orderly (({ s with
      locks := s.locks ++ [Lock.mk none []], listed := s.listed ++ [(id, s.locks.length)] }.setLock s.locks.length
        ⟨some r, []⟩).addReader r id (.active s.locks.length .looking)) := by
  generalize made : s.locks.length = n
  generalize joined : ({ s with
    locks := s.locks ++ [Lock.mk none []], listed := s.listed ++ [(id, n)] }.setLock n ⟨some r, []⟩).addReader r id
      (.active n .looking) = s'
  have readers : ∀ p, s'.reader? p = if p = r then some ⟨id, .active n .looking⟩ else s.reader? p := by
    subst joined
    exact State.reader?_addReader unknown id (.active n .looking)
  have locks : ∀ m, s'.lock m = if m = n then ⟨some r, []⟩ else s.lock m := by
    intro m
    subst joined
    rw [State.lock_addReader, State.lock_setLock (by simp [made])]
    split
    · rfl
    · rename_i other
      simp only [State.lock, List.getD_eq_getElem?_getD, List.getElem?_append]
      grind
  have listed : ∀ j, s'.listed.lookup j = if j = id then some n else s.listed.lookup j := by
    intro j
    subst joined
    simp only [State.addReader, State.setLock, List.lookup_append, lookup_cons_ite, List.lookup_nil]
    split
    · rename_i here
      rw [here, unlisted, Option.none_or]
    · rw [Option.or_none]
  have disposed : s'.isDisposed = false := by
    subst joined
    exact live
  have uses : ∀ p j m, s'.Uses p j m ↔ if p = r then id = j ∧ n = m else s.Uses p j m := by
    simpa using State.uses_iff readers
  have new : ∀ j m, ¬ s.Uses r j m := fun j m => State.not_uses unknown
  have blank : s.lock n = {} := by simp [State.lock, ← made]
  have unused : ∀ q j m, s.Uses q j m → j ≠ id ∧ m ≠ n := by
    intro q j m used
    constructor
    · rintro rfl
      cases unlisted.symm.trans ((h.listed_iff j m).mpr ⟨live, q, used⟩)
    · exact Nat.ne_of_lt (made ▸ h.lt_of_uses used)
  refine ⟨?_, ?_, ?_, ?_, ?_, ?_⟩
  · intro m p
    grind [h.holder_iff m p]
  · intro m p
    grind [h.queue_iff m p]
  · intro m
    grind [h.nodup m]
  · intro m
    grind [h.queue_eq_nil m]
  · intro a b i j k m
    simp only [uses]
    grind [h.shares_iff a b i j k m]
  · intro j m
    simp only [listed, uses, disposed]
    by_cases here : j = id
    · subst here
      simp only [if_true, Option.some.injEq, true_and]
      constructor
      · rintro rfl
        exact ⟨r, by simp⟩
      · rintro ⟨p, used⟩
        split at used
        · exact used
        · exact absurd rfl (unused p j m used).1
    · grind [h.listed_iff j m]

/-- A reader that goes on with its lock. -/
theorem rework (h : Orderly s) (there : s.reader? r = some ⟨id, .active n w⟩) (w' : Work) :
    Orderly (s.setPhase r (.active n w')) := by
  have readers := State.reader?_setPhase s r (.active n w')
  rw [there] at readers
  have uses : ∀ p j m, (s.setPhase r (.active n w')).Uses p j m ↔ s.Uses p j m := by
    intro p j m
    rw [State.uses_iff readers]
    split
    · rename_i here
      subst here
      constructor
      · rintro ⟨rfl, lock⟩
        obtain rfl := Option.some.inj lock
        exact .of_active there
      · intro used
        obtain ⟨rfl, rfl⟩ := (State.Uses.of_active there).unique used
        exact ⟨rfl, rfl⟩
    · rfl
  refine ⟨?_, ?_, h.nodup, h.queue_eq_nil, ?_, ?_⟩
  · intro m p
    rw [State.lock_setPhase, h.holder_iff, readers]
    grind
  · intro m p
    rw [State.lock_setPhase, h.queue_iff, readers]
    grind
  · intro a b i j k m
    rw [uses, uses]
    exact h.shares_iff a b i j k m
  · intro j m
    simp only [uses]
    exact h.listed_iff j m

/-- The first that waits for the lock of a reader wants the same template. -/
theorem head_waiting (h : Orderly s) (there : s.reader? r = some ⟨id, .active n w⟩)
    (first : (s.lock n).queue.head? = some q) : s.reader? q = some ⟨id, .waiting n⟩ := by
  obtain ⟨j, queued⟩ := (h.queue_iff n q).mp (List.mem_of_head? first)
  obtain rfl : id = j := (h.shares_iff r q id j n n (.of_active there) (.of_waiting queued)).mpr rfl
  exact queued

/-- A lock passes from a reader that is done to the first that waits for it. -/
theorem reader?_finish (h : Orderly s) (there : s.reader? r = some ⟨id, .active n w⟩) (result : Except Failure Copy)
    (p : Nat) :
    (s.finish r id n result).reader? p =
      if p = r then some ⟨id, .ended result⟩
      else if (s.lock n).queue.head? = some p then some ⟨id, .active n .looking⟩
      else s.reader? p := by
  have done : (s.setPhase r (.ended result)).reader? p = if p = r then some ⟨id, .ended result⟩ else s.reader? p := by
    rw [State.reader?_setPhase, there, Option.map_some]
  cases waits : (s.lock n).queue with
  | cons q rest =>
    have queued := h.head_waiting there (q := q) (by rw [waits, List.head?_cons])
    rw [State.finish_of_cons waits, State.reader?_setPhase, State.reader?_setLock, State.reader?_setLock, done]
    grind [State.reader?_setPhase]
  | nil =>
    rw [State.finish_of_nil waits]
    exact done.trans (by simp)

/-- Who has a lock gives it back. -/
theorem finish (h : Orderly s) (there : s.reader? r = some ⟨id, .active n w⟩) (result : Except Failure Copy) :
    Orderly (s.finish r id n result) := by
  have readers := h.reader?_finish there result
  have locks := State.lock_finish (h.lt_of_uses (.of_active there)) r id result
  have listed := State.lookup_listed_finish s r id n result
  have disposed := State.isDisposed_finish s r id n result
  have held : (s.lock n).holder = some r := (h.holder_iff n r).mpr ⟨id, w, there⟩
  have first : ∀ p, (s.lock n).queue.head? = some p → s.reader? p = some ⟨id, .waiting n⟩ :=
    fun p => h.head_waiting there
  generalize s.finish r id n result = s' at readers locks listed disposed ⊢
  have uses : ∀ p j m, s'.Uses p j m ↔ p ≠ r ∧ s.Uses p j m := by
    intro p j m
    simp only [State.Uses, readers]
    grind [Phase.lock?]
  refine ⟨?_, ?_, ?_, ?_, ?_, ?_⟩
  · intro m p
    grind [h.holder_iff m p]
  · intro m p
    have single := h.nodup n
    cases waits : (s.lock n).queue <;> grind [h.queue_iff m p]
  · intro m
    grind [h.nodup m, h.nodup n]
  · intro m
    cases waits : (s.lock n).queue <;> grind [h.queue_eq_nil m]
  · intro a b i j k m
    simp only [uses]
    grind [h.shares_iff a b i j k m]
  · intro j m
    have own : s.Uses r j m → j = id ∧ m = n := fun used => used.unique (.of_active there)
    simp only [uses, listed, disposed]
    cases waits : (s.lock n).queue with
    | cons q rest =>
      -- whom the lock passes to uses it in place of the reader that is done
      have queued := first q (by rw [waits, List.head?_cons])
      have others : (∃ p, p ≠ r ∧ s.Uses p j m) ↔ ∃ p, s.Uses p j m := by
        constructor
        · rintro ⟨p, -, used⟩
          exact ⟨p, used⟩
        · rintro ⟨p, used⟩
          by_cases same : p = r
          · subst same
            obtain ⟨rfl, rfl⟩ := own used
            refine ⟨q, ?_, .of_waiting queued⟩
            rintro rfl
            cases there.symm.trans queued
          · exact ⟨p, same, used⟩
      rw [others, if_neg (by simp)]
      exact h.listed_iff j m
    | nil =>
      have only : ∀ p, s.Uses p j n → p = r := fun p used =>
        (h.eq_or_mem_queue there used).resolve_right (by simp [waits])
      have same : ∀ p, s.Uses p j m → (id = j ↔ n = m) := fun p => h.shares_iff r p id j n m (.of_active there)
      grind [h.listed_iff j m]

theorem enter (h : Orderly s) (unknown : s.reader? r = none) (live : s.isDisposed = false) :
    Orderly (s.enter r id) := by
  unfold State.enter
  split
  · rename_i n listed
    obtain ⟨-, q, used⟩ := (h.listed_iff id n).mp listed
    simp only [State.acquire, h.not_isFree used, Bool.false_eq_true, if_false]
    exact h.queue_up unknown used
  · rename_i unlisted
    have blank : ({ s with
        locks := s.locks ++ [Lock.mk none []], listed := s.listed ++ [(id, s.locks.length)] } : State).lock
          s.locks.length = ⟨none, []⟩ := by simp [State.lock]
    simp only [State.acquire, blank]
    exact h.make unknown live unlisted

theorem dispose (h : Orderly s) : Orderly { s with entries := [], listed := [], isDisposed := true } where
  holder_iff := h.holder_iff
  queue_iff := h.queue_iff
  nodup := h.nodup
  queue_eq_nil := h.queue_eq_nil
  shares_iff := h.shares_iff
  listed_iff := by simp

/-- No event leaves readers and locks at odds. -/
theorem step (h : Orderly s) {e : Event} (moves : Moves s e s') : Orderly s' := by
  cases moves with
  | refused unknown | served unknown => exact h.add_ended unknown _ _
  | entered unknown live => exact h.enter unknown live
  | shared there => exact h.finish there _
  | loads there _ _ _ askings => exact (h.congr s.entries s.now s.readings askings).rework there _
  | asks there askings => exact (h.congr s.entries s.now s.readings askings).rework there _
  | fails _ there => exact h.finish there _
  | keeps _ there _ readings => exact (h.congr _ s.now readings s.askings).finish there _
  | invalidated | cleared | ticked => exact h.congr _ _ s.readings s.askings
  | disposed => exact h.dispose

end Orderly

theorem Reachable.orderly (h : Reachable s) : Orderly s := by
  induction h with
  | new directory hasStore seconds now =>
    constructor <;> simp [State.lock, State.reader?, State.Uses]
  | step e _ h ih => exact ih.step (moves_of_step h)

/-! ## Where readers meet -/

/-- A reader that has a lock or waits for it. -/
def Phase.isEnded : Phase → Bool
  | ended _ => true
  | waiting _ | active _ _ => false

/-- No lock is listed once every reader has come to an end. -/
theorem Orderly.listed_eq_nil (h : Orderly s)
    (ended : ∀ r x, s.reader? r = some x → x.phase.isEnded = true) : s.listed = [] := by
  rcases found : s.listed with - | ⟨⟨id, n⟩, rest⟩
  · rfl
  · have listed : s.listed.lookup id = some n := by rw [found, List.lookup_cons_self]
    obtain ⟨-, r, p, there, lock⟩ := (h.listed_iff id n).mp listed
    have last := ended r _ there
    cases p <;> simp [Phase.isEnded] at lock last

end
end Letterpress.Catalogue
