import Letterpress.Proofs.Catalogue.Lock

/-!
# What an event means to a reader

The ways of an event, seen by a single reader, and by what is kept under a single identifier.

* `Moves.advances`: how far a reader that is under way gets.
* `Moves.starts`: where a new reader begins.
* `Moves.lookup_entries`: what becomes of a template that is kept.
* `after_keeps`, `Reachable.after`: runs of events.
-/

namespace Letterpress.Catalogue

namespace State

/-! ## What stays -/

/-- Giving a lock back concerns readers, locks and their list only. -/
theorem finish_eq (s : State) (r : Nat) (id : String) (n : Nat) (result : Except Failure Copy) :
    ∃ readers locks listed, s.finish r id n result = { s with readers, locks, listed } := by
  cases waits : (s.lock n).queue with
  | cons q rest => exact ⟨_, _, _, finish_of_cons waits r id result⟩
  | nil => exact ⟨_, _, _, finish_of_nil waits r id result⟩

theorem acquire_eq (s : State) (r : Nat) (id : String) (n : Nat) :
    ∃ l p, (p = .waiting n ∨ p = .active n .looking) ∧ s.acquire r id n = (s.setLock n l).addReader r id p := by
  cases free : (s.lock n).isFree with
  | true => exact ⟨_, _, .inr rfl, by simp only [acquire, free, if_true]; rfl⟩
  | false => exact ⟨_, _, .inl rfl, by simp only [acquire, free, Bool.false_eq_true, if_false]; rfl⟩

/-- A reader that enters has a lock or waits for it. -/
theorem enter_eq (s : State) (r : Nat) (id : String) :
    ∃ locks listed n p, (p = .waiting n ∨ p = .active n .looking) ∧
      s.enter r id = { s with locks, listed }.addReader r id p := by
  unfold enter
  split
  · rename_i n found
    obtain ⟨l, p, place, same⟩ := s.acquire_eq r id n
    exact ⟨_, _, n, p, place, same⟩
  · obtain ⟨l, p, place, same⟩ := { s with
      locks := s.locks ++ [Lock.mk none []], listed := s.listed ++ [(id, s.locks.length)] }.acquire_eq r id s.locks.length
    exact ⟨_, _, s.locks.length, p, place, same⟩

theorem reader?_enter {s : State} {r : Nat} (unknown : s.reader? r = none) (id : String) :
    ∃ n p, (p = .waiting n ∨ p = .active n .looking) ∧
      ∀ q, (s.enter r id).reader? q = if q = r then some ⟨id, p⟩ else s.reader? q := by
  obtain ⟨locks, listed, n, p, place, same⟩ := s.enter_eq r id
  refine ⟨n, p, place, fun q => ?_⟩
  rw [same]
  exact reader?_addReader (s := { s with locks, listed }) unknown id p q

/-- A template that is found is kept from now on, and the reader gives its lock back. -/
theorem keep_eq_finish (s : State) (r : Nat) (id : String) (n : Nat) (c : Copy) :
    ∃ entries, (∀ j, entries.lookup j = if j = id then some ⟨c, s.now⟩ else s.entries.lookup j) ∧
      s.keep r id n c = { s with entries }.finish r id n (.ok c) :=
  ⟨_, fun j => lookup_renewed j id ⟨c, s.now⟩ s.entries, rfl⟩

theorem lookup_keep (s : State) (r : Nat) (id : String) (n : Nat) (c : Copy) (j : String) :
    (s.keep r id n c).entries.lookup j = if j = id then some ⟨c, s.now⟩ else s.entries.lookup j := by
  obtain ⟨entries, lookup, kept⟩ := s.keep_eq_finish r id n c
  obtain ⟨_, _, _, same⟩ := { s with entries }.finish_eq r id n (.ok c)
  rw [kept, same]
  exact lookup j

theorem keep_eq (s : State) (r : Nat) (id : String) (n : Nat) (c : Copy) :
    ∃ entries readers locks listed, s.keep r id n c = { s with entries, readers, locks, listed } := by
  obtain ⟨entries, -, kept⟩ := s.keep_eq_finish r id n c
  obtain ⟨readers, locks, listed, same⟩ := { s with entries }.finish_eq r id n (.ok c)
  exact ⟨entries, readers, locks, listed, kept.trans same⟩

/-- A reader waits for a file or for the store. -/
def Loads (s : State) (r : Nat) (id : String) : Prop :=
  ∃ n w, s.reader? r = some ⟨id, .active n w⟩ ∧ w ≠ .looking

/-- A reader waits for the lock of its identifier. -/
def Waits (s : State) (r : Nat) (id : String) : Prop := ∃ n, s.reader? r = some ⟨id, .waiting n⟩

end State

/-- Whether an event takes a template away. -/
def Event.drops (id : String) : Event → Bool
  | .invalidate j => j == id
  | .clear | .dispose => true
  | .resolve _ _ | .resume _ | .fileRead _ _ | .storeAnswered _ _ | .tick _ => false

section

variable {s s' : State} {e : Event} {r q : Nat} {id : String} {p : Phase}

theorem Moves.hasSource (moves : Moves s e s') (id : String) : s'.hasSource id = s.hasSource id := by
  have finish (s : State) (r : Nat) (j : String) (n : Nat) (result : Except Failure Copy) :
      (s.finish r j n result).hasSource id = s.hasSource id := by
    obtain ⟨_, _, _, same⟩ := s.finish_eq r j n result
    rw [same]
    rfl
  cases moves with
  | entered =>
    rename_i r j _ _ _
    obtain ⟨_, _, _, _, _, same⟩ := s.enter_eq r j
    rw [same]
    rfl
  | shared | fails => exact finish ..
  | keeps => exact finish ..
  | _ => rfl

theorem Moves.isDisposed (moves : Moves s e s') (disposed : s.isDisposed = true) : s'.isDisposed = true := by
  cases moves with
  | entered _ live => cases disposed.symm.trans live
  | shared | fails => exact (State.isDisposed_finish ..).trans disposed
  | keeps => exact (State.isDisposed_finish ..).trans disposed
  | disposed => rfl
  | _ => exact disposed

/-! ## Readers -/

/-- How far an event takes a reader. -/
inductive Advances (s : State) (e : Event) (s' : State) (r : Nat) (id : String) : Phase → Phase → Prop where
  | stays (p : Phase) : Advances s e s' r id p p
  /-- the lock passes to the reader -/
  | handed {q n : Nat} {w : Work} (own : e.reader? = some q) (there : s.reader? q = some ⟨id, .active n w⟩) :
      Advances s e s' r id (.waiting n) (.active n .looking)
  | shares {n : Nat} {c : Copy} (own : e = .resume r) (fresh : s.fresh? id = some c) :
      Advances s e s' r id (.active n .looking) (.ended (.ok c))
  | loads {n : Nat} {w : Work} (own : e = .resume r) (missing : s.fresh? id = none) (sourced : s.hasSource id = true)
      (loading : w ≠ .looking) : Advances s e s' r id (.active n .looking) (.active n w)
  | asks {n : Nat} {file : List String} (own : e.reader? = some r) : Advances s e s' r id (.active n (.reading file)) (.active n .asking)
  | fails {n : Nat} {w : Work} {x : Failure} (own : e.reader? = some r)
      (unsourced : w = .looking → s.fresh? id = none ∧ s.hasSource id = false) :
      Advances s e s' r id (.active n w) (.ended (.error x))
  | delivers {n : Nat} {w : Work} {c : Copy} (own : e.reader? = some r) (loading : w ≠ .looking)
      (kept : s'.entries.lookup id = some ⟨c, s.now⟩) :
      Advances s e s' r id (.active n w) (.ended (.ok c))

/-- A reader that gives its lock back comes to its end, and the first that waits goes on. -/
theorem advances_finish {u : State} (h : Orderly u) (readers : u.reader? = s.reader?) {result : Except Failure Copy}
    {n : Nat} {j : String} {w : Work} (own : e.reader? = some q) (here : s.reader? q = some ⟨j, .active n w⟩)
    (ends : Advances s e s' q j (.active n w) (.ended result)) (there : s.reader? r = some ⟨id, p⟩) :
    ∃ p', (u.finish q j n result).reader? r = some ⟨id, p'⟩ ∧ Advances s e s' r id p p' := by
  have has : u.reader? q = some ⟨j, .active n w⟩ := by rw [readers, here]
  rw [h.reader?_finish has result r, readers]
  split
  · rename_i same
    subst same
    cases here.symm.trans there
    exact ⟨_, rfl, ends⟩
  · split
    · rename_i first
      have waiting := h.head_waiting has first
      rw [readers, there] at waiting
      cases waiting
      exact ⟨_, rfl, .handed own here⟩
    · exact ⟨p, there, .stays p⟩

/-- A reader goes on with its lock. -/
theorem advances_setPhase {n : Nat} {j : String} {v w : Work} (here : s.reader? q = some ⟨j, .active n v⟩)
    (goes : Advances s e s' q j (.active n v) (.active n w)) (there : s.reader? r = some ⟨id, p⟩) :
    ∃ p', (s.setPhase q (.active n w)).reader? r = some ⟨id, p'⟩ ∧ Advances s e s' r id p p' := by
  rw [State.reader?_setPhase, here]
  split
  · rename_i same
    subst same
    cases here.symm.trans there
    exact ⟨_, rfl, goes⟩
  · exact ⟨p, there, .stays p⟩

theorem Moves.advances (h : Orderly s) (moves : Moves s e s') (there : s.reader? r = some ⟨id, p⟩) :
    ∃ p', s'.reader? r = some ⟨id, p'⟩ ∧ Advances s e s' r id p p' := by
  have known {q : Nat} (unknown : s.reader? q = none) : r ≠ q := by
    rintro rfl
    cases unknown.symm.trans there
  cases moves with
  | refused unknown | served unknown =>
    rw [State.reader?_addReader unknown, if_neg (known unknown)]
    exact ⟨p, there, .stays p⟩
  | entered unknown =>
    obtain ⟨n, p', -, readers⟩ := State.reader?_enter unknown _
    rw [readers, if_neg (known unknown)]
    exact ⟨p, there, .stays p⟩
  | shared here fresh => exact advances_finish h rfl rfl here (.shares rfl fresh) there
  | loads here missing sourced loading => exact advances_setPhase here (.loads rfl missing sourced loading) there
  | asks here => exact advances_setPhase here (.asks rfl) there
  | fails own here unsourced => exact advances_finish h rfl own here (.fails own unsourced) there
  | keeps own here loading readings =>
    rename_i q j n w c
    have kept := State.lookup_keep { s with readings } q j n c j
    rw [if_pos rfl] at kept
    refine advances_finish (s := s) (h.congr _ s.now readings s.askings) ?_ own here (.delivers own loading kept) there
    rfl
  | invalidated | cleared | disposed | ticked => exact ⟨p, there, .stays p⟩

/-- Where a new reader begins. -/
inductive Starts (s : State) (id : String) : Phase → Prop where
  | refused (disposed : s.isDisposed = true) : Starts s id (.ended (.error (.disposed "TemplateResolver")))
  | served {c : Copy} (live : s.isDisposed = false) (fresh : s.fresh? id = some c) : Starts s id (.ended (.ok c))
  | queues {n : Nat} (live : s.isDisposed = false) : Starts s id (.waiting n)
  | opens {n : Nat} (live : s.isDisposed = false) : Starts s id (.active n .looking)

/-- Who gives a lock back, or gets it, is no new reader. -/
theorem reader?_finish_of_unknown {u : State} (h : Orderly u) {result : Except Failure Copy} {n : Nat} {j : String}
    {w : Work} (here : u.reader? q = some ⟨j, .active n w⟩) (unknown : u.reader? r = none) :
    (u.finish q j n result).reader? r = none := by
  rw [h.reader?_finish here result r, if_neg, if_neg, unknown]
  · intro first
    cases unknown.symm.trans (h.head_waiting here first)
  · rintro rfl
    cases unknown.symm.trans here

theorem Moves.starts (h : Orderly s) (moves : Moves s e s') (unknown : s.reader? r = none)
    (there : s'.reader? r = some ⟨id, p⟩) : e = .resolve r id ∧ Starts s id p := by
  have new {q : Nat} {x : Reader} (here : (if r = q then some x else s.reader? r) = some ⟨id, p⟩) :
      q = r ∧ x = ⟨id, p⟩ := by
    split at here
    · rename_i same
      exact ⟨same.symm, Option.some.inj here⟩
    · cases unknown.symm.trans here
  have still {q : Nat} {j : String} {p p' : Phase} (here : s.reader? q = some ⟨j, p⟩) :
      (s.setPhase q p').reader? r = none := by
    rw [State.reader?_setPhase, if_neg, unknown]
    rintro rfl
    cases unknown.symm.trans here
  cases moves with
  | refused other disposed =>
    obtain ⟨rfl, ⟨⟩⟩ := new ((State.reader?_addReader other ..).symm.trans there)
    exact ⟨rfl, .refused disposed⟩
  | served other live fresh =>
    obtain ⟨rfl, ⟨⟩⟩ := new ((State.reader?_addReader other ..).symm.trans there)
    exact ⟨rfl, .served live fresh⟩
  | entered other live =>
    obtain ⟨n, p', place, readers⟩ := State.reader?_enter other _
    obtain ⟨rfl, ⟨⟩⟩ := new ((readers r).symm.trans there)
    obtain rfl | rfl := place
    · exact ⟨rfl, .queues live⟩
    · exact ⟨rfl, .opens live⟩
  | shared here | fails _ here => cases (reader?_finish_of_unknown h here unknown).symm.trans there
  | keeps _ here _ readings =>
    cases (reader?_finish_of_unknown (h.congr _ s.now readings s.askings) here unknown).symm.trans there
  | loads here | asks here => cases (still here).symm.trans there
  | invalidated | cleared | disposed | ticked => cases unknown.symm.trans there

/-! ## Templates that are kept -/

theorem Moves.lookup_entries (h : Orderly s) (moves : Moves s e s') (id : String) :
    s'.entries.lookup id = s.entries.lookup id ∨
    (e.drops id = true ∧ s'.entries.lookup id = none) ∨
    ∃ r c, e.reader? = some r ∧ s.Loads r id ∧ s'.reader? r = some ⟨id, .ended (.ok c)⟩ ∧
      s'.entries.lookup id = some ⟨c, s.now⟩ := by
  have finished (u : State) (q : Nat) (j : String) (n : Nat) (result : Except Failure Copy) :
      (u.finish q j n result).entries = u.entries := by
    obtain ⟨_, _, _, same⟩ := u.finish_eq q j n result
    rw [same]
  cases moves with
  | refused | served | loads | asks | ticked => exact .inl rfl
  | entered =>
    rename_i r j _ _ _
    obtain ⟨_, _, _, _, _, same⟩ := s.enter_eq r j
    exact .inl (by rw [same]; rfl)
  | shared | fails => exact .inl (by rw [finished])
  | keeps own here loading readings =>
    rename_i r j n w c
    have kept := State.lookup_keep { s with readings } r j n c id
    by_cases same : id = j
    · subst same
      refine .inr (.inr ⟨r, c, own, ⟨n, w, here, loading⟩, ?_, by rw [kept, if_pos rfl]⟩)
      rw [State.keep, (h.congr _ s.now readings s.askings).reader?_finish here, if_pos rfl]
    · exact .inl (by rw [kept, if_neg same])
  | invalidated j =>
    rw [lookup_filter_ne]
    split
    · rename_i same
      exact .inr (.inl ⟨by simp [Event.drops, same], rfl⟩)
    · exact .inl rfl
  | cleared | disposed => exact .inr (.inl ⟨rfl, rfl⟩)

theorem State.fresh?_eq_some {x : Entry} (kept : s.entries.lookup id = some x) (fresh : s.isFresh x.since = true) :
    s.fresh? id = some x.copy := by
  rw [State.fresh?, kept, Option.filter_some, if_pos fresh, Option.map_some]

theorem step_resolve_of_fresh (unknown : s.reader? r = none) (live : s.isDisposed = false) {c : Copy}
    (found : s.fresh? id = some c) : step s (.resolve r id) = some (s.addReader r id (.ended (.ok c))) := by
  simp [step, State.begin_, unknown, live, found]

/-- What a file or the store answers may be a template. -/
theorem State.Loads.answered (loads : s.Loads r id) :
    ∃ e n c readings, e.reader? = some r ∧ step s e = some (({ s with readings } : State).keep r id n c) := by
  obtain ⟨n, w, there, loading⟩ := loads
  cases w with
  | looking => exact absurd rfl loading
  | reading file => exact ⟨.fileRead r (.ok []), n, _, s.readings + 1, rfl, by simp only [step, there]; rfl⟩
  | asking => exact ⟨.storeAnswered r (.ok (some default)), n, default, s.readings, rfl, by simp only [step, there]; rfl⟩

theorem State.exists_unknown (s : State) : ∃ r, s.reader? r = none := by
  suffices ∀ readers : List (Nat × Reader), ∃ b, ∀ r, b ≤ r → readers.lookup r = none by
    obtain ⟨b, free⟩ := this s.readers
    exact ⟨b, free b (Nat.le_refl b)⟩
  intro readers
  induction readers with
  | nil => exact ⟨0, fun _ _ => rfl⟩
  | cons x rest ih =>
    obtain ⟨b, free⟩ := ih
    refine ⟨max b (x.1 + 1), fun r beyond => ?_⟩
    rw [lookup_cons_ite, if_neg (by omega), free r (by omega)]

/-! ## Runs -/

theorem after_cons {es : List Event} {t : State} :
    after s (e :: es) = some t ↔ ∃ u, step s e = some u ∧ after u es = some t := by
  rw [after, Option.bind_eq_some_iff]

theorem after_append {before later : List Event} {t : State} :
    after s (before ++ later) = some t ↔ ∃ u, after s before = some u ∧ after u later = some t := by
  induction before generalizing s with
  | nil => simp [after]
  | cons e before ih =>
    simp only [List.cons_append, after_cons, ih]
    constructor
    · rintro ⟨v, go, u, first, rest⟩
      exact ⟨u, ⟨v, go, first⟩, rest⟩
    · rintro ⟨u, ⟨v, go, first⟩, rest⟩
      exact ⟨v, go, u, first, rest⟩

/-- What each event keeps, a run keeps. -/
theorem after_keeps {P : State → Prop} (keeps : ∀ {s e s'}, P s → step s e = some s' → P s') {es : List Event} {t : State}
    (run : after s es = some t) (start : P s) : P t := by
  induction es generalizing s with
  | nil =>
    obtain rfl := Option.some.inj run
    exact start
  | cons e es ih =>
    obtain ⟨u, first, rest⟩ := after_cons.mp run
    exact ih rest (keeps start first)

theorem Reachable.after {es : List Event} {t : State} (h : Reachable s) (run : after s es = some t) : Reachable t :=
  after_keeps (fun h go => .step _ h go) run h

end
end Letterpress.Catalogue
