import Letterpress.Proofs.Catalogue.Steady

/-!
# How readers come to their ends

A reader has a few steps at most before it, and as long as one is under way, somebody can take one.

* `State.rank`: how many steps a reader has before it.
* `rank_le_of_step`, `rank_lt_of_step`: no event takes it back, and its own take it on.
* `Steady.template_resolve`: a reader that is on its own comes to what is expected at its time.
-/

namespace Letterpress.Catalogue

variable {sources : Sources} {c s s' : State} {asked : Nat → Binary64} {t : Binary64} {e : Event}
  {r q n : Nat} {id : String} {p p' : Phase} {w : Work} {x : Reader}

/-! ## Steps ahead -/

/-- How many steps a reader has before it at most. -/
def Phase.rank : Phase → Nat
  | waiting _ => 4
  | active _ .looking => 3
  | active _ (.reading _) => 2
  | active _ .asking => 1
  | ended _ => 0

/-- One that is not there yet has to come first. -/
def State.rank (s : State) (r : Nat) : Nat := (s.reader? r).elim 5 fun x => x.phase.rank

theorem State.rank_eq (there : s.reader? r = some ⟨id, p⟩) : s.rank r = p.rank := by
  rw [State.rank, there, Option.elim_some]

theorem Phase.rank_le (p : Phase) : p.rank ≤ 4 := by
  rcases p with n | ⟨n, _ | file | -⟩ | result <;> simp [Phase.rank]

theorem Phase.rank_active_le (loading : w ≠ .looking) : (Phase.active n w).rank ≤ 2 := by
  cases w with
  | looking => exact absurd rfl loading
  | _ => simp [Phase.rank]

theorem Phase.rank_ofOpening_le {y : Except Failure Work} (loading : ∀ w, y = .ok w → w ≠ .looking) :
    (Phase.ofOpening n y).rank ≤ 2 := by
  cases y with
  | ok w => exact rank_active_le (loading w rfl)
  | error f => exact Nat.zero_le 2

theorem Advances.rank_le (far : Advances s e s' r id p p') : p'.rank ≤ p.rank := by
  cases far with
  | stays => exact Nat.le_refl _
  | loads _ _ _ loading => exact (Phase.rank_active_le loading).trans (by simp [Phase.rank])
  | _ => simp [Phase.rank]

theorem GoesOn.rank_lt (goes : GoesOn s id n e w p) : p.rank < (Phase.active n w).rank := by
  cases goes with
  | opens => exact Nat.lt_succ_of_le (Phase.rank_ofOpening_le fun w => opening_ne_looking)
  | passes =>
    cases opens : behindFiles s.hasStore id with
    | error f => simp [Phase.ofOpening, Phase.rank]
    | ok w =>
      obtain ⟨rfl, -⟩ := stored_of_behindFiles opens
      simp [Phase.ofOpening, Phase.rank]
  | _ => simp [Phase.rank]

theorem State.rank_le (s : State) (r : Nat) : s.rank r ≤ 5 := by
  rw [State.rank]
  cases s.reader? r with
  | none => exact Nat.le_refl 5
  | some x => exact Nat.le_succ_of_le x.phase.rank_le

/-- No event takes a reader back. -/
theorem rank_le_of_step (h : Orderly s) (go : step s e = some s') (r : Nat) : s'.rank r ≤ s.rank r := by
  cases before : s.reader? r with
  | none => simpa [State.rank, before] using s'.rank_le r
  | some x =>
    obtain ⟨id, p⟩ := x
    obtain ⟨p', after, far⟩ := (moves_of_step go).advances h before
    rw [State.rank_eq after, State.rank_eq before]
    exact far.rank_le

/-- An event of its own takes a reader on. -/
theorem rank_lt_of_step (h : Orderly s) (go : step s e = some s') (own : e.reader? = some r)
    (there : s.reader? r = some x) : s'.rank r < s.rank r := by
  obtain ⟨id, p⟩ := x
  obtain ⟨n, w, p', rfl, after, goes⟩ := step_own h go own there
  rw [State.rank_eq after, State.rank_eq there]
  exact goes.rank_lt

theorem readers_of_resolve (go : step s (.resolve r id) = some s') :
    ∃ p, s'.readers = s.readers ++ [(r, ⟨id, p⟩)] := by
  cases moves_of_step go with
  | refused | served => exact ⟨_, rfl⟩
  | entered =>
    obtain ⟨_, _, n, p, -, same⟩ := s.enter_eq r id
    exact ⟨p, by rw [same]; rfl⟩
  | fails own | keeps own => cases own

/-- Whoever comes is known from then on. -/
theorem reader?_of_resolve (go : step s (.resolve r id) = some s') : ∃ p, s'.reader? r = some ⟨id, p⟩ := by
  obtain ⟨p, readers⟩ := readers_of_resolve go
  refine ⟨p, ?_⟩
  rw [State.reader?, readers, List.lookup_append, show s.readers.lookup r = none from unknown_of_resolve go,
    Option.none_or, List.lookup_cons_self]

theorem rank_lt_of_resolve (go : step s (.resolve r id) = some s') : s'.rank r < s.rank r := by
  obtain ⟨p, after⟩ := reader?_of_resolve go
  rw [State.rank_eq after, State.rank, unknown_of_resolve go]
  exact Nat.lt_succ_of_le p.rank_le

/-! ## Somebody can go on -/

/-- What is due to a reader can occur. -/
theorem step_of_nextEvent? (there : s.reader? r = some x) (next : nextEvent? sources r x = some e) :
    ∃ s', step s e = some s' := by
  obtain ⟨id, n | ⟨n, _ | file | -⟩ | result⟩ := x <;> cases next <;> exact ⟨_, by simp only [step, there]; rfl⟩

/-- A reader that has its lock has something due. -/
theorem nextEvent?_active (sources : Sources) (r : Nat) (id : String) (n : Nat) (w : Work) :
    ∃ e, nextEvent? sources r ⟨id, .active n w⟩ = some e := by
  cases w <;> exact ⟨_, rfl⟩

/-- Whoever waits does so for a reader of the same identifier that has the lock. -/
theorem Orderly.holder_of_waiting (h : Orderly s) (waits : s.reader? r = some ⟨id, .waiting n⟩) :
    ∃ q w, s.reader? q = some ⟨id, .active n w⟩ := by
  have queued := (h.queue_iff n r).mpr ⟨id, waits⟩
  cases holder : (s.lock n).holder with
  | none => simp [h.queue_eq_nil n holder] at queued
  | some q =>
    obtain ⟨j, w, here⟩ := (h.holder_iff n q).mp holder
    obtain rfl : j = id := (h.shares_iff q r j id n n (.of_active here) (.of_waiting waits)).mpr rfl
    exact ⟨q, w, here⟩

/-- A reader that has come to its end has come to what was expected when it came. -/
theorem Steady.result?_of_ended (h : Steady sources c asked s) {result : Except Failure Copy}
    (there : s.reader? r = some ⟨id, .ended result⟩) :
    result? s r = some result ∧ result.map Copy.template = expected sources c (asked r) id := by
  cases h.readers r id _ there with
  | ended came => exact ⟨by rw [result?, there], came⟩

/-! ## A single reader -/

/-- A catalogue that nobody reads in. -/
structure Idle (c : State) : Prop where
  readers : c.readers = []
  listed : c.listed = []
  locks : ∀ l ∈ c.locks, l.isFree = true

theorem Idle.lock (idle : Idle c) (n : Nat) : (c.lock n).holder = none ∧ (c.lock n).queue = [] := by
  have free : (c.lock n).isFree = true := by
    rw [State.lock, List.getD_eq_getElem?_getD]
    cases found : c.locks[n]? with
    | none => rfl
    | some l => exact idle.locks l (List.mem_of_getElem? found)
  simpa [Lock.isFree] using free

/-- A catalogue that nobody reads in is at the beginning of its way. -/
theorem Idle.steady (idle : Idle c) (sources : Sources) (asked : Nat → Binary64) (t : Binary64) :
    Steady sources c asked (c.atTime t) := by
  have unknown (r : Nat) : (c.atTime t).reader? r = none := by
    rw [State.reader?, show (c.atTime t).readers = [] from idle.readers, List.lookup_nil]
  have lock (n : Nat) : ((c.atTime t).lock n).holder = none ∧ ((c.atTime t).lock n).queue = [] := idle.lock n
  have unused (r : Nat) (id : String) (n : Nat) : ¬ (c.atTime t).Uses r id n := State.not_uses (unknown r)
  refine ⟨⟨?_, ?_, ?_, ?_, ?_, ?_⟩, ⟨rfl, rfl, rfl⟩, rfl, fun id => .first, ?_⟩
  · simp [lock, unknown]
  · simp [lock, unknown]
  · simp [lock]
  · simp [lock]
  · simp [unused]
  · simp only [unused, exists_false, and_false, iff_false]
    rw [show (c.atTime t).listed = [] from idle.listed]
    simp
  · simp [unknown]

/-- Going on, readers stay the same. -/
theorem keys_of_step (go : step s e = some s') (own : e.reader? = some r) :
    s'.readers.map Prod.fst = s.readers.map Prod.fst := by
  have setPhase (u : State) (q : Nat) (p : Phase) : (u.setPhase q p).readers.map Prod.fst = u.readers.map Prod.fst := by
    simp only [State.setPhase, List.map_map]
    refine List.map_congr_left fun y _ => ?_
    simp only [Function.comp_apply]
    split <;> rfl
  have finish (u : State) (q : Nat) (j : String) (n : Nat) (result : Except Failure Copy) :
      (u.finish q j n result).readers.map Prod.fst = u.readers.map Prod.fst := by
    cases waits : (u.lock n).queue with
    | cons first rest =>
      rw [State.finish_of_cons waits, setPhase]
      exact setPhase u q (.ended result)
    | nil =>
      rw [State.finish_of_nil waits]
      exact setPhase u q (.ended result)
  cases moves_of_step go with
  | refused | served | entered | invalidated | cleared | disposed | ticked => cases own
  | loads _ _ _ _ askings => exact setPhase { s with askings } _ _
  | asks _ askings => exact setPhase { s with askings } _ _
  | shared | fails => exact finish ..
  | keeps => exact finish ..

section

variable (only : s.readers = [(r, ⟨id, p⟩)])
include only

theorem reader?_alone (q : Nat) : s.reader? q = if q = r then some ⟨id, p⟩ else none := by
  rw [State.reader?, only, lookup_cons_ite, List.lookup_nil]

/-- A reader that is the only one has nobody to wait for. -/
theorem Orderly.not_waiting_alone (h : Orderly s) : p ≠ .waiting n := by
  rintro rfl
  obtain ⟨q, w, here⟩ := h.holder_of_waiting ((reader?_alone only r).trans (if_pos rfl))
  rw [reader?_alone only] at here
  split at here <;> cases here

theorem Steady.advance?_alone (h : Steady sources c asked s) :
    (∃ result, p = .ended result ∧ advance? sources s = none) ∨
      ∃ s' p', advance? sources s = some s' ∧ Steady sources c asked s' ∧ s'.readers = [(r, ⟨id, p'⟩)] ∧
        p'.rank < p.rank := by
  have there : s.reader? r = some ⟨id, p⟩ := (reader?_alone only r).trans (if_pos rfl)
  have due : advance? sources s = (nextEvent? sources r ⟨id, p⟩).bind (Catalogue.step s) := by
    simp [advance?, only]
  cases p with
  | waiting n => exact absurd rfl (h.orderly.not_waiting_alone only)
  | ended result => exact .inl ⟨result, rfl, due⟩
  | active n w =>
    obtain ⟨e, next⟩ := nextEvent?_active sources r id n w
    obtain ⟨s', go⟩ := step_of_nextEvent? there next
    have own := reader?_of_nextEvent? next
    obtain ⟨m, v, p', same, after, goes⟩ := step_own h.orderly go own there
    cases same
    refine .inr ⟨s', p', by rw [due, next, Option.bind_some, go], h.step (.goesOn there next) go (.of_reader? own), ?_,
      goes.rank_lt⟩
    -- the list of readers has kept its one key
    have keys := keys_of_step go own
    rw [only, List.map_singleton] at keys
    obtain ⟨⟨k, y⟩, single, same⟩ := List.map_eq_singleton_iff.mp keys
    obtain rfl : k = r := same
    rw [State.reader?, single, List.lookup_cons_self] at after
    rw [single, Option.some.inj after]

end

/-- A reader that is the only one comes to its end. -/
theorem Steady.settle_alone {k : Nat} (h : Steady sources c asked s) (only : s.readers = [(r, ⟨id, p⟩)])
    (bound : p.rank ≤ k) :
    ∃ result, result? (settle sources s k) r = some result ∧
      result.map Copy.template = expected sources c (asked r) id := by
  induction k generalizing s p with
  | zero =>
    obtain ⟨result, rfl, -⟩ | ⟨s', p', -, -, -, less⟩ := h.advance?_alone only
    · exact ⟨result, h.result?_of_ended ((reader?_alone only r).trans (if_pos rfl))⟩
    · omega
  | succ k ih =>
    obtain ⟨result, rfl, stuck⟩ | ⟨s', p', next, h', only', less⟩ := h.advance?_alone only
    · rw [settle, stuck]
      exact ⟨result, h.result?_of_ended ((reader?_alone only r).trans (if_pos rfl))⟩
    · rw [settle, next]
      exact ih h' only' (by omega)

/-- A reader that has the catalogue for itself comes to what is expected at its time. -/
theorem Idle.template_resolve (idle : Idle c) (sources : Sources) (t : Binary64) (id : String) :
    (resolve sources (c.atTime t) id).1.map Copy.template = expected sources c t id := by
  have steady := idle.steady sources (fun _ => t) t
  have none_ : (c.atTime t).readers = [] := idle.readers
  obtain ⟨s, go⟩ : ∃ s, Catalogue.step (c.atTime t) (.resolve 0 id) = some s := by
    simp [Catalogue.step, State.reader?, none_]
  obtain ⟨p, only⟩ := readers_of_resolve go
  rw [none_, List.nil_append] at only
  have steady' : Steady sources c (fun _ => t) s := steady.step (.comes 0 id) go ⟨fun _ _ _ => rfl, fun _ _ _ => rfl⟩
  have bound : p.rank ≤ 3 * s.readers.length := by
    rw [only]
    rcases p with n | ⟨n, _ | file | -⟩ | result <;> simp [Phase.rank]
    exact steady'.orderly.not_waiting_alone only rfl
  obtain ⟨result, came, same⟩ := steady'.settle_alone only bound
  have whole : (resolve sources (c.atTime t) id).1 = result := by
    simp only [resolve, none_, List.length_nil, go, Option.getD_some, run, came]
  rw [whole, same]

end Letterpress.Catalogue
