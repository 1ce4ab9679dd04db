import Letterpress.Proofs.Catalogue.Reader

/-!
# One load for all

Readers that want the same template at the same time share a single load.

* `Served`: a reader has the template that is kept, or stands in line for it behind readers who will find it too.
* `Served.step`, `Served.run`: no event takes its place in line from a reader, as long as the template is kept.
* `Served.arrives`: the line moves on.
* `single_flight`: what this comes to for a catalogue in use.
-/

namespace Letterpress.Catalogue

variable {s s' t : State} {e : Event} {es : List Event} {r q n : Nat} {id : String} {w : Work} {x : Entry}

theorem Orderly.loads_unique (h : Orderly s) (a : s.Loads r id) (b : s.Loads q id) : r = q := by
  obtain ⟨n, w, here, -⟩ := a
  obtain ⟨m, w', there, -⟩ := b
  obtain rfl : n = m := (h.shares_iff r q id id n m (.of_active here) (.of_active there)).mp rfl
  exact h.holder_unique there here

/-! ## Standing in line -/

/-- A reader has a template that is kept, or it waits behind readers none of whom has to load it. -/
inductive Served (s : State) (id : String) (x : Entry) (q : Nat) : Prop where
  | done (there : s.reader? q = some ⟨id, .ended (.ok x.copy)⟩)
  | inLine {n r : Nat} (kept : s.entries.lookup id = some x) (first : s.reader? r = some ⟨id, .active n .looking⟩)
      (place : q = r ∨ s.reader? q = some ⟨id, .waiting n⟩)

/-- When a reader gives its lock back, the next one is about to look. -/
theorem next_looks (h : Orderly s) (h' : Orderly s') (moves : Moves s e s')
    (first : s.reader? r = some ⟨id, .active n w⟩) {result : Except Failure Copy}
    (ended : s'.reader? r = some ⟨id, .ended result⟩) (waits : s.reader? q = some ⟨id, .waiting n⟩) :
    ∃ p, s'.reader? p = some ⟨id, .active n .looking⟩ ∧ (q = p ∨ s'.reader? q = some ⟨id, .waiting n⟩) := by
  obtain ⟨p', there, far⟩ := moves.advances h waits
  cases far with
  | handed => exact ⟨q, there, .inl rfl⟩
  | stays =>
    have queued := (h'.queue_iff n q).mpr ⟨id, there⟩
    cases holder : (s'.lock n).holder with
    | none => simp [h'.queue_eq_nil n holder] at queued
    | some p =>
      obtain ⟨j, w', here⟩ := (h'.holder_iff n p).mp holder
      obtain rfl : j = id := (h'.shares_iff p q j id n n (.of_active here) (.of_waiting there)).mpr rfl
      -- who has the lock now did not have it before, so it has only begun
      suffices w' = .looking by
        subst this
        exact ⟨p, here, .inr there⟩
      have other {v : Work} (before : s.reader? p = some ⟨j, .active n v⟩) : False := by
        obtain rfl := h.holder_unique first before
        cases ended.symm.trans here
      cases before : s.reader? p with
      | none =>
        obtain ⟨-, start⟩ := moves.starts h before here
        cases start
        rfl
      | some y =>
        obtain ⟨i, p'⟩ := y
        obtain ⟨p'', after, far⟩ := moves.advances h before
        cases after.symm.trans here
        cases far with
        | handed => rfl
        | stays | loads | asks => exact (other before).elim

theorem Served.step (h : Orderly s) (h' : Orderly s') (moves : Moves s e s') (stays : e.drops id = false)
    (fresh : s.isFresh x.since = true) (served : Served s id x q) : Served s' id x q := by
  cases served with
  | done there =>
    obtain ⟨p, there', far⟩ := moves.advances h there
    cases far
    exact .done there'
  | inLine kept first place =>
    rename_i n r
    have found := State.fresh?_eq_some kept fresh
    have kept' : s'.entries.lookup id = some x := by
      obtain same | ⟨drops, -⟩ | ⟨p, c, -, ⟨m, w, here, loading⟩, -, -⟩ := moves.lookup_entries h id
      · rw [same, kept]
      · cases stays.symm.trans drops
      · -- nobody loads the template, since the lock is with a reader that is about to look
        obtain rfl : m = n := (h.shares_iff p r id id m n (.of_active here) (.of_active first)).mp rfl
        obtain rfl := h.holder_unique first here
        cases first.symm.trans here
        exact absurd rfl loading
    obtain ⟨p, first', far⟩ := moves.advances h first
    cases far with
    | stays =>
      obtain rfl | waits := place
      · exact .inLine kept' first' (.inl rfl)
      · obtain ⟨p, there, far⟩ := moves.advances h waits
        cases far with
        | stays => exact .inLine kept' first' (.inr there)
        | handed => exact .inLine kept' there (.inl rfl)
    | shares own fresh' =>
      obtain rfl := Option.some.inj (found.symm.trans fresh')
      obtain rfl | waits := place
      · exact .done first'
      · obtain ⟨p, first'', place⟩ := next_looks h h' moves first first' waits
        exact .inLine kept' first'' place
    | loads own missing => cases found.symm.trans missing
    | fails own unsourced => cases found.symm.trans (unsourced rfl).1
    | delivers own loading => exact absurd rfl loading

/-- Whoever waits for the reader that loads a template stands in line once it is loaded. -/
theorem Served.of_delivery (h : Orderly s) (h' : Orderly s') (moves : Moves s e s') (loads : s.Loads r id) {c : Copy}
    (given : s'.reader? r = some ⟨id, .ended (.ok c)⟩) (waits : s.Waits q id) : Served s' id ⟨c, s.now⟩ q := by
  obtain ⟨n, w, first, loading⟩ := loads
  obtain ⟨m, there⟩ := waits
  obtain rfl : m = n := (h.shares_iff q r id id m n (.of_waiting there) (.of_active first)).mp rfl
  obtain ⟨p, given', far⟩ := moves.advances h first
  cases given'.symm.trans given
  cases far with
  | shares => exact absurd rfl loading
  | delivers own loading kept =>
    obtain ⟨p, first', place⟩ := next_looks h h' moves first given there
    exact .inLine kept first' place

/-- A run in which a template is neither dropped nor too old at any time that an event occurs. -/
def Undisturbed (id : String) (since : Binary64) (s : State) (es : List Event) : Prop :=
  ∀ before e later, es = before ++ e :: later →
    e.drops id = false ∧ ∀ u, after s before = some u → u.isFresh since = true

theorem Undisturbed.of_cons {since : Binary64} (h : Undisturbed id since s (e :: es)) (go : step s e = some s') :
    e.drops id = false ∧ s.isFresh since = true ∧ Undisturbed id since s' es := by
  obtain ⟨stays, fresh⟩ := h [] e es rfl
  refine ⟨stays, fresh s rfl, ?_⟩
  rintro before d later rfl
  obtain ⟨stays, fresh⟩ := h (e :: before) d later rfl
  exact ⟨stays, fun u run => fresh u (after_cons.mpr ⟨s', go, run⟩)⟩

theorem Served.run (reached : Reachable s) (run : after s es = some t) (calm : Undisturbed id x.since s es)
    (served : Served s id x q) : Served t id x q := by
  induction es generalizing s with
  | nil =>
    obtain rfl := Option.some.inj run
    exact served
  | cons e es ih =>
    obtain ⟨u, go, rest⟩ := after_cons.mp run
    obtain ⟨stays, fresh, calm⟩ := calm.of_cons go
    have next : Reachable u := .step e reached go
    exact ih next rest calm (served.step reached.orderly next.orderly (moves_of_step go) stays fresh)

/-! ## The line moves on -/

/-- Whoever is first in line finds the template. -/
theorem step_resume (first : s.reader? r = some ⟨id, .active n .looking⟩) {c : Copy} (found : s.fresh? id = some c) :
    step s (.resume r) = some (s.finish r id n (.ok c)) := by
  simp only [step, first, State.look, found]

/-- The line behind a reader moves up when it gives its lock back. -/
theorem Orderly.moves_up (h : Orderly s) (first : s.reader? r = some ⟨id, .active n w⟩) {p : Nat} {rest : List Nat}
    (line : (s.lock n).queue = p :: rest) (result : Except Failure Copy) :
    (s.finish r id n result).reader? p = some ⟨id, .active n .looking⟩ ∧
      ((s.finish r id n result).lock n).queue = rest ∧
      ∀ q, s.reader? q = some ⟨id, .waiting n⟩ →
        q = p ∨ (s.finish r id n result).reader? q = some ⟨id, .waiting n⟩ := by
  have readers := h.reader?_finish first result
  have locks := State.lock_finish (h.lt_of_uses (.of_active first)) r id result n
  have other {q : Nat} (waits : s.reader? q = some ⟨id, .waiting n⟩) : q ≠ r := by
    rintro rfl
    cases first.symm.trans waits
  have next := h.head_waiting first (q := p) (by rw [line, List.head?_cons])
  rw [line, List.head?_cons] at readers
  refine ⟨?_, ?_, fun q waits => ?_⟩
  · rw [readers, if_neg (other next), if_pos rfl]
  · rw [locks, if_pos rfl, line, List.tail_cons]
  · by_cases here : p = q
    · exact .inl here.symm
    · exact .inr (by rw [readers, if_neg (other waits), if_neg (by simpa using here), waits])

theorem Served.arrives (reached : Reachable s) (fresh : s.isFresh x.since = true) (served : Served s id x q) :
    ∃ (rs : List Nat) (u : State),
      after s (rs.map .resume) = some u ∧ u.reader? q = some ⟨id, .ended (.ok x.copy)⟩ := by
  cases served with
  | done there => exact ⟨[], s, rfl, there⟩
  | inLine kept first place =>
    rename_i n r
    -- on the readers that wait behind the first
    induction line : (s.lock n).queue generalizing s r with
    | nil =>
      have go := step_resume first (State.fresh?_eq_some kept fresh)
      obtain rfl | waits := place
      · exact ⟨[q], _, after_cons.mpr ⟨_, go, rfl⟩, by rw [reached.orderly.reader?_finish first, if_pos rfl]⟩
      · have queued := (reached.orderly.queue_iff n q).mpr ⟨id, waits⟩
        simp [line] at queued
    | cons p rest ih =>
      have go := step_resume first (State.fresh?_eq_some kept fresh)
      obtain rfl | waits := place
      · exact ⟨[q], _, after_cons.mpr ⟨_, go, rfl⟩, by rw [reached.orderly.reader?_finish first, if_pos rfl]⟩
      · obtain ⟨next, behind, still⟩ := reached.orderly.moves_up first line (.ok x.copy)
        obtain ⟨_, _, _, same⟩ := s.finish_eq r id n (.ok x.copy)
        have fresh' : (s.finish r id n (.ok x.copy)).isFresh x.since = true := by
          rw [same]
          exact fresh
        have kept' : (s.finish r id n (.ok x.copy)).entries.lookup id = some x := by
          rw [same]
          exact kept
        obtain ⟨rs, u, run, there⟩ := ih (.step _ reached go) fresh' kept' next (still q waits) behind
        exact ⟨r :: rs, u, after_cons.mpr ⟨_, go, run⟩, there⟩

/-- As long as a reader stands in line, somebody can go on. -/
theorem Served.done_of_idle (idle : ∀ p, Catalogue.step s (.resume p) = none) (served : Served s id x q) :
    s.reader? q = some ⟨id, .ended (.ok x.copy)⟩ := by
  cases served with
  | done there => exact there
  | inLine kept first place =>
    rename_i n r
    have stuck := idle r
    simp [Catalogue.step, first] at stuck

theorem Served.not_loads (served : Served s id x q) : ¬ s.Loads q id := by
  rintro ⟨n, w, here, loading⟩
  cases served with
  | done there => cases there.symm.trans here
  | inLine kept first place =>
    obtain rfl | waits := place
    · cases first.symm.trans here
      exact loading rfl
    · cases waits.symm.trans here

theorem Served.result?_eq (served : Served s id x q) {result : Except Failure Copy} (found : result? s q = some result) :
    result = .ok x.copy := by
  unfold result? at found
  cases served with
  | done there =>
    rw [there] at found
    exact (Option.some.inj found).symm
  | inLine kept first place =>
    obtain rfl | waits := place
    · rw [first] at found
      cases found
    · rw [waits] at found
      cases found

/-! ## A catalogue in use -/

/-- At no time does more than one reader load a template. Once it is loaded, everybody who waits for it gets it without
a load of their own: as long as it is kept and fresh they come to nothing else, they can come to it by taking turns,
and they have come to it when no turn is left. No lock is listed when every reader has come to its end. -/
theorem single_flight (reached : Reachable s) :
    (∀ r q id, s.Loads r id → s.Loads q id → r = q) ∧
    (∀ e s' r id c, step s e = some s' → s.Loads r id → s'.reader? r = some ⟨id, .ended (.ok c)⟩ →
      ∀ q, s.Waits q id → ∀ es t, after s' es = some t → Undisturbed id s.now s' es →
        ¬ t.Loads q id ∧
        (∀ result, result? t q = some result → result = .ok c) ∧
        ((∀ p, step t (.resume p) = none) → result? t q = some (.ok c)) ∧
        (t.isFresh s.now = true →
          ∃ (rs : List Nat) (u : State), after t (rs.map .resume) = some u ∧ result? u q = some (.ok c))) ∧
    ((∀ r x, s.reader? r = some x → x.phase.isEnded = true) → s.listed = []) := by
  have orderly := reached.orderly
  have came {u : State} {q : Nat} {id : String} {c : Copy} (there : u.reader? q = some ⟨id, .ended (.ok c)⟩) :
      result? u q = some (.ok c) := by
    rw [result?, there]
  refine ⟨fun r q id => orderly.loads_unique, ?_, orderly.listed_eq_nil⟩
  intro e s' r id c go loads given q waits es t run calm
  have next : Reachable s' := .step e reached go
  have served := Served.of_delivery orderly next.orderly (moves_of_step go) loads given waits
  have served := served.run next run calm
  refine ⟨served.not_loads, fun result => served.result?_eq, fun idle => came (served.done_of_idle idle), ?_⟩
  intro fresh
  obtain ⟨rs, u, turns, there⟩ := served.arrives (next.after run) fresh
  exact ⟨rs, u, turns, came there⟩

/-- Two readers of a template, while the store is asked for the first of them. -/
theorem single_flight_two_readers :
    ∃ s, Reachable s ∧ s.Loads 0 "invoice" ∧ s.Waits 1 "invoice" ∧
      ∀ c, ∃ s' u, step s (.storeAnswered 0 (.ok (some c))) = some s' ∧ ¬ s'.Loads 1 "invoice" ∧
        (∃ rs : List Nat, after s' (rs.map .resume) = some u) ∧ result? u 1 = some (.ok c) := by
  let s : State :=
    { directory := "/templates", hasStore := true, seconds := .ofInt 60, now := .ofInt 1000
      locks := [⟨some 0, [1]⟩], listed := [("invoice", 0)]
      readers := [(0, ⟨"invoice", .active 0 .asking⟩), (1, ⟨"invoice", .waiting 0⟩)], askings := 1 }
  have reached : Reachable s :=
    .step (.resume 0) (.step (.resolve 1 "invoice") (.step (.resolve 0 "invoice") (.new "/templates" true _ _) rfl) rfl) rfl
  have loads : s.Loads 0 "invoice" := ⟨0, .asking, rfl, by decide⟩
  have waits : s.Waits 1 "invoice" := ⟨0, rfl⟩
  have fresh : s.isFresh s.now = true := by decide +kernel
  refine ⟨s, reached, loads, waits, fun c => ?_⟩
  obtain ⟨-, together, -⟩ := single_flight reached
  have calm : ∀ s', Undisturbed "invoice" s.now s' [] := by
    intro s' before e later none
    simp at none
  obtain ⟨idle, -, -, turns⟩ := together (.storeAnswered 0 (.ok (some c))) _ 0 "invoice" c rfl loads rfl 1 waits [] _ rfl
    (calm _)
  obtain ⟨rs, u, run, there⟩ := turns fresh
  exact ⟨_, u, rfl, idle, ⟨rs, run⟩, there⟩

end Letterpress.Catalogue
