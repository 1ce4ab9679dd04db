import Letterpress.Proofs.Catalogue.Reader

/-!
# Dropping templates

Whatever a reader is given was kept when the run began, or was loaded in its course.

* `Delivers`: an event of a run gives a template to a reader that waits for a file or for the store.
* `delivered`: where templates come from.
* `dropped_for_good_iff`: a template that is dropped stays away unless it is being loaded just then.
-/

namespace Letterpress.Catalogue

variable {s s' t : State} {e : Event} {es : List Event} {r p : Nat} {id : String} {c : Copy}

/-- In a run, a load of a reader comes to a template. -/
def Delivers (s : State) (es : List Event) (p : Nat) (id : String) (c : Copy) : Prop :=
  ∃ before e later u u', es = before ++ e :: later ∧ after s before = some u ∧ step u e = some u' ∧
    u.Loads p id ∧ u'.reader? p = some ⟨id, .ended (.ok c)⟩

theorem not_delivers_nil : ¬ Delivers s [] p id c := by
  rintro ⟨before, e, later, u, u', none, -⟩
  simp at none

/-- A load of a run ends with the first event or later. -/
theorem delivers_cons (go : step s e = some s') :
    Delivers s (e :: es) p id c ↔
      s.Loads p id ∧ s'.reader? p = some ⟨id, .ended (.ok c)⟩ ∨ Delivers s' es p id c := by
  constructor
  · rintro ⟨before, d, later, u, u', split, run, go', loads, given⟩
    cases before with
    | nil =>
      cases split
      cases run
      cases go.symm.trans go'
      exact .inl ⟨loads, given⟩
    | cons d' before =>
      cases split
      obtain ⟨v, go'', run⟩ := after_cons.mp run
      cases go.symm.trans go''
      exact .inr ⟨before, d, later, u, u', rfl, run, go', loads, given⟩
  · rintro (⟨loads, given⟩ | ⟨before, d, later, u, u', rfl, run, go', loads, given⟩)
    · exact ⟨[], e, es, s, s', rfl, rfl, go, loads, given⟩
    · exact ⟨e :: before, d, later, u, u', rfl, after_cons.mpr ⟨s', go, run⟩, go', loads, given⟩

/-- A copy is kept, fresh or not. -/
def State.Has (s : State) (id : String) (c : Copy) : Prop := ∃ since, s.entries.lookup id = some ⟨c, since⟩

theorem State.has_of_fresh (fresh : s.fresh? id = some c) : s.Has id c := by
  obtain ⟨x, kept, rfl⟩ := Option.map_eq_some_iff.mp fresh
  exact ⟨x.since, (Option.filter_eq_some_iff.mp kept).1⟩

/-- Where a copy that is kept comes from. -/
theorem Moves.has (h : Orderly s) (moves : Moves s e s') (kept : s'.Has id c) :
    s.Has id c ∨ ∃ p, s.Loads p id ∧ s'.reader? p = some ⟨id, .ended (.ok c)⟩ := by
  obtain ⟨since, kept⟩ := kept
  obtain same | ⟨-, gone⟩ | ⟨p, c', -, loads, given, kept'⟩ := moves.lookup_entries h id
  · exact .inl ⟨since, same ▸ kept⟩
  · cases gone.symm.trans kept
  · cases kept'.symm.trans kept
    exact .inr ⟨p, loads, given⟩

/-- Where a copy that a reader has comes from. -/
theorem Moves.comes (h : Orderly s) (moves : Moves s e s') (given : s'.reader? r = some ⟨id, .ended (.ok c)⟩) :
    s.reader? r = some ⟨id, .ended (.ok c)⟩ ∨ s.Has id c ∨ s.Loads r id := by
  cases before : s.reader? r with
  | none =>
    obtain ⟨-, start⟩ := moves.starts h before given
    cases start with
    | served live fresh => exact .inr (.inl (State.has_of_fresh fresh))
  | some y =>
    obtain ⟨j, p⟩ := y
    obtain ⟨p', there, far⟩ := moves.advances h before
    cases there.symm.trans given
    cases far with
    | stays => exact .inl rfl
    | shares own fresh => exact .inr (.inl (State.has_of_fresh fresh))
    | delivers own loading => exact .inr (.inr ⟨_, _, before, loading⟩)

/-- Whatever a reader has after a run, it had before, or it was kept before, or it was loaded in the course of it. -/
theorem delivered (reached : Reachable s) (run : after s es = some t) :
    (t.Has id c → s.Has id c ∨ ∃ p, Delivers s es p id c) ∧
    (t.reader? r = some ⟨id, .ended (.ok c)⟩ →
      s.reader? r = some ⟨id, .ended (.ok c)⟩ ∨ s.Has id c ∨ ∃ p, Delivers s es p id c) := by
  induction es generalizing s with
  | nil =>
    obtain rfl := Option.some.inj run
    exact ⟨.inl, .inl⟩
  | cons e es ih =>
    obtain ⟨u, go, rest⟩ := after_cons.mp run
    have moves := moves_of_step go
    have orderly := reached.orderly
    obtain ⟨kept, given⟩ := ih (.step e reached go) rest
    have later : (∃ p, Delivers u es p id c) → ∃ p, Delivers s (e :: es) p id c := by
      rintro ⟨p, delivers⟩
      exact ⟨p, (delivers_cons go).mpr (.inr delivers)⟩
    have had : u.Has id c → s.Has id c ∨ ∃ p, Delivers s (e :: es) p id c := by
      intro has
      obtain has | ⟨p, first⟩ := moves.has orderly has
      · exact .inl has
      · exact .inr ⟨p, (delivers_cons go).mpr (.inl first)⟩
    constructor
    · intro has
      obtain has | delivers := kept has
      · exact had has
      · exact .inr (later delivers)
    · intro there
      obtain there | has | delivers := given there
      · obtain there' | has | loads := moves.comes orderly there
        · exact .inl there'
        · exact .inr (.inl has)
        · exact .inr (.inr ⟨r, (delivers_cons go).mpr (.inl ⟨loads, there⟩)⟩)
      · exact .inr (had has)
      · exact .inr (.inr (later delivers))

/-- An event that drops a template leaves the readers alone. -/
theorem step_of_drops (go : step s e = some s') (drops : e.drops id = true) :
    s'.readers = s.readers ∧ s'.entries.lookup id = none := by
  cases e with
  | invalidate j =>
    obtain rfl := Option.some.inj go
    obtain rfl : j = id := by simpa [Event.drops] using drops
    exact ⟨rfl, (lookup_filter_ne j j s.entries).trans (if_pos rfl)⟩
  | clear | dispose =>
    obtain rfl := Option.some.inj go
    exact ⟨rfl, rfl⟩
  | _ => cases drops

/-- A load that is under way ends in a template that is kept and given to whoever comes next. -/
theorem State.Loads.outlives (reached : Reachable s) (live : s.isDisposed = false) (fresh : s.isFresh s.now = true)
    (loads : s.Loads p id) :
    ∃ d q c u, s.reader? q = none ∧ step s d = some u ∧ u.reader? q = none ∧
      step u (.resolve q id) = some (u.addReader q id (.ended (.ok c))) := by
  obtain ⟨d, n, c, readings, own, answer⟩ := loads.answered
  obtain ⟨q, unknown⟩ := s.exists_unknown
  generalize found : ({ s with readings } : State).keep p id n c = u at answer
  have kept : u.entries.lookup id = some ⟨c, s.now⟩ := by
    rw [← found]
    exact (State.lookup_keep { s with readings } p id n c id).trans (if_pos rfl)
  obtain ⟨entries, readers, locks, listed, same⟩ := State.keep_eq { s with readings } p id n c
  rw [found] at same
  have new : u.reader? q = none := by
    cases there : u.reader? q with
    | none => rfl
    | some y =>
      obtain ⟨resolves, -⟩ := (moves_of_step answer).starts reached.orderly unknown there
      rw [resolves] at own
      cases own
  have start : step u (.resolve q id) = some (u.addReader q id (.ended (.ok c))) := by
    refine step_resolve_of_fresh new ?_ (State.fresh?_eq_some kept ?_)
    · rw [same]
      exact live
    · rw [same]
      exact fresh
  exact ⟨d, q, c, u, unknown, answer, new, start⟩

/-- A template that has been dropped is not given out again, except by loads that begin later: exactly if none is under
way when it is dropped. -/
theorem dropped_for_good_iff (reached : Reachable s) (go : step s e = some s') (drops : e.drops id = true)
    (live : s'.isDisposed = false) (fresh : s'.isFresh s'.now = true) :
    (∀ es t r c, after s' es = some t → s'.reader? r = none → t.reader? r = some ⟨id, .ended (.ok c)⟩ →
      ∃ p, ¬ s.Loads p id ∧ Delivers s' es p id c) ↔ ∀ p, ¬ s.Loads p id := by
  have next : Reachable s' := .step e reached go
  obtain ⟨readers, gone⟩ := step_of_drops go drops
  have loads_iff : ∀ p, s'.Loads p id ↔ s.Loads p id := fun p => by simp only [State.Loads, State.reader?, readers]
  constructor
  · intro lasts p loads
    obtain ⟨d, q, c, u, unknown, answer, new, start⟩ :=
      State.Loads.outlives next live fresh ((loads_iff p).mpr loads)
    have given : (u.addReader q id (.ended (.ok c))).reader? q = some ⟨id, .ended (.ok c)⟩ := by
      rw [State.reader?_addReader new, if_pos rfl]
    have run : after s' [d, .resolve q id] = some (u.addReader q id (.ended (.ok c))) :=
      after_cons.mpr ⟨u, answer, after_cons.mpr ⟨_, start, rfl⟩⟩
    obtain ⟨p', later, delivers⟩ := lasts _ _ q c run unknown given
    -- of the two events only the first ends a load, and that load began before
    obtain ⟨loads, -⟩ | delivers := (delivers_cons answer).mp delivers
    · exact later ((loads_iff p').mp loads)
    · obtain ⟨⟨n, w, there, -⟩, given⟩ | delivers := (delivers_cons start).mp delivers
      · rw [State.reader?_addReader new] at given
        split at given
        · rename_i same
          subst same
          cases new.symm.trans there
        · cases there.symm.trans given
      · exact not_delivers_nil delivers
  · intro idle es t r c run unknown given
    obtain there | ⟨since, kept⟩ | ⟨p, delivers⟩ := (delivered next run).2 given
    · cases unknown.symm.trans there
    · cases gone.symm.trans kept
    · exact ⟨p, idle p, delivers⟩

/-- A template that is kept is dropped, and nobody loads it: whoever comes later is given what is loaded later. -/
theorem dropped_for_good_kept :
    ∃ s s', Reachable s ∧ s.Has "invoice" default ∧ step s (.invalidate "invoice") = some s' ∧
      ∀ es t r c, after s' es = some t → s'.reader? r = none → t.reader? r = some ⟨"invoice", .ended (.ok c)⟩ →
        ∃ p, Delivers s' es p "invoice" c := by
  let s : State :=
    { directory := "/templates", hasStore := true, seconds := .ofInt 60, now := .ofInt 1000
      entries := [("invoice", ⟨default, .ofInt 1000⟩)], locks := [⟨none, []⟩]
      readers := [(0, ⟨"invoice", .ended (.ok default)⟩)], askings := 1 }
  have reached : Reachable s :=
    .step (.storeAnswered 0 (.ok (some default)))
      (.step (.resume 0) (.step (.resolve 0 "invoice") (.new "/templates" true _ _) rfl) rfl) rfl
  have fresh : s.isFresh s.now = true := by decide +kernel
  have idle : ∀ p, ¬ s.Loads p "invoice" := by
    rintro p ⟨n, w, there, -⟩
    rw [State.reader?, lookup_cons_ite] at there
    split at there <;> cases there
  refine ⟨s, { s with entries := [] }, reached, ⟨_, rfl⟩, rfl, fun es t r c run unknown given => ?_⟩
  obtain ⟨p, -, delivers⟩ :=
    (dropped_for_good_iff reached (e := .invalidate "invoice") rfl (by decide) rfl fresh).mpr idle es t r c run unknown given
  exact ⟨p, delivers⟩

/-- A store is asked, the template is dropped, the store answers, and the next reader is given the answer. The store has
not been asked again. -/
theorem dropped_comes_back :
    ∃ s s', Reachable s ∧ step s (.invalidate "invoice") = some s' ∧ s'.reader? 1 = none ∧
      ∀ c, ∃ t, after s' [.storeAnswered 0 (.ok (some c)), .resolve 1 "invoice"] = some t ∧
        t.reader? 1 = some ⟨"invoice", .ended (.ok c)⟩ ∧ t.askings = s.askings := by
  let s : State :=
    { directory := "/templates", hasStore := true, seconds := .ofInt 60, now := .ofInt 1000
      locks := [⟨some 0, []⟩], listed := [("invoice", 0)]
      readers := [(0, ⟨"invoice", .active 0 .asking⟩)], askings := 1 }
  have reached : Reachable s :=
    .step (.resume 0) (.step (.resolve 0 "invoice") (.new "/templates" true _ _) rfl) rfl
  have fresh : s.isFresh s.now = true := by decide +kernel
  refine ⟨s, s, reached, rfl, rfl, fun c => ?_⟩
  have found : (s.keep 0 "invoice" 0 c).fresh? "invoice" = some c :=
    State.fresh?_eq_some (x := ⟨c, s.now⟩) (State.lookup_keep s 0 "invoice" 0 c "invoice") fresh
  have served := step_resolve_of_fresh (s := s.keep 0 "invoice" 0 c) (r := 1) rfl rfl found
  exact ⟨_, after_cons.mpr ⟨_, rfl, after_cons.mpr ⟨_, served, rfl⟩⟩, rfl, rfl⟩

end Letterpress.Catalogue
