import Letterpress.Proofs.Catalogue.Reader

/-!
# Disposing of a catalogue

A catalogue that has been disposed of turns new readers away. Those that came before go on, however, and what they load
is kept.

* `Barren`: nobody is under way who could load anything.
* `Barren.step`, `Barren.run`: it stays so.
* `disposed_for_good_iff`: only then does a catalogue stay empty.
-/

namespace Letterpress.Catalogue

variable {s s' t : State} {e : Event} {es : List Event} {r : Nat} {id : String}

theorem disposed_after (run : after s es = some t) (disposed : s.isDisposed = true) : t.isDisposed = true :=
  after_keeps (fun disposed go => (moves_of_step go).isDisposed disposed) run disposed

/-- Whoever comes to a catalogue that has been disposed of is turned away. -/
theorem refused_of_disposed (disposed : s.isDisposed = true) (go : step s (.resolve r id) = some s') :
    s'.reader? r = some ⟨id, .ended (.error (.disposed "TemplateResolver"))⟩ := by
  cases moves_of_step go with
  | refused unknown => rw [State.reader?_addReader unknown, if_pos rfl]
  | served _ live | entered _ live => cases disposed.symm.trans live
  | fails own | keeps own => cases own

/-- A catalogue that has been disposed of and in which nobody has anything to load. -/
structure Barren (s : State) : Prop where
  disposed : s.isDisposed = true
  entries : s.entries = []
  unsourced : ∀ r id n w, s.reader? r = some ⟨id, .active n w⟩ → w = .looking ∧ s.hasSource id = false

theorem Barren.not_loads (barren : Barren s) : ¬ s.Loads r id := by
  rintro ⟨n, w, there, loading⟩
  exact loading (barren.unsourced r id n w there).1

theorem Barren.step (h : Orderly s) (barren : Barren s) (moves : Moves s e s') : Barren s' where
  disposed := moves.isDisposed barren.disposed
  entries := by
    refine eq_nil_of_lookup fun id => ?_
    obtain same | ⟨-, gone⟩ | ⟨r, c, -, loads, -⟩ := moves.lookup_entries h id
    · rw [same, barren.entries, List.lookup_nil]
    · exact gone
    · exact absurd loads barren.not_loads
  unsourced := by
    intro r id n w there
    rw [moves.hasSource]
    cases before : s.reader? r with
    | none =>
      obtain ⟨-, start⟩ := moves.starts h before there
      cases start with
      | opens live => cases barren.disposed.symm.trans live
    | some y =>
      obtain ⟨j, p⟩ := y
      obtain ⟨p', after, far⟩ := moves.advances h before
      cases after.symm.trans there
      cases far with
      | stays => exact barren.unsourced r id n w before
      | handed own here => exact ⟨rfl, (barren.unsourced _ id n _ here).2⟩
      | loads own missing sourced => cases sourced.symm.trans (barren.unsourced r id n _ before).2
      | asks => cases (barren.unsourced r id n _ before).1

theorem Barren.run (reached : Reachable s) (barren : Barren s) (run : after s es = some t) : Barren t := by
  have last : Reachable t ∧ Barren t := by
    refine after_keeps (P := fun s => Reachable s ∧ Barren s) ?_ run ⟨reached, barren⟩
    rintro s e s' ⟨reached, barren⟩ go
    exact ⟨.step e reached go, barren.step reached.orderly (moves_of_step go)⟩
  exact last.2

/-- A reader that finds nothing fresh and has a source begins to load. -/
theorem loads_of_resume {n : Nat} (there : s.reader? r = some ⟨id, .active n .looking⟩) (missing : s.fresh? id = none)
    (sourced : s.hasSource id = true) : ∃ s', step s (.resume r) = some s' ∧ s'.Loads r id := by
  refine ⟨s.load r id n, by simp only [Catalogue.step, there, State.look, missing], ?_⟩
  have moves := moves_load there missing
  generalize s.load r id n = s' at moves
  cases moves with
  | shared there' fresh =>
    cases there.symm.trans there'
    cases missing.symm.trans fresh
  | loads there' _ _ loading askings =>
    cases there.symm.trans there'
    refine ⟨n, _, ?_, loading⟩
    exact (State.reader?_setPhase _ r _ r).trans (by rw [if_pos rfl]; exact congrArg (Option.map _) there)
  | fails own there' unsourced =>
    cases own
    cases there.symm.trans there'
    cases sourced.symm.trans (unsourced rfl).2
  | keeps own there' loading =>
    cases own
    cases there.symm.trans there'
    exact absurd rfl loading

/-- A catalogue that is disposed of turns away whoever comes. It also stays empty, and no load begins in it any more,
exactly if nobody has anything to load when it is disposed of. -/
theorem disposed_for_good_iff (reached : Reachable s) (go : step s .dispose = some s') :
    (∀ es t r id t', after s' es = some t → step t (.resolve r id) = some t' →
      t'.reader? r = some ⟨id, .ended (.error (.disposed "TemplateResolver"))⟩) ∧
    ((∀ es t, after s' es = some t → t.entries = [] ∧
        ∀ e t' r id, step t e = some t' → t'.Loads r id → t.Loads r id) ↔
      ∀ r id n w, s.reader? r = some ⟨id, .active n w⟩ → w = .looking ∧ s.hasSource id = false) := by
  have next : Reachable s' := .step .dispose reached go
  obtain rfl := Option.some.inj go
  refine ⟨fun es t r id t' run => refused_of_disposed (disposed_after run rfl), ?_, ?_⟩
  · intro lasts r id n w there
    have looking : w = .looking := by
      apply Decidable.byContradiction
      intro loading
      have loads : State.Loads { s with entries := [], listed := [], isDisposed := true } r id :=
        ⟨n, w, there, loading⟩
      obtain ⟨d, m, c, readings, -, answer⟩ := loads.answered
      obtain ⟨empty, -⟩ := lasts [d] _ (after_cons.mpr ⟨_, answer, rfl⟩)
      have kept := State.lookup_keep { s with entries := [], listed := [], isDisposed := true, readings } r id m c id
      rw [empty, if_pos rfl] at kept
      cases kept
    subst looking
    refine ⟨rfl, Bool.eq_false_iff.mpr fun sourced => ?_⟩
    obtain ⟨u, begins, loads⟩ := loads_of_resume
      (s := { s with entries := [], listed := [], isDisposed := true }) there rfl sourced
    obtain ⟨m, w, there', loading⟩ := (lasts [] _ rfl).2 _ u r id begins loads
    cases there.symm.trans there'
    exact loading rfl
  · intro unsourced es t run
    have barren : Barren t := Barren.run next ⟨rfl, rfl, unsourced⟩ run
    refine ⟨barren.entries, fun e t' r id go loads => ?_⟩
    exact absurd loads (barren.step (next.after run).orderly (moves_of_step go)).not_loads

/-- A catalogue that has no store, with a reader about to look for a template that is no file, and another behind it. -/
theorem disposed_for_good_storeless :
    ∃ s s', Reachable s ∧ step s .dispose = some s' ∧ s'.Waits 1 "invoice" ∧
      ∀ es t, after s' es = some t → t.entries = [] ∧
        ∀ e t' r id, step t e = some t' → t'.Loads r id → t.Loads r id := by
  let s : State :=
    { directory := "/templates", hasStore := false, seconds := .ofInt 60, now := .ofInt 1000
      locks := [⟨some 0, [1]⟩], listed := [("invoice", 0)]
      readers := [(0, ⟨"invoice", .active 0 .looking⟩), (1, ⟨"invoice", .waiting 0⟩)] }
  have reached : Reachable s :=
    .step (.resolve 1 "invoice") (.step (.resolve 0 "invoice") (.new "/templates" false _ _) rfl) rfl
  have unsourced : ∀ r id n w, s.reader? r = some ⟨id, .active n w⟩ → w = .looking ∧ s.hasSource id = false := by
    intro r id n w there
    rw [State.reader?, lookup_cons_ite, lookup_cons_ite] at there
    split at there
    · cases there
      exact ⟨rfl, by decide +kernel⟩
    · split at there <;> cases there
  refine ⟨s, _, reached, rfl, ⟨0, rfl⟩, ?_⟩
  exact (disposed_for_good_iff reached rfl).2.mpr unsourced

/-- A store is asked for a reader, another one waits behind it, and the catalogue is disposed of. If the store has the
template, the catalogue keeps it; if not, the store is asked once more. -/
theorem disposed_goes_on :
    ∃ s s', Reachable s ∧ step s .dispose = some s' ∧
      (∀ c, ∃ t, after s' [.storeAnswered 0 (.ok (some c))] = some t ∧ t.freshIds = ["invoice"]) ∧
      ∃ t t', after s' [.storeAnswered 0 (.ok none)] = some t ∧ step t (.resume 1) = some t' ∧
        ¬ t.Loads 1 "invoice" ∧ t'.Loads 1 "invoice" ∧ t'.askings = s.askings + 1 := by
  let s : State :=
    { directory := "/templates", hasStore := true, seconds := .ofInt 60, now := .ofInt 1000
      locks := [⟨some 0, [1]⟩], listed := [("invoice", 0)]
      readers := [(0, ⟨"invoice", .active 0 .asking⟩), (1, ⟨"invoice", .waiting 0⟩)], askings := 1 }
  have reached : Reachable s :=
    .step (.resume 0) (.step (.resolve 1 "invoice") (.step (.resolve 0 "invoice") (.new "/templates" true _ _) rfl) rfl) rfl
  have fresh : s.isFresh s.now = true := by decide +kernel
  refine ⟨s, _, reached, rfl, fun c => ⟨_, rfl, ?_⟩, _, _, rfl, rfl, ?_, ⟨0, .asking, rfl, by decide⟩, rfl⟩
  · change (([("invoice", Entry.mk c s.now)].filter fun x => s.isFresh x.2.since).map (·.1)).mergeSort _ = _
    rw [List.filter_cons_of_pos (by exact fresh), List.filter_nil, List.map_cons, List.map_nil, List.mergeSort_singleton]
  · rintro ⟨n, w, there, loading⟩
    cases there
    exact loading rfl

end Letterpress.Catalogue
