import Letterpress.Proofs.Catalogue.Load

/-!
# Fresh templates

A reader is given what it loads itself, or what another reader has loaded so recently that it is still fresh.

* `LoadedIn`: in a run, a load comes to a template at a certain time.
* `kept_loaded`: what is kept was loaded, at the time that is noted with it.
* `loadsBegun`: how many loads a reader begins in a run.
* `copies_fresh`: where the templates of all readers come from, and at what cost.
-/

namespace Letterpress.Catalogue

variable {s s' t : State} {e : Event} {es : List Event} {r q : Nat} {id : String} {c : Copy} {since : Binary64}

/-! ## What is kept -/

/-- In a run, a load for an identifier comes to a copy at a certain time. -/
def LoadedIn (s : State) (es : List Event) (id : String) (c : Copy) (since : Binary64) : Prop :=
  ∃ before e later u p, es = before ++ e :: later ∧ after s before = some u ∧ u.now = since ∧ Obtains u p id e c

theorem LoadedIn.head (obtains : Obtains s r id e c) : LoadedIn s (e :: es) id c s.now :=
  ⟨[], e, es, s, r, rfl, rfl, rfl, obtains⟩

theorem LoadedIn.cons (go : step s e = some s') (loaded : LoadedIn s' es id c since) :
    LoadedIn s (e :: es) id c since := by
  obtain ⟨before, d, later, u, p, rfl, run, time, obtains⟩ := loaded
  exact ⟨e :: before, d, later, u, p, rfl, after_cons.mpr ⟨s', go, run⟩, time, obtains⟩

/-- Whatever is kept after a run was kept before, or it was loaded in the course of it, when it is noted. -/
theorem kept_loaded (reached : Reachable s) (run : after s es = some t) {x : Entry}
    (kept : t.entries.lookup id = some x) :
    s.entries.lookup id = some x ∨ LoadedIn s es id x.copy x.since := by
  induction es generalizing s with
  | nil =>
    obtain rfl := Option.some.inj run
    exact .inl kept
  | cons e es ih =>
    obtain ⟨u, go, rest⟩ := after_cons.mp run
    obtain before | loaded := ih (.step e reached go) rest
    · obtain same | ⟨-, gone⟩ | ⟨p, c, own, loads, given, kept'⟩ := (moves_of_step go).lookup_entries reached.orderly id
      · exact .inl (same.symm.trans before)
      · cases gone.symm.trans before
      · cases kept'.symm.trans before
        exact .inr (.head (obtains_of_step reached go own loads given))
    · exact .inr (loaded.cons go)

/-- A copy that is found fresh is kept, and not for long. -/
theorem State.fresh?_eq_some_iff :
    s.fresh? id = some c ↔ ∃ since, s.entries.lookup id = some ⟨c, since⟩ ∧ s.isFresh since = true := by
  simp only [State.fresh?, Option.map_eq_some_iff, Option.filter_eq_some_iff]
  constructor
  · rintro ⟨x, ⟨kept, fresh⟩, rfl⟩
    exact ⟨x.since, kept, fresh⟩
  · rintro ⟨since, kept, fresh⟩
    exact ⟨⟨c, since⟩, ⟨kept, fresh⟩, rfl⟩

/-- When a reader is given a template, it has loaded it itself or found it fresh. -/
theorem given_of_step (reached : Reachable s) (go : step s e = some s') (open_ : result? s r = none)
    (given : s'.reader? r = some ⟨id, .ended (.ok c)⟩) : Obtains s r id e c ∨ s.fresh? id = some c := by
  have moves := moves_of_step go
  cases before : s.reader? r with
  | none =>
    obtain ⟨-, start⟩ := moves.starts reached.orderly before given
    cases start with
    | served live fresh => exact .inr fresh
  | some y =>
    obtain ⟨j, p⟩ := y
    obtain ⟨p', after, far⟩ := moves.advances reached.orderly before
    cases after.symm.trans given
    cases far with
    | stays =>
      rw [result?, before] at open_
      cases open_
    | shares own fresh => exact .inr fresh
    | delivers own loading => exact .inl (obtains_of_step reached go own ⟨_, _, before, loading⟩ given)

/-! ## How often a reader loads -/

/-- Whether an event is the beginning of a load: a reader that has its lock finds nothing fresh. -/
def beginsLoad (s : State) (r : Nat) : Event → Bool
  | .resume q =>
    q == r && match s.reader? r with
      | some ⟨id, .active _ .looking⟩ => (s.fresh? id).isNone
      | _ => false
  | _ => false

/-- How many loads a reader begins in a run. -/
def loadsBegun (r : Nat) (s : State) : List Event → Nat
  | [] => 0
  | e :: es => (if beginsLoad s r e then 1 else 0) + (step s e).elim 0 fun s' => loadsBegun r s' es

theorem loadsBegun_cons (go : step s e = some s') :
    loadsBegun r s (e :: es) = (if beginsLoad s r e then 1 else 0) + loadsBegun r s' es := by
  rw [loadsBegun, go, Option.elim_some]

/-- A reader that has begun to load, or has come to its end. -/
def Phase.isPast : Phase → Bool
  | active _ w => w != .looking
  | ended _ => true
  | waiting _ => false

/-- A reader that loads no more than it has begun to. -/
def State.Past (s : State) (r : Nat) : Prop := ∃ id p, s.reader? r = some ⟨id, p⟩ ∧ p.isPast = true

theorem isPast_ofOpening (n : Nat) {x : Except Failure Work} (other : ∀ w, x = .ok w → w ≠ .looking) :
    (Phase.ofOpening n x).isPast = true := by
  cases x with
  | ok w => simpa [Phase.ofOpening, Phase.isPast] using other w rfl
  | error e => rfl

theorem behindFiles_ne_looking {hasStore : Bool} {w : Work} (opens : behindFiles hasStore id = .ok w) : w ≠ .looking := by
  rw [(stored_of_behindFiles opens).1]
  decide

theorem opening_ne_looking {directory : String} {hasStore : Bool} {w : Work}
    (opens : opening directory hasStore id = .ok w) : w ≠ .looking := by
  unfold opening at opens
  split at opens
  · split at opens
    · cases opens
    · cases opens
      simp
    · exact behindFiles_ne_looking opens
  · exact behindFiles_ne_looking opens

theorem GoesOn.isPast {n : Nat} {w : Work} {p : Phase} (goes : GoesOn s id n e w p) : p.isPast = true := by
  cases goes with
  | opens => exact isPast_ofOpening n fun w => opening_ne_looking
  | passes => exact isPast_ofOpening n fun w => behindFiles_ne_looking
  | _ => rfl

theorem State.Past.step (reached : Reachable s) (past : s.Past r) (go : step s e = some s') : s'.Past r := by
  obtain ⟨id, p, there, far⟩ := past
  by_cases own : e.reader? = some r
  · obtain ⟨n, w, p', -, after, goes⟩ := step_own reached.orderly go own there
    exact ⟨id, p', after, goes.isPast⟩
  · obtain after | ⟨n, rfl, -⟩ := step_others reached.orderly go own there
    · exact ⟨id, p, after, far⟩
    · cases far

theorem State.Past.not_beginsLoad (past : s.Past r) : beginsLoad s r e = false := by
  obtain ⟨id, p, there, far⟩ := past
  cases e with
  | resume q =>
    rcases p with n | ⟨n, _ | file | -⟩ | result
    · cases far
    · cases far
    all_goals simp [beginsLoad, there]
  | _ => rfl

theorem State.Past.loadsBegun_eq_zero (reached : Reachable s) (past : s.Past r) : loadsBegun r s es = 0 := by
  induction es generalizing s with
  | nil => rfl
  | cons e es ih =>
    cases go : Catalogue.step s e with
    | none => simp [loadsBegun, go, past.not_beginsLoad]
    | some s' => rw [loadsBegun_cons go, past.not_beginsLoad, ih (.step e reached go) (past.step reached go)]; rfl

/-- A reader that begins to load does not look again. -/
theorem past_of_beginsLoad (reached : Reachable s) (begins : beginsLoad s r e = true) (go : step s e = some s') :
    s'.Past r := by
  cases e with
  | resume q =>
    simp only [beginsLoad, Bool.and_eq_true, beq_iff_eq] at begins
    obtain ⟨rfl, looks⟩ := begins
    split at looks
    · rename_i id n there
      obtain ⟨m, w, p, -, after, goes⟩ := step_own reached.orderly go rfl there
      exact ⟨id, p, after, goes.isPast⟩
    · cases looks
  | _ => cases begins

theorem loadsBegun_le_one (reached : Reachable s) : loadsBegun r s es ≤ 1 := by
  induction es generalizing s with
  | nil => exact Nat.zero_le 1
  | cons e es ih =>
    cases go : step s e with
    | none =>
      rw [loadsBegun, go, Option.elim_none]
      split <;> omega
    | some s' =>
      have next : Reachable s' := .step e reached go
      rw [loadsBegun_cons go]
      split
      · rename_i begins
        have none_left : loadsBegun r s' es = 0 := (past_of_beginsLoad reached begins go).loadsBegun_eq_zero next
        omega
      · have := ih next
        omega

/-- A reader that comes to a fresh template, or to a catalogue that has been disposed of, comes to its end at once. -/
theorem past_of_resolve (go : step s (.resolve r id) = some s') (fresh : s.fresh? id = some c) : s'.Past r := by
  cases moves_of_step go with
  | refused unknown | served unknown => exact ⟨id, _, (State.reader?_addReader unknown ..).trans (if_pos rfl), rfl⟩
  | entered _ _ missing => cases missing.symm.trans fresh
  | fails own | keeps own => cases own

/-- Readers do not vanish. -/
theorem unknown_of_after (reached : Reachable s) (run : after s es = some t) (unknown : t.reader? r = none) :
    s.reader? r = none := by
  cases before : s.reader? r with
  | none => rfl
  | some x =>
    have stays : Reachable t ∧ ∃ x, t.reader? r = some x := by
      refine after_keeps (P := fun s => Reachable s ∧ ∃ x, s.reader? r = some x) ?_ run ⟨reached, x, before⟩
      rintro s e s' ⟨reached, ⟨j, p⟩, there⟩ go
      obtain ⟨p', after, -⟩ := (moves_of_step go).advances reached.orderly there
      exact ⟨.step e reached go, _, after⟩
    obtain ⟨-, x, after⟩ := stays
    cases unknown.symm.trans after

theorem unknown_of_resolve (go : step s (.resolve r id) = some s') : s.reader? r = none := by
  cases moves_of_step go with
  | refused unknown | served unknown | entered unknown => exact unknown
  | fails own | keeps own => cases own

/-- A reader that has not come yet begins no load. -/
theorem loadsBegun_append (run : after s es = some t) (reached : Reachable s) (unknown : t.reader? r = none)
    (later : List Event) : loadsBegun r s (es ++ later) = loadsBegun r t later := by
  induction es generalizing s with
  | nil =>
    obtain rfl := Option.some.inj run
    rfl
  | cons e es ih =>
    obtain ⟨u, go, rest⟩ := after_cons.mp run
    have idle : beginsLoad s r e = false := by
      cases e <;> simp [beginsLoad, unknown_of_after reached run unknown]
    rw [List.cons_append, loadsBegun_cons go, idle, ih rest (.step e reached go)]
    simp

/-! ## Freshness -/

/-- Every template that a reader is given has been loaded for the reader's own identifier, by the reader itself or so
lately that it is fresh at this moment. A reader begins one load at most, and none where something is fresh when it
comes. -/
theorem copies_fresh {directory : String} {hasStore : Bool} {seconds now : Binary64}
    (run : after { directory, hasStore, seconds, now } es = some s) :
    (∀ e s' r id c, step s e = some s' → result? s r = none → s'.reader? r = some ⟨id, .ended (.ok c)⟩ →
      Obtains s r id e c ∨ ∃ since, (s.now.sub since).cmp? seconds = some .lt ∧
        LoadedIn { directory, hasStore, seconds, now } es id c since) ∧
    (∀ r, loadsBegun r { directory, hasStore, seconds, now } es ≤ 1) ∧
    (∀ r id before later u x, es = before ++ .resolve r id :: later →
      after { directory, hasStore, seconds, now } before = some u →
      u.entries.lookup id = some x → (u.now.sub x.since).cmp? seconds = some .lt →
      loadsBegun r { directory, hasStore, seconds, now } es = 0) := by
  have new := Reachable.new directory hasStore seconds now
  refine ⟨fun e s' r id c go open_ given => ?_, fun r => loadsBegun_le_one new, ?_⟩
  · obtain obtains | fresh := given_of_step (new.after run) go open_ given
    · exact .inl obtains
    · obtain ⟨since, kept, young⟩ := State.fresh?_eq_some_iff.mp fresh
      obtain ⟨⟨⟩⟩ | loaded := kept_loaded new run kept
      rw [State.isFresh, (settled_after run).seconds, beq_iff_eq] at young
      exact .inr ⟨since, young, loaded⟩
  · rintro r id before later u x rfl first kept young
    obtain ⟨v, first', rest⟩ := after_append.mp run
    cases first.symm.trans first'
    obtain ⟨w, go, -⟩ := after_cons.mp rest
    have fresh : u.fresh? id = some x.copy :=
      State.fresh?_eq_some_iff.mpr ⟨x.since, kept, by rw [State.isFresh, (settled_after first).seconds, young]; rfl⟩
    have reached := new.after first
    rw [loadsBegun_append first new (unknown_of_resolve go), loadsBegun_cons go,
      (past_of_resolve go fresh).loadsBegun_eq_zero (.step _ reached go)]
    rfl

/-- A template that is kept for a minute is loaded, and one second before the minute is over another reader comes: it is
given what has been loaded, and begins no load. -/
theorem copies_fresh_last_second :
    let s : State := { directory := "/templates", hasStore := true, seconds := .ofInt 60, now := .ofInt 1000 }
    let loading : List Event :=
      [.resolve 0 "invoice", .resume 0, .storeAnswered 0 (.ok (some default)), .tick (.ofInt 59)]
    ∃ t t', after s loading = some t ∧ after s (loading ++ [.resolve 1 "invoice"]) = some t' ∧
      t'.reader? 1 = some ⟨"invoice", .ended (.ok default)⟩ ∧
      (∃ since, (t.now.sub since).cmp? (.ofInt 60) = some .lt ∧ LoadedIn s loading "invoice" default since) ∧
      loadsBegun 1 s (loading ++ [.resolve 1 "invoice"]) = 0 := by
  intro s loading
  let t : State :=
    { s with
      entries := [("invoice", ⟨default, .ofInt 1000⟩)], locks := [⟨none, []⟩], now := s.now.add (.ofInt 59)
      readers := [(0, ⟨"invoice", .ended (.ok default)⟩)], askings := 1 }
  have run : after s loading = some t := rfl
  have young : (t.now.sub (.ofInt 1000)).cmp? (.ofInt 60) = some .lt := by decide +kernel
  have found : t.fresh? "invoice" = some default :=
    State.fresh?_eq_some_iff.mpr ⟨.ofInt 1000, rfl, by rw [State.isFresh, young]; rfl⟩
  have go : step t (.resolve 1 "invoice") = some (t.addReader 1 "invoice" (.ended (.ok default))) :=
    step_resolve_of_fresh rfl rfl found
  have longer : after s (loading ++ [.resolve 1 "invoice"]) = some (t.addReader 1 "invoice" (.ended (.ok default))) :=
    after_append.mpr ⟨t, run, after_cons.mpr ⟨_, go, rfl⟩⟩
  obtain obtains | loaded := (copies_fresh run).1 _ _ 1 "invoice" default go rfl rfl
  · cases obtains
  · exact ⟨t, _, run, longer, rfl, loaded, (copies_fresh longer).2.2 1 "invoice" loading [] t _ rfl run rfl young⟩

end Letterpress.Catalogue
