import Letterpress.Proofs.Catalogue.Freshness
import Letterpress.Proofs.Number.Rounding

/-!
# Steady sources

As long as sources stay as they are, and time does not run backwards, a reader of a catalogue comes to a template that
depends on its identifier and on the time at which it came, whatever other readers do in the meantime.

* `loaded`: what a load comes to.
* `expected`: what a reader comes to that comes at a certain time.
* `Steady`: everything kept, and every reader under way, leads there.
* `Steady.step`: it stays so.
* `Steady.template_resolve`: it is also what a reader comes to that is on its own.
-/

namespace Letterpress.Catalogue

variable {sources : Sources} {c s s' : State} {asked asked' : Nat → Binary64} {t now : Binary64} {e : Event}
  {r q n : Nat} {id : String} {p : Phase} {w : Work}

/-! ## What sources have for a reader -/

/-- What comes from the store. -/
def ofStore (sources : Sources) (id : String) : Except Failure Template :=
  (storeOutcome id (sources.ask id)).map Copy.template

/-- What comes from behind the files. -/
def ofBehind (sources : Sources) (hasStore : Bool) (id : String) : Except Failure Template :=
  (behindFiles hasStore id).bind fun _ => ofStore sources id

/-- What comes of a file, or from behind it. -/
def ofReading (sources : Sources) (hasStore : Bool) (id : String) (file : List String) : Except Failure Template :=
  (fileOutcome id file (sources.read file)).bind fun
    | some t => .ok t
    | none => ofBehind sources hasStore id

/-- What a load comes to. -/
def loaded (sources : Sources) (c : State) (id : String) : Except Failure Template :=
  (opening c.directory c.hasStore id).bind fun
    | .reading file => ofReading sources c.hasStore id file
    | .asking | .looking => ofStore sources id

/-- What a reader is about to come to, by what it does. -/
def outcome (sources : Sources) (c : State) (id : String) : Work → Except Failure Template
  | .looking => loaded sources c id
  | .reading file => ofReading sources c.hasStore id file
  | .asking => ofStore sources id

/-- A catalogue at another time. -/
def State.atTime (c : State) (now : Binary64) : State := { c with now }

/-- A template is not there at a certain time, or it is too old. -/
def Stale (c : State) (id : String) (now : Binary64) : Prop := (c.atTime now).fresh? id = none

/-- What a reader comes to that comes at a certain time. -/
def expected (sources : Sources) (c : State) (now : Binary64) (id : String) : Except Failure Template :=
  if c.isDisposed then .error (.disposed "TemplateResolver")
  else
    match (c.atTime now).fresh? id with
    | some x => .ok x.template
    | none => loaded sources c id

theorem expected_of_stale (live : c.isDisposed = false) (stale : Stale c id now) :
    expected sources c now id = loaded sources c id := by
  rw [expected, live, if_neg Bool.false_ne_true, show (c.atTime now).fresh? id = none from stale]

/-- What is too old stays so. -/
theorem Stale.mono (stale : Stale c id t) (later : t.isAtMost now = true) : Stale c id now := by
  refine Option.eq_none_iff_forall_ne_some.mpr fun x found => ?_
  obtain ⟨since, kept, fresh⟩ := State.fresh?_eq_some_iff.mp found
  have young : (t.sub since).cmp? c.seconds = some .lt := Binary64.sub_lt_of_le later (beq_iff_eq.mp fresh)
  have before : (c.atTime t).fresh? id = some x := State.fresh?_eq_some_iff.mpr ⟨since, kept, beq_iff_eq.mpr young⟩
  cases before.symm.trans stale

/-! ## Readers and what is kept -/

/-- A reader that nothing fresh was kept for when it came, which is so still. -/
structure Due (c : State) (id : String) (asked now : Binary64) : Prop where
  live : c.isDisposed = false
  then_ : Stale c id asked
  now_ : Stale c id now

theorem Due.expected_eq (due : Due c id t now) : expected sources c t id = loaded sources c id :=
  expected_of_stale due.live due.then_

/-- A reader is where it can be if it came at a certain time. -/
inductive Suits (sources : Sources) (c : State) (id : String) (asked now : Binary64) : Phase → Prop where
  | waiting {n : Nat} (due : Due c id asked now) : Suits sources c id asked now (.waiting n)
  | active {n : Nat} {w : Work} (due : Due c id asked now) (leads : outcome sources c id w = loaded sources c id) :
      Suits sources c id asked now (.active n w)
  | ended {result : Except Failure Copy} (came : result.map Copy.template = expected sources c asked id) :
      Suits sources c id asked now (.ended result)

theorem Suits.mono (suits : Suits sources c id t now p) {later : Binary64} (passes : now.isAtMost later = true) :
    Suits sources c id t later p := by
  cases suits with
  | waiting due => exact .waiting ⟨due.live, due.then_, due.now_.mono passes⟩
  | active due leads => exact .active ⟨due.live, due.then_, due.now_.mono passes⟩ leads
  | ended came => exact .ended came

/-- Everything kept under an identifier is what was kept at the beginning, or what a load comes to since that is too
old. -/
inductive Keeps (sources : Sources) (c : State) (id : String) (now : Binary64) : Option Entry → Prop where
  | first : Keeps sources c id now (c.entries.lookup id)
  | renewed {x : Entry} (from_ : .ok x.copy.template = loaded sources c id) (stale : Stale c id now) :
      Keeps sources c id now (some x)

/-- A catalogue on its way from another one, where all readers are where they can be by the times at which they
came. -/
structure Steady (sources : Sources) (c : State) (asked : Nat → Binary64) (s : State) : Prop where
  orderly : Orderly s
  settled : Settled c s
  isDisposed : s.isDisposed = c.isDisposed
  entries : ∀ id, Keeps sources c id s.now (s.entries.lookup id)
  readers : ∀ r id p, s.reader? r = some ⟨id, p⟩ → Suits sources c id (asked r) s.now p

namespace Steady

theorem fresh?_congr (settled : Settled c s) (same : s.entries.lookup id = c.entries.lookup id) :
    s.fresh? id = (c.atTime s.now).fresh? id := by
  simp only [State.fresh?, State.isFresh, settled.seconds, same]
  rfl

/-- What is kept and fresh is what a reader comes to that comes now. -/
theorem expected_of_fresh (h : Steady sources c asked s) (live : c.isDisposed = false) {x : Copy}
    (fresh : s.fresh? id = some x) : .ok x.template = expected sources c s.now id := by
  have keeps := h.entries id
  generalize found : s.entries.lookup id = y at keeps
  cases keeps with
  | first =>
    rw [fresh?_congr h.settled found] at fresh
    rw [expected, live, if_neg Bool.false_ne_true, fresh]
  | @renewed y from_ stale =>
    obtain ⟨since, kept, -⟩ := State.fresh?_eq_some_iff.mp fresh
    cases found.symm.trans kept
    rw [expected_of_stale live stale, ← from_]

theorem stale_of_missing (h : Steady sources c asked s) (missing : s.fresh? id = none) : Stale c id s.now := by
  have keeps := h.entries id
  generalize found : s.entries.lookup id = y at keeps
  cases keeps with
  | first => exact (fresh?_congr h.settled found).symm.trans missing
  | renewed _ stale => exact stale

end Steady

/-! ## Events -/

/-- What can occur to a catalogue whose sources are steady: a reader comes, or is answered by the sources, or time
passes. -/
inductive Occurs (sources : Sources) (s : State) : Event → Prop where
  | comes (r : Nat) (id : String) : Occurs sources s (.resolve r id)
  | goesOn {r : Nat} {x : Reader} {e : Event} (there : s.reader? r = some x) (next : nextEvent? sources r x = some e) :
      Occurs sources s e
  | passes {seconds : Binary64} (later : s.now.isAtMost (s.now.add seconds) = true) : Occurs sources s (.tick seconds)

theorem reader?_of_nextEvent? {x : Reader} (next : nextEvent? sources r x = some e) : e.reader? = some r := by
  unfold nextEvent? at next
  split at next <;> cases next <;> rfl

/-- Nothing is dropped, and only time that passes changes the time. -/
theorem Occurs.drops (occurs : Occurs sources s e) (id : String) : e.drops id = false := by
  cases occurs with
  | comes | passes => rfl
  | goesOn _ next =>
    have own := reader?_of_nextEvent? next
    cases e <;> simp [Event.reader?, Event.drops] at own ⊢

theorem same_of_step (go : step s e = some s') :
    (s'.now = s.now ∨ ∃ seconds, e = .tick seconds) ∧ (s'.isDisposed = s.isDisposed ∨ e = .dispose) := by
  have finish (u : State) (r : Nat) (j : String) (n : Nat) (result : Except Failure Copy) :
      (u.finish r j n result).now = u.now ∧ (u.finish r j n result).isDisposed = u.isDisposed := by
    obtain ⟨_, _, _, same⟩ := u.finish_eq r j n result
    rw [same]
    exact ⟨rfl, rfl⟩
  cases moves_of_step go with
  | entered =>
    obtain ⟨_, _, _, _, _, same⟩ := s.enter_eq _ _
    rw [same]
    exact ⟨.inl rfl, .inl rfl⟩
  | shared | fails | keeps => exact ⟨.inl (finish ..).1, .inl (finish ..).2⟩
  | disposed => exact ⟨.inl rfl, .inr rfl⟩
  | ticked seconds => exact ⟨.inr ⟨seconds, rfl⟩, .inl rfl⟩
  | _ => exact ⟨.inl rfl, .inl rfl⟩

theorem Occurs.time (occurs : Occurs sources s e) (go : step s e = some s') :
    s'.now = s.now ∨ s.now.isAtMost s'.now = true := by
  obtain same | ⟨seconds, rfl⟩ := (same_of_step go).1
  · exact .inl same
  · cases occurs with
    | goesOn _ next => cases reader?_of_nextEvent? next
    | passes later =>
      cases go
      exact .inr later

theorem Occurs.mono_suits (occurs : Occurs sources s e) (go : step s e = some s') (suits : Suits sources c id t s.now p) :
    Suits sources c id t s'.now p := by
  obtain same | later := occurs.time go
  · rwa [same]
  · exact suits.mono later

/-- Where a load leads when it begins. -/
theorem suits_ofOpening (due : Due c id t now) (n : Nat) {x : Except Failure Work}
    (leads : (x.bind fun w => outcome sources c id w) = loaded sources c id) :
    Suits sources c id t now (.ofOpening n x) := by
  cases x with
  | ok w => exact .active due leads
  | error f => exact .ended (leads.trans due.expected_eq.symm)

theorem bind_opening :
    ((opening c.directory c.hasStore id).bind fun w => outcome sources c id w) = loaded sources c id := by
  unfold loaded
  cases opens : opening c.directory c.hasStore id with
  | error f => rfl
  | ok w =>
    cases w with
    | looking => exact absurd rfl (opening_ne_looking opens)
    | _ => rfl

theorem bind_behindFiles (hasStore : Bool) :
    ((behindFiles hasStore id).bind fun w => outcome sources c id w) = ofBehind sources hasStore id := by
  unfold ofBehind
  cases opens : behindFiles hasStore id with
  | error f => rfl
  | ok w =>
    obtain ⟨rfl, -⟩ := stored_of_behindFiles opens
    rfl

/-- A reader that goes on by what the sources answer keeps its way. -/
theorem Steady.goesOn (h : Steady sources c asked s) (due : Due c id t s.now)
    (leads : outcome sources c id w = loaded sources c id) (next : nextEvent? sources r ⟨id, .active n w⟩ = some e)
    (goes : GoesOn s id n e w p) : Suits sources c id t s.now p := by
  cases goes with
  | shares fresh =>
    refine .ended ?_
    rw [due.expected_eq, ← @expected_of_stale sources _ _ _ due.live due.now_]
    exact h.expected_of_fresh due.live fresh
  | opens =>
    rw [h.settled.directory, h.settled.hasStore]
    exact suits_ofOpening due n bind_opening
  | answered found =>
    cases next
    exact .ended (leads.trans due.expected_eq.symm)
  | reads seen | passes seen | spoils seen =>
    cases next
    simp only [outcome, ofReading, seen] at leads
    first
    | exact .ended (leads.trans due.expected_eq.symm)
    | rw [h.settled.hasStore]
      exact suits_ofOpening due n ((bind_behindFiles c.hasStore).trans leads)

/-- The way of a new reader begins where it leads to what is expected at that time. -/
theorem Steady.begins (h : Steady sources c asked s) (go : step s (.resolve r id) = some s')
    (there : s'.reader? r = some ⟨id, p⟩) : Suits sources c id s.now s.now p := by
  have live (open_ : s.isDisposed = false) : c.isDisposed = false := h.isDisposed.symm.trans open_
  cases moves_of_step go with
  | refused unknown disposed =>
    rw [State.reader?_addReader unknown, if_pos rfl] at there
    cases there
    refine .ended ?_
    rw [expected, ← h.isDisposed, disposed]
    rfl
  | served unknown open_ fresh =>
    rw [State.reader?_addReader unknown, if_pos rfl] at there
    cases there
    exact .ended (h.expected_of_fresh (live open_) fresh)
  | entered unknown open_ missing =>
    obtain ⟨n, p', place, readers⟩ := State.reader?_enter unknown id
    rw [readers, if_pos rfl] at there
    cases there
    have stale := h.stale_of_missing missing
    have due : Due c id s.now s.now := ⟨live open_, stale, stale⟩
    obtain rfl | rfl := place
    · exact .waiting due
    · exact .active due rfl
  | fails own | keeps own => cases own

/-- What an event makes of a reader that is known. -/
theorem Steady.continues (h : Steady sources c asked s) (occurs : Occurs sources s e) (go : step s e = some s')
    (before : s.reader? r = some ⟨id, p⟩) :
    ∃ p', s'.reader? r = some ⟨id, p'⟩ ∧ Suits sources c id (asked r) s'.now p' := by
  have suits := h.readers r id p before
  by_cases own : e.reader? = some r
  · obtain ⟨n, w, p', rfl, after, goes⟩ := step_own h.orderly go own before
    refine ⟨p', after, occurs.mono_suits go ?_⟩
    cases suits with
    | active due leads =>
      cases occurs with
      | comes | passes => cases own
      | goesOn there next =>
        cases (reader?_of_nextEvent? next).symm.trans own
        cases there.symm.trans before
        exact h.goesOn due leads next goes
  · obtain after | ⟨n, rfl, after⟩ := step_others h.orderly go own before
    · exact ⟨p, after, occurs.mono_suits go suits⟩
    · refine ⟨_, after, occurs.mono_suits go ?_⟩
      cases suits with
      | waiting due => exact .active due rfl

/-- Whoever comes does so at the time of the event, and nobody who is there comes again. -/
structure Asks (s : State) (e : Event) (asked asked' : Nat → Binary64) : Prop where
  new : ∀ r id, e = .resolve r id → asked' r = s.now
  old : ∀ r x, s.reader? r = some x → asked' r = asked r

theorem Asks.of_reader? (own : e.reader? = some r) : Asks s e asked asked where
  new := by
    rintro q id rfl
    cases own
  old _ _ _ := rfl

theorem Steady.step (h : Steady sources c asked s) (occurs : Occurs sources s e) (go : Catalogue.step s e = some s')
    (asks : Asks s e asked asked') : Steady sources c asked' s' := by
  have moves := moves_of_step go
  have readers : ∀ r id p, s'.reader? r = some ⟨id, p⟩ → Suits sources c id (asked' r) s'.now p := by
    intro r id p there
    cases before : s.reader? r with
    | none =>
      obtain ⟨rfl, -⟩ := moves.starts h.orderly before there
      rw [asks.new r id rfl]
      exact occurs.mono_suits go (h.begins go there)
    | some y =>
      obtain ⟨j, p'⟩ := y
      obtain ⟨p'', after, suits⟩ := h.continues occurs go before
      cases after.symm.trans there
      rw [asks.old r _ before]
      exact suits
  refine ⟨h.orderly.step moves, h.settled.trans moves.settled, ?_, fun id => ?_, readers⟩
  · obtain same | rfl := (same_of_step go).2
    · exact same.trans h.isDisposed
    · cases occurs.drops ""
  · obtain same | ⟨drops, -⟩ | ⟨r, x, own, ⟨n, w, here, loading⟩, given, kept⟩ := moves.lookup_entries h.orderly id
    · rw [same]
      have keeps := h.entries id
      generalize s.entries.lookup id = y at keeps
      cases keeps with
      | first => exact .first
      | renewed from_ stale =>
        refine .renewed from_ ?_
        obtain unchanged | later := occurs.time go
        · rwa [unchanged]
        · exact stale.mono later
    · cases (occurs.drops id).symm.trans drops
    · -- who brings a template was on its way to it, so what was kept before is too old
      rw [kept]
      have suits := h.readers r id _ here
      obtain ⟨p', after, came⟩ := h.continues occurs go here
      cases after.symm.trans given
      cases suits with
      | active due leads =>
        cases came with
        | ended came =>
          have still : Suits sources c id (asked r) s.now (.active n w) := .active due leads
          cases occurs.mono_suits go still with
          | active due' leads' => exact .renewed (came.trans due.expected_eq) due'.now_

end Letterpress.Catalogue
