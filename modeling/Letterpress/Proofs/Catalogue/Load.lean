import Letterpress.Proofs.Catalogue.Reader

/-!
# What a load asks

A load goes to the file that its identifier stands for, if there is one, and else to the store; what it comes to is what
it is answered there.

* `opening`: where a load begins.
* `Placed`, `Reachable.placed`: a reader waits for the file of its own identifier, and for a store only if there is one.
* `Obtains`: an answer of a source that gives a reader its template.
* `obtains_of_step`: every load that comes to a template has it from there.
-/

namespace Letterpress.Catalogue

variable {s s' : State} {e : Event} {r q n : Nat} {id : String} {w : Work} {c : Copy}

/-! ## What stays the same -/

/-- What a catalogue is made with. -/
structure Settled (s s' : State) : Prop where
  directory : s'.directory = s.directory
  hasStore : s'.hasStore = s.hasStore
  seconds : s'.seconds = s.seconds

theorem Settled.trans {u : State} (a : Settled s u) (b : Settled u s') : Settled s s' :=
  ⟨b.directory.trans a.directory, b.hasStore.trans a.hasStore, b.seconds.trans a.seconds⟩

theorem Settled.finish (s : State) (r : Nat) (id : String) (n : Nat) (result : Except Failure Copy) :
    Settled s (s.finish r id n result) := by
  obtain ⟨_, _, _, same⟩ := s.finish_eq r id n result
  rw [same]
  exact ⟨rfl, rfl, rfl⟩

theorem Moves.settled (moves : Moves s e s') : Settled s s' := by
  cases moves with
  | entered =>
    rename_i r id _ _ _
    obtain ⟨_, _, _, _, _, same⟩ := s.enter_eq r id
    rw [same]
    exact ⟨rfl, rfl, rfl⟩
  | shared | fails => exact .finish ..
  | keeps own there loading readings =>
    rename_i r id n w c
    obtain ⟨_, _, _, _, same⟩ := State.keep_eq { s with readings } r id n c
    rw [same]
    exact ⟨rfl, rfl, rfl⟩
  | _ => exact ⟨rfl, rfl, rfl⟩

theorem settled_after {es : List Event} (run : after s es = some s') : Settled s s' :=
  after_keeps (P := Settled s) (fun before go => before.trans (moves_of_step go).settled) run ⟨rfl, rfl, rfl⟩

/-! ## What a load comes to -/

/-- The way on behind the files. -/
def behindFiles (hasStore : Bool) (id : String) : Except Failure Work :=
  if hasStore then .ok .asking else .error (.templateNotFound id none)

/-- Where a load begins: with a file, with the store, or nowhere. -/
def opening (directory : String) (hasStore : Bool) (id : String) : Except Failure Work :=
  if isPath id then
    match file? directory id with
    | .error f => .error (.fault f)
    | .ok (some file) => .ok (.reading file)
    | .ok none => behindFiles hasStore id
  else behindFiles hasStore id

/-- What a file comes to: a template, or none where the load goes on behind the files. -/
def fileOutcome (id : String) (file : List String) : Except Fault Bytes → Except Failure (Option Template)
  | .ok bs => (ofFile id ("/" ++ "/".intercalate file) bs).map some
  | .error f => if f.isSystem then .ok none else .error (.fault f)

def storeOutcome (id : String) : Except Failure (Option Copy) → Except Failure Copy
  | .ok (some c) => .ok c
  | .ok none => .error (.templateNotFound id none)
  | .error e => .error (.templateNotFound id (some e))

/-- What a reader does next, given what it waits for, or why it waits for nothing. -/
def Phase.ofOpening (n : Nat) : Except Failure Work → Phase
  | .ok w => .active n w
  | .error e => .ended (.error e)

theorem Phase.ofOpening_eq_active_iff {m : Nat} {opens : Except Failure Work} :
    ofOpening m opens = .active n w ↔ m = n ∧ opens = .ok w := by
  cases opens <;> simp [ofOpening]

section

variable (h : Orderly s) {w : Work} (there : s.reader? r = some ⟨id, .active n w⟩)
include h there

theorem reader?_ended (result : Except Failure Copy) :
    (s.finish r id n result).reader? r = some ⟨id, .ended result⟩ := by
  rw [h.reader?_finish there, if_pos rfl]

/-- A reader that finds a template is given it. -/
theorem reader?_keep (readings : Nat) (c : Copy) :
    (({ s with readings } : State).keep r id n c).reader? r = some ⟨id, .ended (.ok c)⟩ := by
  obtain ⟨entries, -, kept⟩ := State.keep_eq_finish { s with readings } r id n c
  rw [kept]
  exact reader?_ended (h.congr entries s.now readings s.askings) there _

/-- A reader that goes on to the store waits for it, or has none. -/
theorem reader?_askStore : (s.askStore r id n).reader? r = some ⟨id, .ofOpening n (behindFiles s.hasStore id)⟩ := by
  unfold State.askStore behindFiles
  split
  · rw [State.reader?_setPhase, if_pos rfl]
    exact congrArg (Option.map _) there
  · exact reader?_ended h there _

/-- A reader that begins to load waits for its first source, or has none. -/
theorem reader?_load : (s.load r id n).reader? r = some ⟨id, .ofOpening n (opening s.directory s.hasStore id)⟩ := by
  unfold State.load opening
  split
  · rcases file? s.directory id with f | (_ | file)
    · exact reader?_ended h there _
    · exact reader?_askStore h there
    · exact (State.reader?_setPhase s r (.active n (.reading file)) r).trans (by rw [if_pos rfl, there]; rfl)
  · exact reader?_askStore h there

theorem reader?_useFile (file : List String) (content : Except Fault Bytes) :
    (s.useFile r id n file content).reader? r =
      some ⟨id, match fileOutcome id file content with
        | .ok (some t) => .ended (.ok ⟨t, .file s.readings⟩)
        | .ok none => .ofOpening n (behindFiles s.hasStore id)
        | .error e => .ended (.error e)⟩ := by
  unfold State.useFile fileOutcome
  cases content with
  | ok bs =>
    cases found : ofFile id ("/" ++ "/".intercalate file) bs with
    | ok t =>
      simp only [found, Except.map]
      exact reader?_keep h there _ _
    | error e =>
      simp only [found, Except.map]
      exact reader?_ended h there _
  | error f =>
    cases system : f.isSystem with
    | true =>
      simp only [system, if_true]
      exact reader?_askStore h there
    | false =>
      simp only [system, Bool.false_eq_true, if_false]
      exact reader?_ended h there _

theorem reader?_useStore (found : Except Failure (Option Copy)) :
    (s.useStore r id n found).reader? r = some ⟨id, .ended (storeOutcome id found)⟩ := by
  rcases found with e | (_ | c)
  · exact reader?_ended h there _
  · exact reader?_ended h there _
  · exact reader?_keep h there s.readings c

end

/-! ## Readers one by one -/

/-- What its own event makes of a reader that has a lock. -/
inductive GoesOn (s : State) (id : String) (n : Nat) : Event → Work → Phase → Prop where
  | shares {r : Nat} {c : Copy} (fresh : s.fresh? id = some c) : GoesOn s id n (.resume r) .looking (.ended (.ok c))
  | opens {r : Nat} (missing : s.fresh? id = none) :
      GoesOn s id n (.resume r) .looking (.ofOpening n (opening s.directory s.hasStore id))
  | reads {r : Nat} {file : List String} {content : Except Fault Bytes} {t : Template}
      (outcome : fileOutcome id file content = .ok (some t)) :
      GoesOn s id n (.fileRead r content) (.reading file) (.ended (.ok ⟨t, .file s.readings⟩))
  | passes {r : Nat} {file : List String} {content : Except Fault Bytes}
      (outcome : fileOutcome id file content = .ok none) :
      GoesOn s id n (.fileRead r content) (.reading file) (.ofOpening n (behindFiles s.hasStore id))
  | spoils {r : Nat} {file : List String} {content : Except Fault Bytes} {x : Failure}
      (outcome : fileOutcome id file content = .error x) :
      GoesOn s id n (.fileRead r content) (.reading file) (.ended (.error x))
  | answered {r : Nat} (found : Except Failure (Option Copy)) :
      GoesOn s id n (.storeAnswered r found) .asking (.ended (storeOutcome id found))

/-- Only a reader that has a lock has events of its own. -/
theorem step_own (h : Orderly s) (go : step s e = some s') (own : e.reader? = some r) {p : Phase}
    (there : s.reader? r = some ⟨id, p⟩) :
    ∃ n w p', p = .active n w ∧ s'.reader? r = some ⟨id, p'⟩ ∧ GoesOn s id n e w p' := by
  cases e with
  | resolve | invalidate | clear | dispose | tick => cases own
  | resume q =>
    obtain rfl : q = r := Option.some.inj own
    rcases p with m | ⟨m, _ | file | -⟩ | result <;> simp only [step, there, reduceCtorEq] at go
    obtain rfl := Option.some.inj go
    cases fresh : s.fresh? id with
    | some c =>
      simp only [State.look, fresh]
      exact ⟨m, _, _, rfl, reader?_ended h there _, .shares fresh⟩
    | none =>
      simp only [State.look, fresh]
      exact ⟨m, _, _, rfl, reader?_load h there, .opens fresh⟩
  | fileRead q content =>
    obtain rfl : q = r := Option.some.inj own
    rcases p with m | ⟨m, _ | file | -⟩ | result <;> simp only [step, there, reduceCtorEq] at go
    obtain rfl := Option.some.inj go
    have after := reader?_useFile h there file content
    rcases outcome : fileOutcome id file content with x | (_ | t) <;> rw [outcome] at after
    · exact ⟨m, _, _, rfl, after, .spoils outcome⟩
    · exact ⟨m, _, _, rfl, after, .passes outcome⟩
    · exact ⟨m, _, _, rfl, after, .reads outcome⟩
  | storeAnswered q found =>
    obtain rfl : q = r := Option.some.inj own
    rcases p with m | ⟨m, _ | file | -⟩ | result <;> simp only [step, there, reduceCtorEq] at go
    obtain rfl := Option.some.inj go
    exact ⟨m, _, _, rfl, reader?_useStore h there found, .answered found⟩

/-- Events of others leave a reader where it is, or hand it the lock that it waits for. -/
theorem step_others (h : Orderly s) (go : step s e = some s') (other : e.reader? ≠ some r) {p : Phase}
    (there : s.reader? r = some ⟨id, p⟩) :
    s'.reader? r = some ⟨id, p⟩ ∨ ∃ n, p = .waiting n ∧ s'.reader? r = some ⟨id, .active n .looking⟩ := by
  have moves := moves_of_step go
  obtain ⟨p', after, far⟩ := moves.advances h there
  cases far with
  | stays => exact .inl after
  | handed => exact .inr ⟨_, rfl, after⟩
  | shares own | loads own => exact absurd (own ▸ rfl) other
  | asks own | fails own | delivers own => exact absurd own other

/-! ## Readers and their sources -/

/-- What a reader waits for, it waits for on account of its identifier: a file that its load begins with, or a store if
there is one. -/
def Placed (s : State) : Prop :=
  ∀ r id n w, s.reader? r = some ⟨id, .active n w⟩ →
    (∀ file, w = .reading file → opening s.directory s.hasStore id = .ok (.reading file)) ∧
      (w = .asking → s.hasStore = true)

theorem stored_of_behindFiles {hasStore : Bool} (opens : behindFiles hasStore id = .ok w) :
    w = .asking ∧ hasStore = true := by
  cases hasStore <;> cases opens
  exact ⟨rfl, rfl⟩

theorem file?_of_opening {directory : String} {hasStore : Bool} {file : List String}
    (opens : opening directory hasStore id = .ok (.reading file)) : file? directory id = .ok (some file) := by
  unfold opening at opens
  split at opens
  · split at opens
    · cases opens
    · rename_i place
      cases opens
      exact place
    · cases (stored_of_behindFiles opens).1
  · cases (stored_of_behindFiles opens).1

theorem placed_of_opening {directory : String} {hasStore : Bool} (opens : opening directory hasStore id = .ok w) :
    (∀ file, w = .reading file → opening directory hasStore id = .ok (.reading file)) ∧
      (w = .asking → hasStore = true) := by
  refine ⟨fun file same => same ▸ opens, ?_⟩
  rintro rfl
  unfold opening at opens
  split at opens
  · split at opens
    · cases opens
    · cases opens
    · exact (stored_of_behindFiles opens).2
  · exact (stored_of_behindFiles opens).2

theorem Placed.step (h : Orderly s) (placed : Placed s) (go : step s e = some s') : Placed s' := by
  intro r id n w there
  have moves := moves_of_step go
  rw [moves.settled.directory, moves.settled.hasStore]
  cases before : s.reader? r with
  | none =>
    obtain ⟨-, start⟩ := moves.starts h before there
    cases start
    simp
  | some y =>
    obtain ⟨j, p⟩ := y
    by_cases own : e.reader? = some r
    · obtain ⟨m, v, p', -, after, goes⟩ := step_own h go own before
      cases after.symm.trans there
      generalize next : Phase.active n w = p at goes
      cases goes with
      | opens => exact placed_of_opening (Phase.ofOpening_eq_active_iff.mp next.symm).2
      | passes =>
        obtain ⟨rfl, stored⟩ := stored_of_behindFiles (Phase.ofOpening_eq_active_iff.mp next.symm).2
        exact ⟨by simp, fun _ => stored⟩
      | _ => cases next
    · obtain after | ⟨m, -, after⟩ := step_others h go own before
      · cases after.symm.trans there
        exact placed r id n w before
      · cases after.symm.trans there
        simp

theorem Reachable.placed (h : Reachable s) : Placed s := by
  induction h with
  | new => rintro r id n w ⟨⟩
  | step e reached go ih => exact ih.step reached.orderly go

/-- An answer of a source that is a template for a reader: of the file of its identifier, or of the store that is asked
for its identifier. -/
inductive Obtains (s : State) (r : Nat) (id : String) : Event → Copy → Prop where
  | file {n : Nat} {file : List String} {bs : Bytes} {t : Template}
      (there : s.reader? r = some ⟨id, .active n (.reading file)⟩) (place : file? s.directory id = .ok (some file))
      (parsed : ofFile id ("/" ++ "/".intercalate file) bs = .ok t) :
      Obtains s r id (.fileRead r (.ok bs)) ⟨t, .file s.readings⟩
  | store {n : Nat} {c : Copy} (there : s.reader? r = some ⟨id, .active n .asking⟩) (stored : s.hasStore = true) :
      Obtains s r id (.storeAnswered r (.ok (some c))) c

/-- A load that comes to a template has it from a source. -/
theorem obtains_of_step (reached : Reachable s) (go : step s e = some s') (own : e.reader? = some r)
    (loads : s.Loads r id) (given : s'.reader? r = some ⟨id, .ended (.ok c)⟩) : Obtains s r id e c := by
  obtain ⟨n, w, there, loading⟩ := loads
  obtain ⟨places, stored⟩ := reached.placed r id n w there
  obtain ⟨m, v, p, ⟨⟩, after, goes⟩ := step_own reached.orderly go own there
  cases after.symm.trans given
  generalize next : Phase.ended (.ok c) = p at goes
  cases goes with
  | shares | opens => exact absurd rfl loading
  | @reads q file content t outcome =>
    cases next
    obtain rfl : q = r := Option.some.inj own
    cases content with
    | ok bs =>
      cases parsed : ofFile id ("/" ++ "/".intercalate file) bs with
      | ok t' =>
        simp only [fileOutcome, parsed, Except.map, Except.ok.injEq, Option.some.injEq] at outcome
        subst outcome
        exact .file there (file?_of_opening (places file rfl)) parsed
      | error x => simp [fileOutcome, parsed, Except.map] at outcome
    | error f =>
      simp only [fileOutcome] at outcome
      split at outcome <;> cases outcome
  | passes =>
    cases opens : behindFiles s.hasStore id <;> rw [opens] at next <;> cases next
  | spoils => cases next
  | @answered q found =>
    obtain rfl : q = r := Option.some.inj own
    rcases found with x | (_ | c') <;> cases next
    exact .store there (stored rfl)

end Letterpress.Catalogue
