import Letterpress.Catalogue
import Letterpress.Proofs.Lookup

/-!
# What an event changes

A catalogue as its readers and its locks see it, and everything that a single event can do to it.

* `State.reader?_setPhase`, `State.lock_setLock`: one reader or one lock changes, and the others stay.
* `State.finish_of_cons`, `State.finish_of_nil`: how a lock is given back.
* `Moves`: the ways in which an event can go, with all that each of them changes.
-/

namespace Letterpress.Catalogue

namespace State

variable {s : State} {r q n m : Nat} {id : String} {p : Phase} {l : Lock} {rest : List Nat}

/-! ## Readers and locks -/

@[simp]
theorem reader?_setPhase (s : State) (r : Nat) (p : Phase) (q : Nat) :
    (s.setPhase r p).reader? q = if q = r then (s.reader? r).map fun x => { x with phase := p } else s.reader? q :=
  lookup_modified q r (fun x : Reader => { x with phase := p }) s.readers

theorem reader?_addReader (unknown : s.reader? r = none) (id : String) (p : Phase) (q : Nat) :
    (s.addReader r id p).reader? q = if q = r then some ⟨id, p⟩ else s.reader? q := by
  simp only [reader?, addReader, List.lookup_append, lookup_cons_ite, List.lookup_nil]
  split
  · rename_i here
    rw [here, show s.readers.lookup r = none from unknown, Option.none_or]
  · rw [Option.or_none]

@[simp] theorem reader?_setLock (s : State) (n : Nat) (l : Lock) (r : Nat) : (s.setLock n l).reader? r = s.reader? r := rfl

@[simp] theorem lock_setPhase (s : State) (r : Nat) (p : Phase) (n : Nat) : (s.setPhase r p).lock n = s.lock n := rfl

@[simp] theorem lock_addReader (s : State) (r : Nat) (id : String) (p : Phase) (n : Nat) :
    (s.addReader r id p).lock n = s.lock n := rfl

theorem lock_setLock (here : n < s.locks.length) (l : Lock) (m : Nat) :
    (s.setLock n l).lock m = if m = n then l else s.lock m := by
  simp only [lock, setLock, List.getD_eq_getElem?_getD, List.getElem?_set]
  by_cases same : n = m
  · subst same
    simp [here]
  · rw [if_neg same, if_neg (Ne.symm same)]

/-- A lock that somebody has or waits for has been made. -/
theorem lt_of_not_isFree (h : (s.lock n).isFree = false) : n < s.locks.length := by
  rcases Nat.lt_or_ge n s.locks.length with made | beyond
  · exact made
  · have missing : s.lock n = {} := by simp [lock, beyond]
    rw [missing] at h
    cases h

/-! ## A lock given back -/

theorem finish_of_cons (waits : (s.lock n).queue = q :: rest) (r : Nat) (id : String)
    (result : Except Failure Copy) :
    s.finish r id n result =
      ((s.setPhase r (.ended result)).setLock n ⟨some q, rest⟩).setPhase q (.active n .looking) := by
  have here : n < (s.setPhase r (.ended result)).locks.length := lt_of_not_isFree (by simp [Lock.isFree, waits])
  simp [finish, release, unlist, waits, lock_setLock here, Lock.isFree]

theorem finish_of_nil (alone : (s.lock n).queue = []) (r : Nat) (id : String) (result : Except Failure Copy) :
    s.finish r id n result =
      { (s.setPhase r (.ended result)).setLock n ⟨none, []⟩ with
        listed := s.listed.filter fun (j, _) => j != id } := by
  have free : (((s.setPhase r (.ended result)).setLock n ⟨none, []⟩).lock n).isFree = true := by
    simp only [lock, setLock, List.getD_eq_getElem?_getD, List.getElem?_set_self']
    cases (s.setPhase r (.ended result)).locks[n]? <;> rfl
  simp only [finish, release, unlist, lock_setPhase, alone, free, if_true]
  rfl

/-- Whether there is anything to load a template from. -/
def hasSource (s : State) (id : String) : Bool :=
  if isPath id then
    match file? s.directory id with
    | .error _ => false
    | .ok (some _) => true
    | .ok none => s.hasStore
  else s.hasStore

end State

/-! ## The ways in which an event can go -/

/-- The reader whom an event is about, if it is one that goes on. -/
def Event.reader? : Event → Option Nat
  | .resume r | .fileRead r _ | .storeAnswered r _ => some r
  | .resolve _ _ | .invalidate _ | .clear | .dispose | .tick _ => none

inductive Moves (s : State) : Event → State → Prop where
  | refused {r : Nat} {id : String} (unknown : s.reader? r = none) (disposed : s.isDisposed = true) :
      Moves s (.resolve r id) (s.addReader r id (.ended (.error (.disposed "TemplateResolver"))))
  /-- a reader that finds the template fresh -/
  | served {r : Nat} {id : String} {c : Copy} (unknown : s.reader? r = none) (live : s.isDisposed = false)
      (fresh : s.fresh? id = some c) : Moves s (.resolve r id) (s.addReader r id (.ended (.ok c)))
  | entered {r : Nat} {id : String} (unknown : s.reader? r = none) (live : s.isDisposed = false)
      (missing : s.fresh? id = none) : Moves s (.resolve r id) (s.enter r id)
  /-- a reader that finds the template fresh once it has its lock -/
  | shared {r : Nat} {id : String} {n : Nat} {c : Copy} (there : s.reader? r = some ⟨id, .active n .looking⟩)
      (fresh : s.fresh? id = some c) : Moves s (.resume r) (s.finish r id n (.ok c))
  | loads {r : Nat} {id : String} {n : Nat} {w : Work} (there : s.reader? r = some ⟨id, .active n .looking⟩)
      (missing : s.fresh? id = none) (sourced : s.hasSource id = true) (loading : w ≠ .looking) (askings : Nat) :
      Moves s (.resume r) ({ s with askings }.setPhase r (.active n w))
  /-- a reader whose file cannot be opened -/
  | asks {r : Nat} {id : String} {n : Nat} {file : List String} {content : Except Fault Bytes}
      (there : s.reader? r = some ⟨id, .active n (.reading file)⟩) (askings : Nat) :
      Moves s (.fileRead r content) ({ s with askings }.setPhase r (.active n .asking))
  | fails {e : Event} {r : Nat} {id : String} {n : Nat} {w : Work} {x : Failure} (own : e.reader? = some r)
      (there : s.reader? r = some ⟨id, .active n w⟩)
      (unsourced : w = .looking → s.fresh? id = none ∧ s.hasSource id = false) :
      Moves s e (s.finish r id n (.error x))
  | keeps {e : Event} {r : Nat} {id : String} {n : Nat} {w : Work} {c : Copy} (own : e.reader? = some r)
      (there : s.reader? r = some ⟨id, .active n w⟩) (loading : w ≠ .looking) (readings : Nat) :
      Moves s e ({ s with readings }.keep r id n c)
  | invalidated (id : String) :
      Moves s (.invalidate id) { s with entries := s.entries.filter fun (j, _) => j != id }
  | cleared : Moves s .clear { s with entries := [] }
  | disposed : Moves s .dispose { s with entries := [], listed := [], isDisposed := true }
  | ticked (seconds : Binary64) : Moves s (.tick seconds) { s with now := s.now.add seconds }

variable {s s' : State} {e : Event}

theorem moves_load {r : Nat} {id : String} {n : Nat} (there : s.reader? r = some ⟨id, .active n .looking⟩)
    (missing : s.fresh? id = none) : Moves s (.resume r) (s.load r id n) := by
  have asked (sourced : s.hasSource id = s.hasStore) : Moves s (.resume r) (s.askStore r id n) := by
    unfold State.askStore
    split
    · rename_i stored
      exact .loads there missing (sourced.trans stored) (by decide) _
    · rename_i unstored
      exact .fails rfl there fun _ => ⟨missing, sourced.trans (Bool.eq_false_iff.mpr unstored)⟩
  unfold State.load
  split
  · rename_i path
    split
    · rename_i place
      exact .fails rfl there fun _ => ⟨missing, by simp [State.hasSource, path, place]⟩
    · rename_i file place
      exact .loads there missing (by simp [State.hasSource, path, place]) (w := .reading file) (by simp) s.askings
    · rename_i place
      exact asked (by simp [State.hasSource, path, place])
  · rename_i path
    exact asked (by simp [State.hasSource, path])

theorem moves_useFile {r : Nat} {id : String} {n : Nat} {file : List String}
    (there : s.reader? r = some ⟨id, .active n (.reading file)⟩) (content : Except Fault Bytes) :
    Moves s (.fileRead r content) (s.useFile r id n file content) := by
  unfold State.useFile
  split
  · split
    · exact .keeps rfl there (by simp) _
    · exact .fails rfl there (by simp)
  · split
    · unfold State.askStore
      split
      · exact .asks there _
      · exact .fails rfl there (by simp)
    · exact .fails rfl there (by simp)

theorem moves_useStore {r : Nat} {id : String} {n : Nat} (there : s.reader? r = some ⟨id, .active n .asking⟩)
    (found : Except Failure (Option Copy)) : Moves s (.storeAnswered r found) (s.useStore r id n found) := by
  unfold State.useStore
  split
  · exact .keeps rfl there (by simp) s.readings
  · exact .fails rfl there (by simp)
  · exact .fails rfl there (by simp)

/-- Every event goes in one of these ways. -/
theorem moves_of_step (h : step s e = some s') : Moves s e s' := by
  cases e with
  | resolve r id =>
    simp only [step, Option.isSome_iff_ne_none, ite_not, Option.ite_none_right_eq_some, Option.some.injEq] at h
    obtain ⟨unknown, rfl⟩ := h
    unfold State.begin_
    split
    · rename_i disposed
      exact .refused unknown disposed
    · rename_i live
      have live := Bool.eq_false_iff.mpr live
      split
      · rename_i c fresh
        exact .served unknown live fresh
      · rename_i missing
        exact .entered unknown live missing
  | resume r =>
    simp only [step] at h
    split at h
    · rename_i id n there
      obtain rfl := Option.some.inj h
      unfold State.look
      split
      · rename_i c fresh
        exact .shared there fresh
      · rename_i missing
        exact moves_load there missing
    · cases h
  | fileRead r content =>
    simp only [step] at h
    split at h
    · rename_i id n file there
      obtain rfl := Option.some.inj h
      exact moves_useFile there content
    · cases h
  | storeAnswered r found =>
    simp only [step] at h
    split at h
    · rename_i id n there
      obtain rfl := Option.some.inj h
      exact moves_useStore there found
    · cases h
  | invalidate id =>
    obtain rfl := Option.some.inj h
    exact .invalidated id
  | clear =>
    obtain rfl := Option.some.inj h
    exact .cleared
  | dispose =>
    obtain rfl := Option.some.inj h
    exact .disposed
  | tick seconds =>
    obtain rfl := Option.some.inj h
    exact .ticked seconds

end Letterpress.Catalogue
