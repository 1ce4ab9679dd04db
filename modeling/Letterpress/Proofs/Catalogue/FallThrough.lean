import Letterpress.Proofs.Catalogue.Settling

/-!
# From files to the store

A reader for whom no file holds a template goes on to the store. There are three ways off this road: an identifier with a
zero character, a file that is no text, and a file that cannot be read for reasons that are not the system's.

* `Quiet`: a catalogue between two readers.
* `Spoilt`: an identifier that leads off the road.
* `Comes`: all that a single load can come to, and how often the store is asked on its way.
* `falls_through_iff`: when readers are given a template or told that there is none, and the store is asked behind files.
-/

namespace Letterpress.Catalogue

variable {sources : Sources} {c s : State} {r n k m : Nat} {id j : String} {p q : Phase} {w : Work}
  {x : Except Failure Copy} {file : List String} {f : Fault} {t : Template}

/-! ## A catalogue between two readers -/

/-- All readers so far are at their ends, and have numbers below their count. -/
structure Quiet (c : State) : Prop where
  orderly : Orderly c
  ended : ∀ y ∈ c.readers, y.2.phase.isEnded = true
  numbered : ∀ y ∈ c.readers, y.1 < c.readers.length

/-- The reader that comes next is under way, the others are at their ends, and the store has been asked so often since. -/
structure Serves (c s : State) (id : String) (asked : Nat) (p : Phase) : Prop where
  orderly : Orderly s
  readers : s.readers = c.readers ++ [(c.readers.length, ⟨id, p⟩)]
  settled : Settled c s
  now : s.now = c.now
  isDisposed : s.isDisposed = c.isDisposed
  askings : s.askings = c.askings + asked

namespace Quiet

theorem new (directory : String) (hasStore : Bool) (seconds now : Binary64) :
    Quiet { directory, hasStore, seconds, now } where
  orderly := (Reachable.new directory hasStore seconds now).orderly
  ended := by simp
  numbered := by simp

theorem unknown (quiet : Quiet c) : c.reader? c.readers.length = none := by
  rw [State.reader?, List.lookup_eq_none_iff]
  intro y member
  have below := quiet.numbered y member
  simpa using Nat.ne_of_gt below

theorem isEnded (quiet : Quiet c) (there : c.reader? r = some ⟨j, q⟩) : q.isEnded = true := by
  obtain ⟨before, behind, same, -⟩ := List.lookup_eq_some_iff.mp there
  exact quiet.ended (r, ⟨j, q⟩) (by simp [same])

end Quiet

namespace Serves

theorem congr (serves : Serves c s id k p) (entries : List (String × Entry)) (readings asked : Nat) :
    Serves c { s with entries, readings, askings := s.askings + asked } id (k + asked) p where
  orderly := serves.orderly.congr entries s.now readings (s.askings + asked)
  readers := serves.readers
  settled := ⟨serves.settled.directory, serves.settled.hasStore, serves.settled.seconds⟩
  now := serves.now
  isDisposed := serves.isDisposed
  askings := by simp [serves.askings, Nat.add_assoc]

section

variable (quiet : Quiet c) (serves : Serves c s id k p)
include quiet serves

theorem reader? : s.reader? c.readers.length = some ⟨id, p⟩ := by
  rw [State.reader?, serves.readers, List.lookup_append, show c.readers.lookup _ = none from quiet.unknown, Option.none_or,
    List.lookup_cons_self]

/-- Nobody but the one who is under way may be on the way. -/
theorem isEnded_or (there : s.reader? r = some ⟨j, q⟩) : q.isEnded = true ∨ q = p := by
  rw [State.reader?, serves.readers, List.lookup_append, Option.or_eq_some_iff] at there
  obtain old | ⟨-, own⟩ := there
  · exact .inl (quiet.isEnded old)
  · rw [lookup_cons_ite] at own
    split at own <;> cases own
    exact .inr rfl

/-- No reader has another to wait for. -/
theorem queue_eq_nil (n : Nat) : (s.lock n).queue = [] := by
  refine List.eq_nil_iff_forall_not_mem.mpr fun r queued => ?_
  obtain ⟨j, waits⟩ := (serves.orderly.queue_iff n r).mp queued
  obtain ⟨q, w, holds⟩ := serves.orderly.holder_of_waiting waits
  obtain ended | rfl := serves.isEnded_or quiet waits
  · cases ended
  · obtain ended | same := serves.isEnded_or quiet holds
    · cases ended
    · cases same

theorem ne_waiting (n : Nat) : p ≠ .waiting n := by
  rintro rfl
  have queued := (serves.orderly.queue_iff n c.readers.length).mpr ⟨id, serves.reader? quiet⟩
  simp [serves.queue_eq_nil quiet n] at queued

theorem readers_setPhase (q : Phase) :
    (s.setPhase c.readers.length q).readers = c.readers ++ [(c.readers.length, ⟨id, q⟩)] := by
  simp only [State.setPhase, serves.readers, List.map_append, List.map_singleton, BEq.rfl, if_true]
  rw [List.map_congr_left (g := fun y => y), List.map_id']
  intro y member
  have below := quiet.numbered y member
  simp [Nat.ne_of_lt below]

/-- What happens next happens to the one who is under way. -/
theorem advance? (sources : Sources) :
    Catalogue.advance? sources s = (nextEvent? sources c.readers.length ⟨id, p⟩).bind (step s) := by
  rw [Catalogue.advance?, serves.readers, List.findSome?_append, List.findSome?_eq_none_iff.mpr, Option.none_or,
    List.findSome?_singleton]
  intro y member
  have ended := quiet.ended y member
  obtain ⟨r, j, n | ⟨n, w⟩ | result⟩ := y
  · cases ended
  · cases ended
  · rfl

theorem settle_ended (ended : p.isEnded = true) (m : Nat) : settle sources s m = s := by
  cases m with
  | zero => rfl
  | succ m =>
    have idle : nextEvent? sources c.readers.length ⟨id, p⟩ = none := by
      cases p <;> first | rfl | cases ended
    rw [settle, serves.advance? quiet, idle]
    rfl

/-- A reader that has its lock takes one step. -/
theorem settle_active {e : Event} {s' : State} (next : nextEvent? sources c.readers.length ⟨id, p⟩ = some e)
    (go : step s e = some s') (m : Nat) : settle sources s (m + 1) = settle sources s' m := by
  rw [settle, serves.advance? quiet, next, Option.bind_some, go]

end

section

variable (quiet : Quiet c) (serves : Serves c s id k (.active n w))
include quiet serves

theorem work (v : Work) : Serves c (s.setPhase c.readers.length (.active n v)) id k (.active n v) where
  orderly := serves.orderly.rework (serves.reader? quiet) v
  readers := serves.readers_setPhase quiet _
  settled := ⟨serves.settled.directory, serves.settled.hasStore, serves.settled.seconds⟩
  now := serves.now
  isDisposed := serves.isDisposed
  askings := serves.askings

theorem finish (x : Except Failure Copy) : Serves c (s.finish c.readers.length id n x) id k (.ended x) := by
  have done := State.finish_of_nil (serves.queue_eq_nil quiet n) c.readers.length id x
  refine ⟨serves.orderly.finish (serves.reader? quiet) x, ?_, serves.settled.trans (.finish ..), ?_, ?_, ?_⟩
  · rw [done]
    exact serves.readers_setPhase quiet _
  · rw [done]
    exact serves.now
  · rw [done]
    exact serves.isDisposed
  · rw [done]
    exact serves.askings

end

end Serves

/-! ## Sources -/

/-- A file holds a template for an identifier. -/
def Holds (sources : Sources) (directory id : String) (t : Template) : Prop :=
  isPath id = true ∧ ∃ file bs, file? directory id = .ok (some file) ∧ sources.read file = .ok bs ∧
    ofFile id ("/" ++ "/".intercalate file) bs = .ok t

/-- The file of an identifier is the end of the road, though it holds no template. -/
inductive Spoilt (sources : Sources) (directory id : String) : Prop
  | zero (path : isPath id = true) (zero : '\x00' ∈ id.toList)
  /-- a file that is no text -/
  | garbled {file : List String} {bs : Bytes} (path : isPath id = true) (place : file? directory id = .ok (some file))
      (read : sources.read file = .ok bs) (garbled : Text.ofUtf8? bs = none)
  /-- a file that cannot be read for a reason that is not the system's -/
  | foreign {file : List String} {f : Fault} (path : isPath id = true) (place : file? directory id = .ok (some file))
      (read : sources.read file = .error f) (foreign : f.isSystem = false)

theorem not_zero_of_place {directory : String} (place : file? directory id = .ok (some file)) : '\x00' ∉ id.toList := by
  intro zero
  simp [file?, zero] at place

theorem Holds.not_spoilt {directory : String} (holds : Holds sources directory id t) : ¬Spoilt sources directory id := by
  obtain ⟨-, file, bs, place, read, text⟩ := holds
  rintro (⟨-, zero⟩ | ⟨-, place', read', garbled⟩ | ⟨-, place', read', -⟩)
  · exact not_zero_of_place place zero
  · cases place.symm.trans place'
    cases read.symm.trans read'
    simp [ofFile, garbled] at text
  · cases place.symm.trans place'
    cases read.symm.trans read'

/-- All that a load can come to, and how often it asks the store. -/
inductive Comes (sources : Sources) (c : State) (id : String) : Nat → Except Failure Copy → Prop where
  | found {t : Template} (holds : Holds sources c.directory id t) (origin : Origin) : Comes sources c id 0 (.ok ⟨t, origin⟩)
  | spoilt (f : Fault) (spoilt : Spoilt sources c.directory id) : Comes sources c id 0 (.error (.fault f))
  | asked (clear : ¬Spoilt sources c.directory id) (stored : c.hasStore = true) :
      Comes sources c id 1 (storeOutcome id (sources.ask id))
  | nowhere (clear : ¬Spoilt sources c.directory id) (unstored : c.hasStore = false) :
      Comes sources c id 0 (.error (.templateNotFound id none))

/-- A reader is at its end, and a template that it has come to is kept. -/
structure Finishes (c s : State) (id : String) (asked : Nat) (x : Except Failure Copy) : Prop where
  serves : Serves c s id asked (.ended x)
  kept : ∀ y, x = .ok y → s.entries.lookup id = some ⟨y, c.now⟩

section

variable (quiet : Quiet c)
include quiet

theorem Serves.fail (serves : Serves c s id k (.active n w)) (e : Failure) :
    Finishes c (s.fail c.readers.length id n e) id k (.error e) where
  serves := serves.finish quiet (.error e)
  kept := by
    intro y same
    cases same

theorem Serves.keep (serves : Serves c s id k (.active n w)) (readings : Nat) (y : Copy) :
    Finishes c (({ s with readings } : State).keep c.readers.length id n y) id k (.ok y) where
  serves := by
    obtain ⟨entries, -, kept⟩ := State.keep_eq_finish { s with readings } c.readers.length id n y
    rw [kept]
    exact (serves.congr entries readings 0).finish quiet _
  kept := by
    rintro _ ⟨⟩
    rw [State.lookup_keep, if_pos rfl, ← serves.now]

theorem Finishes.settle (done : Finishes c s id k x) (m : Nat) : Finishes c (settle sources s m) id k x := by
  rwa [done.serves.settle_ended quiet rfl]

/-- A reader that asks the store comes to what it answers. -/
theorem Serves.settle_asking (serves : Serves c s id k (.active n .asking)) (m : Nat) :
    Finishes c (settle sources s (m + 1)) id k (storeOutcome id (sources.ask id)) := by
  have go : step s (.storeAnswered c.readers.length (sources.ask id)) =
      some (s.useStore c.readers.length id n (sources.ask id)) := by
    simp only [step, serves.reader? quiet]
  rw [serves.settle_active quiet rfl go]
  rcases sources.ask id with e | (_ | y)
  · exact (serves.fail quiet _).settle quiet m
  · exact (serves.fail quiet _).settle quiet m
  · exact (serves.keep quiet s.readings y).settle quiet m

/-- The way on behind the files. -/
theorem Serves.settle_askStore (serves : Serves c s id 0 (.active n w)) (clear : ¬Spoilt sources c.directory id) (m : Nat) :
    ∃ asked x, Comes sources c id asked x ∧
      Finishes c (settle sources (s.askStore c.readers.length id n) (m + 1)) id asked x := by
  unfold State.askStore
  split
  · rename_i stored
    rw [serves.settled.hasStore] at stored
    have asks := (serves.congr s.entries s.readings 1).work quiet .asking
    exact ⟨1, _, .asked clear stored, asks.settle_asking quiet m⟩
  · rename_i unstored
    rw [serves.settled.hasStore, Bool.not_eq_true] at unstored
    exact ⟨0, _, .nowhere clear unstored, (serves.fail quiet _).settle quiet _⟩

/-- A reader that waits for its file. -/
theorem Serves.settle_reading (serves : Serves c s id 0 (.active n (.reading file))) (path : isPath id = true)
    (place : file? c.directory id = .ok (some file)) (m : Nat) :
    ∃ asked x, Comes sources c id asked x ∧ Finishes c (settle sources s (m + 2)) id asked x := by
  have go : step s (.fileRead c.readers.length (sources.read file)) =
      some (s.useFile c.readers.length id n file (sources.read file)) := by
    simp only [step, serves.reader? quiet]
  rw [serves.settle_active quiet rfl go]
  cases read : sources.read file with
  | ok bs =>
    cases text : Text.ofUtf8? bs with
    | none =>
      have spoilt : Spoilt sources c.directory id := .garbled path place read text
      refine ⟨0, _, .spoilt .badEncoding spoilt, ?_⟩
      simp only [State.useFile, ofFile, text]
      exact (serves.fail quiet _).settle quiet _
    | some cs =>
      have holds : ∃ t, ofFile id ("/" ++ "/".intercalate file) bs = .ok t := by simp only [ofFile, text]; exact ⟨_, rfl⟩
      obtain ⟨t, holds⟩ := holds
      refine ⟨0, _, .found ⟨path, file, bs, place, read, holds⟩ (.file s.readings), ?_⟩
      simp only [State.useFile, holds]
      exact (serves.keep quiet _ _).settle quiet _
  | error f =>
    cases system : f.isSystem with
    | false =>
      refine ⟨0, _, .spoilt f (.foreign path place read system), ?_⟩
      simp only [State.useFile, system, Bool.false_eq_true, if_false]
      exact (serves.fail quiet _).settle quiet _
    | true =>
      have clear : ¬Spoilt sources c.directory id := by
        rintro (⟨-, zero⟩ | ⟨-, place', read', -⟩ | ⟨-, place', read', foreign⟩)
        · exact not_zero_of_place place zero
        · cases place.symm.trans place'
          cases read.symm.trans read'
        · cases place.symm.trans place'
          cases read.symm.trans read'
          cases system.symm.trans foreign
      simp only [State.useFile, system, if_true]
      exact serves.settle_askStore quiet clear m

/-- A reader that has its lock and finds nothing fresh. -/
theorem Serves.settle_looking (serves : Serves c s id 0 (.active n .looking)) (missing : s.fresh? id = none) (m : Nat) :
    ∃ asked x, Comes sources c id asked x ∧ Finishes c (settle sources s (m + 3)) id asked x := by
  have go : step s (.resume c.readers.length) = some (s.load c.readers.length id n) := by
    simp only [step, serves.reader? quiet, State.look, missing]
  rw [serves.settle_active quiet rfl go]
  unfold State.load
  rw [serves.settled.directory]
  split
  · rename_i path
    split
    · rename_i f place
      have zero : '\x00' ∈ id.toList := by
        by_contra none_
        simp [file?, none_] at place
      exact ⟨0, _, .spoilt f (.zero path zero), (serves.fail quiet _).settle quiet _⟩
    · rename_i file place
      exact (serves.work quiet (.reading file)).settle_reading quiet path place m
    · rename_i place
      have clear : ¬Spoilt sources c.directory id := by
        rintro (⟨-, zero⟩ | ⟨-, place', -, -⟩ | ⟨-, place', -, -⟩)
        · simp [file?, zero] at place
        · cases place.symm.trans place'
        · cases place.symm.trans place'
      exact serves.settle_askStore quiet clear (m + 1)
  · rename_i path
    have clear : ¬Spoilt sources c.directory id := by
      rintro (⟨path', -⟩ | ⟨path', -, -, -⟩ | ⟨path', -, -, -⟩) <;> exact path path'
    exact serves.settle_askStore quiet clear (m + 1)

end

/-! ## Single readers -/

/-- A catalogue whose reader has come to its end is between two readers again. -/
theorem Serves.quiet (quiet : Quiet c) (serves : Serves c s id k (.ended x)) : Quiet s where
  orderly := serves.orderly
  ended := by
    rw [serves.readers]
    exact List.forall_mem_append.mpr ⟨quiet.ended, by simp [Phase.isEnded]⟩
  numbered := by
    rw [serves.readers, List.length_append, List.length_singleton]
    exact List.forall_mem_append.mpr ⟨fun y member => Nat.lt_succ_of_lt (quiet.numbered y member), by simp⟩

theorem resolve_of_settled {s' : State} (go : step c (.resolve c.readers.length id) = some s)
    (settled : settle sources s (3 * s.readers.length) = s') (came : result? s' c.readers.length = some x) :
    resolve sources c id = (x, s') := by
  simp only [resolve, go, Option.getD_some, run, settled, came]

theorem Serves.result? (quiet : Quiet c) (serves : Serves c s id k (.ended x)) :
    Catalogue.result? s c.readers.length = some x := by
  rw [Catalogue.result?, serves.reader? quiet]

namespace Quiet

variable (quiet : Quiet c)
include quiet

/-- A reader that is at its end when it comes. -/
theorem resolve_at_once (sources : Sources)
    (go : step c (.resolve c.readers.length id) = some (c.addReader c.readers.length id (.ended x))) :
    resolve sources c id = (x, c.addReader c.readers.length id (.ended x)) ∧
      Serves c (c.addReader c.readers.length id (.ended x)) id 0 (.ended x) := by
  have serves : Serves c (c.addReader c.readers.length id (.ended x)) id 0 (.ended x) :=
    ⟨quiet.orderly.add_ended quiet.unknown id x, rfl, ⟨rfl, rfl, rfl⟩, rfl, rfl, rfl⟩
  exact ⟨resolve_of_settled go (serves.settle_ended quiet rfl _) (serves.result? quiet), serves⟩

/-- A reader that enters has its lock at once. -/
theorem enters (live : c.isDisposed = false) (id : String) :
    ∃ n, Serves c (c.enter c.readers.length id) id 0 (.active n .looking) := by
  obtain ⟨locks, listed, n, p, place, same⟩ := c.enter_eq c.readers.length id
  have serves : Serves c (c.enter c.readers.length id) id 0 p := by
    have orderly : Orderly (c.enter c.readers.length id) := quiet.orderly.enter quiet.unknown live
    rw [same] at orderly ⊢
    exact ⟨orderly, rfl, ⟨rfl, rfl, rfl⟩, rfl, rfl, rfl⟩
  obtain rfl := place.resolve_left (serves.ne_waiting quiet n)
  exact ⟨n, serves⟩

theorem step_of_missing (live : c.isDisposed = false) (missing : c.fresh? id = none) :
    step c (.resolve c.readers.length id) = some (c.enter c.readers.length id) := by
  simp [step, State.begin_, quiet.unknown, live, missing]

theorem step_of_disposed (disposed : c.isDisposed = true) :
    step c (.resolve c.readers.length id) =
      some (c.addReader c.readers.length id (.ended (.error (.disposed "TemplateResolver")))) := by
  simp [step, State.begin_, quiet.unknown, disposed]

/-- A reader that finds nothing fresh loads its template. -/
theorem resolve_of_missing (sources : Sources) (live : c.isDisposed = false) (missing : c.fresh? id = none) :
    ∃ asked, Comes sources c id asked (resolve sources c id).1 ∧
      Finishes c (resolve sources c id).2 id asked (resolve sources c id).1 := by
  have go := quiet.step_of_missing live missing
  obtain ⟨n, serves⟩ := quiet.enters live id
  have still : (c.enter c.readers.length id).fresh? id = none := by
    obtain ⟨locks, listed, m, p, -, same⟩ := c.enter_eq c.readers.length id
    rw [same]
    exact missing
  have rounds : 3 * (c.enter c.readers.length id).readers.length = 3 * c.readers.length + 3 := by
    rw [serves.readers, List.length_append, List.length_singleton, Nat.mul_add]
  have settles : ∃ asked x, Comes sources c id asked x ∧ Finishes c (settle sources (c.enter c.readers.length id)
      (3 * (c.enter c.readers.length id).readers.length)) id asked x := by
    rw [rounds]
    exact serves.settle_looking quiet still _
  obtain ⟨asked, x, comes, done⟩ := settles
  rw [resolve_of_settled go rfl (done.serves.result? quiet)]
  exact ⟨asked, comes, done⟩

/-- An identifier that is spoilt: the reader is told what is wrong with its file, and the store is not asked. -/
theorem resolve_of_spoilt (live : c.isDisposed = false) (missing : c.fresh? id = none)
    (spoilt : Spoilt sources c.directory id) :
    (∃ f, (Catalogue.resolve sources c id).1 = .error (.fault f)) ∧
      (Catalogue.resolve sources c id).2.askings = c.askings := by
  obtain ⟨asked, comes, done⟩ := quiet.resolve_of_missing sources live missing
  generalize Catalogue.resolve sources c id = result at comes done
  obtain ⟨x, c'⟩ := result
  cases comes with
  | found holds => exact absurd spoilt holds.not_spoilt
  | spoilt f => exact ⟨⟨f, rfl⟩, done.serves.askings⟩
  | asked clear => exact absurd spoilt clear
  | nowhere clear => exact absurd spoilt clear

/-- One reader after the other finds a catalogue between two readers. -/
theorem resolve (sources : Sources) (id : String) : Quiet (Catalogue.resolve sources c id).2 := by
  cases disposed : c.isDisposed with
  | true =>
    obtain ⟨same, serves⟩ := quiet.resolve_at_once sources (quiet.step_of_disposed disposed)
    rw [same]
    exact serves.quiet quiet
  | false =>
    cases fresh : c.fresh? id with
    | some y =>
      have go := step_resolve_of_fresh quiet.unknown disposed fresh
      obtain ⟨same, serves⟩ := quiet.resolve_at_once sources go
      rw [same]
      exact serves.quiet quiet
    | none =>
      obtain ⟨asked, -, done⟩ := quiet.resolve_of_missing sources disposed fresh
      exact done.serves.quiet quiet

end Quiet

/-- A reader is given a template, or told that there is none. -/
def IsAnswered (id : String) (x : Except Failure Copy) : Prop :=
  (∃ y, x = .ok y) ∨ ∃ why, x = .error (.templateNotFound id why)

theorem isAnswered_storeOutcome (id : String) (found : Except Failure (Option Copy)) :
    IsAnswered id (storeOutcome id found) := by
  rcases found with e | (_ | y)
  · exact .inr ⟨some e, rfl⟩
  · exact .inr ⟨none, rfl⟩
  · exact .inl ⟨y, rfl⟩

/-- A single reader, whatever files hold and the store answers. It comes to an end. It is answered, and behind files
that hold nothing the store is asked, and its template is given and kept, unless nothing fresh is kept and the identifier
is spoilt: then the reader is told something else. -/
theorem falls_through_iff (quiet : Quiet c) (live : c.isDisposed = false) (sources : Sources) (id : String) :
    let result := resolve sources c id
    result? result.2 c.readers.length = some result.1 ∧
      (IsAnswered id result.1 ∧
        (c.fresh? id = none → (∀ t, ¬Holds sources c.directory id t) → c.hasStore = true →
          result.2.askings = c.askings + 1 ∧
            ∀ y, sources.ask id = .ok (some y) →
              result.1 = .ok y ∧ result.2.entries.lookup id = some ⟨y, c.now⟩) ↔
        ¬(c.fresh? id = none ∧ Spoilt sources c.directory id)) := by
  intro result
  cases fresh : c.fresh? id with
  | some y =>
    obtain ⟨given, serves⟩ := quiet.resolve_at_once sources (step_resolve_of_fresh quiet.unknown live fresh)
    simp only [result, given, reduceCtorEq, false_and, not_false_eq_true, false_implies, and_true, iff_true]
    exact ⟨serves.result? quiet, .inl ⟨y, rfl⟩⟩
  | none =>
    obtain ⟨asked, comes, done⟩ := quiet.resolve_of_missing sources live fresh
    change Comes sources c id asked result.1 at comes
    change Finishes c result.2 id asked result.1 at done
    clear_value result
    obtain ⟨x, c'⟩ := result
    simp only [true_and, forall_const]
    refine ⟨done.serves.result? quiet, ?_⟩
    cases comes with
    | found holds origin =>
      exact iff_of_true ⟨.inl ⟨_, rfl⟩, fun none_ => absurd holds (none_ _)⟩ holds.not_spoilt
    | spoilt f spoilt =>
      refine iff_of_false (fun answered => ?_) (not_not_intro spoilt)
      obtain ⟨⟨y, ⟨⟩⟩ | ⟨why, ⟨⟩⟩, -⟩ := answered
    | asked clear stored =>
      refine iff_of_true ⟨isAnswered_storeOutcome _ _, fun _ _ => ⟨done.serves.askings, fun y found => ?_⟩⟩ clear
      have given : storeOutcome id (sources.ask id) = .ok y := by rw [found, storeOutcome]
      exact ⟨given, done.kept y given⟩
    | nowhere clear unstored =>
      refine iff_of_true ⟨.inr ⟨none, rfl⟩, fun _ stored => ?_⟩ clear
      cases unstored.symm.trans stored

/-- A path without a file, and a template of that name in the store. -/
theorem falls_through_iff_missing :
    let c : State := { directory := "/templates", hasStore := true, seconds := .ofInt 60, now := .ofInt 1000 }
    let y : Copy := ⟨{ (default : Template) with id := "a.md", name := "a" }, .store 0⟩
    let sources : Sources := ⟨fun _ => .error (.system 2 "No such file or directory"), fun _ => .ok (some y)⟩
    (resolve sources c "a.md").1 = .ok y ∧
      (resolve sources c "a.md").2.entries.lookup "a.md" = some ⟨y, c.now⟩ := by
  intro c y sources
  have clear : ¬Spoilt sources c.directory "a.md" := by
    rintro (⟨-, zero⟩ | ⟨-, -, ⟨⟩, -⟩ | ⟨-, -, ⟨⟩, ⟨⟩⟩)
    exact absurd zero (by decide +kernel)
  have none_ (t : Template) : ¬Holds sources c.directory "a.md" t := by rintro ⟨-, file, bs, -, ⟨⟩, -⟩
  have falls := (falls_through_iff (.new "/templates" true _ _) rfl sources "a.md").2.mpr fun spoilt => clear spoilt.2
  exact (falls.2 rfl none_ rfl).2 y rfl

/-- A file that is no text, and a template of that name in the store. -/
theorem unreadable_file_hides_store :
    let c : State := { directory := "/templates", hasStore := true, seconds := .ofInt 60, now := .ofInt 1000 }
    let y : Copy := ⟨{ (default : Template) with id := "a.md", name := "a" }, .store 0⟩
    let sources : Sources := ⟨fun _ => .ok [255], fun _ => .ok (some y)⟩
    (∃ f, (resolve sources c "a.md").1 = .error (.fault f)) ∧ (resolve sources c "a.md").2.askings = 0 := by
  intro c y sources
  have place : file? c.directory "a.md" = .ok (some ["templates", "a.md"]) := by decide +kernel
  have spoilt : Spoilt sources c.directory "a.md" := .garbled (by decide +kernel) place rfl (by decide +kernel)
  exact (Quiet.new "/templates" true _ _).resolve_of_spoilt rfl rfl spoilt

end Letterpress.Catalogue
