import Letterpress.Proofs.Press.Browser
import Letterpress.Proofs.Press.Context

/-!
# Prints in balance

Prints that share a press have no more contexts than there are slots, launch no more browsers than they need, and come to
their ends, whatever the browser answers. What they have taken they give back.

* `State.IsAnswered.step`: what a print comes to is what the browser has answered to it.
* `Orderly.exists_goesOn`: while a print is under way, some task can go on.
* `rank_step`: whenever a task goes on, fewer events are before the tasks.
* `prints_balanced`: all of it, for a press in use by prints alone.
-/

namespace Letterpress.Press

variable {β : Type} {s s' : State β} {e : Event β} {t u n d : Nat} {p q : Phase β} {es : List (Event β)}

/-! ## Prints alone -/

/-- The tasks are prints. -/
def State.IsOfPrints (s : State β) : Prop := ∀ t p, s.phase? t = some p → p.isOfPrint = true

theorem Turn.isOfPrint (turn : Turn s s' t e p q d) (before : p.isOfPrint = true) : q.isOfPrint = true := by
  cases turn with
  | seeks _ _ _ _ _ _ kind => exact kind before
  | fails | opens | leaves | closed => rfl
  | uses _ kind => obtain ⟨-, rfl⟩ | ⟨-, rfl⟩ := kind <;> rfl

theorem StaysOrMovesUp.isOfPrint (stays : StaysOrMovesUp s s' u) (prints : s.IsOfPrints) (after : s'.phase? u = some q) :
    q.isOfPrint = true := by
  obtain same | ⟨-, up⟩ | ⟨-, up⟩ := stays
  · exact prints u q (same.symm.trans after)
  · obtain rfl := Option.some.inj (after.symm.trans up)
    rfl
  · obtain rfl := Option.some.inj (after.symm.trans up)
    rfl

theorem State.IsOfPrints.step (prints : s.IsOfPrints) (h : Orderly s) (go : step s e = some s')
    (print : e.isShutDown = false) : s'.IsOfPrints := by
  intro u r there
  cases changes_of_step h go with
  | joins kind joins =>
    rw [joins.phases] at there
    split at there
    · obtain ⟨-, isOfPrint⟩ | rfl := kind
      · exact Option.some.inj there ▸ isOfPrint
      · cases print
    · exact prints u r there
  | @turns t p q d kind shift turn =>
    by_cases own : u = t
    · subst own
      cases shift.after.symm.trans there
      exact turn.isOfPrint (prints u p shift.there)
    · exact (shift.others u own).isOfPrint prints there
  | drops kind tasks => exact prints u r (by rwa [State.phase?, ← tasks])

/-- Without shutdowns, the press remembers every browser that is connected. -/
theorem State.IsOfPrints.connected_step (prints : s.IsOfPrints) (needed : s.LaunchesInNeed) (go : Press.step s e = some s')
    (known : ∀ b ∈ s.connected, s.browser = some b) : ∀ b ∈ s'.connected, s'.browser = some b := by
  intro b member
  cases browsers_of_step go with
  | stays browser connected => exact browser.trans (known b (connected ▸ member))
  | launched there browser connected =>
    rw [connected, List.mem_append, List.mem_singleton] at member
    obtain old | rfl := member
    · have unusable := Option.filter_eq_none_iff.mp (needed _ (.inr there)) b (known b old)
      exact absurd (List.contains_iff_mem.mpr old) unusable
    · exact browser
  | shut there => cases prints _ _ there
  | unshut there => cases prints _ _ there
  | disconnects b browser connected =>
    rw [connected] at member
    exact browser.trans (known _ (List.mem_of_mem_filter member))

/-! ## What a print comes to -/

/-- The browser has answered so to a print. -/
def Answered (es : List (Event β)) (t : Nat) : Except Fault β → Prop
  | .ok b => .reply t (.printed b) ∈ es
  | .error f => .reply t (.failed f) ∈ es

theorem Answered.mono {x : Except Fault β} (answered : Answered es t x) (e : Event β) : Answered (es ++ [e]) t x := by
  cases x <;> exact List.mem_append_left _ answered

theorem Turn.answered {x : Except Fault β} (turn : Turn s s' t e p q d) (before : ∀ y, p.result? = some y → Answered es t y)
    (settled : q.result? = some x) : Answered (es ++ [e]) t x := by
  cases turn with
  | seeks _ _ _ _ _ unsettled => cases unsettled.symm.trans settled
  | fails =>
    obtain rfl := Option.some.inj settled
    exact List.mem_append_right _ List.mem_cons_self
  | opens => cases settled
  | uses _ kind => obtain ⟨-, rfl⟩ | ⟨-, rfl⟩ := kind <;> cases settled
  | leaves _ _ answer =>
    obtain rfl := Option.some.inj settled
    obtain ⟨b, rfl, rfl⟩ | ⟨f, rfl, rfl⟩ := answer <;> exact List.mem_append_right _ List.mem_cons_self
  | closed _ _ answer =>
    obtain rfl := Option.some.inj settled
    obtain ⟨rfl, rfl⟩ | ⟨f, rfl, rfl⟩ := answer
    · exact (before _ rfl).mono _
    · exact List.mem_append_right _ List.mem_cons_self

/-- What prints come to is what the browser has answered. -/
def State.IsAnswered (es : List (Event β)) (s : State β) : Prop :=
  ∀ t p x, s.phase? t = some p → p.result? = some x → Answered es t x

theorem State.IsAnswered.step (answered : s.IsAnswered es) (h : Orderly s) (go : step s e = some s') :
    s'.IsAnswered (es ++ [e]) := by
  intro u r x there settled
  cases changes_of_step h go with
  | joins kind joins =>
    rw [joins.phases] at there
    split at there
    · cases there
      cases joins.unsettled.symm.trans settled
    · exact (answered u r x there settled).mono e
  | @turns t p q d kind shift turn =>
    by_cases own : u = t
    · subst own
      cases shift.after.symm.trans there
      exact turn.answered (fun y => answered u p y shift.there) settled
    · refine (answered u r x ((shift.others u own).phase? there ⟨?_, ?_⟩) settled).mono e <;>
        · rintro rfl
          cases settled
  | drops kind tasks => exact (answered u r x (by rwa [State.phase?, ← tasks]) settled).mono e

/-! ## How prints go on -/

/-- A task goes on, or the browser may answer to it, if only that it fails. -/
def State.GoesOn (s : State β) (t : Nat) : Prop :=
  (step s (.resume t)).isSome ∨ ∀ f, (step s (.reply t (.failed f))).isSome

theorem State.goesOn_of_ready (there : s.phase? t = some p) (ready : p.isReady = true) : s.GoesOn t := by
  refine .inl ?_
  cases p <;> try cases ready
  · cases looks : s.looker <;> simp [step, there, looks]
  · simp [step, there]

theorem State.goesOn_of_call (there : s.phase? t = some p) (calls : p.call?.isSome) : s.GoesOn t := by
  refine .inr fun f => ?_
  rw [step, there, Option.bind_some]
  cases p <;> first | rfl | cases calls

namespace Phase

/-- A print under way stands in line, or goes on, or waits for the browser. -/
theorem eq_of_isUnderWay (busy : p.isUnderWay = true) : p = .queued ∨ p = .waiting ∨ p.isReady = true ∨ p.call?.isSome := by
  cases p <;> simp [isUnderWay, isReady, call?] at busy ⊢

theorem goes_of_look (looks : p.spot = .look) : p.isReady = true ∨ p.call?.isSome := by
  cases p <;> simp [spot, isReady, call?] at looks ⊢

theorem eq_of_slots (has : 0 < p.slots) : p = .waiting ∨ p.isReady = true ∨ p.call?.isSome := by
  cases p <;> simp [slots, hasSlot, isReady, call?] at has ⊢

end Phase

theorem State.goesOn (there : s.phase? t = some p) (goes : p.isReady = true ∨ p.call?.isSome) : s.GoesOn t :=
  goes.elim (goesOn_of_ready there) (goesOn_of_call there)

/-- While a print waits for the look, another has it. -/
theorem Orderly.exists_goesOn_of_waiting (h : Orderly s) (there : s.phase? t = some .waiting) : ∃ u, s.GoesOn u := by
  have inLine : t ∈ s.lookQueue := (h.lines.lookQueue_iff t).mpr (State.spot?_of_phase? there)
  cases looks : s.looker with
  | none =>
    rw [h.lines.idle looks] at inLine
    cases inLine
  | some u =>
    obtain ⟨q, here, look⟩ := Option.map_eq_some_iff.mp ((h.lines.looker_iff u).mp looks)
    exact ⟨u, State.goesOn here (Phase.goes_of_look look)⟩

/-- While a print is under way, some task can go on. -/
theorem Orderly.exists_goesOn (h : Orderly s) (slots : s.free + s.weigh Phase.slots = n) (room : 0 < n)
    (there : s.phase? t = some p) (busy : p.isUnderWay = true) : ∃ u, s.GoesOn u := by
  obtain rfl | rfl | goes := Phase.eq_of_isUnderWay busy
  · -- all slots are had by others
    have inLine : t ∈ s.queue := (h.lines.queue_iff t).mpr (State.spot?_of_phase? there)
    have full := h.lines.full (List.ne_nil_of_mem inLine)
    obtain ⟨u, q, here, has⟩ := State.exists_of_weigh_pos (f := Phase.slots) h.ids (by omega)
    obtain rfl | goes := Phase.eq_of_slots has
    · exact h.exists_goesOn_of_waiting here
    · exact ⟨u, State.goesOn here goes⟩
  · exact h.exists_goesOn_of_waiting there
  · exact ⟨t, State.goesOn there goes⟩

/-! ## How long prints go on -/

namespace Event

def isPrint : Event β → Bool
  | print _ => true
  | shutDown _ | resume _ | reply _ _ | disconnect _ => false

/-- A task that is there goes on, or the browser answers to it. -/
def isTurn : Event β → Bool
  | resume _ | reply _ _ => true
  | print _ | shutDown _ | disconnect _ => false

end Event

/-- Who goes on or moves up has fewer events before it. -/
theorem Shift.rank_lt (shift : Shift s s' t p q d) (less : q.rank < p.rank) :
    s'.weigh Phase.rank < s.weigh Phase.rank := by
  obtain ⟨k, l, -, counts⟩ := shift.counts
  have all := counts Phase.rank
  simp only [Phase.rank] at all less
  omega

theorem rank_step (h : Orderly s) (go : step s e = some s') (print : e.isShutDown = false) :
    (if e.isTurn = true then 1 else 0) + s'.weigh Phase.rank ≤
      s.weigh Phase.rank + 11 * if e.isPrint = true then 1 else 0 := by
  cases changes_of_step h go with
  | @joins t p kind joins =>
    obtain ⟨rfl, -⟩ | rfl := kind
    · have less := p.rank_le
      rw [joins.weigh]
      simp only [Event.isTurn, Event.isPrint, Bool.false_eq_true, if_true, if_false]
      omega
    · cases print
  | turns kind shift turn =>
    have less := shift.rank_lt turn.rank_lt
    have other : e.isTurn = true ∧ e.isPrint = false := by obtain rfl | ⟨r, rfl⟩ := kind <;> exact ⟨rfl, rfl⟩
    rw [other.1, other.2, if_pos rfl, if_neg Bool.false_ne_true]
    omega
  | drops kind tasks =>
    subst kind
    rw [State.weigh_congr tasks]
    simp only [Event.isTurn, Event.isPrint, Bool.false_eq_true, if_false]
    omega

/-! ## Runs -/

/-- What holds of a press that only prints make use of. -/
structure InUse (n : Nat) (es : List (Event β)) (s : State β) : Prop where
  prints : s.IsOfPrints
  known : ∀ b ∈ s.connected, s.browser = some b
  answered : s.IsAnswered es
  rank : es.countP Event.isTurn + s.weigh Phase.rank ≤ 11 * es.countP Event.isPrint

theorem InUse.after (alone : ∀ e ∈ es, e.isShutDown = false) (run : Press.after (State.ofSize n) es = some s) :
    InUse n es s := by
  have start : InUse n [] (State.ofSize n : State β) := by
    constructor <;> simp [State.IsOfPrints, State.IsAnswered, State.ofSize, State.phase?, State.weigh]
  refine after_induction (P := fun es u => (∀ e ∈ es, e.isShutDown = false) → InUse n es u) (fun _ => start) ?_ run alone
  intro es u e u' before ih go alone
  obtain ⟨prints, known, answered, rank⟩ := ih fun d member => alone d (List.mem_append_left _ member)
  obtain ⟨orderly, needed⟩ := Launched.after before
  have print := alone e (List.mem_append_right _ List.mem_cons_self)
  refine ⟨prints.step orderly go print, prints.connected_step needed go known, answered.step orderly go, ?_⟩
  have step := rank_step orderly go print
  rw [List.countP_append, List.countP_append, List.countP_singleton, List.countP_singleton]
  omega

/-- A press of `n` slots after some events. -/
structure Balanced (n : Nat) (es : List (Event β)) (s : State β) : Prop where
  /-- no more contexts are open than there are slots -/
  contexts : s.contexts.length ≤ n
  /-- one browser at most is launched at a time -/
  oneLaunch : ∀ t u, s.Launches t → s.Launches u → t = u
  /-- a browser is launched only while none is connected -/
  need : ∀ t, s.Launches t → s.connected = []
  /-- a print comes to what the browser has printed for it, or to a failure that the browser has answered -/
  outcome : ∀ t r, s.outcome? t = some r →
    (∃ b, r = .ok b ∧ .reply t (.printed b) ∈ es) ∨
      ∃ f, r = .error (.making .pdf .printing (.fault f)) ∧ .reply t (.failed f) ∈ es
  /-- once it has, its context is no longer open and has been asked to close once -/
  closed : ∀ t c, (s.outcome? t).isSome → (t, .paging c) ∈ log (State.ofSize n) es →
    c ∉ s.contexts ∧ closings c (log (State.ofSize n) es) = 1
  /-- a slot is free or had by a print under way -/
  slots : s.free + s.weigh Phase.slots = n
  /-- once all prints are over, all slots are free -/
  allFree : (∀ t p, s.phase? t = some p → (s.outcome? t).isSome) → s.free = n
  /-- while a print is under way, some task can go on -/
  goesOn : ∀ t p, s.phase? t = some p → s.outcome? t = none → ∃ u, s.GoesOn u
  /-- prints have no more than eleven events each until they are over -/
  ends : es.countP Event.isTurn + s.weigh Phase.rank ≤ 11 * es.countP Event.isPrint

theorem State.outcome?_of_ended {x : Except Fault β} (there : s.phase? t = some (.ended x)) :
    s.outcome? t = some (x.mapError fun f => .making .pdf .printing (.fault f)) := by rw [outcome?, there]

theorem State.phase?_of_outcome? {r : Except Failure β} (came : s.outcome? t = some r) :
    ∃ x, s.phase? t = some (.ended x) ∧ r = x.mapError fun f => .making .pdf .printing (.fault f) := by
  rw [outcome?] at came
  split at came
  · rename_i x there
    exact ⟨x, there, (Option.some.inj came).symm⟩
  · cases came

/-- A print that has come to nothing yet is under way. -/
theorem State.IsOfPrints.isUnderWay (prints : s.IsOfPrints) (there : s.phase? t = some p) (open_ : s.outcome? t = none) :
    p.isUnderWay = true := by
  have isOfPrint := prints t p there
  cases p <;> try rfl
  · cases (State.outcome?_of_ended there).symm.trans open_
  all_goals cases isOfPrint

/-- A press in use by prints alone, whatever the browser answers, and whenever it is gone. -/
theorem prints_balanced (room : 0 < n) (alone : ∀ e ∈ es, e.isShutDown = false)
    (run : after (State.ofSize n) es = some s) : Balanced n es s := by
  obtain ⟨orderly, needed⟩ := Launched.after run
  obtain ⟨prints, known, answered, rank⟩ := InUse.after alone run
  have kept := Kept.after run
  have slots := slots_after run
  refine ⟨?_, fun _ _ => orderly.launches_unique, fun t launches => ?_, fun t r came => ?_, fun t c came opened => ?_, slots,
    fun came => ?_, fun t p there open_ => ?_, rank⟩
  · rw [kept.length, ← slots]
    exact Nat.le_add_left_of_le (State.weigh_mono Phase.hasAny_le_slots s)
  · refine List.eq_nil_iff_forall_not_mem.mpr fun b member => ?_
    exact Option.filter_eq_none_iff.mp (needed t launches) b (known b member) (List.contains_iff_mem.mpr member)
  · obtain ⟨x, there, rfl⟩ := State.phase?_of_outcome? came
    have so := answered t _ x there rfl
    cases x with
    | ok b => exact .inl ⟨b, rfl, so⟩
    | error f => exact .inr ⟨f, rfl, so⟩
  · obtain ⟨r, came⟩ := Option.isSome_iff_exists.mp came
    obtain ⟨x, there, -⟩ := State.phase?_of_outcome? came
    refine kept.closed orderly opened fun p here => ?_
    cases there.symm.trans here
    rfl
  · have none_ : s.weigh Phase.slots = 0 := State.weigh_eq_zero orderly.ids fun t p there => by
      obtain ⟨r, came⟩ := Option.isSome_iff_exists.mp (came t p there)
      obtain ⟨x, here, -⟩ := State.phase?_of_outcome? came
      cases here.symm.trans there
      rfl
    rwa [none_] at slots
  · exact orderly.exists_goesOn slots room there (prints.isUnderWay there open_)

/-- Two prints share one slot. The browser fails to print the first page and is gone then, so the second print has another
one launched. -/
theorem prints_balanced_relaunch :
    let es : List (Event Unit) := [
      .print 0, .print 1, .resume 0, .resume 0, .reply 0 .done, .reply 0 .done, .reply 0 .done, .reply 0 .done, .reply 0 .done,
      .reply 0 (.failed .badEncoding), .reply 0 .done, .disconnect 0, .resume 1, .resume 1, .reply 1 .done, .reply 1 .done,
      .reply 1 .done, .reply 1 .done, .reply 1 (.printed ()), .reply 1 .done]
    ∃ s, after (State.ofSize 1) es = some s ∧ Balanced 1 es s ∧ s.outcome? 1 = some (.ok ()) ∧
      closings 0 (log (State.ofSize 1) es) = 1 ∧ closings 1 (log (State.ofSize 1) es) = 1 := by
  intro es
  obtain ⟨s, run, first, second⟩ : ∃ s, after (State.ofSize 1) es = some s ∧
      s.phase? 0 = some (.ended (.error .badEncoding)) ∧ s.phase? 1 = some (.ended (.ok ())) := ⟨_, rfl, rfl, rfl⟩
  have balanced : Balanced 1 es s := prints_balanced Nat.one_pos (by decide) run
  have came {t : Nat} {x : Except Fault Unit} (there : s.phase? t = some (.ended x)) : (s.outcome? t).isSome := by
    rw [State.outcome?_of_ended there, Option.isSome_some]
  refine ⟨s, run, balanced, State.outcome?_of_ended second, ?_, ?_⟩
  · exact (balanced.closed 0 0 (came first) (List.mem_of_getElem? (i := 6) rfl)).2
  · exact (balanced.closed 1 1 (came second) (List.mem_of_getElem? (i := 14) rfl)).2

end Letterpress.Press
