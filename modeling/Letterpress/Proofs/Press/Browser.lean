import Letterpress.Proofs.Press.Turn

/-!
# Browsers that are kept

The press remembers one browser, and a shutdown holds on to the one that it closes. A shutdown forgets what the press
remembers by then, which may be another browser than the one that it has closed.

* `State.KeepsAll`: every browser that is connected is remembered or being closed.
* `Loses`: the two ways in which a browser gets lost.
* `keepsAll_step_iff`: every event keeps all browsers but one that loses one.
* `browsers_kept_iff`: in a run, all browsers are kept, and closed in the end, exactly if none gets lost.
-/

namespace Letterpress.Press

variable {β : Type} {s s' s₀ : State β} {e : Event β} {t u b n : Nat} {p q : Phase β} {es : List (Event β)}

/-! ## Who launches a browser -/

/-- A task launches a browser, or the engine for it. -/
def State.Launches (s : State β) (t : Nat) : Prop := s.phase? t = some .starting ∨ s.phase? t = some .launching

/-- While a browser is launched, there is none to make use of. -/
def State.LaunchesInNeed (s : State β) : Prop := ∀ t, s.Launches t → s.usable? = none

theorem Orderly.launches_unique (h : Orderly s) (a : s.Launches t) (b : s.Launches u) : t = u := by
  have looks {v : Nat} (launches : s.Launches v) : s.looker = some v := by
    obtain there | there := launches <;> exact (h.lines.looker_iff v).mpr (State.spot?_of_phase? there)
  exact Option.some.inj ((looks a).symm.trans (looks b))

/-- An event lets the tasks of others stay or move up. -/
theorem others_of_step (h : Orderly s) (go : step s e = some s') (other : e.task? ≠ some u) : StaysOrMovesUp s s' u := by
  cases changes_of_step h go with
  | joins kind joins =>
    refine .inl ?_
    rw [joins.phases, if_neg]
    rintro rfl
    obtain ⟨rfl, -⟩ | rfl := kind <;> exact other rfl
  | turns kind shift =>
    refine shift.others u ?_
    rintro rfl
    obtain rfl | ⟨r, rfl⟩ := kind <;> exact other rfl
  | drops kind tasks => exact .inl (by rw [State.phase?, State.phase?, tasks])

theorem StaysOrMovesUp.launches (stays : StaysOrMovesUp s s' u) (after : s'.Launches u) : s.Launches u :=
  after.imp (stays.phase? · ⟨nofun, nofun⟩) (stays.phase? · ⟨nofun, nofun⟩)

/-- A task that goes on is nowhere else. -/
theorem State.phase?_setPhase_ne (s : State β) (t : Nat) (other : p ≠ q) : (s.setPhase t p).phase? t ≠ some q := by
  rw [phase?_setPhase, if_pos rfl]
  cases s.phase? t <;> simp [other]

theorem State.not_launches_setPhase (s : State β) (t : Nat) (other : p ≠ .starting ∧ p ≠ .launching) :
    ¬(s.setPhase t p).Launches t := by
  rintro (there | there)
  · exact s.phase?_setPhase_ne t other.1 there
  · exact s.phase?_setPhase_ne t other.2 there

theorem State.not_launches_add (unknown : s.phase? t = none) (other : p ≠ .starting ∧ p ≠ .launching) :
    ¬(s.add t p).Launches t := by
  simp [Launches, phase?_add unknown, other]

theorem State.stop_ne_launches (s : State β) : s.stop ≠ .starting ∧ s.stop ≠ .launching := by
  unfold stop
  split <;> exact ⟨nofun, nofun⟩

theorem State.launches_of_leave (launches : s.leave.Launches t) : s.Launches t := by
  cases waits : s.queue with
  | nil =>
    rw [leave_of_nil waits] at launches
    exact launches
  | cons v rest =>
    rw [leave_of_cons waits] at launches
    by_cases first : t = v
    · subst first
      exact absurd launches (not_launches_setPhase _ t ⟨nofun, nofun⟩)
    · rwa [Launches, phase?_setPhase, if_neg first] at launches

/-! ## What an event does to browsers -/

inductive Browsers (s s' : State β) : Event β → Prop where
  /-- no browser is concerned, and nobody who closes one -/
  | stays {e : Event β} (browser : s'.browser = s.browser) (connected : s'.connected = s.connected)
      (other : ∀ t b, e.task? = some t → s.phase? t ≠ some (.shutting b)) : Browsers s s' e
  | launched {t : Nat} (there : s.phase? t = some .launching) (browser : s'.browser = some s.launched)
      (connected : s'.connected = s.connected ++ [s.launched]) : Browsers s s' (.reply t .done)
  | shut {t b : Nat} (there : s.phase? t = some (.shutting b)) (gone : ∀ c, s'.phase? t ≠ some (.shutting c))
      (browser : s'.browser = none) (connected : s'.connected = s.connected.filter (· != b)) :
      Browsers s s' (.reply t .done)
  | unshut {t b : Nat} {f : Fault} (there : s.phase? t = some (.shutting b)) (gone : ∀ c, s'.phase? t ≠ some (.shutting c))
      (browser : s'.browser = s.browser) (connected : s'.connected = s.connected) : Browsers s s' (.reply t (.failed f))
  | disconnects (b : Nat) (browser : s'.browser = s.browser) (connected : s'.connected = s.connected.filter (· != b)) :
      Browsers s s' (.disconnect b)

theorem State.browsers_leave (s : State β) : s.leave.browser = s.browser ∧ s.leave.connected = s.connected := by
  unfold State.leave
  split <;> exact ⟨rfl, rfl⟩

theorem State.browsers_lookAway (s : State β) : s.lookAway.browser = s.browser ∧ s.lookAway.connected = s.connected := by
  unfold State.lookAway
  split <;> exact ⟨rfl, rfl⟩

/-- What a known task waits for tells whether it closes a browser. -/
theorem other_of_phase? (there : s.phase? t = some p) (other : ∀ b, p ≠ .shutting b) (u b : Nat) (own : some t = some u) :
    s.phase? u ≠ some (.shutting b) := by
  obtain rfl := Option.some.inj own
  intro here
  exact other b (Option.some.inj (there.symm.trans here))

theorem other_of_unknown (unknown : s.phase? t = none) (u b : Nat) (own : some t = some u) :
    s.phase? u ≠ some (.shutting b) := by
  obtain rfl := Option.some.inj own
  intro here
  cases unknown.symm.trans here

theorem browsers_of_step (go : step s e = some s') : Browsers s s' e := by
  cases moves_of_step go with
  | queues unknown | enters unknown | closes unknown | closesNothing unknown =>
    exact .stays rfl rfl (other_of_unknown unknown)
  | waits there | looks there | started there | opened there | stopped there =>
    exact .stays rfl rfl (other_of_phase? there nofun)
  | misses there => exact .stays rfl rfl (other_of_phase? there nofun)
  | finds there =>
    obtain ⟨browser, connected⟩ := s.browsers_lookAway
    exact .stays browser connected (other_of_phase? there nofun)
  | launched there =>
    obtain ⟨browser, connected⟩ := { s with
      browser := some s.launched, connected := s.connected ++ [s.launched]
      launched := s.launched + 1 : State β }.browsers_lookAway
    exact .launched there browser connected
  | @givesUp t p f there kind =>
    obtain ⟨browser, connected⟩ := s.browsers_lookAway
    obtain ⟨browser', connected'⟩ := (s.lookAway.setPhase t (.ended (.error f))).browsers_leave
    exact .stays (browser'.trans browser) (connected'.trans connected)
      (other_of_phase? there (by obtain rfl | rfl := kind <;> nofun))
  | @unopened t b f there =>
    obtain ⟨browser, connected⟩ := (s.setPhase t (.ended (.error f))).browsers_leave
    exact .stays browser connected (other_of_phase? there nofun)
  | uses there kind => exact .stays rfl rfl (other_of_phase? there (by obtain ⟨rfl, rfl⟩ | ⟨rfl, rfl⟩ := kind <;> nofun))
  | leaves there kind => exact .stays rfl rfl (other_of_phase? there (by obtain rfl | rfl | rfl := kind <;> nofun))
  | @closed t c r x y there =>
    obtain ⟨browser, connected⟩ := ({ s with contexts := s.contexts.filter (· != c) }.setPhase t (.ended y)).browsers_leave
    exact .stays browser connected (other_of_phase? there nofun)
  | shut there =>
    refine .shut there (fun c => State.phase?_setPhase_ne _ _ ?_) rfl rfl
    unfold State.stop
    split <;> nofun
  | unshut there kind =>
    obtain ⟨b, rfl⟩ | rfl := kind
    · exact .unshut there (fun c => State.phase?_setPhase_ne _ _ nofun) rfl rfl
    · exact .stays rfl rfl (other_of_phase? there nofun)
  | disconnects b => exact .disconnects b rfl rfl

/-- Only a browser that is launched can be made use of all at once. -/
theorem Browsers.usable?_eq_none (browsers : Browsers s s' e) (unusable : s.usable? = none) :
    s'.usable? = none ∨ ∃ t, e = .reply t .done ∧ s.phase? t = some .launching := by
  cases browsers with
  | stays browser connected =>
    refine .inl ?_
    rwa [State.usable?, browser, connected]
  | launched there => exact .inr ⟨_, rfl, there⟩
  | shut there gone browser =>
    refine .inl ?_
    rw [State.usable?, browser, Option.filter_none]
  | unshut there gone browser connected =>
    refine .inl ?_
    rwa [State.usable?, browser, connected]
  | disconnects b browser connected =>
    refine .inl ?_
    rw [State.usable?, browser, connected]
    refine Option.filter_eq_none_iff.mpr fun c known found => Option.filter_eq_none_iff.mp unusable c known ?_
    simp only [List.contains_iff_mem, List.mem_filter] at found ⊢
    exact found.1

/-- A task begins to launch a browser only when there is none to make use of. -/
theorem usable?_of_launches (go : step s e = some s') (own : e.task? = some t) (launches : s'.Launches t) :
    s.usable? = none ∨ s.Launches t := by
  cases moves_of_step go with
  | misses there unusable => exact .inl unusable
  | started there =>
    cases own
    exact .inr (.inl there)
  | queues unknown | enters unknown =>
    cases own
    exact absurd launches (State.not_launches_add (by exact unknown) ⟨nofun, nofun⟩)
  | closes unknown =>
    cases own
    exact absurd launches (State.not_launches_add unknown ⟨nofun, nofun⟩)
  | closesNothing unknown nothing =>
    cases own
    exact absurd launches (State.not_launches_add unknown s.stop_ne_launches)
  | waits | looks | finds | launched | opened | leaves | unshut | stopped =>
    cases own
    exact absurd launches (State.not_launches_setPhase _ _ ⟨nofun, nofun⟩)
  | uses there kind =>
    cases own
    exact absurd launches (State.not_launches_setPhase _ _ (by obtain ⟨-, rfl⟩ | ⟨-, rfl⟩ := kind <;> exact ⟨nofun, nofun⟩))
  | shut =>
    cases own
    exact absurd launches (State.not_launches_setPhase _ _ s.stop_ne_launches)
  | givesUp | unopened | closed =>
    cases own
    exact absurd (State.launches_of_leave launches) (State.not_launches_setPhase _ _ ⟨nofun, nofun⟩)
  | disconnects => cases own

theorem launchesInNeed_step (h : Orderly s) (needed : s.LaunchesInNeed) (go : step s e = some s') : s'.LaunchesInNeed := by
  intro u launches
  have before : s.usable? = none := by
    by_cases own : e.task? = some u
    · obtain unusable | launches' := usable?_of_launches go own launches
      · exact unusable
      · exact needed u launches'
    · exact needed u ((others_of_step h go own).launches launches)
  obtain unusable | ⟨t, rfl, there⟩ := (browsers_of_step go).usable?_eq_none before
  · exact unusable
  · -- whoever has launched a browser was the only one to do so
    by_cases own : u = t
    · subst own
      simp only [step, there, Option.bind_some, State.answer, Option.some.injEq] at go
      subst go
      exact absurd launches (State.not_launches_setPhase _ _ (by simp))
    · have stays := others_of_step h go (u := u) fun same => own (Option.some.inj same).symm
      exact absurd (h.launches_unique (stays.launches launches) (.inr there)) own

/-! ## Browsers that are connected -/

/-- The press remembers a browser, or a shutdown closes it. -/
def State.Keeps (s : State β) (b : Nat) : Prop := s.browser = some b ∨ ∃ t, s.phase? t = some (.shutting b)

def State.KeepsAll (s : State β) : Prop := ∀ b ∈ s.connected, s.Keeps b

/-- A browser gets lost. -/
inductive Loses (s : State β) : Event β → Prop where
  /-- a shutdown that has closed a browser, while the press remembers another that nobody closes -/
  | forgotten {t b c : Nat} (there : s.phase? t = some (.shutting b)) (known : s.browser = some c) (other : c ≠ b)
      (connected : c ∈ s.connected) (nobody : ∀ u, s.phase? u ≠ some (.shutting c)) : Loses s (.reply t .done)
  /-- a shutdown that cannot close a browser which the press does not remember, and nobody else closes it -/
  | givenUp {t b : Nat} {f : Fault} (there : s.phase? t = some (.shutting b)) (unknown : s.browser ≠ some b)
      (connected : b ∈ s.connected) (nobody : ∀ u, u ≠ t → s.phase? u ≠ some (.shutting b)) :
      Loses s (.reply t (.failed f))

/-- A shutdown that is not concerned stays. -/
theorem StaysOrMovesUp.shutting_iff (stays : StaysOrMovesUp s s' u) (b : Nat) :
    s'.phase? u = some (.shutting b) ↔ s.phase? u = some (.shutting b) := by
  obtain same | ⟨before, after⟩ | ⟨before, after⟩ := stays
  · rw [same]
  · rw [before, after]
    exact ⟨nofun, nofun⟩
  · rw [before, after]
    exact ⟨nofun, nofun⟩

/-- An event keeps all browsers but one that loses one. -/
theorem keepsAll_step_iff (h : Orderly s) (needed : s.LaunchesInNeed) (kept : s.KeepsAll) (go : step s e = some s') :
    s'.KeepsAll ↔ ¬Loses s e := by
  have shutting (u c : Nat) (other : e.task? ≠ some u) : s'.phase? u = some (.shutting c) ↔ s.phase? u = some (.shutting c) :=
    (others_of_step h go other).shutting_iff c
  cases browsers_of_step go with
  | stays browser connected other =>
    refine iff_of_true (fun b member => ?_) ?_
    · rw [connected] at member
      obtain known | ⟨u, there⟩ := kept b member
      · exact .inl (browser.trans known)
      · exact .inr ⟨u, (shutting u b fun own => other u b own there).mpr there⟩
    · rintro (⟨there⟩ | ⟨there⟩) <;> exact other _ _ rfl there
  | @launched t there browser connected =>
    refine iff_of_true (fun b member => ?_) ?_
    · rw [connected, List.mem_append, List.mem_singleton] at member
      obtain old | rfl := member
      · obtain known | ⟨u, here⟩ := kept b old
        · have unusable := Option.filter_eq_none_iff.mp (needed t (.inr there)) b known
          exact absurd (List.contains_iff_mem.mpr old) unusable
        · refine .inr ⟨u, (shutting u b ?_).mpr here⟩
          rintro ⟨⟩
          cases there.symm.trans here
      · exact .inl browser
    · rintro (⟨here⟩ | ⟨here⟩)
      cases there.symm.trans here
  | @shut t b there gone browser connected =>
    have other {u c : Nat} (apart : u ≠ t) := shutting u c fun own => apart (Option.some.inj own).symm
    constructor
    · rintro kept' (⟨here, known, apart, member, nobody⟩ | -)
      cases there.symm.trans here
      have member' : _ ∈ s'.connected := connected ▸ List.mem_filter.mpr ⟨member, by simpa using apart⟩
      obtain known' | ⟨u, here'⟩ := kept' _ member'
      · cases browser.symm.trans known'
      · by_cases own : u = t
        · exact gone _ (own ▸ here')
        · exact nobody u ((other own).mp here')
    · intro safe c member
      rw [connected, List.mem_filter, bne_iff_ne] at member
      obtain ⟨member, apart⟩ := member
      have still (u : Nat) (here : s.phase? u = some (.shutting c)) : s'.Keeps c := by
        refine .inr ⟨u, (other ?_).mpr here⟩
        rintro rfl
        cases there.symm.trans here
        exact apart rfl
      obtain known | ⟨u, here⟩ := kept c member
      · by_contra lost
        exact safe (.forgotten there known apart member fun u here => lost (still u here))
      · exact still u here
  | @unshut t b f there gone browser connected =>
    have other {u c : Nat} (apart : u ≠ t) := shutting u c fun own => apart (Option.some.inj own).symm
    constructor
    · rintro kept' (- | ⟨here, unknown, member, nobody⟩)
      cases there.symm.trans here
      obtain known' | ⟨u, here'⟩ := kept' b (connected ▸ member)
      · exact unknown (browser.symm.trans known')
      · by_cases own : u = t
        · exact gone _ (own ▸ here')
        · exact nobody u own ((other own).mp here')
    · intro safe c member
      rw [connected] at member
      obtain known | ⟨u, here⟩ := kept c member
      · exact .inl (browser.trans known)
      · by_cases own : u = t
        · subst own
          cases there.symm.trans here
          by_contra lost
          refine safe (.givenUp there (fun known => lost (.inl (browser.trans known))) member fun v apart here' => ?_)
          exact lost (.inr ⟨v, (other apart).mpr here'⟩)
        · exact .inr ⟨u, (other own).mpr here⟩
  | disconnects b browser connected =>
    refine iff_of_true (fun c member => ?_) nofun
    rw [connected, List.mem_filter] at member
    obtain known | ⟨u, here⟩ := kept c member.1
    · exact .inl (browser.trans known)
    · exact .inr ⟨u, (shutting u c nofun).mpr here⟩

/-! ## Runs -/

/-- No event of a run loses a browser. -/
def Safe (s : State β) (es : List (Event β)) : Prop :=
  ∀ before e later u, es = before ++ e :: later → after s before = some u → ¬Loses u e

/-- What holds of a press at all times. -/
structure Launched (s : State β) : Prop where
  orderly : Orderly s
  needed : s.LaunchesInNeed

theorem Launched.after (run : Press.after (State.ofSize n) es = some s) : Launched s := by
  refine after_induction (P := fun _ u => Launched u) ⟨.ofSize n, fun t launches => ?_⟩ ?_ run
  · obtain ⟨⟨⟩⟩ | ⟨⟨⟩⟩ := launches
  · rintro es u e u' - ⟨orderly, needed⟩ go
    exact ⟨orderly.step go, launchesInNeed_step orderly needed go⟩

/-- All browsers are kept throughout a run exactly if none gets lost. -/
theorem keepsAll_iff_safe (run : after (State.ofSize n) es = some s) :
    (∀ before later u, es = before ++ later → after (State.ofSize n) before = some u → u.KeepsAll) ↔
      Safe (State.ofSize n) es := by
  constructor
  · rintro kept before e later u rfl here
    obtain ⟨v, first, rest⟩ := after_append.mp run
    cases here.symm.trans first
    obtain ⟨u', go, -⟩ := after_cons.mp rest
    have next : after (State.ofSize n) (before ++ [e]) = some u' := after_append.mpr ⟨u, here, after_cons.mpr ⟨u', go, rfl⟩⟩
    have launched := Launched.after here
    exact (keepsAll_step_iff launched.orderly launched.needed (kept before _ u rfl here) go).mp
      (kept (before ++ [e]) later u' (by simp) next)
  · rintro safe before later u rfl here
    have start : (State.ofSize n : State β).KeepsAll := fun b member => by cases member
    refine after_induction (P := fun es u => es <+: before → u.KeepsAll) (fun _ => start) ?_ here List.prefix_rfl
    rintro es v e v' first ih go ⟨rest, rfl⟩
    have launched := Launched.after first
    have kept := ih (by simp [List.append_assoc])
    refine (keepsAll_step_iff launched.orderly launched.needed kept go).mpr (safe es e (rest ++ later) v ?_ first)
    simp

/-! ## A last shutdown -/

/-- Whether a print is under way. -/
def Phase.isUnderWay : Phase β → Bool
  | queued | admitted | waiting | looking | starting | launching | opening _ | paging _ | filling _ | printing _
  | closing _ _ => true
  | ended _ | shutting _ | stopping | shut _ => false

/-- All prints are at their ends. -/
def State.IsCalm (s : State β) : Prop := ∀ t p, s.phase? t = some p → p.isUnderWay = false

/-- A shutdown at a time when all prints are at their ends: behind the browser, there is none. -/
structure ShutsDown (t : Nat) (s : State β) : Prop where
  calm : s.IsCalm
  known : s.phase? t ≠ none
  empty : ∀ p, s.phase? t = some p → (p = .stopping ∨ p = .shut (.ok ())) → s.browser = none

theorem State.isUnderWay_stop (s : State β) : s.stop.isUnderWay = false := by
  unfold stop
  split <;> rfl

theorem State.IsCalm.setPhase (calm : s.IsCalm) (idle : p.isUnderWay = false) (t : Nat) : (s.setPhase t p).IsCalm := by
  intro u q there
  rw [phase?_setPhase] at there
  split at there
  · obtain ⟨-, -, rfl⟩ := Option.map_eq_some_iff.mp there
    exact idle
  · exact calm u q there

theorem State.IsCalm.add (calm : s.IsCalm) (unknown : s.phase? t = none) (idle : p.isUnderWay = false) :
    (s.add t p).IsCalm := by
  intro u q there
  rw [phase?_add unknown] at there
  split at there
  · obtain rfl := Option.some.inj there
    exact idle
  · exact calm u q there

theorem ShutsDown.begin_ (calm : s.IsCalm) (go : step s (.shutDown t) = some s') : ShutsDown t s' := by
  cases moves_of_step go with
  | closes unknown there =>
    refine ⟨calm.add unknown rfl, by simp [State.phase?_add unknown], fun p here behind => ?_⟩
    rw [State.phase?_add unknown, if_pos rfl] at here
    obtain rfl := Option.some.inj here
    obtain ⟨⟨⟩⟩ | ⟨⟨⟩⟩ := behind
  | closesNothing unknown nothing =>
    exact ⟨calm.add unknown s.isUnderWay_stop, by simp [State.phase?_add unknown], fun _ _ _ => nothing⟩

/-- Another task comes or goes on. -/
theorem ShutsDown.congr (h : ShutsDown t s) (calm : s'.IsCalm) (same : s'.phase? t = s.phase? t)
    (browser : s'.browser = s.browser ∨ s'.browser = none) : ShutsDown t s' := by
  refine ⟨calm, same ▸ h.known, fun p there behind => ?_⟩
  obtain same' | gone := browser
  · exact same'.trans (h.empty p (same ▸ there) behind)
  · exact gone

/-- A shutdown goes on, be it the one or another. -/
theorem ShutsDown.setPhase (h : ShutsDown t s) (tasks : s₀.tasks = s.tasks) (there : s.phase? u = some p)
    (idle : q.isUnderWay = false) (browser : s₀.browser = s.browser ∨ s₀.browser = none)
    (empty : (q = .stopping ∨ q = .shut (.ok ())) → u = t → s₀.browser = none) : ShutsDown t (s₀.setPhase u q) := by
  have same (v : Nat) : s₀.phase? v = s.phase? v := by rw [State.phase?, tasks, State.phase?]
  have calm : s₀.IsCalm := fun v r here => h.calm v r ((same v).symm.trans here)
  by_cases own : u = t
  · subst own
    have after : (s₀.setPhase u q).phase? u = some q := by
      rw [State.phase?_setPhase_of ((same u).trans there), if_pos rfl]
    refine ⟨calm.setPhase idle u, by simp [after], fun r here behind => ?_⟩
    obtain rfl := Option.some.inj (after.symm.trans here)
    exact empty behind rfl
  · refine h.congr (calm.setPhase idle u) ?_ browser
    rw [State.phase?_setPhase, if_neg (Ne.symm own), same]

theorem ShutsDown.step (h : ShutsDown t s) (go : step s e = some s') (other : ∀ u, e ≠ .print u) : ShutsDown t s' := by
  have idle {u : Nat} {p : Phase β} (there : s.phase? u = some p) (busy : p.isUnderWay = true) : False := by
    cases (h.calm u p there).symm.trans busy
  have new {u : Nat} {p : Phase β} (unknown : s.phase? u = none) : (s.add u p).phase? t = s.phase? t := by
    rw [State.phase?_add unknown, if_neg]
    rintro rfl
    exact h.known unknown
  cases moves_of_step go with
  | queues | enters => exact absurd rfl (other _)
  | closes unknown there => exact h.congr (h.calm.add unknown rfl) (new unknown) (.inl rfl)
  | closesNothing unknown nothing => exact h.congr (h.calm.add unknown s.isUnderWay_stop) (new unknown) (.inl rfl)
  | shut there => exact h.setPhase (by rfl) there s.isUnderWay_stop (.inr rfl) fun _ _ => rfl
  | unshut there kind => exact h.setPhase (by rfl) there rfl (.inl rfl) fun behind => by simp at behind
  | stopped there =>
    refine h.setPhase (by rfl) there rfl (.inl rfl) fun _ own => ?_
    subst own
    exact h.empty _ there (.inl rfl)
  | disconnects b => exact h.congr h.calm rfl (.inl rfl)
  | waits there | looks there | finds there | misses there | started there | launched there | opened there
  | unopened there | closed there => exact (idle there rfl).elim
  | givesUp there kind => exact (idle there (by obtain rfl | rfl := kind <;> rfl)).elim
  | uses there kind => exact (idle there (by obtain ⟨rfl, -⟩ | ⟨rfl, -⟩ := kind <;> rfl)).elim
  | leaves there kind => exact (idle there (by obtain rfl | rfl | rfl := kind <;> rfl)).elim

/-- Once a last shutdown is over, the press remembers no browser. -/
theorem browser_of_shut {later : List (Event β)} (calm : s.IsCalm) (run : after s (.shutDown t :: later) = some s')
    (last : ∀ u, .print u ∉ later) (isShut : s'.phase? t = some (.shut (.ok ()))) : s'.browser = none := by
  obtain ⟨v, first, rest⟩ := after_cons.mp run
  have closes : (∀ e ∈ later, ∀ u, e ≠ .print u) → ShutsDown t s' := by
    refine after_induction (P := fun es u => (∀ e ∈ es, ∀ v, e ≠ .print v) → ShutsDown t u) (fun _ => .begin_ calm first) ?_ rest
    intro es w e w' _ ih go other
    exact (ih fun d member => other d (List.mem_append_left _ member)).step go (other e (by simp))
  refine (closes ?_).empty _ isShut (.inr rfl)
  rintro e member u rfl
  exact last u member

/-- A press in use by any prints and shutdowns, with any answers of the browser, which may be gone at any time. All
browsers that are connected are remembered or being closed throughout, and none is left connected once a shutdown that
began behind the last print is over and no other closes one, exactly if no event of the run loses a browser. -/
theorem browsers_kept_iff (run : after (State.ofSize n) es = some s) :
    ((∀ before later u, es = before ++ later → after (State.ofSize n) before = some u → u.KeepsAll) ∧
      ∀ before t later u, es = before ++ .shutDown t :: later → after (State.ofSize n) before = some u → u.IsCalm →
        (∀ v, .print v ∉ later) → s.phase? t = some (.shut (.ok ())) → (∀ v b, s.phase? v ≠ some (.shutting b)) →
          s.connected = []) ↔
      Safe (State.ofSize n) es := by
  refine ⟨fun kept => (keepsAll_iff_safe run).mp kept.1, fun safe => ?_⟩
  have kept := (keepsAll_iff_safe run).mpr safe
  refine ⟨kept, ?_⟩
  rintro before t later u rfl here calm last isShut nobody
  obtain ⟨v, first, rest⟩ := after_append.mp run
  cases here.symm.trans first
  have nothing := browser_of_shut calm rest last isShut
  refine List.eq_nil_iff_forall_not_mem.mpr fun b member => ?_
  obtain known | ⟨w, closes⟩ := kept _ [] s (List.append_nil _).symm run b member
  · cases nothing.symm.trans known
  · exact nobody w b closes

theorem State.phase_of_all (P : Phase β → Bool) (all : (s.tasks.all fun x => P x.2) = true) (there : s.phase? t = some p) :
    P p = true := by
  obtain ⟨before, behind, same, -⟩ := List.lookup_eq_some_iff.mp there
  exact List.all_eq_true.mp all (t, p) (by simp [same])

/-- Nobody closes a browser. -/
theorem State.not_shutting (all : (s.tasks.all fun x => x.2.call? != some "close") = true) (v b : Nat) :
    s.phase? v ≠ some (.shutting b) := by
  intro there
  cases phase_of_all (fun p => p.call? != some "close") all there

theorem State.not_keepsAll (connected : s.connected = [b]) (unknown : s.browser = none)
    (all : (s.tasks.all fun x => x.2.call? != some "close") = true) : ¬s.KeepsAll := by
  intro kept
  obtain known | ⟨v, closes⟩ := kept b (by simp [connected])
  · cases unknown.symm.trans known
  · exact not_shutting all v b closes

/-- A browser that is gone before it is closed, and another that is launched meanwhile. -/
theorem browsers_kept_iff_gone :
    let es : List (Event Unit) := [
      .print 0, .resume 0, .resume 0, .reply 0 .done, .reply 0 .done, .shutDown 1, .disconnect 0,
      .print 2, .resume 2, .resume 2, .reply 2 .done, .reply 1 .done]
    ∃ s, after (State.ofSize 2) es = some s ∧ ¬Safe (State.ofSize 2) es := by
  intro es
  obtain ⟨s, run, connected, unknown, all⟩ : ∃ s, after (State.ofSize 2) es = some s ∧ s.connected = [1] ∧ s.browser = none ∧
      (s.tasks.all fun x => x.2.call? != some "close") = true := ⟨_, rfl, rfl, rfl, rfl⟩
  refine ⟨s, run, fun safe => ?_⟩
  have kept := ((browsers_kept_iff run).mpr safe).1
  exact State.not_keepsAll connected unknown all (kept es [] s (List.append_nil es).symm run)

/-- Three shutdowns close one browser. While the last of them waits, a print launches another browser, which this
shutdown makes the press forget. A further shutdown finds nothing to close. -/
theorem browser_forgotten :
    let es : List (Event Unit) := [
      .print 0, .resume 0, .resume 0, .reply 0 .done, .reply 0 .done, .reply 0 (.failed .badEncoding),
      .shutDown 1, .shutDown 2, .shutDown 3, .reply 1 .done, .reply 2 .done, .reply 1 .done,
      .print 4, .resume 4, .resume 4, .reply 4 .done, .reply 4 .done, .reply 2 .done, .reply 3 .done,
      .reply 4 .done, .reply 4 .done, .reply 4 .done, .reply 4 (.printed ()), .reply 4 .done, .shutDown 5]
    ∃ s, after (State.ofSize 1) es = some s ∧ s.IsCalm ∧ s.phase? 5 = some (.shut (.ok ())) ∧
      (∀ v b, s.phase? v ≠ some (.shutting b)) ∧ s.connected = [1] ∧ ¬s.KeepsAll := by
  intro es
  obtain ⟨s, run, isShut, connected, unknown, idle, all⟩ : ∃ s, after (State.ofSize 1) es = some s ∧
      s.phase? 5 = some (.shut (.ok ())) ∧ s.connected = [1] ∧ s.browser = none ∧
      (s.tasks.all fun x => !x.2.isUnderWay) = true ∧ (s.tasks.all fun x => x.2.call? != some "close") = true :=
    ⟨_, rfl, rfl, rfl, rfl, rfl, rfl⟩
  have calm : s.IsCalm := fun v p there => by simpa using State.phase_of_all (fun p => !p.isUnderWay) idle there
  exact ⟨s, run, calm, isShut, State.not_shutting all, connected, State.not_keepsAll connected unknown all⟩

end Letterpress.Press
