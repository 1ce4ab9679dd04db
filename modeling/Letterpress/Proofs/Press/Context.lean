import Mathlib.Data.List.Nodup
import Letterpress.Proofs.Press.Turn

/-!
# Contexts

Every context belongs to the print that has opened it, which asks for its close once and has it until the answer.

* `log`: where the tasks of the events of a run are behind them.
* `Kept`: what the contexts that are open have to do with the tasks and with the log.
* `Kept.after`: it is so after every run.
* `Kept.closed`: once a print is over, its context has been asked to close once.
-/

namespace Letterpress.Press

variable {β : Type} {s s' : State β} {e : Event β} {t u c n d : Nat} {p q : Phase β} {es : List (Event β)}
  {l : List (Nat × Phase β)}

/-! ## The log of a run -/

/-- The task of an event and where it is behind it. -/
def landing? (s' : State β) (e : Event β) : Option (Nat × Phase β) := e.task?.bind fun t => (s'.phase? t).map (t, ·)

/-- Where the tasks of the events of a run are behind them. -/
def log : State β → List (Event β) → List (Nat × Phase β)
  | _, [] => []
  | s, e :: rest =>
    match step s e with
    | none => []
    | some s' => (landing? s' e).toList ++ log s' rest

theorem log_concat (run : after s es = some s') {s'' : State β} (go : step s' e = some s'') :
    log s (es ++ [e]) = log s es ++ (landing? s'' e).toList := by
  induction es generalizing s with
  | nil =>
    cases run
    simp [log, go]
  | cons e' es ih =>
    obtain ⟨v, first, rest⟩ := after_cons.mp run
    simp only [List.cons_append, log, first, ih rest, List.append_assoc]

theorem landing?_of_task (own : e.task? = some t) (there : s'.phase? t = some p) : landing? s' e = some (t, p) := by
  rw [landing?, own, Option.bind_some, there, Option.map_some]

namespace Phase

/-- Whether a print asks for the close of a context. -/
def closes (c : Nat) : Phase β → Bool
  | closing d _ => d == c
  | _ => false

/-- A print counts that has a context and has not asked for its close. -/
def uses (c : Nat) (p : Phase β) : Nat := if p.context? = some c ∧ p.closes c = false then 1 else 0

/-- A print counts that has a context. -/
def has (c : Nat) (p : Phase β) : Nat := if p.context? = some c then 1 else 0

/-- A print counts that has any context. -/
def hasAny (p : Phase β) : Nat := p.context?.isSome.toNat

theorem hasAny_le_slots (p : Phase β) : p.hasAny ≤ p.slots := by
  cases p <;> simp [hasAny, slots, context?, hasSlot]

theorem counts_of_none (none_ : p.context? = none) (c : Nat) :
    p.closes c = false ∧ p.uses c = 0 ∧ p.has c = 0 ∧ p.hasAny = 0 := by
  refine ⟨?_, by simp [uses, none_], by simp [has, none_], by simp [hasAny, none_]⟩
  cases p <;> first | rfl | cases none_

theorem ignoresLines_uses (c : Nat) : IgnoresLines (uses (β := β) c) := ⟨rfl, rfl⟩

theorem ignoresLines_has (c : Nat) : IgnoresLines (has (β := β) c) := ⟨rfl, rfl⟩

theorem ignoresLines_hasAny : IgnoresLines (hasAny (β := β)) := ⟨rfl, rfl⟩

end Phase

/-- How many times a log has a context asked to close. -/
def closings (c : Nat) (l : List (Nat × Phase β)) : Nat := l.countP fun x => x.2.closes c

theorem closings_concat (c : Nat) (l : List (Nat × Phase β)) (t : Nat) (p : Phase β) :
    closings c (l ++ [(t, p)]) = closings c l + (p.closes c).toNat := by
  rw [closings, List.countP_append, List.countP_singleton]
  cases p.closes c <;> rfl

/-! ## Who has a context -/

/-- What a press and its log have to do with each other. -/
structure Kept (l : List (Nat × Phase β)) (s : State β) : Prop where
  nodup : s.contexts.Nodup
  old : ∀ c ∈ s.contexts, c < s.opened
  held : ∀ c, s.contexts.count c = s.weigh (Phase.has c)
  length : s.contexts.length = s.weigh Phase.hasAny
  /-- a context is in use, or has been asked to close once -/
  asked : ∀ c, closings c l + s.weigh (Phase.uses c) = if c < s.opened then 1 else 0
  /-- only who has opened a context has it -/
  owner : ∀ t c, (t, .paging c) ∈ l → c < s.opened ∧ ∀ u p, s.phase? u = some p → p.context? = some c → u = t

namespace Kept

theorem ofSize (n : Nat) : Kept [] (State.ofSize n : State β) := by
  constructor <;> simp [State.ofSize, State.weigh, closings]

/-- Who has a context has one that is open. -/
theorem mem_of_context? (kept : Kept l s) (there : s.phase? t = some p) (has : p.context? = some c) : c ∈ s.contexts := by
  have one : p.has c = 1 := if_pos has
  have counted : p.has c ≤ s.contexts.count c := kept.held c ▸ State.le_weigh there _
  exact List.count_pos_iff.mp (Nat.lt_of_lt_of_le Nat.one_pos (one ▸ counted))

/-- A task that comes has no context. -/
theorem joins (kept : Kept l s) (joins : Joins s s' t p) : Kept (l ++ [(t, p)]) s' := by
  have none_ := Phase.counts_of_none joins.context
  obtain ⟨contexts, opened⟩ := joins.same
  refine ⟨contexts ▸ kept.nodup, fun c => ?_, fun c => ?_, ?_, fun c => ?_, fun v c member => ?_⟩
  · rw [contexts, opened]
    exact kept.old c
  · rw [contexts, joins.weigh, (none_ c).2.2.1]
    exact kept.held c
  · rw [contexts, joins.weigh, (none_ 0).2.2.2]
    exact kept.length
  · rw [opened, closings_concat, joins.weigh, (none_ c).1, (none_ c).2.1]
    exact kept.asked c
  · obtain member | own := List.mem_append.mp member
    · obtain ⟨known, only⟩ := kept.owner v c member
      refine ⟨opened ▸ known, fun u q there has => ?_⟩
      rw [joins.phases] at there
      split at there
      · cases there
        cases joins.context.symm.trans has
      · exact only u q there has
    · cases List.mem_singleton.mp own
      cases joins.context

theorem drops (kept : Kept l s) (tasks : s'.tasks = s.tasks) (same : SameContexts s s') : Kept l s' := by
  obtain ⟨contexts, opened⟩ := same
  have phases (u : Nat) : s'.phase? u = s.phase? u := by rw [State.phase?, tasks, State.phase?]
  constructor
  · exact contexts ▸ kept.nodup
  · rw [contexts, opened]
    exact kept.old
  · intro c
    rw [contexts, State.weigh_congr tasks]
    exact kept.held c
  · rw [contexts, State.weigh_congr tasks]
    exact kept.length
  · intro c
    rw [opened, State.weigh_congr tasks]
    exact kept.asked c
  · simpa only [opened, phases] using kept.owner

end Kept

/-! ## What a turn does to contexts -/

/-- A turn takes contexts up or gives them up as its task does. -/
structure Handles (s s' : State β) (p q : Phase β) : Prop where
  nodup : s'.contexts.Nodup
  old : ∀ c ∈ s'.contexts, c < s'.opened
  count : ∀ c, s'.contexts.count c + p.has c = s.contexts.count c + q.has c
  length : s'.contexts.length + p.hasAny = s.contexts.length + q.hasAny
  asks : ∀ c, (q.closes c).toNat + q.uses c + (if c < s.opened then 1 else 0) = p.uses c + if c < s'.opened then 1 else 0
  grows : s.opened ≤ s'.opened
  /-- only a new context is taken up -/
  less : ∀ c < s.opened, q.context? = some c → p.context? = some c
  new : ∀ c, q = .paging c → s.opened = c ∧ c < s'.opened

namespace Handles

theorem of_same (kept : Kept l s) (same : SameContexts s s') (context : q.context? = p.context?)
    (asks : ∀ c, (q.closes c).toNat + q.uses c = p.uses c) (other : ∀ c, q ≠ .paging c) : Handles s s' p q := by
  obtain ⟨contexts, opened⟩ := same
  constructor
  · exact contexts ▸ kept.nodup
  · rw [contexts, opened]
    exact kept.old
  · intro c
    rw [contexts, Phase.has, Phase.has, context]
  · rw [contexts, Phase.hasAny, Phase.hasAny, context]
  · intro c
    rw [opened, asks]
  · exact Nat.le_of_eq opened.symm
  · intro c _ has
    rwa [← context]
  · exact fun c here => absurd here (other c)

theorem of_opens (kept : Kept l s) {b : Nat} (contexts : s'.contexts = s.contexts ++ [s.opened])
    (opened : s'.opened = s.opened + 1) : Handles s s' (.opening b) (.paging s.opened) := by
  have new : s.opened ∉ s.contexts := fun member => Nat.lt_irrefl _ (kept.old _ member)
  constructor
  · rw [contexts]
    exact List.concat_eq_append ▸ kept.nodup.concat new
  · intro c member
    rw [contexts, List.mem_append, List.mem_singleton] at member
    obtain member | rfl := member
    · have := kept.old c member
      omega
    · omega
  · intro c
    rw [contexts, List.count_append, List.count_singleton, Phase.has, Phase.has]
    simp [Phase.context?]
  · rw [contexts, List.length_append]
    rfl
  · intro c
    simp only [Phase.closes, Phase.uses, Phase.context?, opened, Option.some.injEq, reduceCtorEq]
    grind
  · omega
  · intro c before has
    obtain rfl := Option.some.inj has
    exact absurd before (Nat.lt_irrefl _)
  · intro c here
    obtain rfl := Phase.paging.inj here
    exact ⟨rfl, by omega⟩

theorem of_closed (kept : Kept l s) {x y : Except Fault β} (there : s.phase? t = some (.closing c x))
    (contexts : s'.contexts = s.contexts.filter (· != c)) (opened : s'.opened = s.opened) :
    Handles s s' (.closing c x) (.ended y) := by
  have member : c ∈ s.contexts := kept.mem_of_context? there rfl
  have erased : s'.contexts = s.contexts.erase c := contexts.trans (kept.nodup.erase_eq_filter c).symm
  constructor
  · rw [contexts]
    exact kept.nodup.filter _
  · intro d remains
    rw [contexts] at remains
    exact opened ▸ kept.old d (List.mem_of_mem_filter remains)
  · intro d
    have one := kept.nodup.count (a := c)
    rw [erased, List.count_erase, Phase.has, Phase.has]
    simp only [Phase.context?, Option.some.injEq, reduceCtorEq]
    grind
  · have some_ := List.length_pos_of_mem member
    rw [erased, List.length_erase_of_mem member]
    simp only [Phase.hasAny, Phase.context?, Option.isSome_some, Option.isSome_none, Bool.toNat_true, Bool.toNat_false]
    omega
  · intro d
    rw [opened]
    simp only [Phase.closes, Phase.uses, Phase.context?, Option.some.injEq, reduceCtorEq]
    grind
  · omega
  · intro d _ has
    cases has
  · intro d here
    cases here

end Handles

theorem Turn.handles (turn : Turn s s' t e p q d) (kept : Kept l s) (there : s.phase? t = some p) : Handles s s' p q := by
  cases turn with
  | seeks same _ _ before after =>
    have none_ := Phase.counts_of_none after
    refine .of_same kept same (after.trans before.symm) (fun c => ?_) ?_
    · rw [(none_ c).1, (none_ c).2.1, (Phase.counts_of_none before c).2.1, Bool.toNat_false]
    · rintro c rfl
      cases after
  | fails same _ _ before =>
    refine .of_same kept same before.symm (fun c => ?_) fun c here => by cases here
    rw [(Phase.counts_of_none before c).2.1]
    rfl
  | opens contexts opened => exact .of_opens kept contexts opened
  | uses same kind =>
    refine .of_same kept same ?_ (fun c => ?_) ?_ <;> obtain ⟨rfl, rfl⟩ | ⟨rfl, rfl⟩ := kind
    all_goals simp [Phase.context?, Phase.closes, Phase.uses]
  | leaves same kind =>
    refine .of_same kept same ?_ (fun c => ?_) (fun c here => by cases here) <;> obtain rfl | rfl | rfl := kind
    all_goals simp [Phase.context?, Phase.closes, Phase.uses]
    all_goals grind
  | closed contexts opened => exact .of_closed kept there contexts opened

/-! ## Runs -/

namespace Kept

theorem turns (kept : Kept l s) (shift : Shift s s' t p q d) (turn : Turn s s' t e p q d) : Kept (l ++ [(t, q)]) s' := by
  have handles := turn.handles kept shift.there
  have before {u c : Nat} {r : Phase β} (other : u ≠ t) (there : s'.phase? u = some r) (has : r.context? = some c) :
      s.phase? u = some r := by
    refine (shift.others u other).phase? there ⟨?_, ?_⟩ <;>
      · rintro rfl
        cases has
  refine ⟨handles.nodup, handles.old, fun c => ?_, ?_, fun c => ?_, fun v c member => ?_⟩
  · have count := handles.count c
    have own := shift.weigh (Phase.ignoresLines_has c)
    have held := kept.held c
    omega
  · have length := handles.length
    have own := shift.weigh Phase.ignoresLines_hasAny
    have held := kept.length
    omega
  · have asks := handles.asks c
    have own := shift.weigh (Phase.ignoresLines_uses c)
    have asked := kept.asked c
    rw [closings_concat]
    omega
  · obtain member | own := List.mem_append.mp member
    · obtain ⟨known, only⟩ := kept.owner v c member
      refine ⟨Nat.lt_of_lt_of_le known handles.grows, fun u r there has => ?_⟩
      by_cases own : u = t
      · subst own
        cases shift.after.symm.trans there
        exact only u p shift.there (handles.less c known has)
      · exact only u r (before own there has) has
    · cases List.mem_singleton.mp own
      obtain ⟨rfl, known⟩ := handles.new c rfl
      refine ⟨known, fun u r there has => ?_⟩
      by_contra other
      exact Nat.lt_irrefl _ (kept.old _ (kept.mem_of_context? (before other there has) has))

theorem step (kept : Kept l s) (h : Orderly s) (go : step s e = some s') : Kept (l ++ (landing? s' e).toList) s' := by
  cases changes_of_step h go with
  | @joins t p kind joins =>
    have own : e.task? = some t := by obtain ⟨rfl, -⟩ | rfl := kind <;> rfl
    rw [landing?_of_task own (by rw [joins.phases, if_pos rfl])]
    exact kept.joins joins
  | @turns t p q d kind shift turn =>
    have own : e.task? = some t := by obtain rfl | ⟨r, rfl⟩ := kind <;> rfl
    rw [landing?_of_task own shift.after]
    exact kept.turns shift turn
  | drops kind tasks free same =>
    subst kind
    rw [show landing? s' (.disconnect _) = none from rfl, Option.toList_none, List.append_nil]
    exact kept.drops tasks same

theorem after (run : Press.after (State.ofSize n) es = some s) : Kept (log (State.ofSize n) es) s := by
  have both : Orderly s ∧ Kept (log (State.ofSize n) es) s := by
    refine after_induction (P := fun es u => Orderly u ∧ Kept (log (State.ofSize n) es) u) ⟨.ofSize n, .ofSize n⟩ ?_ run
    rintro es u e u' before ⟨orderly, kept⟩ go
    refine ⟨orderly.step go, ?_⟩
    rw [log_concat before go]
    exact kept.step orderly go
  exact both.2

/-- Once a print has no context any more, the one that it has opened is not open and has been asked to close once. -/
theorem closed (kept : Kept l s) (h : Orderly s) (opened : (t, .paging c) ∈ l)
    (gone : ∀ p, s.phase? t = some p → p.context? = none) : c ∉ s.contexts ∧ closings c l = 1 := by
  obtain ⟨known, only⟩ := kept.owner t c opened
  have nobody (u : Nat) (p : Phase β) (there : s.phase? u = some p) : p.context? ≠ some c := by
    intro has
    obtain rfl := only u p there has
    cases (gone p there).symm.trans has
  have unused : s.weigh (Phase.uses c) = 0 :=
    State.weigh_eq_zero h.ids fun u p there => if_neg fun both => nobody u p there both.1
  have unheld : s.weigh (Phase.has c) = 0 := State.weigh_eq_zero h.ids fun u p there => if_neg (nobody u p there)
  have asked := kept.asked c
  rw [unused, if_pos known, Nat.add_zero] at asked
  exact ⟨List.count_eq_zero.mp ((kept.held c).trans unheld), asked⟩

end Kept

end Letterpress.Press
