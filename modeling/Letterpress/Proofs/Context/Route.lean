import Letterpress.Context
import Letterpress.Proofs.Number.Whole

/-!
# Routes

A path leads from value to value, segment by segment: under a key of a mapping, or to an item of a sequence at an index
in decimal digits. A segment of digits that cannot be read as an index makes the walk stumble over a sequence.

* `Part`, `Reaches`, `Stumbles`: where a segment and a path lead, and what stands in the way.
* `follow_outcome`: a walk arrives where the path leads, or nowhere, or it stumbles.
* `resolves`: how the forms with and without a default come to the same.
-/

namespace Letterpress.Context

open Text

/-- The index that a segment of decimal digits stands for. -/
def index? (segment : List Char) : Option Nat := if segment.isEmpty then none else Number.decimal? segment

/-- Digits that are not read as an index: one of them is no decimal digit, or there are too many. -/
structure Unreadable (segment : List Char) : Prop where
  filled : segment ≠ []
  digits : ∀ c ∈ segment, isDigit c = true
  refused : ¬(∀ c ∈ segment, isDecimal c = true) ∨ Number.digitLimit < segment.length

/-- The items of a sequence. -/
inductive Items : Value → List Value → Prop where
  | list (xs : List Value) : Items (.list xs) xs
  | tuple (xs : List Value) : Items (.tuple xs) xs

/-- The part of a value where a segment leads. -/
inductive Part : Value → List Char → Value → Prop where
  | key {fields : Fields} {segment : List Char} {w : Value}
      (held : Fields.get? (String.ofList segment) fields = some w) : Part (.record fields) segment w
  | item {u w : Value} {xs : List Value} {segment : List Char} {i : Nat} (items : Items u xs)
      (numbered : index? segment = some i) (held : xs[i]? = some w) : Part u segment w

/-- The value where segments lead, one after the other. -/
inductive Reaches : Value → List (List Char) → Value → Prop where
  | here (v : Value) : Reaches v [] v
  | further {u v w : Value} {segment : List Char} {segments : List (List Char)} (part : Part u segment w)
      (rest : Reaches w segments v) : Reaches u (segment :: segments) v

/-- Segments lead to a sequence with digits behind them that are not read. -/
inductive Stumbles : Value → List (List Char) → Prop where
  | here {u : Value} {xs : List Value} {segment : List Char} {segments : List (List Char)} (items : Items u xs)
      (unreadable : Unreadable segment) : Stumbles u (segment :: segments)
  | further {u w : Value} {segment : List Char} {segments : List (List Char)} (part : Part u segment w)
      (rest : Stumbles w segments) : Stumbles u (segment :: segments)

variable {u v w : Value} {xs : List Value} {segment : List Char}

theorem Items.unique {ys : List Value} (h : Items u xs) (h' : Items u ys) : ys = xs := by
  cases h <;> cases h' <;> rfl

theorem Part.unique {w' : Value} (h : Part u segment w) (h' : Part u segment w') : w' = w := by
  cases h with
  | key held =>
    cases h' with
    | key held' => exact Option.some.inj (held'.symm.trans held)
    | item items => cases items
  | item items numbered held =>
    cases h' with
    | key => cases items
    | item items' numbered' held' =>
      obtain rfl := items.unique items'
      obtain rfl := Option.some.inj (numbered.symm.trans numbered')
      exact Option.some.inj (held'.symm.trans held)

/-! ## Walks -/

/-- What a search comes to: a fault, what there is to find, or nothing. -/
inductive Outcome {α : Type} (bad : Prop) (found : α → Prop) : Except Fault (Option α) → Prop where
  | stumbled (h : bad) : Outcome bad found (.error .badValue)
  | found (smooth : ¬bad) {w : α} (there : found w) : Outcome bad found (.ok (some w))
  | missing (smooth : ¬bad) (nowhere : ∀ w, ¬found w) : Outcome bad found (.ok none)

theorem Outcome.of_ok {α : Type} {bad : Prop} {found : α → Prop} {x : Option α} (smooth : ¬bad)
    (there : ∀ w, found w ↔ x = some w) : Outcome bad found (.ok x) := by
  cases x with
  | none => exact .missing smooth fun w h => nomatch (there w).mp h
  | some w => exact .found smooth ((there w).mpr rfl)

theorem isSome_index? : (index? segment).isSome ↔ segment ≠ [] ∧ ∀ c ∈ segment, isDecimal c = true := by
  rw [index?, ← Number.isSome_decimal?]
  cases segment <;> simp

/-- A segment at the items of a sequence. -/
theorem descend_of_items (items : Items u xs) (segment : List Char) :
    Outcome (Unreadable segment) (fun w => (index? segment).bind (xs[·]?) = some w) (descend u segment) := by
  have step : descend u segment = descend (.list xs) segment := by cases items <;> rfl
  rw [step]
  simp only [descend]
  -- what is taken for digits need not be read as a number; what is not is no index either
  by_cases digits : segment ≠ [] ∧ ∀ c ∈ segment, isDigit c = true
  · have shape : (segment.isEmpty || !segment.all isDigit) = false := by simpa using digits
    rw [shape, if_neg (by decide), Number.readInt?_of_digits digits.1 digits.2]
    by_cases long : Number.digitLimit < segment.length
    · rw [if_pos long]
      exact .stumbled ⟨digits.1, digits.2, .inr long⟩
    rw [if_neg long]
    cases number : Number.decimal? segment with
    | none =>
      have wide : ¬∀ c ∈ segment, isDecimal c = true := by simp [← Number.isSome_decimal?, number]
      exact .stumbled ⟨digits.1, digits.2, .inl wide⟩
    | some i =>
      have numbered : index? segment = some i := by simp [index?, digits.1, number]
      have decimal := Number.isSome_decimal?.mp (Option.isSome_of_eq_some number)
      have smooth : ¬Unreadable segment := fun h => h.refused.elim (absurd decimal) long
      exact .of_ok smooth fun w => by rw [numbered]; rfl
  · have shape : (segment.isEmpty || !segment.all isDigit) = true := by
      simpa [Classical.or_iff_not_imp_left] using digits
    have none_ : index? segment = none := by
      refine Option.not_isSome_iff_eq_none.mp fun some_ => ?_
      obtain ⟨filled, decimal⟩ := isSome_index?.mp some_
      exact digits ⟨filled, fun c mem => isDigit_of_isDecimal (decimal c mem)⟩
    rw [shape, if_pos rfl]
    exact .of_ok (fun h => digits ⟨h.filled, h.digits⟩) fun w => by rw [none_]; rfl

theorem part_iff_of_items (items : Items u xs) :
    Part u segment w ↔ (index? segment).bind (xs[·]?) = some w := by
  rw [Option.bind_eq_some_iff]
  constructor
  · intro part
    cases part with
    | key => cases items
    | item items' numbered held => exact ⟨_, numbered, items.unique items' ▸ held⟩
  · rintro ⟨i, numbered, held⟩
    exact .item items numbered held

theorem part_record_iff {fields : Fields} :
    Part (.record fields) segment w ↔ Fields.get? (String.ofList segment) fields = some w := by
  constructor
  · intro part
    cases part with
    | key held => exact held
    | item items => cases items
  · exact .key

/-- Whether a value has items and a segment is not read as an index. -/
def Blocks (u : Value) (segment : List Char) : Prop := ∃ xs, Items u xs ∧ Unreadable segment

theorem descend_outcome (u : Value) (segment : List Char) :
    Outcome (Blocks u segment) (Part u segment) (descend u segment) := by
  by_cases sequence : ∃ xs, Items u xs
  · obtain ⟨xs, items⟩ := sequence
    have blocks_iff : Blocks u segment ↔ Unreadable segment := ⟨fun ⟨_, _, h⟩ => h, fun h => ⟨xs, items, h⟩⟩
    have part_eq : Part u segment = fun w => (index? segment).bind (xs[·]?) = some w :=
      funext fun w => propext (part_iff_of_items items)
    rw [part_eq, propext blocks_iff]
    exact descend_of_items items segment
  · have smooth : ¬Blocks u segment := fun ⟨xs, items, _⟩ => sequence ⟨xs, items⟩
    cases u with
    | record fields => exact .of_ok smooth fun w => part_record_iff
    | list xs => exact absurd ⟨xs, .list xs⟩ sequence
    | tuple xs => exact absurd ⟨xs, .tuple xs⟩ sequence
    | _ =>
      refine .missing smooth fun w part => ?_
      cases part with
      | item items => exact sequence ⟨_, items⟩

/-- A walk arrives where the segments lead, or nowhere, unless it stumbles. -/
theorem follow_outcome (u : Value) (segments : List (List Char)) :
    Outcome (Stumbles u segments) (Reaches u segments) (follow u segments) := by
  induction segments generalizing u with
  | nil => exact .found (fun h => nomatch h) (.here u)
  | cons segment rest ih =>
    have step := descend_outcome u segment
    rw [follow]
    generalize descend u segment = r at step
    cases step with
    | stumbled h =>
      obtain ⟨xs, items, unreadable⟩ := h
      exact .stumbled (.here items unreadable)
    | @found smooth w part =>
      have stumbles_iff : Stumbles u (segment :: rest) ↔ Stumbles w rest := by
        constructor
        · intro h
          cases h with
          | here items unreadable => exact absurd ⟨_, items, unreadable⟩ smooth
          | further part' later => exact part.unique part' ▸ later
        · exact .further part
      have reaches_eq : Reaches u (segment :: rest) = Reaches w rest := by
        funext v
        refine propext ⟨fun h => ?_, .further part⟩
        cases h with
        | further part' later => exact part.unique part' ▸ later
      rw [propext stumbles_iff, reaches_eq]
      exact ih w
    | missing smooth nowhere =>
      refine .missing (fun h => ?_) fun v h => ?_
      · cases h with
        | here items unreadable => exact smooth ⟨_, items, unreadable⟩
        | further part later => exact nowhere _ part
      · cases h with
        | further part later => exact nowhere _ part

/-! ## Paths -/

/-- The segments of a path, which points divide. -/
def segments (path : List Char) : List (List Char) := splitBy (· == '.') (trim path)

/-- A path leads from the values of a context to a value. -/
def Leads (c : Context) (path : List Char) (v : Value) : Prop := Reaches (.record c.values) (segments path) v

/-- A path leads to a sequence with digits behind it that are not read. -/
def Trips (c : Context) (path : List Char) : Prop := Stumbles (.record c.values) (segments path)

theorem resolvePath_outcome (c : Context) (path : List Char) :
    Outcome (c.Trips path) (c.Leads path) (c.resolvePath path) :=
  follow_outcome _ _

/-- What a path comes to, with a default and without. -/
inductive Resolves (c : Context) (path : List Char) : Prop where
  | trips (bad : c.Trips path) (lenient : ∀ d, c.valueAt path d = .error .badValue)
      (strict : c.requiredAt path = .error .badValue)
  | leads (smooth : ¬c.Trips path) (v : Value) (there : c.Leads path v) (lenient : ∀ d, c.valueAt path d = .ok v)
      (strict : c.requiredAt path = .ok v)
  | missing (smooth : ¬c.Trips path) (nowhere : ∀ v, ¬c.Leads path v) (lenient : ∀ d, c.valueAt path d = .ok d)
      (strict : c.requiredAt path = .error (.noKey (String.ofList (Literal.quote path))))

theorem resolves (c : Context) (path : List Char) : Resolves c path := by
  have outcome := c.resolvePath_outcome path
  generalize found : c.resolvePath path = r at outcome
  cases outcome with
  | stumbled h => exact .trips h (fun d => by rw [valueAt, found]; rfl) (by rw [requiredAt, found]; rfl)
  | found smooth there =>
    exact .leads smooth _ there (fun d => by rw [valueAt, found]; rfl) (by rw [requiredAt, found]; rfl)
  | missing smooth nowhere =>
    exact .missing smooth nowhere (fun d => by rw [valueAt, found]; rfl) (by rw [requiredAt, found]; rfl)

end Letterpress.Context
