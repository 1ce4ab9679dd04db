import Letterpress.Proofs.Helper.Amounts
import Letterpress.Proofs.Helper.Dates
import Letterpress.Proofs.Helper.Sorting

/-!
# Sums of values

Items are added from the left. Whole numbers stay whole until the first other number is added; from there on every whole
number is rounded first, which a number can be too large for.
* `Helper.Overflows`: numbers whose sum fails.
* `Helper.foldlM_int`: the sum of numbers.
* `Helper.numbers_shown`: what the helpers for numbers make of JSON values.
-/

namespace Letterpress.Helper

open Binary64

variable {v x : Value}

/-! ## Sums of numbers -/

/-- A whole number that is too large to be rounded to a finite number. -/
def IsHuge (i : Int) : Prop := roundingLimit ≤ |(i : ℚ)|

theorem ofInt?_cases (i : Int) :
    (IsHuge i ∧ Binary64.ofInt? i = none) ∨ (¬IsHuge i ∧ ∃ x, Binary64.ofInt? i = some x) := by
  have cases_ := ofIntRatio?_cases i one_pos
  rw [Nat.cast_one, div_one] at cases_
  obtain ⟨large, none_⟩ | ⟨small, x, some_, -⟩ := cases_
  · exact .inl ⟨large, none_⟩
  · exact .inr ⟨not_le.mpr small, x, some_⟩

/-- What a number adds to a sum that is no whole number any more. -/
theorem add_float (y : Binary64) (n : Value.Numeral) :
    ((∃ i, n = .int i ∧ IsHuge i) ∧ Sum.add (.float y) n = .error .overflow) ∨
      ((∀ i, n = .int i → ¬IsHuge i) ∧ ∃ z, Sum.add (.float y) n = .ok (.float z)) := by
  cases n with
  | int i =>
    obtain ⟨huge, none_⟩ | ⟨small, z, some_⟩ := ofInt?_cases i
    · exact .inl ⟨⟨i, rfl, huge⟩, by simp only [Sum.add, none_]⟩
    · refine .inr ⟨fun j same => ?_, Binary64.add y z, by simp only [Sum.add, some_]⟩
      cases same
      exact small
  | float z => exact .inr ⟨fun i same => (by cases same), _, rfl⟩

/-- By induction on the numbers that are to come. -/
theorem foldlM_float (y : Binary64) (ns : List Value.Numeral) :
    ((∃ i, .int i ∈ ns ∧ IsHuge i) ∧ ns.foldlM Sum.add (.float y) = .error .overflow) ∨
      ((∀ i, .int i ∈ ns → ¬IsHuge i) ∧ ∃ z, ns.foldlM Sum.add (.float y) = .ok (.float z)) := by
  induction ns generalizing y with
  | nil => exact .inr ⟨fun i mem => (by cases mem), y, rfl⟩
  | cons n ns ih =>
    rw [List.foldlM_cons]
    obtain ⟨⟨i, rfl, huge⟩, fails⟩ | ⟨small, z, added⟩ := add_float y n
    · exact .inl ⟨⟨i, List.mem_cons_self .., huge⟩, by rw [fails]; rfl⟩
    · rw [added]
      obtain ⟨⟨i, mem, huge⟩, fails⟩ | ⟨small', total⟩ := ih z
      · exact .inl ⟨⟨i, List.mem_cons_of_mem _ mem, huge⟩, fails⟩
      · refine .inr ⟨fun i mem => ?_, total⟩
        rcases List.mem_cons.mp mem with same | later
        · exact small i same.symm
        · exact small' i later

/-- Numbers whose sum fails: whole numbers in front of the first other one, whose sum is too large for it, or one of the
whole numbers behind it that is. -/
def Overflows (start : Int) (ns : List Value.Numeral) : Prop :=
  ∃ (before : List Int) (x : Binary64) (after : List Value.Numeral),
    ns = before.map .int ++ .float x :: after ∧
      (IsHuge (start + before.sum) ∨ ∃ i, .int i ∈ after ∧ IsHuge i)

theorem not_overflows_nil (start : Int) : ¬Overflows start [] := by
  rintro ⟨before, x, after, split, -⟩
  simp at split

theorem overflows_int_iff {start i : Int} {ns : List Value.Numeral} :
    Overflows start (.int i :: ns) ↔ Overflows (start + i) ns := by
  constructor
  · rintro ⟨before, x, after, split, fails⟩
    cases before with
    | nil => cases split
    | cons j before =>
      obtain ⟨same, rest⟩ := List.cons.inj split
      cases same
      exact ⟨before, x, after, rest, by rwa [add_assoc, ← List.sum_cons]⟩
  · rintro ⟨before, x, after, rfl, fails⟩
    exact ⟨i :: before, x, after, rfl, by rwa [List.sum_cons, ← add_assoc]⟩

theorem overflows_float_iff {start : Int} {y : Binary64} {ns : List Value.Numeral} :
    Overflows start (.float y :: ns) ↔ IsHuge start ∨ ∃ i, .int i ∈ ns ∧ IsHuge i := by
  constructor
  · rintro ⟨before, x, after, split, fails⟩
    cases before with
    | nil =>
      obtain ⟨-, rfl⟩ := List.cons.inj split
      rwa [List.sum_nil, add_zero] at fails
    | cons j before => cases split
  · intro fails
    exact ⟨[], y, ns, rfl, by rwa [List.sum_nil, add_zero]⟩

/-- By induction on the numbers that are to come. -/
theorem foldlM_int (start : Int) (ns : List Value.Numeral) :
    (Overflows start ns ∧ ns.foldlM Sum.add (.int start) = .error .overflow) ∨
      (¬Overflows start ns ∧ ∃ n, ns.foldlM Sum.add (.int start) = .ok n) := by
  induction ns generalizing start with
  | nil => exact .inr ⟨not_overflows_nil start, .int start, rfl⟩
  | cons n ns ih =>
    cases n with
    | int i =>
      rw [overflows_int_iff]
      exact ih (start + i)
    | float y =>
      rw [overflows_float_iff, List.foldlM_cons]
      obtain ⟨huge, none_⟩ | ⟨small, z, some_⟩ := ofInt?_cases start
      · exact .inl ⟨.inl huge, by simp only [Sum.add, none_]; rfl⟩
      · simp only [Sum.add, some_]
        obtain ⟨fails, same⟩ | ⟨fits, w, same⟩ := foldlM_float (Binary64.add z y) ns
        · exact .inl ⟨.inr fails, same⟩
        · refine .inr ⟨?_, _, same⟩
          rintro (huge | ⟨i, mem, huge⟩)
          · exact small huge
          · exact fits i mem huge

/-! ## Sums of values -/

/-- What an item adds to a sum: the field of an object if a property is named, else the item itself. -/
def addend (property : Option String) (x : Value) : Value.Numeral :=
  if property.getD "" = "" then counted x
  else match x with
    | .record fields => counted ((Fields.get? (property.getD "") fields).getD .none)
    | _ => .int 0

theorem truth?_propertyValue (property : Option String) :
    (propertyValue property).truth? = .ok (decide (property.getD "" ≠ "")) := by
  cases property with
  | none => rfl
  | some k => by_cases empty : k = "" <;> simp [propertyValue, Value.truth?, empty]

/-- An item that is a JSON value is counted and added. -/
theorem add_addend {x : Value} (json : x.IsJson) (property : Option String) (acc : Value.Numeral) :
    (do
      let n ← if decide (property.getD "" ≠ "") then do
          match ← fieldOf? x (propertyValue property) with
          | some w => number w
          | none => pure (.int 0)
        else number x
      Sum.add acc n) = Sum.add acc (addend property x) := by
  have itself : number x >>= Sum.add acc = Sum.add acc (counted x) := by
    rw [number_eq json]
    rfl
  unfold addend
  cases property with
  | none => exact itself
  | some k =>
    by_cases empty : k = ""
    · rw [Option.getD_some, if_pos empty, if_neg (by simp [empty])]
      exact itself
    · rw [Option.getD_some, if_neg empty, if_pos (by simp [empty])]
      cases json
      case record fields values =>
        show number ((Fields.get? k fields).getD .none) >>= Sum.add acc = _
        rw [number_eq (Value.IsJson.get? (.record values) k)]
        rfl
      all_goals rfl

theorem foldlM_eq_map {α β σ ε : Type} {f : σ → α → Except ε σ} {g : σ → β → Except ε σ} {h : α → β} {xs : List α}
    (same : ∀ acc, ∀ x ∈ xs, f acc x = g acc (h x)) (start : σ) : xs.foldlM f start = (xs.map h).foldlM g start := by
  induction xs generalizing start with
  | nil => rfl
  | cons x xs ih =>
    rw [List.foldlM_cons, List.map_cons, List.foldlM_cons, same start x (List.mem_cons_self ..)]
    exact bind_congr fun acc => ih (fun acc y mem => same acc y (List.mem_cons_of_mem x mem)) acc

/-- Items are summed by what they add, and nothing but the sums can go wrong. -/
theorem sumItems_eq {xs : List Value} (items : items? v = some xs) (json : ∀ x ∈ xs, x.IsJson)
    (property : Option String) :
    sumItems v (propertyValue property) = ofNumeral <$> (xs.map (addend property)).foldlM Sum.add (.int 0) := by
  rw [sumItems, items, truth?_propertyValue]
  exact congrArg (ofNumeral <$> ·) (foldlM_eq_map (fun acc x mem => add_addend (json x mem) property acc) (.int 0))

/-- The sum of JSON values is a number unless a whole number in it is too large for the others. -/
theorem call_sum (s : Setting) {xs : List Value} (sequence : v = .list xs ∨ v = .tuple xs)
    (json : ∀ x ∈ xs, x.IsJson) (property : Option String) :
    (Overflows 0 (xs.map (addend property)) ∧ call s .sum [v, propertyValue property] [] = .error .overflow) ∨
      (¬Overflows 0 (xs.map (addend property)) ∧
        ∃ n, call s .sum [v, propertyValue property] [] = .ok (ofNumeral n)) := by
  have items : items? v = some xs := by rcases sequence with rfl | rfl <;> rfl
  have total : call s .sum [v, propertyValue property] [] = _ := sumItems_eq items json property
  rw [total]
  obtain ⟨fails, same⟩ | ⟨fits, n, same⟩ := foldlM_int 0 (xs.map (addend property))
  · exact .inl ⟨fails, by rw [same]; rfl⟩
  · exact .inr ⟨fits, n, by rw [same]; rfl⟩

/-! ## What the helpers make of values -/

/-- The helpers for numbers fail where a number is too large, and nowhere else: an amount for its digits, a sum for
whole numbers that meet others. -/
theorem numbers_shown (s : Setting) :
    (∀ h ∈ amountHelpers, ∀ v : Value, v.IsJson →
      ((¬IsBlank v ∧ (counted v).Reaches (amountLimit h)) ∧ ∃ f, call s h [v] [] = .error f) ∨
        ((IsBlank v ∨ ¬(counted v).Reaches (amountLimit h)) ∧ ∃ t, call s h [v] [] = .ok (.text t))) ∧
    ∀ xs : List Value, (∀ x ∈ xs, x.IsJson) → ∀ property,
      (Overflows 0 (xs.map (addend property)) ∧
          call s .sum [.list xs, propertyValue property] [] = .error .overflow) ∨
        (¬Overflows 0 (xs.map (addend property)) ∧
          ∃ n, call s .sum [.list xs, propertyValue property] [] = .ok (ofNumeral n)) :=
  ⟨fun _ mem _ json => call_amount s mem json, fun _ json property => call_sum s (.inl rfl) json property⟩

/-- Rows of a table, one of them without a price. -/
def prices : List Value := [.record [("price", .int 3)], .record []]

theorem numbers_shown_prices :
    (∃ t, call (defaultSetting "it_IT") formatPercent [.int (-5)] [] = .ok (.text t)) ∧
      ∃ n, call (defaultSetting "it_IT") .sum [.list prices, .text "price"] [] = .ok (ofNumeral n) := by
  obtain ⟨amounts, sums⟩ := numbers_shown (defaultSetting "it_IT")
  constructor
  · obtain ⟨⟨-, large⟩, -⟩ | ⟨-, shown⟩ := amounts formatPercent (by decide) (.int (-5)) (.int _)
    · have less : ¬(99999999999999991611392000 : ℚ) ≤ ((-5 : Int).natAbs : ℚ) := by norm_num
      exact absurd (Value.Numeral.reaches_int_iff.mp large) less
    · exact shown
  · have json : ∀ x ∈ prices, x.IsJson := by
      simp only [prices, List.forall_mem_cons, List.not_mem_nil, false_implies, implies_true, and_true]
      exact ⟨.record (by simpa using .int 3), .record (by simp)⟩
    obtain ⟨fails, -⟩ | ⟨-, total⟩ := sums prices json (some "price")
    · have whole : prices.map (addend (some "price")) = [.int 3, .int 0] := rfl
      rw [whole, overflows_int_iff, overflows_int_iff] at fails
      exact absurd fails (not_overflows_nil _)
    · exact total

/-- A number with 27 digits fails. -/
theorem digits_fail :
    (Value.int (10 ^ 26)).IsJson ∧
      ∃ f, call (defaultSetting "it_IT") formatNumber [.int (10 ^ 26)] [] = .error f := by
  refine ⟨.int _, ?_⟩
  obtain ⟨-, refused⟩ | ⟨blank | less, -⟩ := call_amount (defaultSetting "it_IT") (h := formatNumber) (by decide)
    (.int (10 ^ 26))
  · exact refused
  · simp [IsBlank] at blank
  · exact absurd (Value.Numeral.reaches_int_iff.mpr (by norm_num [amountLimit])) less

end Letterpress.Helper
