import Letterpress.Options
import Letterpress.Proofs.Calendar.Iso
import Letterpress.Proofs.Number.Reading

/-!
# Numbers of documents

A number shows the last six digits of the time and three digits of chance. So it comes again a million milliseconds
later if chance has the same answer, and within a year for no other reason.

* `DocumentNumber.IsFormed`: how a number is put together.
* `Reading.FillsColumns`: readings with enough digits, and not too many.
* `DocumentNumber.tail_spec`: the digits of the time.
* `DocumentNumber.text_eq_iff`: when two numbers are the same.
-/

namespace Letterpress

open Text Number

/-- A reading of a time with at least six digits, and of chance with at most three. -/
structure Reading.FillsColumns (r : Reading) : Prop where
  time : 100000 ≤ r.epochMilliseconds
  chance : r.chance ≤ 999

namespace DocumentNumber

variable {start : String} {r r₁ r₂ : Reading}

/-- A start, a year, six digits and three digits, with hyphens between them. -/
def IsFormed (start : String) (year : Nat) (number : String) : Prop :=
  ∃ six three : List Char, six.length = 6 ∧ three.length = 3 ∧ (∀ d ∈ six ++ three, isAsciiDigit d = true) ∧
    number = "-".intercalate [start, String.ofList (Literal.natText year), String.ofList six, String.ofList three]

/-- The digits of a number are cut in front of the last six. -/
theorem tail_spec {ms : Int} (long : 100000 ≤ ms) :
    (tail ms).length = 6 ∧ (∀ d ∈ tail ms, isAsciiDigit d = true) ∧ (digitsValue (tail ms) : Int) = ms % 1000000 := by
  have digits : Literal.intText ms = Literal.natText ms.natAbs := by rw [Literal.intText, if_neg (by omega)]
  have six : 5 < (Literal.natText ms.natAbs).length := by
    rw [← Nat.not_le]
    exact fun short => absurd ((Nat.length_toDigits_le_iff (by decide) (by decide)).mp short) (by omega)
  have value := Literal.digitsValue_natText ms.natAbs
  simp only [tail, digits]
  generalize hds : Literal.natText ms.natAbs = ds at six value ⊢
  have behind : ∀ d ∈ ds.drop (ds.length - 6), isAsciiDigit d = true := fun d mem =>
    Literal.isAsciiDigit_of_mem_natText (hds ▸ List.mem_of_mem_drop mem)
  have length : (ds.drop (ds.length - 6)).length = 6 := by
    rw [List.length_drop]
    omega
  have less := digitsValue_lt behind
  rw [← List.take_append_drop (ds.length - 6) ds, digitsValue_append, length] at value
  rw [length] at less
  exact ⟨length, behind, by omega⟩

theorem text_isFormed (h : r.FillsColumns) : IsFormed start r.now.date.year (text start r) := by
  obtain ⟨six, digits, -⟩ := tail_spec h.time
  have three := Moment.length_padded (n := r.chance) 3 (by decide) (Nat.lt_succ_of_le h.chance)
  refine ⟨tail r.epochMilliseconds, Moment.padded 3 r.chance, six, three, fun d mem => ?_, ?_⟩
  · exact (List.mem_append.mp mem).elim (digits d) Moment.isAsciiDigit_of_mem_padded
  · apply String.toList_injective
    simp [text]

/-- The columns of two numbers can be told apart from behind, where all of them have the same width. -/
theorem columns_eq (h₁ : r₁.FillsColumns) (h₂ : r₂.FillsColumns) (same : text start r₁ = text start r₂) :
    r₁.now.date.year = r₂.now.date.year ∧ tail r₁.epochMilliseconds = tail r₂.epochMilliseconds ∧
      Moment.padded 3 r₁.chance = Moment.padded 3 r₂.chance := by
  have six : (tail r₁.epochMilliseconds).length = (tail r₂.epochMilliseconds).length :=
    (tail_spec h₁.time).1.trans (tail_spec h₂.time).1.symm
  have width (n : Nat) (h : n ≤ 999) := Moment.length_padded (n := n) 3 (by decide) (Nat.lt_succ_of_le h)
  have three := (width _ h₁.chance).trans (width _ h₂.chance).symm
  have chars := congrArg String.toList same
  simp only [text, String.toList_append, String.toList_ofList, List.append_cancel_left_eq, List.append_assoc,
    List.cons_append, List.cons.injEq, true_and] at chars
  obtain ⟨years, behind⟩ := List.append_inj' chars (by simp [six, three])
  obtain ⟨times, last⟩ := List.append_inj (List.cons.inj behind).2 six
  have year := congrArg digitsValue years
  rw [Literal.digitsValue_natText, Literal.digitsValue_natText] at year
  exact ⟨year, times, (List.cons.inj last).2⟩

/-- Two numbers with the same start are the same if they are of one year, of times that are whole thousands of seconds
apart, and of the same chance. -/
theorem text_eq_iff (h₁ : r₁.FillsColumns) (h₂ : r₂.FillsColumns) :
    text start r₁ = text start r₂ ↔ r₁.now.date.year = r₂.now.date.year ∧
      r₁.epochMilliseconds % 1000000 = r₂.epochMilliseconds % 1000000 ∧ r₁.chance = r₂.chance := by
  obtain ⟨six₁, digits₁, value₁⟩ := tail_spec h₁.time
  obtain ⟨six₂, digits₂, value₂⟩ := tail_spec h₂.time
  constructor
  · intro same
    obtain ⟨years, times, chances⟩ := columns_eq h₁ h₂ same
    have chance := congrArg digitsValue chances
    rw [Moment.digitsValue_padded, Moment.digitsValue_padded] at chance
    exact ⟨years, by rw [← value₁, ← value₂, times], chance⟩
  · rintro ⟨years, times, chances⟩
    have tails : tail r₁.epochMilliseconds = tail r₂.epochMilliseconds :=
      eq_of_digitsValue digits₁ digits₂ (six₁.trans six₂.symm) (by omega)
    rw [text, text, years, tails, chances]

/-- Every number has its columns, and within a year two numbers differ exactly if the times differ in their last six
digits or the answers of chance differ. -/
theorem numbers_differ_iff (start : String) (h₁ : r₁.FillsColumns) (h₂ : r₂.FillsColumns)
    (year : r₁.now.date.year = r₂.now.date.year) :
    IsFormed start r₁.now.date.year (text start r₁) ∧ IsFormed start r₂.now.date.year (text start r₂) ∧
      (text start r₁ ≠ text start r₂ ↔
        r₁.epochMilliseconds % 1000000 ≠ r₂.epochMilliseconds % 1000000 ∨ r₁.chance ≠ r₂.chance) := by
  refine ⟨text_isFormed h₁, text_isFormed h₂, ?_⟩
  rw [Ne, text_eq_iff h₁ h₂, not_and_or, not_and_or]
  simp only [year, not_true_eq_false, false_or]

/-- A reading on a morning in March. -/
def morning (milliseconds : Int) (chance : Nat) : Reading := ⟨milliseconds, .midnight ⟨2024, 3, 6, rfl⟩, chance⟩

/-- The times end in the same digits, and chance tells the numbers apart. -/
theorem numbers_differ_iff_chance :
    (morning 1709717400125 7).FillsColumns ∧ (morning 1709718400125 8).FillsColumns ∧
      text "DOC" (morning 1709717400125 7) ≠ text "DOC" (morning 1709718400125 8) := by
  have first : (morning 1709717400125 7).FillsColumns := ⟨by decide, by decide⟩
  have second : (morning 1709718400125 8).FillsColumns := ⟨by decide, by decide⟩
  exact ⟨first, second, (numbers_differ_iff "DOC" first second rfl).2.2.mpr (.inr (by decide))⟩

/-- A thousand seconds later, a number comes again. -/
theorem number_comes_again :
    (morning 1709717400125 7).FillsColumns ∧ (morning 1709718400125 7).FillsColumns ∧
      (morning 1709717400125 7).now.date.year = (morning 1709718400125 7).now.date.year ∧
      (morning 1709717400125 7).epochMilliseconds ≠ (morning 1709718400125 7).epochMilliseconds ∧
      text "DOC" (morning 1709717400125 7) = text "DOC" (morning 1709718400125 7) := by
  have first : (morning 1709717400125 7).FillsColumns := ⟨by decide, by decide⟩
  have second : (morning 1709718400125 7).FillsColumns := ⟨by decide, by decide⟩
  exact ⟨first, second, rfl, by decide, (text_eq_iff first second).mpr ⟨rfl, by decide, rfl⟩⟩

end DocumentNumber

end Letterpress
