import Letterpress.Text.Class
import Mathlib.Data.List.TakeWhile

/-!
# Quoted text in style rules

How style rules are read from an opening quotation mark on: up to the next one that no backslash takes away, but not
beyond the end of a line.

* `Style.prepare`: text in the form in which style rules are read.
* `Style.behindQuote?`: what follows quoted text.
* `Style.Wording`: what can stand between quotation marks.
* `Style.behindQuote?_eq_iff`: quoted text ends at its own quotation mark exactly if it is such a wording.
-/

namespace Letterpress.Style

open Text

variable {cs ds rest : List Char} {c : Char}

/-- Each line end as a line feed, and no null character. -/
def prepare : List Char → List Char
  | [] => []
  | '\r' :: '\n' :: cs => '\n' :: prepare cs
  | c :: cs =>
    (if c == '\r' || c == '\x0c' then '\n' else if c.toNat == 0 then '\ufffd' else c) :: prepare cs

/-- White space, of which an escape by number takes one with it. -/
def isGap (c : Char) : Bool := c == ' ' || c == '\t' || c == '\n'

/-- Where reading stands in quoted text. -/
inductive Position where
  | ordinary
  | behindBackslash
  /-- in an escape by number, which can have so many more digits -/
  | inNumber (more : Nat)
  deriving DecidableEq, Repr

/-- What a character of quoted text comes to. -/
inductive Step where
  | goOn (p : Position)
  | close
  | broken
  deriving DecidableEq, Repr

namespace Position

def ordinaryStep (c : Char) : Step :=
  if c == '"' then .close
  else if c == '\n' then .broken
  else if c == '\\' then .goOn behindBackslash
  else .goOn ordinary

def step : Position → Char → Step
  | ordinary, c => ordinaryStep c
  | behindBackslash, c => .goOn (if isHex c then inNumber 5 else ordinary)
  | inNumber more, c =>
    if isHex c && more != 0 then .goOn (inNumber (more - 1))
    else if isGap c then .goOn ordinary
    else ordinaryStep c

end Position

/-- What follows the closing quotation mark; none where the text or its line ends before. -/
def behindQuote? (p : Position) : List Char → Option (List Char)
  | [] => none
  | c :: cs =>
    match p.step c with
    | .goOn q => behindQuote? q cs
    | .close => some cs
    | .broken => none

/-- What can stand between quotation marks: a line feed and a quotation mark only behind a backslash, and a backslash
only with what it takes away. A number behind a backslash takes white space with it. -/
inductive Wording : List Char → Prop
  | nil : Wording []
  | plain {c : Char} {cs : List Char} (quote : c ≠ '"') (line : c ≠ '\n') (backslash : c ≠ '\\') (rest : Wording cs) :
      Wording (c :: cs)
  | escape {c : Char} {cs : List Char} (literal : isHex c = false) (rest : Wording cs) : Wording ('\\' :: c :: cs)
  | number {d : Char} {ds gap cs : List Char} (digits : ∀ c ∈ d :: ds, isHex c = true) (few : ds.length ≤ 5)
      (blank : ∀ c ∈ gap, isGap c = true) (single : gap.length ≤ 1) (rest : Wording cs) :
      Wording ('\\' :: d :: ds ++ gap ++ cs)

/-! ## Prepared text -/

theorem prepare_append_quote (cs ds : List Char) : prepare (cs ++ '"' :: ds) = prepare cs ++ '"' :: prepare ds := by
  fun_induction prepare cs with
  | case1 => rfl
  | case2 cs ih => rw [List.cons_append, List.cons_append, prepare, ih, List.cons_append]
  | case3 c cs alone ih =>
    have still : ∀ rest, c = '\r' → cs ++ '"' :: ds = '\n' :: rest → False := by
      intro rest same next
      cases cs with
      | nil => cases next
      | cons d cs =>
        obtain rfl : d = '\n' := (List.cons.inj next).1
        exact alone cs same rfl
    rw [List.cons_append, prepare, ih, List.cons_append]
    exact still

theorem quote_not_mem_prepare (free : '"' ∉ cs) : '"' ∉ prepare cs := by
  fun_induction prepare cs with
  | case1 => exact List.not_mem_nil
  | case2 cs ih =>
    simp only [List.mem_cons, not_or] at free ⊢
    exact ⟨by decide, ih free.2.2⟩
  | case3 c cs _ ih =>
    simp only [List.mem_cons, not_or] at free ⊢
    refine ⟨?_, ih free.2⟩
    split
    · decide
    · split
      · decide
      · exact free.1

/-! ## Where quoted text ends -/

theorem length_of_behindQuote? {p : Position} (closed : behindQuote? p cs = some rest) : rest.length < cs.length := by
  induction cs generalizing p with
  | nil => cases closed
  | cons c cs ih =>
    rw [behindQuote?] at closed
    cases next : p.step c with
    | goOn q => exact Nat.lt_succ_of_lt (ih (by simpa [next] using closed))
    | close =>
      obtain rfl : cs = rest := by simpa [next] using closed
      exact Nat.lt_succ_self _
    | broken => simp [next] at closed

theorem ordinaryStep_of_plain (quote : c ≠ '"') (line : c ≠ '\n') (backslash : c ≠ '\\') :
    Position.ordinaryStep c = .goOn .ordinary := by
  simp [Position.ordinaryStep, quote, line, backslash]

/-- What completes quoted text from a position on. -/
def Position.Completes : Position → List Char → Prop
  | ordinary, cs => Wording cs
  | behindBackslash, cs => Wording ('\\' :: cs)
  | inNumber more, cs => ∃ ds gap rest, cs = ds ++ gap ++ rest ∧ (∀ c ∈ ds, isHex c = true) ∧ ds.length ≤ more ∧
      (∀ c ∈ gap, isGap c = true) ∧ gap.length ≤ 1 ∧ Wording rest

theorem completes_of_wording (wording : Wording cs) (more : Nat) : (Position.inNumber more).Completes cs :=
  ⟨[], [], cs, rfl, by simp, Nat.zero_le _, by simp, Nat.zero_le _, wording⟩

theorem wording_of_ordinaryStep (free : '"' ∉ c :: cs)
    (ih : ∀ q : Position, behindQuote? q (cs ++ '"' :: rest) = some rest → q.Completes cs)
    (closed : (match Position.ordinaryStep c with
      | .goOn q => behindQuote? q (cs ++ '"' :: rest)
      | .close => some (cs ++ '"' :: rest)
      | .broken => none) = some rest) : Wording (c :: cs) := by
  have quote : c ≠ '"' := fun same => free (same ▸ List.mem_cons_self)
  by_cases line : c = '\n'
  · simp [Position.ordinaryStep, line] at closed
  by_cases backslash : c = '\\'
  · subst backslash
    exact ih .behindBackslash (by simpa [Position.ordinaryStep] using closed)
  · rw [ordinaryStep_of_plain quote line backslash] at closed
    exact .plain quote line backslash (ih .ordinary closed)

theorem completes_of_behindQuote? {p : Position} (free : '"' ∉ cs)
    (closed : behindQuote? p (cs ++ '"' :: rest) = some rest) : p.Completes cs := by
  induction cs generalizing p with
  | nil =>
    cases p with
    | ordinary => exact .nil
    -- The backslash takes the closing mark away, so that less is left than what follows it.
    | behindBackslash => exact absurd (length_of_behindQuote? (p := .ordinary) closed) (Nat.lt_irrefl _)
    | inNumber more => exact completes_of_wording .nil more
  | cons c cs ih =>
    have ih (q : Position) := ih (p := q) fun member => free (List.mem_cons_of_mem c member)
    rw [List.cons_append, behindQuote?] at closed
    cases p with
    | ordinary => exact wording_of_ordinaryStep free ih closed
    | behindBackslash =>
      rw [Position.step] at closed
      cases digit : isHex c with
      | true =>
        obtain ⟨ds, gap, behind, rfl, digits, few, blank, single, wording⟩ :=
          ih (.inNumber 5) (by simpa [digit] using closed)
        exact .number (List.forall_mem_cons.mpr ⟨digit, digits⟩) few blank single wording
      | false => exact .escape digit (ih .ordinary (by simpa [digit] using closed))
    | inNumber more =>
      rw [Position.step] at closed
      split_ifs at closed with digit gap
      · obtain ⟨digit, filled⟩ : isHex c = true ∧ more ≠ 0 := by simpa using digit
        obtain ⟨ds, gap, behind, rfl, digits, few, blank, single, wording⟩ := ih _ closed
        refine ⟨c :: ds, gap, behind, rfl, List.forall_mem_cons.mpr ⟨digit, digits⟩, ?_, blank, single, wording⟩
        rw [List.length_cons]
        omega
      · exact ⟨[], [c], cs, rfl, by simp, Nat.zero_le _, by simpa using gap, Nat.le_refl 1, ih .ordinary closed⟩
      · exact completes_of_wording (wording_of_ordinaryStep free ih closed) more

theorem step_of_digit (digit : isHex c = true) (more : Nat) :
    (Position.inNumber (more + 1)).step c = .goOn (.inNumber more) := by
  simp [Position.step, digit]

theorem step_backslash {p : Position} (passable : p ≠ .behindBackslash) : p.step '\\' = .goOn .behindBackslash := by
  cases p with
  | ordinary | inNumber _ => rfl
  | behindBackslash => exact absurd rfl passable

theorem isHex_of_isGap (gap : isGap c = true) : isHex c = false := by
  obtain (rfl | rfl) | rfl : (c = ' ' ∨ c = '\t') ∨ c = '\n' := by simpa [isGap] using gap
  all_goals rfl

/-- The digits of a number and the white space behind them are passed. -/
theorem behindQuote?_number {more : Nat} {gap : List Char} (digits : ∀ c ∈ ds, isHex c = true) (few : ds.length ≤ more)
    (blank : ∀ c ∈ gap, isGap c = true) (single : gap.length ≤ 1)
    (passed : ∀ p ≠ Position.behindBackslash, behindQuote? p cs = some rest) :
    behindQuote? (.inNumber more) (ds ++ gap ++ cs) = some rest := by
  induction ds generalizing more with
  | nil =>
    match gap, single with
    | [], _ => exact passed _ (by simp)
    | [g], _ =>
      have white : isGap g = true := blank g List.mem_cons_self
      have next : (Position.inNumber more).step g = .goOn .ordinary := by
        simp [Position.step, white, isHex_of_isGap white]
      simpa [behindQuote?, next] using passed .ordinary (by simp)
  | cons d ds ih =>
    obtain ⟨more, rfl⟩ : ∃ n, more = n + 1 := ⟨more - 1, by rw [List.length_cons] at few; omega⟩
    rw [List.cons_append, List.cons_append, behindQuote?, step_of_digit (digits d List.mem_cons_self)]
    exact ih (fun c member => digits c (List.mem_cons_of_mem d member)) (Nat.le_of_succ_le_succ few)

/-- A wording is passed from its start, and behind a number just as well. -/
theorem behindQuote?_of_wording (wording : Wording cs) (rest : List Char) :
    ∀ p ≠ Position.behindBackslash, behindQuote? p (cs ++ '"' :: rest) = some rest := by
  induction wording with
  | nil =>
    intro p passable
    cases p with
    | ordinary | inNumber _ => rfl
    | behindBackslash => exact absurd rfl passable
  | @plain c cs quote line backslash wording ih =>
    intro p passable
    obtain ⟨q, next, passable⟩ : ∃ q, p.step c = .goOn q ∧ q ≠ .behindBackslash := by
      have plain := ordinaryStep_of_plain quote line backslash
      cases p with
      | ordinary => exact ⟨_, plain, by simp⟩
      | behindBackslash => exact absurd rfl passable
      | inNumber more =>
        rw [Position.step]
        split_ifs
        · exact ⟨_, rfl, by simp⟩
        · exact ⟨_, rfl, by simp⟩
        · exact ⟨_, plain, by simp⟩
    rw [List.cons_append, behindQuote?, next]
    exact ih q passable
  | @escape c cs literal wording ih =>
    intro p passable
    rw [List.cons_append, behindQuote?, step_backslash passable, List.cons_append]
    simpa [behindQuote?, Position.step, literal] using ih .ordinary (by simp)
  | @number d ds gap cs digits few blank single wording ih =>
    intro p passable
    rw [List.append_assoc, List.append_assoc, List.cons_append, List.cons_append, behindQuote?, step_backslash passable]
    have ⟨first, others⟩ := List.forall_mem_cons.mp digits
    have number := behindQuote?_number others few blank single ih
    rw [List.append_assoc] at number
    simpa [behindQuote?, Position.step, first] using number

/-- Quoted text without quotation marks of its own ends at its closing mark exactly if it is a wording. -/
theorem behindQuote?_eq_iff (free : '"' ∉ cs) (rest : List Char) :
    behindQuote? .ordinary (cs ++ '"' :: rest) = some rest ↔ Wording cs :=
  ⟨completes_of_behindQuote? free, fun wording => behindQuote?_of_wording wording rest .ordinary (by simp)⟩

end Letterpress.Style
