import Letterpress.Hypertext.Escape
import Letterpress.Hypertext.Event
import Letterpress.Proofs.Text.Ascii
import Mathlib.Data.List.TakeWhile

/-!
# Printed events

What hypertext is printed from: escaped text, the names of plain tags, and end tags.

* `unescape_escape`: the references that escaping leaves are replaced by what they stand for.
* `plainChar_spec`: what the names of plain tags consist of.
* `Event.strictEnd?_name`: an end tag that consists of its name.
* `Event.print`: an event as hypertext.
-/

namespace Letterpress.Hypertext

open Text

variable {cs ds name rest : List Char} {c d : Char}

/-! ## Escaped text -/

theorem escape_cons (c : Char) (cs : List Char) : escape (c :: cs) = named.char c ++ escape cs := List.flatMap_cons

theorem escape_append (cs ds : List Char) : escape (cs ++ ds) = escape cs ++ escape ds := List.flatMap_append

theorem takeWhile_append_stop {p : Char → Bool} (all : ∀ c ∈ cs, p c = true) (stops : p d = false) :
    (cs ++ d :: rest).takeWhile p = cs := by
  rw [List.takeWhile_append_of_pos all, List.takeWhile_cons_of_neg (by simp [stops]), List.append_nil]

theorem dropWhile_append_stop {p : Char → Bool} (all : ∀ c ∈ cs, p c = true) (stops : p d = false) :
    (cs ++ d :: rest).dropWhile p = d :: rest := by
  rw [List.dropWhile_append_of_pos all, List.dropWhile_cons_of_neg (by simp [stops])]

/-- A reference by a name that a semicolon closes. -/
theorem namedReference?_closed {text : List Char} (known : namedText? name = some text)
    (plain : ∀ c ∈ name, isNameChar c = true) (short : name.length < 32) (filled : name ≠ []) (rest : List Char) :
    namedReference? (name ++ ';' :: rest) = some (text, rest) := by
  obtain ⟨k, length⟩ : ∃ k, 32 - name.length = k + 1 := ⟨31 - name.length, by omega⟩
  have run : ((name ++ ';' :: rest).take 32).takeWhile isNameChar = name := by
    rw [List.take_append, List.take_of_length_le (by omega), length, List.take_succ_cons]
    exact takeWhile_append_stop plain (by decide)
  have behind : (name ++ ';' :: rest).drop name.length = ';' :: rest := List.drop_left ..
  simp [namedReference?, run, behind, filled, isSemicolonNext, known, dropSemicolon]

/-- A character is escaped as itself or as a reference that stands for it. -/
theorem char_eq_or_reference (c : Char) :
    (named.char c = [c] ∧ c ≠ '&' ∧ c ≠ '<') ∨
    ∃ body, named.char c = '&' :: body ∧ '<' ∉ body ∧ ∀ rest, reference? (body ++ rest) = some ([c], rest) := by
  have byName (name : List Char) {c : Char} (start : ∀ rest, reference? (name ++ rest) = namedReference? (name ++ rest))
      (known : namedText? name = some [c]) (plain : name.all isNameChar = true) (short : name.length < 32)
      (filled : name ≠ []) (rest : List Char) : reference? (name ++ [';'] ++ rest) = some ([c], rest) := by
    rw [List.append_assoc, start]
    exact namedReference?_closed known (List.all_eq_true.mp plain) short filled rest
  unfold EscapeStyle.char
  split
  · exact .inr ⟨_, rfl, by decide, byName ['a', 'm', 'p'] (fun _ => rfl) rfl rfl (by decide) (by decide)⟩
  · exact .inr ⟨_, rfl, by decide, byName ['l', 't'] (fun _ => rfl) rfl rfl (by decide) (by decide)⟩
  · exact .inr ⟨_, rfl, by decide, byName ['g', 't'] (fun _ => rfl) rfl rfl (by decide) (by decide)⟩
  · exact .inr ⟨_, rfl, by decide,
      byName ['q', 'u', 'o', 't'] (fun _ => rfl) rfl rfl (by decide) (by decide)⟩
  · exact .inr ⟨_, rfl, by decide, fun _ => rfl⟩
  · rename_i noAmpersand noLess _ _ _
    exact .inl ⟨rfl, noAmpersand, noLess⟩

theorem lt_not_mem_escape (cs : List Char) : '<' ∉ escape cs := by
  induction cs with
  | nil => exact List.not_mem_nil
  | cons c cs ih =>
    rw [escape_cons, List.mem_append, not_or]
    refine ⟨?_, ih⟩
    obtain ⟨same, -, shown⟩ | ⟨body, reference, free, -⟩ := char_eq_or_reference c
    · rw [same, List.mem_singleton]
      exact Ne.symm shown
    · rw [reference, List.mem_cons, not_or]
      exact ⟨by decide, free⟩

theorem escape_ne_nil (filled : cs ≠ []) : escape cs ≠ [] := by
  obtain ⟨c, cs, rfl⟩ := List.exists_cons_of_ne_nil filled
  obtain ⟨same, -⟩ | ⟨body, reference, -⟩ := char_eq_or_reference c <;> simp [escape_cons, *]

theorem unescapeWithin_escape {fuel : Nat} (enough : (escape cs).length ≤ fuel) :
    unescapeWithin fuel (escape cs) = cs := by
  induction cs generalizing fuel with
  | nil => cases fuel <;> rfl
  | cons c cs ih =>
    obtain ⟨same, plain, -⟩ | ⟨body, reference, -, stands⟩ := char_eq_or_reference c
    · rw [escape_cons, same, List.singleton_append, List.length_cons] at enough
      obtain ⟨fuel, rfl⟩ : ∃ n, fuel = n + 1 := ⟨fuel - 1, by omega⟩
      rw [escape_cons, same, List.singleton_append, unescapeWithin, ih (by omega)]
      exact plain
    · rw [escape_cons, reference, List.cons_append, List.length_cons, List.length_append] at enough
      obtain ⟨fuel, rfl⟩ : ∃ n, fuel = n + 1 := ⟨fuel - 1, by omega⟩
      rw [escape_cons, reference, List.cons_append, unescapeWithin, stands]
      simp only [List.singleton_append]
      rw [ih (by omega)]

/-- What is escaped stands for itself, whatever it contains. -/
theorem unescape_escape (cs : List Char) : unescape (escape cs) = cs := unescapeWithin_escape (Nat.le_refl _)

/-! ## Names of tags -/

/-- Characters of the names of plain tags. -/
def isPlainChar (c : Char) : Bool := isAsciiLower c || isAsciiDigit c

/-- The names of plain tags: a small letter, then small letters and digits. -/
def isPlainName : List Char → Bool
  | [] => false
  | c :: cs => isAsciiLower c && cs.all isPlainChar

/-- What holds of the plain characters among the first 128 holds of all. -/
theorem plain_induction {p : Char → Prop} (all : ∀ n < 128, isPlainChar (.ofNat n) = true → p (.ofNat n))
    (plain : isPlainChar c = true) : p c := by
  have range : c.toNat < 128 := by
    refine lt_of_isAsciiAlnum ?_
    rcases Bool.or_eq_true_iff.mp plain with small | digit
    · simp [isAsciiAlnum, isAsciiLetter, small]
    · simp [isAsciiAlnum, digit]
  exact ascii_induction (p := fun c => isPlainChar c = true → p c) all range plain

theorem isPlainChar_of_isPlainName (plain : isPlainName name = true) : ∀ c ∈ name, isPlainChar c = true := by
  cases name with
  | nil => simp
  | cons c cs => simp_all [isPlainName, isPlainChar]

theorem exists_cons_of_isPlainName (plain : isPlainName name = true) :
    ∃ c cs, name = c :: cs ∧ isAsciiLetter c = true ∧ isPlainChar c = true ∧ ∀ d ∈ cs, isPlainChar d = true := by
  cases name with
  | nil => cases plain
  | cons c cs =>
    simp only [isPlainName, Bool.and_eq_true, List.all_eq_true] at plain
    exact ⟨c, cs, rfl, by simp [isAsciiLetter, plain.1], by simp [isPlainChar, plain.1], plain.2⟩

/-- Plain characters end no name, are no part of the marks around it, and are small already. -/
theorem plainChar_spec (plain : isPlainChar c = true) :
    StartTag.isNameEnd c = false ∧ Event.isEndName c = true ∧ isBlank c = false ∧ c ≠ '>' ∧ c ≠ '/' ∧
      lowerChar c = [c] ∧ c ≠ 'Σ' :=
  plain_induction (p := fun c => StartTag.isNameEnd c = false ∧ Event.isEndName c = true ∧ isBlank c = false ∧ c ≠ '>' ∧
    c ≠ '/' ∧ lowerChar c = [c] ∧ c ≠ 'Σ') (by decide +kernel) plain

theorem lowerAfter_of_plain (before : List Char) (plain : ∀ c ∈ cs, isPlainChar c = true) :
    lowerAfter before cs = cs := by
  induction cs generalizing before with
  | nil => rfl
  | cons c cs ih =>
    obtain ⟨here, later⟩ := List.forall_mem_cons.mp plain
    obtain ⟨-, -, -, -, -, small, noSigma⟩ := plainChar_spec here
    rw [lowerAfter, if_neg (by simpa using noSigma), small, ih _ later]
    rfl

/-! ## Tags -/

theorem Cursor.skipFrom_append {p : Char → Bool} (all : ∀ c ∈ cs, p c = true) (stops : p d = false) (before : Char) :
    Cursor.skipFrom p before (cs ++ d :: rest) = ⟨(before :: cs).getLast (List.cons_ne_nil _ _), d :: rest⟩ := by
  induction cs generalizing before with
  | nil => simp [Cursor.skipFrom, stops]
  | cons c cs ih =>
    obtain ⟨here, later⟩ := List.forall_mem_cons.mp all
    rw [List.cons_append, Cursor.skipFrom, if_pos here, ih later, List.getLast_cons_cons]

theorem Cursor.skipWhile_stop {p : Char → Bool} (stops : p d = false) (before : Char) :
    Cursor.skipWhile p ⟨before, d :: rest⟩ = ⟨before, d :: rest⟩ := by
  simp [Cursor.skipWhile, Cursor.skipFrom, stops]

namespace Event

theorem trimLeft_cons (shown : isBlank c = false) (cs : List Char) : trimLeft (c :: cs) = c :: cs := by
  simp [trimLeft, trimLeftBy, shown]

/-- An end tag that consists of its name. -/
theorem strictEnd?_name (plain : isPlainName name = true) (rest : List Char) :
    strictEnd? (name ++ '>' :: rest) = some (name, rest) := by
  obtain ⟨c, cs, rfl, letter, first, others⟩ := exists_cons_of_isPlainName plain
  have isName : ∀ d ∈ cs, isEndName d = true := fun d member => (plainChar_spec (others d member)).2.1
  rw [List.cons_append, strictEnd?, trimLeft_cons (plainChar_spec first).2.2.1]
  simp only [letter, takeWhile_append_stop isName (show isEndName '>' = false by decide),
    dropWhile_append_stop isName (show isEndName '>' = false by decide),
    trimLeft_cons (show isBlank '>' = false by decide)]
  rfl

/-- An event as hypertext. -/
def print : Event → List Char
  | start tag => '<' :: tag.toList ++ ['>']
  | stop tag => '<' :: '/' :: tag.toList ++ ['>']
  | text cs => escape cs

/-- Tags that are printed without attributes, of elements that contain hypertext. -/
def isPlain : Event → Bool
  | start tag | stop tag => isPlainName tag.toList && !rawElements.contains tag
  | text _ => true

/-- Events with texts that follow each other as one, given the text before them. -/
def fused (cs : List Char) : List Event → List Event
  | [] => ofText cs
  | text ds :: es => fused (cs ++ ds) es
  | start tag :: es => ofText cs ++ start tag :: fused [] es
  | stop tag :: es => ofText cs ++ stop tag :: fused [] es

theorem markup?_stop {tag : String} (plain : (stop tag).isPlain = true) (rest : List Char) :
    markup? ('/' :: tag.toList ++ '>' :: rest) = .ok (some ⟨[stop tag], none, rest⟩) := by
  simp only [isPlain, Bool.and_eq_true] at plain
  have chars := isPlainChar_of_isPlainName plain.1
  have closes : after? '>' (tag.toList ++ '>' :: rest) = some rest := by
    rw [after?, dropWhile_append_stop (fun c member => by simp [(plainChar_spec (chars c member)).2.2.2.1]) (by decide)]
  have small : lowered tag.toList = tag := by
    rw [lowered, lower, lowerAfter_of_plain [] chars, String.ofList_toList]
  rw [List.cons_append, markup?, endTag?, closes]
  simp only [strictEnd?_name plain.1, small]

end Event

end Letterpress.Hypertext
