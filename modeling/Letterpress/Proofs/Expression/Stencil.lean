import Mathlib.Data.List.TakeWhile
import Letterpress.Expression.Token
import Letterpress.Proofs.Text.Ascii
import Letterpress.Proofs.Text.Splitting

/-!
# Stencils

Templates of literal text with placeholders, each a name in the brackets of a print statement, and their tokens.

* `Stencil.source`: a stencil as the source of a template.
* `Stencil.filled`: its literal text with other texts in the places of its names.
* `Token.scan_placeholder`: a placeholder is read as a print statement of its name.
* `Stencil.ofSource_source`: the tokens of a stencil.
-/

namespace Letterpress.Expression

open Text

/-- Literal text, then names, each with the literal text behind it. -/
structure Stencil where
  front : List Char
  slots : List (String × List Char)

namespace Stencil

def names (s : Stencil) : List String := s.slots.map (·.1)

def chunks (s : Stencil) : List (List Char) := s.front :: s.slots.map (·.2)

/-- The literal text with a text for each of the names. -/
def filled (s : Stencil) (textOf : String → List Char) : List Char :=
  s.front ++ s.slots.flatMap fun slot => textOf slot.1 ++ slot.2

def placeholder (n : String) : List Char := ['\x7b', '\x7b', ' '] ++ n.toList ++ [' ', '\x7d', '\x7d']

def source (s : Stencil) : List Char := s.filled placeholder

/-- A letter of ASCII or a low line, then letters, digits and low lines. -/
def isIdentifier : List Char → Bool
  | [] => false
  | c :: cs => (isAsciiLetter c || c == '_') && cs.all fun c => isAsciiAlnum c || c == '_'

/-- What the literal text is free of, so that nothing but the placeholders has a meaning in it. -/
structure Literal (s : Stencil) : Prop where
  noBrace : ∀ cs ∈ s.chunks, '\x7b' ∉ cs
  noReturn : ∀ cs ∈ s.chunks, '\r' ∉ cs
  noLineFeed : ∀ cs, s.chunks.getLast? = some cs → cs.getLast? ≠ some '\n'

end Stencil

namespace Token

variable {cs rest : List Char} {c : Char} {n : String}

/-! ## Literal text -/

theorem opening?_of_ne (other : c ≠ '\x7b') (cs : List Char) : opening? (c :: cs) = none := by
  unfold opening?
  split <;> simp_all

theorem literal_of_free (free : '\x7b' ∉ cs) : literal cs = (cs, none) := by
  induction cs with
  | nil => rfl
  | cons c cs ih =>
    obtain ⟨other, later⟩ := not_or.mp (mt List.mem_cons.mpr free)
    rw [literal, opening?_of_ne (Ne.symm other), ih later]

theorem literal_append {o : Opening × Bool × List Char} (free : '\x7b' ∉ cs) (opens : opening? rest = some o) :
    literal (cs ++ rest) = (cs, some o) := by
  induction cs with
  | nil =>
    cases rest with
    | nil => cases opens
    | cons c rest => rw [List.nil_append, literal, opens]
  | cons c cs ih =>
    obtain ⟨other, later⟩ := not_or.mp (mt List.mem_cons.mpr free)
    rw [List.cons_append, literal, opening?_of_ne (Ne.symm other), ih later]

/-! ## Names -/

theorem lt_of_part (part : (isAsciiAlnum c || c == '_') = true) : c.toNat < 128 := by
  rcases Bool.or_eq_true_iff.mp part with plain | low
  · exact lt_of_isAsciiAlnum plain
  · rw [beq_iff_eq.mp low]
    decide

/-- The characters of an identifier stand in names. -/
theorem part_spec (part : (isAsciiAlnum c || c == '_') = true) :
    isNamePart c = true ∧
      (isLetter c || isDecimal c || c == '_' || c.toNat == 0xB7 || (0x300 ≤ c.toNat && c.toNat ≤ 0x36F)) = true :=
  ascii_induction (p := fun c => (isAsciiAlnum c || c == '_') = true → isNamePart c = true ∧
    (isLetter c || isDecimal c || c == '_' || c.toNat == 0xB7 || (0x300 ≤ c.toNat && c.toNat ≤ 0x36F)) = true)
    (by decide) (lt_of_part part) part

/-- The first character of an identifier begins nothing but a name. -/
theorem start_spec (start : (isAsciiLetter c || c == '_') = true) :
    (isAsciiAlnum c || c == '_') = true ∧ isBlank c = false ∧ isDecimal c = false ∧ isAsciiDigit c = false ∧
      (isLetter c || c == '_') = true ∧ c ≠ '0' ∧ c ≠ '-' ∧ c ≠ '+' ∧ c ≠ '\x7d' := by
  have part : (isAsciiAlnum c || c == '_') = true := by
    rcases Bool.or_eq_true_iff.mp start with letter | low
    · simp [isAsciiAlnum, letter]
    · simp [low]
  exact ascii_induction (p := fun c => (isAsciiLetter c || c == '_') = true →
    (isAsciiAlnum c || c == '_') = true ∧ isBlank c = false ∧ isDecimal c = false ∧ isAsciiDigit c = false ∧
      (isLetter c || c == '_') = true ∧ c ≠ '0' ∧ c ≠ '-' ∧ c ≠ '+' ∧ c ≠ '\x7d') (by decide) (lt_of_part part) start

theorem isProperName_of_isIdentifier (identifier : Stencil.isIdentifier cs = true) : isProperName cs = true := by
  cases cs with
  | nil => cases identifier
  | cons c cs =>
    obtain ⟨start, parts⟩ := Bool.and_eq_true_iff.mp identifier
    refine Bool.and_eq_true_iff.mpr ⟨(start_spec start).2.2.2.2.1, List.all_eq_true.mpr fun d member => ?_⟩
    exact (part_spec (List.all_eq_true.mp parts d member)).2

theorem isNamePart_of_isIdentifier (identifier : Stencil.isIdentifier cs = true) : ∀ c ∈ cs, isNamePart c = true := by
  cases cs with
  | nil => cases identifier
  | cons c cs =>
    obtain ⟨start, parts⟩ := Bool.and_eq_true_iff.mp identifier
    refine List.forall_mem_cons.mpr ⟨(part_spec (start_spec start).1).1, fun d member => ?_⟩
    exact (part_spec (List.all_eq_true.mp parts d member)).1

theorem floatText?_of_notDecimal (other : isDecimal c = false) (cs : List Char) : floatText? (c :: cs) = none := by
  have noDigits : digitGroups? isDecimal (c :: cs) = none := by
    unfold digitGroups?
    simp [other]
  simp [floatText?, noDigits]

theorem int?_of_notDigit (other : isAsciiDigit c = false) (nonzero : c ≠ '0') (cs : List Char) :
    int? (c :: cs) = none := by
  cases cs <;> simp [int?, other, nonzero]

/-- A name with a blank behind it. -/
theorem lexeme?_name (identifier : Stencil.isIdentifier n.toList = true) (previous : Option Char) (rest : List Char) :
    lexeme? previous (n.toList ++ ' ' :: rest) = .ok (some (some (name n), ' ' :: rest)) := by
  have chars := isNamePart_of_isIdentifier identifier
  have word : (n.toList ++ ' ' :: rest).takeWhile isNamePart = n.toList := by
    rw [List.takeWhile_append_of_pos chars, List.takeWhile_cons_of_neg (by decide), List.append_nil]
  have behind : (n.toList ++ ' ' :: rest).dropWhile isNamePart = ' ' :: rest := by
    rw [List.dropWhile_append_of_pos chars, List.dropWhile_cons_of_neg (by decide)]
  have proper := isProperName_of_isIdentifier identifier
  have whole : String.ofList n.toList = n := String.ofList_toList
  generalize n.toList = cs at *
  cases cs with
  | nil => cases identifier
  | cons c cs =>
    obtain ⟨-, notBlank, notDecimal, notDigit, -, nonzero, -⟩ := start_spec (Bool.and_eq_true_iff.mp identifier).1
    have part := chars c List.mem_cons_self
    rw [List.cons_append] at *
    simp only [lexeme?, notBlank, floatText?_of_notDecimal notDecimal, int?_of_notDigit notDigit nonzero, part, word,
      behind, proper, whole, ite_self, Bool.false_eq_true, if_false, if_true]

theorem lexeme?_blank (previous : Option Char) (cs : List Char) :
    lexeme? previous (' ' :: cs) = .ok (some (none, trimLeft cs)) := by
  rw [lexeme?, if_pos (by decide)]

/-! ## Placeholders -/

theorem closeStatement?_of_ne (minus : c ≠ '-') (plus : c ≠ '+') (brace : c ≠ '\x7d') (rest : List Char) :
    closeStatement? true (c :: rest) = none := by
  have mark : dropPrefix? ['\x7d', '\x7d'] (c :: rest) = none := if_neg (Ne.symm brace)
  simp [closeStatement?, minus, plus, mark]

variable {total fuel : Nat} {previous : Option Char}

theorem scan_opening {behind : List Char} (free : '\x7b' ∉ cs) (opens : opening? rest = some (.print, false, behind)) :
    scan total (fuel + 1) .outside (cs ++ rest) =
      ofData false cs ++ openPrint :: scan total fuel (.inside true [] none) behind := by
  conv => lhs; unfold scan
  rw [literal_append free opens]

theorem scan_blank (tight : trimLeft cs = cs) :
    scan total (fuel + 1) (.inside true [] previous) (' ' :: cs) =
      scan total fuel (.inside true [] (lastBefore (' ' :: cs) cs)) cs := by
  have open_ := closeStatement?_of_ne (c := ' ') (by decide) (by decide) (by decide) cs
  conv => lhs; unfold scan
  simp only [List.isEmpty_nil, if_true, open_, lexeme?_blank previous cs, tight]

theorem scan_name (identifier : Stencil.isIdentifier n.toList = true)
    (opens : closeStatement? true (n.toList ++ ' ' :: rest) = none) :
    scan total (fuel + 1) (.inside true [] previous) (n.toList ++ ' ' :: rest) =
      name n ::
        scan total fuel (.inside true [] (lastBefore (n.toList ++ ' ' :: rest) (' ' :: rest))) (' ' :: rest) := by
  conv => lhs; unfold scan
  simp only [List.isEmpty_nil, if_true, opens, lexeme?_name identifier]

theorem scan_closing :
    scan total (fuel + 1) (.inside true [] previous) ('\x7d' :: '\x7d' :: rest) =
      closePrint :: scan total fuel .outside rest := by
  conv => lhs; unfold scan
  rfl

/-- A placeholder is a print statement of its name. -/
theorem scan_placeholder (free : '\x7b' ∉ cs) (identifier : Stencil.isIdentifier n.toList = true) (rest : List Char) :
    scan total (fuel + 5) .outside (cs ++ (Stencil.placeholder n ++ rest)) =
      ofData false cs ++ [openPrint, name n, closePrint] ++ scan total fuel .outside rest := by
  obtain ⟨c, ds, chars⟩ : ∃ c ds, n.toList = c :: ds := by
    cases chars : n.toList with
    | nil => rw [chars] at identifier; cases identifier
    | cons c ds => exact ⟨c, ds, rfl⟩
  obtain ⟨-, notBlank, -, -, -, -, minus, plus, brace⟩ := start_spec (Bool.and_eq_true_iff.mp (chars ▸ identifier)).1
  have opens : opening? (Stencil.placeholder n ++ rest) =
      some (.print, false, ' ' :: (n.toList ++ ' ' :: '\x7d' :: '\x7d' :: rest)) := by
    rw [Stencil.placeholder, List.append_assoc, List.append_assoc]
    rfl
  have word : closeStatement? true (n.toList ++ ' ' :: '\x7d' :: '\x7d' :: rest) = none := by
    rw [chars, List.cons_append, closeStatement?_of_ne minus plus brace]
  have tight : trimLeft (n.toList ++ ' ' :: '\x7d' :: '\x7d' :: rest) =
      n.toList ++ ' ' :: '\x7d' :: '\x7d' :: rest := by
    rw [chars, List.cons_append, trimLeft, trimLeftBy, List.dropWhile_cons_of_neg (by simp [notBlank])]
  have tightEnd : trimLeft ('\x7d' :: '\x7d' :: rest) = '\x7d' :: '\x7d' :: rest := by
    rw [trimLeft, trimLeftBy, List.dropWhile_cons_of_neg (by decide)]
  rw [scan_opening free opens, scan_blank tight, scan_name identifier word, scan_blank tightEnd, scan_closing]
  simp

end Token

/-! ## Whole stencils -/

namespace Stencil

open Token

variable {s : Stencil}

/-- The tokens of a stencil. -/
def tokens (s : Stencil) : List Token :=
  ofData false s.front ++
    s.slots.flatMap fun slot => [openPrint, name slot.1, closePrint] ++ ofData false slot.2

theorem scan_source (front : List Char) (slots : List (String × List Char)) (total fuel : Nat)
    (enough : 5 * slots.length < fuel) (free : ∀ cs ∈ chunks ⟨front, slots⟩, '\x7b' ∉ cs)
    (identifiers : ∀ n ∈ names ⟨front, slots⟩, isIdentifier n.toList = true) :
    scan total fuel .outside (source ⟨front, slots⟩) = tokens ⟨front, slots⟩ := by
  induction slots generalizing front fuel with
  | nil =>
    obtain ⟨fuel, rfl⟩ : ∃ k, fuel = k + 1 := ⟨fuel - 1, by omega⟩
    have text : source ⟨front, []⟩ = front := by simp [source, filled]
    conv => lhs; unfold scan
    rw [text, literal_of_free (free front List.mem_cons_self)]
    simp [tokens]
  | cons slot slots ih =>
    obtain ⟨n, behind⟩ := slot
    obtain ⟨fuel, rfl⟩ : ∃ k, fuel = k + 5 := ⟨fuel - 5, by simp at enough; omega⟩
    obtain ⟨here, later⟩ := List.forall_mem_cons.mp free
    obtain ⟨identifier, others⟩ := List.forall_mem_cons.mp identifiers
    have rest := ih behind fuel (by simp at enough; omega) later others
    have text : source ⟨front, (n, behind) :: slots⟩ = front ++ (placeholder n ++ source ⟨behind, slots⟩) := by
      simp [source, filled]
    rw [text, scan_placeholder here identifier, rest]
    simp [tokens]

theorem mem_source {c : Char} (member : c ∈ s.source) :
    (∃ cs ∈ s.chunks, c ∈ cs) ∨ ∃ n ∈ s.names, c ∈ placeholder n := by
  rcases List.mem_append.mp member with front | behind
  · exact .inl ⟨s.front, List.mem_cons_self, front⟩
  · obtain ⟨slot, found, either⟩ := List.mem_flatMap.mp behind
    rcases List.mem_append.mp either with name | text
    · exact .inr ⟨slot.1, List.mem_map_of_mem found, name⟩
    · exact .inl ⟨slot.2, List.mem_cons_of_mem _ (List.mem_map_of_mem found), text⟩

theorem noReturn_source (literal : s.Literal) (identifiers : ∀ n ∈ s.names, isIdentifier n.toList = true) :
    '\r' ∉ s.source := by
  intro member
  rcases mem_source member with ⟨cs, found, inside⟩ | ⟨n, found, inside⟩
  · exact literal.noReturn cs found inside
  · have part := isNamePart_of_isIdentifier (identifiers n found) '\r' (by simpa [placeholder] using inside)
    revert part
    decide

/-- The last text decides how a stencil ends, unless it is empty. -/
theorem getLast?_source (literal : s.Literal) : s.source.getLast? ≠ some '\n' := by
  obtain ⟨front, slots⟩ := s
  rcases List.eq_nil_or_concat slots with rfl | ⟨init, ⟨n, cs⟩, rfl⟩
  · have last := literal.noLineFeed front rfl
    simpa [source, filled] using last
  · have last := literal.noLineFeed cs (by simp [chunks, List.getLast?_cons])
    obtain ⟨lead, text⟩ : ∃ lead, source ⟨front, init.concat (n, cs)⟩ = lead ++ '\x7d' :: cs :=
      ⟨source ⟨front, init⟩ ++ (['\x7b', '\x7b', ' '] ++ n.toList ++ [' ', '\x7d']), by
        simp [source, filled, placeholder]⟩
    rw [text, List.getLast?_append, List.getLast?_cons]
    cases ending : cs.getLast? with
    | none => simp
    | some c => simpa [ending] using last

theorem length_source (s : Stencil) : 3 * s.slots.length ≤ s.source.length := by
  obtain ⟨front, slots⟩ := s
  induction slots with
  | nil => simp
  | cons slot slots ih =>
    simp only [source, filled, placeholder, List.flatMap_cons, List.length_append, List.length_cons] at ih ⊢
    omega

/-- The tokens of a stencil are its texts with print statements between them. -/
theorem ofSource_source (literal : s.Literal) (identifiers : ∀ n ∈ s.names, isIdentifier n.toList = true) :
    ofSource s.source = s.tokens := by
  have prepared : prepare s.source = s.source := by
    rw [prepare, normalizeNewlines_of_free (noReturn_source literal identifiers)]
    split
    · rename_i last
      exact absurd last (getLast?_source literal)
    · rfl
  have long := length_source s
  rw [ofSource, prepared]
  exact scan_source s.front s.slots _ _ (by omega) literal.noBrace identifiers

end Stencil

end Letterpress.Expression
