import Letterpress.Proofs.Number.Digits
import Letterpress.Proofs.Yaml.Break

/-!
# Text in double quotes

Whatever is written in double quotes is read as it is: characters that do not stand for themselves have a backslash
before them, with a letter or a number, and a line that is folded ends in a backslash, so that nothing is read there.

* `Reader.double_escapeChar`: an escaped character.
* `Reader.double_writeDouble`: text.
-/

namespace Letterpress.Yaml

open Text Scalar

variable {c : Char} {cs rest : List Char} {g : Gap}

/-! ## Numbers -/

/-- The number that hexadecimal digits make behind others. -/
def Reader.total (value : Nat) (ds : List Char) : Nat := ds.foldl (fun v d => v * 16 + (hexValue? d).getD 0) value

namespace Scalar

/-- A number as hexadecimal digits, of which there are as many as are asked for. -/
theorem hexText_spec {digits n : Nat} (some_ : 0 < digits) (fits : n < 16 ^ digits) :
    (hexText digits n).length = digits ∧ (∀ d ∈ hexText digits n, (hexValue? d).isSome = true) ∧
      Reader.total 0 (hexText digits n) = n :=
  Literal.hex_spec (f := Char.toUpper) (by decide) some_ fits

end Scalar

namespace Reader

/-- A character by its number. By induction on the digits. -/
theorem double_number {d : Char} {ds : List Char} {value : Nat}
    (hex : ∀ x ∈ d :: ds, (hexValue? x).isSome = true) (counts : total value (d :: ds) = c.toNat) :
    double (.number (ds.length + 1) value) (d :: ds ++ rest) = prepend [c] (double (.gap .none) rest) := by
  induction ds generalizing d value with
  | nil =>
    obtain ⟨x, read⟩ := Option.isSome_iff_exists.mp (hex d (by simp))
    have value_ : value * 16 + x = c.toNat := by simpa [total, read] using counts
    conv => lhs; unfold double
    simp only [List.cons_append, List.nil_append, read, value_, List.length_nil, Nat.zero_add, Nat.lt_irrefl, if_false]
    rw [if_pos (by exact c.valid), Char.ofNat_toNat]
  | cons e ds ih =>
    obtain ⟨x, read⟩ := Option.isSome_iff_exists.mp (hex d (by simp))
    have later : total (value * 16 + x) (e :: ds) = c.toNat := by simpa [total, read] using counts
    conv => lhs; unfold double
    simp only [List.cons_append, read, List.length_cons]
    rw [if_pos (by omega)]
    exact ih (fun y mem => hex y (List.mem_cons_of_mem d mem)) later

/-! ## Escaped characters -/

theorem double_backslash : double (.gap g) ('\\' :: rest) = prepend g.text (double .escape rest) := by
  conv => lhs; unfold double
  rfl

theorem double_letter {letter : Char} (means : letters.lookup letter = some c) (noBreak : isBreak letter = false) :
    double .escape (letter :: rest) = prepend [c] (double (.gap .none) rest) := by
  conv => lhs; unfold double
  simp only [means, noBreak, Bool.false_eq_true, if_false]

/-- A letter before the digits of a number. -/
theorem double_hexText {letter : Char} {digits : Nat} (some_ : 0 < digits) (fits : c.toNat < 16 ^ digits)
    (noBreak : isBreak letter = false) (noLetter : letters.lookup letter = none)
    (length : numberLengths.lookup letter = some digits) :
    double .escape (letter :: hexText digits c.toNat ++ rest) = prepend [c] (double (.gap .none) rest) := by
  obtain ⟨long, hex, counts⟩ := hexText_spec some_ fits
  conv => lhs; unfold double
  simp only [List.cons_append, noBreak, noLetter, length, Bool.false_eq_true, if_false]
  generalize hexText digits c.toNat = ds at *
  cases ds with
  | nil => simp at long; omega
  | cons d ds =>
    rw [← long]
    exact double_number hex counts

theorem lookup_escapeLetters {letter : Char} (found : escapeLetters.lookup c = some letter) :
    letters.lookup letter = some c ∧ isBreak letter = false := by
  have all : ∀ p ∈ escapeLetters, letters.lookup p.2 = some p.1 ∧ isBreak p.2 = false := by decide
  obtain ⟨before, behind, same, -⟩ := List.lookup_eq_some_iff.mp found
  exact all (c, letter) (by rw [same]; simp)

end Reader

/-- A backslash is followed by a letter, or by a letter and so many digits as belong to it. -/
theorem Scalar.escapeChar_cases (c : Char) :
    (∃ letter, escapeLetters.lookup c = some letter ∧ escapeChar c = ['\\', letter]) ∨
      ∃ p ∈ Reader.numberLengths, c.toNat < 16 ^ p.2 ∧ escapeChar c = '\\' :: p.1 :: hexText p.2 c.toNat := by
  have size : c.toNat < 16 ^ 8 := by
    have bound : c.toNat < 0xd800 ∨ 0xdfff < c.toNat ∧ c.toNat < 0x110000 := c.valid
    omega
  rw [escapeChar]
  split
  · rename_i letter found
    exact .inl ⟨letter, found, rfl⟩
  · simp only
    split
    · rename_i small
      exact .inr ⟨('x', 2), by decide, Nat.lt_of_le_of_lt small (by decide), rfl⟩
    · split
      · rename_i small
        exact .inr ⟨('u', 4), by decide, Nat.lt_of_le_of_lt small (by decide), rfl⟩
      · exact .inr ⟨('U', 8), by decide, size, rfl⟩

namespace Reader

theorem double_escapeChar :
    double (.gap g) (escapeChar c ++ rest) = prepend (g.text ++ [c]) (double (.gap .none) rest) := by
  have behind {text : List Char} (reads : double .escape text = prepend [c] (double (.gap .none) rest)) :
      double (.gap g) ('\\' :: text) = prepend (g.text ++ [c]) (double (.gap .none) rest) := by
    rw [double_backslash, reads, prepend, prepend, prepend, Option.map_map]
    congr 1
    funext r
    simp
  rcases escapeChar_cases c with ⟨letter, found, text⟩ | ⟨⟨letter, digits⟩, known, fits, text⟩
  · obtain ⟨means, noBreak⟩ := lookup_escapeLetters found
    rw [text]
    exact behind (double_letter means noBreak)
  · have all : ∀ p ∈ numberLengths, 0 < p.2 ∧ isBreak p.1 = false ∧ letters.lookup p.1 = none ∧
        numberLengths.lookup p.1 = some p.2 := by decide
    obtain ⟨some_, noBreak, noLetter, length⟩ := all _ known
    rw [text]
    exact behind (double_hexText some_ fits noBreak noLetter length)

/-! ## Characters that stand for themselves -/

theorem double_own {p : Place} (own : isOwn c = true) (placed : p = .escape ∧ c = ' ' ∨ p = .gap g ∧ c ≠ ' ') :
    double p (c :: rest) = prepend ((if c = ' ' then [] else g.text) ++ [c]) (double (.gap .none) rest) := by
  rcases placed with ⟨rfl, rfl⟩ | ⟨rfl, noBlank⟩
  · exact double_letter (by decide) (by decide)
  · have tab : c ≠ '\t' := ne_of_class own (by decide)
    have quotes : c ≠ '"' := ne_of_class own (by decide)
    have backslash : c ≠ '\\' := ne_of_class own (by decide)
    have noTab : isBlankOrTab c = false := by simp [isBlankOrTab, noBlank, tab]
    have noBreak : isBreak c = false := by
      rw [Bool.eq_false_iff, ne_eq, isBreak_iff]
      rintro (rfl | rfl | rfl | rfl) <;> cases own
    conv => lhs; unfold double
    simp [noTab, noBreak, quotes, backslash, noBlank]

theorem double_blank : double (.gap g) (' ' :: rest) = double (.gap (g.blank ' ')) rest := by
  conv => lhs; unfold double
  rfl

/-! ## Lines that are folded -/

/-- Where the reader is behind a line that was folded before a text. -/
def behindFold (cs : List Char) : Place := if cs.head? = some ' ' then .escape else .gap (.joined [])

theorem double_indent (n : Nat) :
    double (.gap (.joined [])) (List.replicate n ' ' ++ rest) = double (.gap (.joined [])) rest := by
  induction n with
  | zero => rfl
  | succ n ih =>
    rw [List.replicate_succ, List.cons_append, double_blank]
    exact ih

variable {l : Layout} {column : Nat}

theorem double_fold (indented : 0 < l.indent) :
    double (.gap g) (fold l cs ++ rest) = prepend g.text (double (behindFold cs) rest) := by
  have newLine_ (text : List Char) : double .escape (newLine l ++ text) = double (.gap (.joined [])) text := by
    rw [newLine, List.cons_append]
    conv => lhs; unfold double
    simp only [show isBreak '\n' = true by decide, isSeparator_indented indented, if_true, Bool.false_eq_true,
      if_false]
    exact double_indent l.indent
  rw [fold, behindFold, List.append_assoc, List.cons_append, double_backslash, newLine_]
  by_cases blank : cs.head? = some ' '
  · rw [if_pos (by simpa using blank), if_pos blank, List.singleton_append, double_backslash]
    simp [prepend, Gap.text]
  · rw [if_neg (by simpa using blank), if_neg blank, List.nil_append]

/-! ## Reading what is written -/

/-- What was read where the text in double quotes has come to and is not given out yet. -/
def Place.text : Place → List Char
  | .gap g => g.text
  | _ => []

/-- Where the reader can be before a text from a column on: behind a backslash there is a blank, and behind a line that
was folded there is none. -/
inductive Placed (column : Nat) : Place → List Char → Prop
  | none (cs : List Char) : Placed column (.gap .none) cs
  | blanks (bs cs : List Char) : Placed column (.gap (.blanks bs)) cs
  | joined (cs : List Char) (noBlank : cs.head? ≠ some ' ') : Placed column (.gap (.joined [])) cs
  | escape (cs : List Char) (early : column ≤ width) : Placed column .escape (' ' :: cs)

theorem Placed.behindFold (narrow : l.indent < width) (cs : List Char) :
    Placed (foldColumn l cs) (behindFold cs) cs := by
  unfold Reader.behindFold
  split
  · rename_i blank
    cases cs with
    | nil => cases blank
    | cons c cs =>
      cases blank
      exact .escape cs narrow
  · rename_i noBlank
    exact .joined cs noBlank

theorem behindFold_text : (behindFold cs).text = [] := by
  unfold behindFold
  split <;> rfl

theorem Placed.gap {p : Place} (placed : Placed column p (c :: cs)) (notEscape : c = ' ' → width < column) :
    ∃ g, p = .gap g := by
  cases placed with
  | none => exact ⟨_, rfl⟩
  | blanks => exact ⟨_, rfl⟩
  | joined => exact ⟨_, rfl⟩
  | escape _ early => exact absurd early (Nat.not_le.mpr (notEscape rfl))

/-- A character that is written as it is. -/
theorem Placed.double_own {p : Place} (placed : Placed column p (c :: cs)) (own : isOwn c = true) :
    ∃ q : Place, (∀ column, Placed column q cs) ∧
      ∃ before, before ++ q.text = p.text ++ [c] ∧ ∀ rest, double p (c :: rest) = prepend before (double q rest) := by
  by_cases blank : c = ' '
  · subst blank
    cases placed with
    | none =>
      refine ⟨.gap (.blanks [' ']), fun _ => .blanks [' '] cs, [], rfl, fun rest => ?_⟩
      simp [double_blank, prepend, Gap.blank]
    | blanks bs =>
      refine ⟨.gap (.blanks (bs ++ [' '])), fun _ => .blanks _ cs, [], rfl, fun rest => ?_⟩
      simp [double_blank, prepend, Gap.blank]
    | joined _ noBlank => exact absurd rfl noBlank
    | escape =>
      refine ⟨.gap .none, fun _ => .none cs, [' '], rfl, fun rest => ?_⟩
      exact Reader.double_own (g := .none) own (.inl ⟨rfl, rfl⟩)
  · obtain ⟨g, rfl⟩ := placed.gap fun same => absurd same blank
    refine ⟨.gap .none, fun _ => .none cs, g.text ++ [c], List.append_nil _, fun rest => ?_⟩
    rw [Reader.double_own own (.inr ⟨rfl, blank⟩), if_neg blank]

/-- What is read of text as it is written. By induction on the text. -/
theorem double_writeDouble (indented : 0 < l.indent) (narrow : l.indent < width) {p : Place}
    (placed : Placed column p cs) {isFirst afterEscape : Bool} :
    double p (writeDouble l column isFirst afterEscape cs ++ '"' :: rest) = some (p.text ++ cs, rest) := by
  induction cs generalizing column isFirst afterEscape p with
  | nil => cases placed <;> simp [writeDouble, double, isBlankOrTab, isBreak, Place.text]
  | cons c cs ih =>
    have behind {column : Nat} {afterEscape : Bool} :
        double (.gap .none) (writeDouble l column false afterEscape cs ++ '"' :: rest) = some (cs, rest) :=
      ih (.none cs)
    cases own : isOwn c with
    | true =>
      rw [writeDouble, if_pos own]
      split
      -- behind a line that was folded before a blank, the column is too small for another fold
      · rename_i folds
        simp only [Bool.and_eq_true, decide_eq_true_eq] at folds
        obtain ⟨g, rfl⟩ := placed.gap fun _ => folds.2
        obtain ⟨q, later, before, text, reads⟩ := (Placed.behindFold narrow (c :: cs)).double_own own
        rw [behindFold_text, List.nil_append] at text
        rw [List.append_assoc, List.cons_append, double_fold indented, reads, ih (later _)]
        change some (g.text ++ (before ++ (q.text ++ cs)), rest) = some (g.text ++ c :: cs, rest)
        rw [← List.append_assoc before, text, List.singleton_append]
      · obtain ⟨q, later, before, text, reads⟩ := placed.double_own own
        rw [List.cons_append, reads, ih (later _)]
        change some (before ++ (q.text ++ cs), rest) = some (p.text ++ c :: cs, rest)
        rw [← List.append_assoc, text, List.append_assoc, List.singleton_append]
    | false =>
      obtain ⟨g, rfl⟩ := placed.gap fun same => by
        rw [same] at own
        cases own
      rw [writeDouble, if_neg (by simp [own])]
      simp only
      split
      · rw [List.append_assoc, List.append_assoc, double_escapeChar, double_fold indented,
          ih (Placed.behindFold narrow cs), behindFold_text]
        simp [prepend, Place.text, Gap.text]
      · rw [List.append_assoc, double_escapeChar, behind, prepend]
        simp [Place.text]

end Reader

end Letterpress.Yaml
