import Letterpress.Proofs.Yaml.Break

/-!
# Plain text

Text that is written plainly is read as it is, up to the line of the next key: it has no mark that would end it, and
where a line of it is folded the next one is indented.

* `Reader.plain_writePlain`: text.
* `Reader.startsPlain_writePlain`: nothing else is read where it stands.
-/

namespace Letterpress.Yaml

open Text Scalar

variable {b c : Char} {cs rest : List Char} {g : Gap} {before : Option Char} {l : Layout} {column : Nat}

namespace Scalar

/-- What the text behind a character begins with is what begins the written text, but for a line that is folded. -/
theorem head_writePlain (noGap : (cs.head?.map isGap).getD true = false) (afterSpace : Bool) :
    ((writePlain l column afterSpace cs ++ rest).head?.map isGap).getD true = false := by
  cases cs with
  | nil => cases noGap
  | cons d ds =>
    have other : d ≠ ' ' := by
      rintro rfl
      cases noGap
    rw [writePlain]
    · exact noGap
    · exact other

end Scalar

namespace Reader

/-! ## Steps of the reader -/

theorem plain_blank {isFresh : Bool} : plain g isFresh (' ' :: cs) = plain (g.blank ' ') false cs := by
  conv => lhs; unfold plain
  rfl

theorem plain_indent {first : Char} {more : List Char} {n : Nat} (indented : 0 < n) {isFresh : Bool} :
    plain (.lines first more) isFresh (List.replicate n ' ' ++ rest) = plain (.lines first more) false rest := by
  induction n generalizing isFresh with
  | zero => cases indented
  | succ n ih =>
    rw [List.replicate_succ, List.cons_append, plain_blank]
    cases n with
    | zero => rfl
    | succ n => exact ih (Nat.succ_pos n)

theorem plain_break (break_ : isBreak c = true) (going : isSeparator cs = false) {isFresh : Bool} :
    plain g isFresh (c :: cs) = plain (g.newLine c) true cs := by
  have noBlank : (c == ' ') = false := by
    rw [beq_eq_false_iff_ne]
    rintro rfl
    cases break_
  conv => lhs; unfold plain
  simp only [noBlank, break_, going, Bool.false_eq_true, if_false, if_true]

theorem plain_ink (noGap : isGap c = false) (noComment : c = '#' → g = .none)
    (noKey : c = ':' → (cs.head?.map isGap).getD true = false) :
    plain g false (c :: cs) = prepend (g.text ++ [c]) (plain .none false cs) := by
  have noBlank : (c == ' ') = false := by
    rw [beq_eq_false_iff_ne]
    rintro rfl
    cases noGap
  have noBreak : isBreak c = false := by
    cases break_ : isBreak c with
    | true => exact absurd (isGap_of_isBreak break_) (by simp [noGap])
    | false => rfl
  have goes : (isGap c || (c == '#' && g != .none) || (c == ':' && (cs.head?.map isGap).getD true)) = false := by
    rw [noGap, Bool.false_or, Bool.or_eq_false_iff, Bool.and_eq_false_imp, Bool.and_eq_false_imp]
    exact ⟨fun comment => by simpa using noComment (beq_iff_eq.mp comment), fun key => noKey (beq_iff_eq.mp key)⟩
  conv => lhs; unfold plain
  simp only [noBlank, noBreak, goes, Bool.false_eq_true, if_false]

/-! ## Reading what is written -/

/-- What the gap of the reader is, by the character before; none is a break. -/
inductive Behind : Option Char → Gap → Prop
  | start : Behind none .none
  | ink (b : Char) (noBlank : b ≠ ' ') : Behind (some b) .none
  | blank (bs : List Char) : Behind (some ' ') (.blanks bs)
  /-- a blank at which the line was folded -/
  | fold : Behind (some ' ') (.lines '\n' [])

/-- Text that goes on from a character and can be written plainly there. -/
structure IsPlainBehind (before : Option Char) (cs : List Char) : Prop where
  noIndicator : hasIndicator before cs = false
  noBreak : cs.any isBreak = false
  noSpecial : cs.any isSpecial = false
  noBlankFirst : before = none → cs.head? ≠ some ' '
  noBlankLast : (before.toList ++ cs).getLast? ≠ some ' '

theorem hasIndicator_none : hasIndicator none (c :: cs) =
    ((indicators.contains c || (['?', ':', '-'].contains c && (cs.head?.map isGap).getD true)) ||
      hasIndicator (some c) cs) := by
  simp [hasIndicator, indicators]

theorem hasIndicator_some : hasIndicator (some b) (c :: cs) =
    (((c == ':' && (cs.head?.map isGap).getD true) || (c == '#' && isGap b)) || hasIndicator (some c) cs) := rfl

namespace IsPlainBehind

theorem tail (plain : IsPlainBehind before (c :: cs)) : IsPlainBehind (some c) cs where
  noIndicator := by
    have whole := plain.noIndicator
    cases before with
    | none => exact (Bool.or_eq_false_iff.mp (hasIndicator_none ▸ whole)).2
    | some b => exact (Bool.or_eq_false_iff.mp (hasIndicator_some ▸ whole)).2
  noBreak := by simpa using And.right (by simpa using plain.noBreak)
  noSpecial := by simpa using And.right (by simpa using plain.noSpecial)
  noBlankFirst := by rintro ⟨⟩
  noBlankLast := by
    have last := plain.noBlankLast
    cases before with
    | none => exact last
    | some b => rwa [Option.toList_some, List.singleton_append, List.getLast?_cons_cons] at last

theorem noGap (plain : IsPlainBehind before (c :: cs)) (blank : c ≠ ' ') : isGap c = false := by
  cases gap : isGap c with
  | false => rfl
  | true =>
    have special : isSpecial c = false := And.left (by simpa using plain.noSpecial)
    have noBreak : isBreak c = false := And.left (by simpa using plain.noBreak)
    exact absurd (isBreak_of_isGap gap blank special) (by simp [noBreak])

theorem noComment (plain : IsPlainBehind before ('#' :: cs)) : before ≠ some ' ' := by
  rintro rfl
  cases plain.noIndicator

theorem noKey (plain : IsPlainBehind before (':' :: cs)) : (cs.head?.map isGap).getD true = false := by
  have whole := plain.noIndicator
  cases gap : (cs.head?.map isGap).getD true with
  | false => rfl
  | true =>
    cases before with
    | none => simp [hasIndicator_none, gap] at whole
    | some b => simp [hasIndicator_some, gap] at whole

end IsPlainBehind

/-- What follows the line of a scalar is nothing, or begins with a key. -/
def StartsLine (rest : List Char) : Prop := ∀ c ∈ rest.head?, isKeyChar c = true

theorem StartsLine.going (ends : StartsLine rest) : isSeparator rest = false := by
  cases rest with
  | nil => rfl
  | cons c rest =>
    have key : isKeyChar c = true := ends c rfl
    exact isSeparator_of_ne (ne_of_class key (by decide)) (ne_of_class key (by decide)) rest

theorem plain_end (ends : StartsLine rest) : plain .none false ('\n' :: rest) = some ([], rest) := by
  rw [plain_break (by decide) ends.going]
  cases rest with
  | nil => rfl
  | cons c rest =>
    have key : isKeyChar c = true := ends c rfl
    have noBlank : (c == ' ') = false := beq_eq_false_iff_ne.mpr (ne_of_class key (by decide))
    have noBreak : isBreak c = false := by
      rw [Bool.eq_false_iff, ne_eq, isBreak_iff]
      rintro (rfl | rfl | rfl | rfl) <;> cases key
    conv => lhs; unfold plain
    simp only [noBlank, noBreak, Bool.false_eq_true, if_false, if_true]

theorem plain_fold (indented : 0 < l.indent) {isFresh : Bool} :
    plain .none isFresh (newLine l ++ rest) = plain (.lines '\n' []) false rest := by
  rw [newLine, List.cons_append, plain_break (by decide) (isSeparator_indented indented rest)]
  exact plain_indent indented

/-- By induction on the text; the gap of the reader is known from the character before. -/
theorem plain_writePlain (indented : 0 < l.indent) (behind : Behind before g) (whole : IsPlainBehind before cs)
    (ends : StartsLine rest) (folded : g = .lines '\n' [] → cs.head? ≠ some ' ') :
    plain g false (writePlain l column (before == some ' ') cs ++ '\n' :: rest) = some (g.text ++ cs, rest) := by
  induction cs generalizing column before g with
  | nil =>
    have last := whole.noBlankLast
    cases behind with
    | start => exact plain_end ends
    | ink => exact plain_end ends
    | blank => exact absurd rfl last
    | fold => exact absurd rfl last
  | cons c cs ih =>
    by_cases blank : c = ' '
    · subst blank
      rw [writePlain]
      split
      · rename_i folds
        simp only [Bool.and_eq_true, Bool.not_eq_true', bne_iff_ne, beq_eq_false_iff_ne] at folds
        obtain ⟨⟨⟨noBlank, single⟩, -⟩, -⟩ := folds
        -- only single blanks are folded, so that no gap is open
        have nothing : g = .none := by
          cases behind with
          | start => rfl
          | ink => rfl
          | blank => exact absurd rfl noBlank
          | fold => exact absurd rfl noBlank
        subst nothing
        rw [List.append_assoc, plain_fold indented]
        exact ih .fold whole.tail fun _ => single
      · rw [List.cons_append, plain_blank]
        cases behind with
        | start => exact absurd rfl (whole.noBlankFirst rfl)
        | ink => exact ih (.blank [' ']) whole.tail (by rintro ⟨⟩)
        | blank bs =>
          refine (ih (.blank (bs ++ [' '])) whole.tail (by rintro ⟨⟩)).trans ?_
          simp [Gap.text]
        | fold => exact absurd rfl (folded rfl)
    · have comment : c = '#' → g = .none := by
        rintro rfl
        cases behind with
        | start => rfl
        | ink => rfl
        | blank => exact absurd rfl whole.noComment
        | fold => exact absurd rfl whole.noComment
      have key : c = ':' →
          ((writePlain l (column + 1) false cs ++ '\n' :: rest).head?.map isGap).getD true = false := by
        rintro rfl
        exact head_writePlain whole.noKey false
      have later : plain .none false (writePlain l (column + 1) (some c == some ' ') cs ++ '\n' :: rest) =
          some (cs, rest) := ih (.ink c blank) whole.tail (by rintro ⟨⟩)
      rw [show (some c == some ' ') = false by simpa using blank] at later
      rw [writePlain]
      · rw [List.cons_append, plain_ink (whole.noGap blank) comment key, later]
        simp [prepend]
      · exact blank

/-! ## Where plain text starts -/

theorem isPlainBehind (form : isPlainForm cs = true) : IsPlainBehind none cs := by
  simp only [isPlainForm, Bool.not_eq_true', Bool.or_eq_false_iff, beq_eq_false_iff_ne] at form
  obtain ⟨⟨⟨⟨⟨-, noIndicator⟩, noBreak⟩, noSpecial⟩, noBlankFirst⟩, noBlankLast⟩ := form
  exact ⟨noIndicator, noBreak, noSpecial, fun _ => noBlankFirst, noBlankLast⟩

theorem startsPlain_writePlain (whole : IsPlainBehind none (c :: cs)) :
    startsPlain (writePlain l column false (c :: cs) ++ rest) = true := by
  have blank : c ≠ ' ' := fun same => whole.noBlankFirst rfl (by rw [same]; rfl)
  have first := whole.noIndicator
  simp only [hasIndicator_none, Bool.or_eq_false_iff, Bool.and_eq_false_imp] at first
  obtain ⟨⟨noIndicator, joins⟩, -⟩ := first
  have behind : (['?', ':', '-'].contains c &&
      ((writePlain l (column + 1) false cs ++ rest).head?.map isGap).getD true) = false :=
    Bool.and_eq_false_imp.mpr fun mark => head_writePlain (joins mark) false
  rw [writePlain]
  · rw [List.cons_append, startsPlain]
    simp only [whole.noGap blank, noIndicator, behind, Bool.or_self, Bool.not_false]
  · exact blank

end Reader

end Letterpress.Yaml
