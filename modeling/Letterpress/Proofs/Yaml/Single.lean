import Letterpress.Proofs.Yaml.Break

/-!
# Text in single quotes

What a reader of YAML hears of text that was written in single quotes. Each line feed is written twice where lines begin
to break, and read as one; but a next line, the control character that breaks lines too, is written as it is and read as
a line feed.

* `Scalar.heard`: what is heard of text.
* `Reader.single_writeSingle`: it is what is read of the text as it is written.
* `Scalar.heard_eq_iff`: the text itself is heard unless a next line is in it.
-/

namespace Letterpress.Yaml

open Text Scalar

variable {c : Char} {cs rest : List Char}

namespace Scalar

/-! ## What is heard -/

/-- A break as it is written: a line feed has one more before it, unless it follows another break. -/
def writtenBreak (g : Gap) (c : Char) : Gap :=
  match g with
  | .lines _ _ => g.newLine c
  | g => if c == '\n' then (g.newLine '\n').newLine '\n' else g.newLine c

/-- What is heard of text in single quotes behind a gap. -/
def heard (g : Gap) : List Char → List Char
  | [] => g.text
  | c :: cs =>
    if c == ' ' then heard (g.blank c) cs
    else if isBreak c then heard (writtenBreak g c) cs
    else g.text ++ c :: heard .none cs

/-- What the gap of the reader is, by the character before. -/
inductive Tracks : Option Char → Gap → Prop
  | start : Tracks none .none
  | ink (c : Char) (noBlank : c ≠ ' ') (noBreak : isBreak c = false) : Tracks (some c) .none
  | blank (cs : List Char) : Tracks (some ' ') (.blanks cs)
  /-- a blank at which the line was folded -/
  | fold : Tracks (some ' ') (.lines '\n' [])
  | line (c first : Char) (more : List Char) (break_ : isBreak c = true) : Tracks (some c) (.lines first more)

/-- No blank stands next to a break. -/
structure Apart (cs : List Char) : Prop where
  behindSpace : hasPair isSpace isBreak cs = false
  behindBreak : hasPair isBreak isSpace cs = false

theorem Apart.tail (apart : Apart (c :: cs)) : Apart cs := by
  obtain ⟨first, second⟩ := apart
  rw [hasPair_cons, Bool.or_eq_false_iff] at first second
  exact ⟨first.2, second.2⟩

theorem Apart.of_append {ds : List Char} (apart : Apart (ds ++ cs)) : Apart cs := by
  induction ds with
  | nil => exact apart
  | cons d ds ih => exact ih apart.tail

theorem Apart.not_break (apart : Apart (' ' :: c :: cs)) : isBreak c = false := by
  simpa [hasPair, isSpace] using (Bool.or_eq_false_iff.mp apart.behindSpace).1

theorem Apart.ne_space {d : Char} (apart : Apart (c :: d :: cs)) (break_ : isBreak c = true) : d ≠ ' ' := by
  simpa [hasPair, isSpace, break_] using (Bool.or_eq_false_iff.mp apart.behindBreak).1

variable {l : Layout} {g : Gap} {before : Option Char} {column : Nat}

/-! ## Steps of the writer -/

/-- The line feed before a break. -/
def leading (before : Option Char) (c : Char) : List Char :=
  if (before.map isBreak).getD false || c != '\n' then [] else ['\n']

/-- The indentation behind a break. -/
def indentation (l : Layout) (cs : List Char) : List Char :=
  if (cs.head?.map isBreak).getD false then [] else List.replicate l.indent ' '

theorem writeSingle_break (break_ : isBreak c = true) :
    writeSingle l column before (c :: cs) =
      leading before c ++ c :: indentation l cs ++ writeSingle l l.indent (some c) cs := by
  rw [writeSingle, if_pos break_]
  · rfl
  · rintro rfl
    cases break_
  · rintro rfl
    cases break_

theorem writeSingle_ink (noBreak : isBreak c = false) (noBlank : c ≠ ' ') (noQuote : c ≠ '\'') :
    writeSingle l column before (c :: cs) = c :: writeSingle l (column + 1) (some c) cs := by
  rw [writeSingle, if_neg (by simp [noBreak])]
  · exact noBlank
  · exact noQuote

end Scalar

namespace Reader

/-! ## Steps of the reader -/

variable {g : Gap} {first : Char} {more : List Char}

theorem single_cons : single g (c :: cs) =
    if isBlankOrTab c then single (g.blank c) cs
    else if isBreak c then if isSeparator cs then none else single (g.newLine c) cs
    else if c == '\'' then
      match cs with
      | '\'' :: rest => prepend (g.text ++ ['\'']) (single .none rest)
      | rest => some (g.text, rest)
    else prepend (g.text ++ [c]) (single .none cs) := single.eq_def g (c :: cs)

theorem single_blank : single g (' ' :: cs) = single (g.blank ' ') cs := by
  rw [single_cons, if_pos (by decide)]

theorem single_indent (n : Nat) :
    single (.lines first more) (List.replicate n ' ' ++ rest) = single (.lines first more) rest := by
  induction n with
  | zero => rfl
  | succ n ih =>
    rw [List.replicate_succ, List.cons_append, single_blank]
    exact ih

theorem single_break (break_ : isBreak c = true) (going : isSeparator cs = false) :
    single g (c :: cs) = single (g.newLine c) cs := by
  simp only [single_cons, isBlankOrTab_of_isBreak break_, break_, going, Bool.false_eq_true, if_false, if_true]

theorem single_close (fine : rest.head? ≠ some '\'') : single g ('\'' :: rest) = some (g.text, rest) := by
  cases rest with
  | nil => rfl
  | cons c rest =>
    have other : c ≠ '\'' := by simpa using fine
    rw [single_cons, if_neg (by decide), if_neg (by decide), if_pos (by decide)]
    split
    · rename_i same
      cases same
      exact absurd rfl other
    · rfl

theorem single_quote : single g ('\'' :: '\'' :: rest) = prepend (g.text ++ ['\'']) (single .none rest) := by
  rw [single_cons, if_neg (by decide), if_neg (by decide), if_pos (by decide)]
  rfl

theorem single_ink (noTab : isBlankOrTab c = false) (noBreak : isBreak c = false) (noQuote : c ≠ '\'') :
    single g (c :: cs) = prepend (g.text ++ [c]) (single .none cs) := by
  have other : (c == '\'') = false := beq_eq_false_iff_ne.mpr noQuote
  simp only [single_cons, noTab, noBreak, other, Bool.false_eq_true, if_false]

end Reader

namespace Scalar

variable {l : Layout} {g : Gap} {before : Option Char} {column : Nat} {first : Char} {more : List Char}

/-! ## Reading what is written -/

theorem heard_cons : heard g (c :: cs) =
    if c == ' ' then heard (g.blank c) cs
    else if isBreak c then heard (writtenBreak g c) cs
    else g.text ++ c :: heard .none cs := rfl

theorem heard_ink (noBreak : isBreak c = false) (noBlank : c ≠ ' ') :
    heard g (c :: cs) = g.text ++ c :: heard .none cs := by
  rw [heard_cons, if_neg (by simpa using noBlank), if_neg (by simp [noBreak])]

theorem heard_break (break_ : isBreak c = true) : heard g (c :: cs) = heard (writtenBreak g c) cs := by
  rw [heard_cons, if_neg (by rintro same; rw [beq_iff_eq.mp same] at break_; cases break_), if_pos break_]

/-- What follows a break in the text begins with another one, or is indented. -/
theorem head_writeSingle (break_ : isBreak c = true) :
    ∃ d ds, writeSingle l column before (c :: cs) = d :: ds ∧ isBreak d = true := by
  rw [writeSingle_break break_, leading]
  split
  · exact ⟨c, _, rfl, break_⟩
  · exact ⟨'\n', _, rfl, by decide⟩

/-- No document ends behind a break. -/
theorem isSeparator_indentation (indented : 0 < l.indent) (text : List Char)
    (begins : (cs.head?.map isBreak).getD false = true → ∃ d ds, text = d :: ds ∧ isBreak d = true) :
    Reader.isSeparator (indentation l cs ++ text) = false := by
  unfold indentation
  split
  · rename_i further
    obtain ⟨d, ds, rfl, break_⟩ := begins further
    exact Reader.isSeparator_break break_ ds
  · exact Reader.isSeparator_indented indented text

/-- The indentation behind a break changes nothing. -/
theorem single_indentation (text : List Char) :
    Reader.single (.lines first more) (indentation l cs ++ text) = Reader.single (.lines first more) text := by
  unfold indentation
  split
  · rfl
  · exact Reader.single_indent l.indent

/-- A line that is folded at a blank is heard as the blank. -/
theorem heard_fold (noBreak : isBreak c = false) (noBlank : c ≠ ' ') :
    heard (.lines '\n' []) (c :: cs) = heard (.blanks [' ']) (c :: cs) := by
  rw [heard_ink noBreak noBlank, heard_ink noBreak noBlank]
  rfl

/-- The gap behind a blank that is not folded. -/
theorem Tracks.blanks (tracks : Tracks before g) (apart : Apart (before.toList ++ ' ' :: cs)) :
    Tracks (some ' ') (g.blank ' ') := by
  cases tracks with
  | start => exact .blank [' ']
  | ink c noBlank noBreak => exact .blank [' ']
  | blank cs => exact .blank (cs ++ [' '])
  | fold => exact .fold
  | line c first more break_ => exact absurd rfl (apart.ne_space break_)

/-- A line that is folded at a blank: the reader is behind a break, and hears the blank. -/
theorem single_fold (indented : 0 < l.indent) (tracks : Tracks before g) (apart : Apart (before.toList ++ ' ' :: cs))
    (folds : (before != some ' ' && cs.head? != some ' ') = true) (inside : (before.isSome && !cs.isEmpty) = true)
    (text : List Char) :
    Reader.single g (newLine l ++ text) = Reader.single (.lines '\n' []) text ∧
      heard (.lines '\n' []) cs = heard (g.blank ' ') cs := by
  obtain ⟨noBlankBefore, noBlankBehind⟩ := Bool.and_eq_true_iff.mp folds
  obtain ⟨c, ds, rfl⟩ : ∃ c ds, cs = c :: ds := by
    cases cs with
    | nil => simp at inside
    | cons c ds => exact ⟨c, ds, rfl⟩
  have noBreak : isBreak c = false := (Apart.of_append apart).not_break
  have noBlank : c ≠ ' ' := by simpa using noBlankBehind
  have nothing : g = .none := by
    cases tracks with
    | start => rfl
    | ink => rfl
    | blank => simp at noBlankBefore
    | fold => simp at noBlankBefore
    | line c first more break_ => exact absurd rfl (apart.ne_space break_)
  subst nothing
  refine ⟨?_, heard_fold noBreak noBlank⟩
  exact (Reader.single_break (by decide) (Reader.isSeparator_indented indented text)).trans
    (Reader.single_indent l.indent)

/-- A break behind a gap as it is written, with the line feed before it. -/
theorem single_writtenBreak (break_ : isBreak c = true) (tracks : Tracks before g)
    (apart : Apart (before.toList ++ c :: cs)) {text : List Char} (going : Reader.isSeparator text = false) :
    ∃ first more, writtenBreak g c = .lines first more ∧
      Reader.single g (leading before c ++ c :: text) = Reader.single (.lines first more) text := by
  -- behind no break: a line feed is doubled
  have begins (noBreak : (before.map isBreak).getD false = false) :
      ∃ first more, writtenBreak .none c = .lines first more ∧
        Reader.single .none (leading before c ++ c :: text) = Reader.single (.lines first more) text := by
    rw [leading, noBreak, Bool.false_or]
    by_cases feed : c = '\n'
    · subst feed
      refine ⟨'\n', ['\n'], rfl, ?_⟩
      exact (Reader.single_break (by decide) (Reader.isSeparator_break (by decide) _)).trans
        (Reader.single_break (by decide) going)
    · refine ⟨Gap.normalBreak c, [], by simp [writtenBreak, feed, Gap.newLine], ?_⟩
      rw [if_pos (by simpa using feed)]
      exact Reader.single_break break_ going
  cases tracks with
  | start => exact begins rfl
  | ink d noBlank noBreak => exact begins noBreak
  | blank ds => exact absurd break_ (by simp [apart.not_break])
  | fold => exact absurd break_ (by simp [apart.not_break])
  | line d first more before_ =>
    refine ⟨first, more ++ [Gap.normalBreak c], rfl, ?_⟩
    rw [leading, if_pos (by simp [before_])]
    exact Reader.single_break break_ going

/-- What is heard of text as it is written. By induction on the text; the gap of the reader is known from the character
before. -/
theorem single_writeSingle (indented : 0 < l.indent) (tracks : Tracks before g) (apart : Apart (before.toList ++ cs))
    (plain : cs.any isSpecial = false) (fine : rest.head? ≠ some '\'') :
    Reader.single g (writeSingle l column before cs ++ '\'' :: rest) = some (heard g cs, rest) := by
  induction cs generalizing column before g with
  | nil => exact Reader.single_close fine
  | cons c cs ih =>
    have later : Apart (c :: cs) := apart.of_append
    obtain ⟨notSpecial, plainLater⟩ : isSpecial c = false ∧ cs.any isSpecial = false := by
      simpa only [List.any_cons, Bool.or_eq_false_iff] using plain
    by_cases blank : c = ' '
    · subst blank
      rw [heard_cons, if_pos (by decide), writeSingle]
      split
      -- a line is folded only where the reader is not in a gap already
      · rename_i folds
        simp only [Bool.and_eq_true] at folds
        obtain ⟨⟨⟨single, inside⟩, -⟩, -⟩ := folds
        obtain ⟨reads, hears⟩ := single_fold indented tracks apart (by simpa using single) (by simpa using inside)
          (writeSingle l l.indent (some ' ') cs ++ '\'' :: rest)
        rw [List.append_assoc, reads, ← hears]
        exact ih .fold later plainLater
      · rw [List.cons_append, Reader.single_blank]
        exact ih (tracks.blanks apart) later plainLater
    · cases break_ : isBreak c with
      | true =>
        have begins (further : (cs.head?.map isBreak).getD false = true) :
            ∃ d ds, writeSingle l l.indent (some c) cs ++ '\'' :: rest = d :: ds ∧ isBreak d = true := by
          cases cs with
          | nil => cases further
          | cons d ds =>
            obtain ⟨e, es, same, break'⟩ : ∃ e es, writeSingle l l.indent (some c) (d :: ds) = e :: es ∧
                isBreak e = true := head_writeSingle further
            exact ⟨e, _, by rw [same, List.cons_append], break'⟩
        obtain ⟨first, more, written, reads⟩ := single_writtenBreak break_ tracks apart
          (isSeparator_indentation indented _ begins)
        rw [heard_break break_, writeSingle_break break_, written]
        simp only [List.append_assoc, List.cons_append]
        rw [reads, single_indentation]
        exact ih (.line c first more break_) later plainLater
      | false =>
        have ink {column : Nat} : Reader.single .none (writeSingle l column (some c) cs ++ '\'' :: rest) =
            some (heard .none cs, rest) := ih (.ink c blank break_) later plainLater
        rw [heard_ink break_ blank]
        by_cases quote : c = '\''
        · subst quote
          rw [writeSingle, List.cons_append, List.cons_append, Reader.single_quote, ink, Reader.prepend]
          simp
        · have noTab : Reader.isBlankOrTab c = false := by
            have tab : c ≠ '\t' := by
              rintro rfl
              cases notSpecial
            simp [Reader.isBlankOrTab, blank, tab]
          rw [writeSingle_ink break_ blank quote, List.cons_append, Reader.single_ink noTab break_ quote, ink,
            Reader.prepend]
          simp

/-! ## Text that is heard as it is -/

/-- A gap that stands for its own text before what follows: a line feed was doubled, and blanks and breaks are apart. -/
inductive Settled : Gap → List Char → Prop
  | none (cs : List Char) : Settled .none cs
  | blanks (bs cs : List Char) (noBreak : (cs.head?.map isBreak).getD false = false) : Settled (.blanks bs) cs
  | lines (first : Char) (more cs : List Char) (full : first ≠ '\n' ∨ more ≠ []) (noBlank : cs.head? ≠ some ' ') :
      Settled (.lines first more) cs

theorem Settled.blank (settled : Settled g (' ' :: cs)) (noBreak : (cs.head?.map isBreak).getD false = false) :
    Settled (g.blank ' ') cs ∧ (g.blank ' ').text = g.text ++ [' '] := by
  cases settled with
  | none => exact ⟨.blanks [' '] cs noBreak, rfl⟩
  | blanks bs => exact ⟨.blanks (bs ++ [' ']) cs noBreak, rfl⟩
  | lines first more _ full noBlank => exact absurd rfl noBlank

theorem normalBreak_eq (break_ : isBreak c = true) (notNext : c ≠ '\u0085') : Gap.normalBreak c = c := by
  rcases isBreak_iff.mp break_ with rfl | rfl | rfl | rfl
  · rfl
  · exact absurd rfl notNext
  · rfl
  · rfl

theorem Settled.break_ (settled : Settled g (c :: cs)) (break_ : isBreak c = true) (notNext : c ≠ '\u0085')
    (noBlank : cs.head? ≠ some ' ') : Settled (writtenBreak g c) cs ∧ (writtenBreak g c).text = g.text ++ [c] := by
  have normal := normalBreak_eq break_ notNext
  cases settled with
  | none =>
    by_cases feed : c = '\n'
    · subst feed
      exact ⟨.lines '\n' ['\n'] cs (.inr (by simp)) noBlank, rfl⟩
    · have written : writtenBreak .none c = .lines c [] := by simp [writtenBreak, feed, Gap.newLine, normal]
      rw [written]
      exact ⟨.lines c [] cs (.inl feed) noBlank, by simp [Gap.text, feed]⟩
  | blanks bs _ noBreak => simp [break_] at noBreak
  | lines first more _ full _ =>
    have written : writtenBreak (.lines first more) c = .lines first (more ++ [c]) := by
      rw [writtenBreak, Gap.newLine, normal]
    rw [written]
    refine ⟨.lines first (more ++ [c]) cs (.inr (by simp)) noBlank, ?_⟩
    by_cases feed : first = '\n'
    · have some_ : more ≠ [] := full.resolve_left (not_not_intro feed)
      simp [Gap.text, feed, some_]
    · simp [Gap.text, feed]

/-- By induction on the text, with what the gap stands for before it. -/
theorem heard_settled (settled : Settled g cs) (apart : Apart cs) (noNext : '\u0085' ∉ cs) :
    heard g cs = g.text ++ cs := by
  induction cs generalizing g with
  | nil => exact (List.append_nil _).symm
  | cons c cs ih =>
    obtain ⟨notNext, noNextLater⟩ : c ≠ '\u0085' ∧ '\u0085' ∉ cs := by
      simpa only [List.mem_cons, not_or, ne_comm] using noNext
    by_cases blank : c = ' '
    · subst blank
      have noBreak : (cs.head?.map isBreak).getD false = false := by
        cases cs with
        | nil => rfl
        | cons d ds => exact apart.not_break
      obtain ⟨next, text⟩ := settled.blank noBreak
      rw [heard_cons, if_pos (by decide), ih next apart.tail noNextLater, text, List.append_assoc, List.singleton_append]
    · cases break_ : isBreak c with
      | true =>
        have noBlank : cs.head? ≠ some ' ' := by
          cases cs with
          | nil => simp
          | cons d ds => simpa using apart.ne_space break_
        obtain ⟨next, text⟩ := settled.break_ break_ notNext noBlank
        rw [heard_break break_, ih next apart.tail noNextLater, text, List.append_assoc, List.singleton_append]
      | false => rw [heard_ink break_ blank, ih (.none cs) apart.tail noNextLater, Gap.text, List.nil_append]

/-! ## Next lines -/

theorem next_notMem_blank (clean : '\u0085' ∉ g.text) : '\u0085' ∉ (g.blank ' ').text := by
  cases g with
  | none => decide
  | blanks bs => simpa [Gap.blank, Gap.text] using clean
  | lines first more => exact clean
  | joined more => exact clean

theorem normalBreak_ne (c : Char) : Gap.normalBreak c ≠ '\u0085' := by
  unfold Gap.normalBreak
  split
  · rename_i kept
    rintro rfl
    cases kept
  · decide

theorem next_mem_lines {first : Char} {more : List Char} :
    '\u0085' ∈ (Gap.lines first more).text ↔ '\u0085' = first ∨ '\u0085' ∈ more := by
  by_cases feed : first = '\n'
  · cases more <;> simp [Gap.text, feed]
  · simp [Gap.text, feed]

theorem next_notMem_newLine (clean : '\u0085' ∉ g.text) : '\u0085' ∉ (g.newLine c).text := by
  have other := (normalBreak_ne c).symm
  cases g with
  | none => simpa [Gap.newLine, next_mem_lines] using other
  | blanks bs => simpa [Gap.newLine, next_mem_lines] using other
  | lines first more =>
    rw [next_mem_lines] at clean
    simpa [Gap.newLine, next_mem_lines, other] using clean
  | joined more => simpa [Gap.newLine, Gap.text, other] using clean

theorem next_notMem_writtenBreak (clean : '\u0085' ∉ g.text) : '\u0085' ∉ (writtenBreak g c).text := by
  unfold writtenBreak
  split
  · exact next_notMem_newLine clean
  · split
    · exact next_notMem_newLine (next_notMem_newLine clean)
    · exact next_notMem_newLine clean

/-- A next line is never heard: it is read as a line feed. -/
theorem next_notMem_heard (clean : '\u0085' ∉ g.text) : '\u0085' ∉ heard g cs := by
  induction cs generalizing g with
  | nil => exact clean
  | cons c cs ih =>
    rw [heard_cons]
    split
    · rename_i blank
      rw [beq_iff_eq.mp blank]
      exact ih (next_notMem_blank clean)
    · split
      · exact ih (next_notMem_writtenBreak clean)
      · rename_i noBreak
        have other : '\u0085' ≠ c := by
          rintro rfl
          exact noBreak (by decide)
        have later : '\u0085' ∉ heard .none cs := ih (by decide)
        simp only [List.mem_append, List.mem_cons, not_or]
        exact ⟨clean, other, later⟩

/-- No other text is changed, and text with a next line always is. -/
theorem heard_eq_iff (apart : Apart cs) : heard .none cs = cs ↔ '\u0085' ∉ cs := by
  refine ⟨fun same => ?_, fun noNext => heard_settled (.none cs) apart noNext⟩
  have unheard : '\u0085' ∉ heard .none cs := next_notMem_heard (by decide)
  rwa [same] at unheard

example : heard .none ['a', '\u0085', 'b'] = ['a', ' ', 'b'] := by decide

end Scalar

end Letterpress.Yaml
