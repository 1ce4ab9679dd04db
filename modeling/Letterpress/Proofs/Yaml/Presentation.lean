import Letterpress.Proofs.Yaml.Mapping

/-!
# Written text

What the text of a mapping looks like: its characters are readable, and behind the first line no line begins with a
hyphen. So none can be taken for a mark between documents.

* `Presentable`: text like that.
* `presentable_write`: a text as a scalar.
* `presentable_linesOf`: a mapping.
* `Presentable.head_of_mem_splitBy`: no line of such text begins with a hyphen, unless it is the first one.
* `Reader.read?_write`: what is read of a mapping as it is written.
-/

namespace Letterpress.Yaml

open Text Scalar

variable {c : Char} {cs rest : List Char} {l : Layout} {column : Nat} {before : Option Char}

/-! ## Characters -/

/-- Readable, and no line ends with it. -/
structure IsInk (c : Char) : Prop where
  readable : Reader.isReadable c = true
  inside : isLineEnd c = false

theorem toNat_ne_of_ne {d : Char} (other : c ≠ d) : c.toNat ≠ d.toNat := fun same => other (Char.toNat_inj.mp same)

namespace IsInk

/-- Characters outside of the two ranges of control characters, but for the two breaks there. -/
theorem of_range
    (range : 0x20 ≤ c.toNat ∧ c.toNat ≤ 0x7E ∨ 0xA0 ≤ c.toNat ∧ c.toNat ≤ 0xFFFD ∨ 0x10000 ≤ c.toNat)
    (line : c ≠ '\u2028') (paragraph : c ≠ '\u2029') : IsInk c := by
  have line : c.toNat ≠ 0x2028 := toNat_ne_of_ne line
  have paragraph : c.toNat ≠ 0x2029 := toNat_ne_of_ne paragraph
  constructor
  · simp [Reader.isReadable]
    omega
  · simp [isLineEnd]
    omega

theorem of_not_isSpecial (plain : isSpecial c = false) (noBreak : isBreak c = false) : IsInk c := by
  have other {d : Char} (break_ : isBreak d = true) : c ≠ d := (ne_of_class break_ noBreak).symm
  refine of_range ?_ (other (by decide)) (other (by decide))
  simp only [isSpecial, Bool.not_eq_false', Bool.or_eq_true, Bool.and_eq_true, decide_eq_true_eq, beq_iff_eq] at plain
  rcases plain with (((feed | ascii) | next) | basic) | beyond
  · exact absurd feed (other (by decide))
  · exact .inl ascii
  · exact absurd next (toNat_ne_of_ne (other (by decide : isBreak '\u0085' = true)))
  · exact .inr (.inl basic.1)
  · exact .inr (.inr beyond.1)

theorem of_isOwn (own : isOwn c = true) : IsInk c := by
  refine of_range ?_ (ne_of_class own (by decide)) (ne_of_class own (by decide))
  simp only [isOwn, Bool.and_eq_true, Bool.or_eq_true, decide_eq_true_eq] at own
  exact own.2.imp_right .inl

/-- Characters of ASCII that can be seen. -/
theorem of_visible (visible : 0x20 ≤ c.toNat ∧ c.toNat ≤ 0x7E) : IsInk c :=
  of_range (.inl visible) (by rintro rfl; exact absurd visible (by decide))
    (by rintro rfl; exact absurd visible (by decide))

theorem of_isHex (digit : isHex c = true) : IsInk c :=
  of_visible (ascii_induction (p := fun c => isHex c = true → 0x20 ≤ c.toNat ∧ c.toNat ≤ 0x7E) (by decide)
    (lt_of_isHex digit) digit)

theorem of_isKeyChar (key : Reader.isKeyChar c = true) : IsInk c := by
  rcases Bool.or_eq_true_iff.mp key with letter | lowLine
  · have range : c.toNat < 128 := lt_of_isAsciiAlnum (by rw [isAsciiAlnum, letter, Bool.true_or])
    exact of_visible (ascii_induction (p := fun c => isAsciiLetter c = true → 0x20 ≤ c.toNat ∧ c.toNat ≤ 0x7E)
      (by decide) range letter)
  · rw [beq_iff_eq.mp lowLine]
    exact of_visible (by decide)

end IsInk

theorem isReadable_of_isBreak (break_ : isBreak c = true) : Reader.isReadable c = true ∧ c ≠ '\r' := by
  rcases isBreak_iff.mp break_ with rfl | rfl | rfl | rfl <;> exact ⟨by decide, by decide⟩

/-! ## Texts -/

structure Presentable (cs : List Char) : Prop where
  readable : ∀ c ∈ cs, Reader.isReadable c = true ∧ c ≠ '\r'
  noHyphen : hasPair isLineEnd (· == '-') cs = false

namespace Presentable

theorem nil : Presentable [] := ⟨by simp, rfl⟩

theorem ink (here : IsInk c) (later : Presentable cs) : Presentable (c :: cs) where
  readable := List.forall_mem_cons.mpr ⟨⟨here.readable, by rintro rfl; cases here.inside⟩, later.readable⟩
  noHyphen := by rw [hasPair_cons, here.inside, Bool.false_and, Bool.false_or, later.noHyphen]

theorem line (break_ : isBreak c = true) (later : Presentable cs) (begins : cs.head? ≠ some '-') :
    Presentable (c :: cs) where
  readable := List.forall_mem_cons.mpr ⟨isReadable_of_isBreak break_, later.readable⟩
  noHyphen := by
    have head : (cs.head?.map (· == '-')).getD false = false := by
      cases cs with
      | nil => rfl
      | cons d ds => simpa using begins
    rw [hasPair_cons, head, Bool.and_false, Bool.false_or, later.noHyphen]

theorem inks {ds : List Char} (all : ∀ d ∈ ds, IsInk d) (later : Presentable cs) : Presentable (ds ++ cs) := by
  induction ds with
  | nil => exact later
  | cons d ds ih =>
    obtain ⟨here, further⟩ := List.forall_mem_cons.mp all
    exact (ih further).ink here

theorem of_append (whole : Presentable (cs ++ rest)) : Presentable cs where
  readable := fun c mem => whole.readable c (List.mem_append_left rest mem)
  noHyphen := by
    have noPair := whole.noHyphen
    clear whole
    induction cs with
    | nil => rfl
    | cons c cs ih =>
      rw [List.cons_append, hasPair_cons, Bool.or_eq_false_iff] at noPair
      rw [hasPair_cons, ih noPair.2, Bool.or_false]
      cases cs with
      | nil => exact Bool.and_false _
      | cons d ds => exact noPair.1

theorem blanks (n : Nat) (later : Presentable cs) : Presentable (List.replicate n ' ' ++ cs) :=
  later.inks fun d mem => by
    rw [List.eq_of_mem_replicate mem]
    exact ⟨by decide, by decide⟩

theorem head_blanks {n : Nat} (some_ : 0 < n) : (List.replicate n ' ' ++ cs).head? ≠ some '-' := by
  obtain ⟨n, rfl⟩ : ∃ k, n = k + 1 := ⟨n - 1, by omega⟩
  simp [List.replicate_succ]

theorem newLine (indented : 0 < l.indent) (later : Presentable cs) : Presentable (Scalar.newLine l ++ cs) :=
  (later.blanks l.indent).line (by decide) (head_blanks indented)

end Presentable

/-! ## Scalars -/

theorem presentable_writePlain (indented : 0 < l.indent) (plain : ∀ c ∈ cs, IsInk c) (later : Presentable rest)
    (afterSpace : Bool) : Presentable (writePlain l column afterSpace cs ++ rest) := by
  induction cs generalizing column afterSpace with
  | nil => exact later
  | cons c cs ih =>
    obtain ⟨here, further⟩ := List.forall_mem_cons.mp plain
    by_cases blank : c = ' '
    · subst blank
      rw [writePlain]
      split
      · rw [List.append_assoc]
        exact (ih further true).newLine indented
      · exact (ih further true).ink here
    · rw [writePlain]
      · exact (ih further false).ink here
      · exact blank

theorem presentable_writeSingle (indented : 0 < l.indent) (plain : cs.any isSpecial = false)
    (later : Presentable rest) : Presentable (writeSingle l column before cs ++ rest) := by
  induction cs generalizing column before with
  | nil => exact later
  | cons c cs ih =>
    obtain ⟨notSpecial, plainLater⟩ : isSpecial c = false ∧ cs.any isSpecial = false := by
      simpa only [List.any_cons, Bool.or_eq_false_iff] using plain
    by_cases blank : c = ' '
    · subst blank
      rw [writeSingle]
      split
      · rw [List.append_assoc]
        exact (ih plainLater).newLine indented
      · exact (ih plainLater).ink (.of_visible (by decide))
    · cases break_ : isBreak c with
      | true =>
        have notHyphen {d : Char} (break_ : isBreak d = true) : some d ≠ some '-' := by
          rintro ⟨⟩
          cases break_
        have behind : Presentable (c :: (indentation l cs ++ (writeSingle l l.indent (some c) cs ++ rest))) := by
          unfold indentation
          split
          · rename_i further
            refine (ih plainLater).line break_ ?_
            cases cs with
            | nil => cases further
            | cons d ds =>
              obtain ⟨e, es, same, break'⟩ : ∃ e es, writeSingle l l.indent (some c) (d :: ds) = e :: es ∧
                  isBreak e = true := head_writeSingle further
              rw [same]
              exact notHyphen break'
          · exact ((ih plainLater).blanks l.indent).line break_ (Presentable.head_blanks indented)
        rw [writeSingle_break break_]
        simp only [List.append_assoc, List.cons_append]
        unfold leading
        split
        · exact behind
        · exact behind.line (by decide) (notHyphen break_)
      | false =>
        have here : IsInk c := .of_not_isSpecial notSpecial break_
        by_cases quote : c = '\''
        · subst quote
          rw [writeSingle]
          exact ((ih plainLater).ink here).ink here
        · rw [writeSingle_ink break_ blank quote]
          exact (ih plainLater).ink here

theorem isInk_escapeChar {d : Char} (mem : d ∈ escapeChar c) : IsInk d := by
  have visible : ∀ d ∈ '\\' :: (escapeLetters.map Prod.snd ++ Reader.numberLengths.map Prod.fst),
      0x20 ≤ d.toNat ∧ d.toNat ≤ 0x7E := by simp [escapeLetters, Reader.numberLengths]
  have some_ : ∀ p ∈ Reader.numberLengths, 0 < p.2 := by decide
  rcases escapeChar_cases c with ⟨letter, found, text⟩ | ⟨⟨letter, digits⟩, known, fits, text⟩
  · obtain ⟨before, behind, same, -⟩ := List.lookup_eq_some_iff.mp found
    have letter_ : letter ∈ escapeLetters.map Prod.snd := by rw [same]; simp
    refine .of_visible (visible d ?_)
    rw [text] at mem
    rcases List.mem_cons.mp mem with rfl | here
    · exact List.mem_cons_self
    · exact List.mem_cons_of_mem _ (List.mem_append_left _ (List.mem_singleton.mp here ▸ letter_))
  · rw [text] at mem
    rcases List.mem_cons.mp mem with rfl | mem
    · exact .of_visible (visible _ List.mem_cons_self)
    · rcases List.mem_cons.mp mem with rfl | digit
      · exact .of_visible (visible _ (List.mem_cons_of_mem _ (List.mem_append_right _ (List.mem_map_of_mem known))))
      · exact .of_isHex ((hexText_spec (some_ _ known) fits).2.1 d digit)

theorem presentable_fold (indented : 0 < l.indent) (later : Presentable rest) : Presentable (fold l cs ++ rest) := by
  have backslash : IsInk '\\' := .of_visible (by decide)
  unfold fold
  rw [List.append_assoc, List.cons_append]
  refine Presentable.ink backslash (Presentable.newLine indented ?_)
  split
  · exact later.ink backslash
  · exact later

theorem presentable_writeDouble (indented : 0 < l.indent) (isFirst afterEscape : Bool)
    (later : Presentable rest) : Presentable (writeDouble l column isFirst afterEscape cs ++ rest) := by
  induction cs generalizing column isFirst afterEscape with
  | nil => exact later
  | cons c cs ih =>
    cases own : isOwn c with
    | true =>
      have here : IsInk c := .of_isOwn own
      rw [writeDouble, if_pos own]
      split
      · rw [List.append_assoc]
        exact presentable_fold indented ((ih false false).ink here)
      · exact (ih false false).ink here
    | false =>
      rw [writeDouble, if_neg (by simp [own])]
      simp only
      split
      · rw [List.append_assoc, List.append_assoc]
        exact (presentable_fold indented (ih false true)).inks fun d => isInk_escapeChar
      · rw [List.append_assoc]
        exact (ih false true).inks fun d => isInk_escapeChar

/-! ## Mappings -/

/-- A text as a scalar. -/
theorem presentable_write (indented : 0 < l.indent) (later : Presentable rest) :
    Presentable (Scalar.write l column cs ++ rest) := by
  have quote : IsInk '\'' := .of_visible (by decide)
  have quotes : IsInk '"' := .of_visible (by decide)
  unfold Scalar.write
  split
  · rename_i chosen
    have whole := Reader.isPlainBehind (style_plain chosen).1
    have plain : ∀ c ∈ cs, IsInk c := fun c mem =>
      .of_not_isSpecial (by simpa using List.any_eq_false.mp whole.noSpecial c mem)
        (by simpa using List.any_eq_false.mp whole.noBreak c mem)
    exact presentable_writePlain indented plain later false
  · rename_i chosen
    have noSpecial := (apart_of_isSingleForm (style_single chosen)).2
    rw [List.append_assoc]
    exact Presentable.ink quote (presentable_writeSingle indented noSpecial (later.ink quote))
  · rw [List.append_assoc]
    exact Presentable.ink quotes (presentable_writeDouble indented true false (later.ink quotes))

theorem presentable_valueText {v : Value} (flat : isFlat v = true) (later : Presentable rest) :
    Presentable (valueText 0 column v ++ rest) := by
  have blank : IsInk ' ' := .of_visible (by decide)
  cases v with
  | text s =>
    rw [valueText_text]
    exact (presentable_write (by decide) later).ink blank
  | int i =>
    have inks : ∀ c ∈ Literal.intText i, IsInk c := fun c mem => by
      rcases Literal.mem_intText mem with rfl | digit
      · exact .of_visible (by decide)
      · exact .of_isHex (by simp [isHex, hexValue?, digit])
    rw [valueText_int]
    exact (later.inks inks).ink blank
  | _ => cases flat

theorem presentable_linesOf {fields : Fields} (names : ∀ f ∈ fields, isName f.1.toList = true)
    (flat : ∀ f ∈ fields, isFlat f.2 = true) : Presentable (linesOf fields) := by
  induction fields with
  | nil => exact .nil
  | cons f fields ih =>
    obtain ⟨k, v⟩ := f
    obtain ⟨name, laterNames⟩ := List.forall_mem_cons.mp names
    obtain ⟨flat_, laterFlat⟩ := List.forall_mem_cons.mp flat
    have begins : (linesOf fields).head? ≠ some '-' := fun hyphen => by
      cases Reader.startsLine_linesOf laterNames '-' hyphen
    have key : ∀ c ∈ k.toList, IsInk c := fun c mem => by
      simp only [isName, Bool.and_eq_true, List.all_eq_true] at name
      exact .of_isKeyChar (name.1.1 c mem)
    rw [linesOf_cons name]
    have line := (ih laterNames laterFlat).line (c := '\n') (by decide) begins
    exact ((presentable_valueText flat_ line).ink (.of_visible (by decide))).inks key

/-! ## Lines -/

/-- What a line begins with, the text begins with or there is a line end before. By induction on the text, of which the
first line is told apart. -/
theorem head_of_splitBy (p : Char → Bool) (d : Char) (cs : List Char) :
    ∃ first later, splitBy p cs = first :: later ∧ (first.head? = some d → cs.head? = some d) ∧
      ∀ x ∈ later, x.head? = some d → hasPair p (· == d) cs = true := by
  induction cs with
  | nil => exact ⟨[], [], rfl, id, by simp⟩
  | cons c cs ih =>
    obtain ⟨first, later, same, here, behind⟩ := ih
    rw [splitBy, same]
    simp only [hasPair_cons]
    split
    · rename_i cut
      refine ⟨[], first :: later, rfl, by simp, List.forall_mem_cons.mpr ⟨fun begins => ?_, fun x mem begins => ?_⟩⟩
      · rw [here begins, cut]
        simp
      · rw [behind x mem begins, Bool.or_true]
    · refine ⟨c :: first, later, rfl, id, fun x mem begins => ?_⟩
      rw [behind x mem begins, Bool.or_true]

theorem Presentable.head_of_mem_splitBy (presentable : Presentable cs) (begins : cs.head? ≠ some '-') {x : List Char}
    (mem : x ∈ splitBy isLineEnd cs) : x.head? ≠ some '-' := fun hyphen => by
  obtain ⟨first, later, same, here, behind⟩ := head_of_splitBy isLineEnd '-' cs
  rw [same] at mem
  rcases List.mem_cons.mp mem with rfl | mem
  · exact begins (here hyphen)
  · have pair := behind x mem hyphen
    rw [presentable.noHyphen] at pair
    cases pair

/-! ## Documents -/

theorem length_linesOf {fields : Fields} (names : ∀ f ∈ fields, isName f.1.toList = true) :
    fields.length ≤ (linesOf fields).length := by
  induction fields with
  | nil => exact Nat.zero_le _
  | cons f fields ih =>
    obtain ⟨k, v⟩ := f
    obtain ⟨name, later⟩ := List.forall_mem_cons.mp names
    have shorter := ih later
    rw [linesOf_cons name]
    simp only [List.length_append, List.length_cons]
    omega

theorem Reader.read?_write {fields : Fields} (some_ : fields ≠ []) (names : ∀ f ∈ fields, isName f.1.toList = true)
    (flat : ∀ f ∈ fields, isFlat f.2 = true) (distinct : (fields.map (·.1)).Nodup) :
    read? (Yaml.write fields) = some (fields.map fun (k, v) => (k, hear v)) := by
  have lines : linesOf fields = Yaml.write fields := if_neg (by simpa using some_)
  have presentable := presentable_linesOf names flat
  have readable : (linesOf fields).all isReadable = true :=
    List.all_eq_true.mpr fun c mem => (presentable.readable c mem).1
  have ended : normalizeNewlines (linesOf fields) = linesOf fields :=
    normalizeNewlines_of_free fun mem => (presentable.readable '\r' mem).2 rfl
  have heard : ((fields.map fun (k, v) => (k, hear v)).map (·.1)).Nodup := by
    rw [List.map_map]
    exact distinct
  have filled : (linesOf fields).isEmpty = false := by rw [lines, Yaml.write]; simp
  rw [← lines, read?, filled, readable, if_neg (by simp), ended]
  simp only [fields?_linesOf names flat (length_linesOf names), Option.map_some]
  rw [Fields.overlay_of_nodup (by simpa using heard), List.nil_append]

end Letterpress.Yaml
