import Letterpress.Proofs.Fields
import Letterpress.Proofs.Text.Ascii
import Letterpress.Proofs.Yaml.Double
import Letterpress.Proofs.Yaml.Single
import Letterpress.Proofs.Yaml.Whole
import Letterpress.Yaml.Writer

/-!
# Mappings of texts and numbers

What is read of a mapping as it is written, if its keys are names and its values texts and whole numbers.

* `Scalar.readBack`: what is read of a text.
* `Reader.scalar?_write`: a text as a scalar.
* `Reader.fields?_linesOf`: the entries of a mapping.
-/

namespace Letterpress.Yaml

open Text Scalar

variable {cs rest : List Char} {l : Layout} {column : Nat}

/-! ## Styles -/

namespace Scalar

theorem style_plain (chosen : style cs = .plain) : isPlainForm cs = true ∧ isAmbiguous cs = false := by
  unfold style at chosen
  split at chosen
  · rename_i fits
    simpa using fits
  · split at chosen <;> cases chosen

theorem style_single (chosen : style cs = .single) : isSingleForm cs = true := by
  unfold style at chosen
  split at chosen
  · cases chosen
  · split at chosen
    · assumption
    · cases chosen

theorem ne_nil_of_style_plain (chosen : style cs = .plain) : cs ≠ [] := by
  rintro rfl
  cases chosen

/-- What is read of a text as it is written. -/
def readBack (cs : List Char) : List Char := if style cs = .single then heard .none cs else cs

theorem apart_of_isSingleForm (form : isSingleForm cs = true) : Apart cs ∧ cs.any isSpecial = false := by
  simp only [isSingleForm, Bool.not_eq_true', Bool.or_eq_false_iff] at form
  exact ⟨⟨form.1.2, form.2⟩, form.1.1⟩

/-- Text is read as it is, but for next lines in single quotes. -/
theorem readBack_eq_iff : readBack cs = cs ↔ (style cs = .single → '\u0085' ∉ cs) := by
  unfold readBack
  split
  · rename_i single
    rw [heard_eq_iff (apart_of_isSingleForm (style_single single)).1]
    exact ⟨fun free _ => free, fun free => free single⟩
  · rename_i other
    exact ⟨fun _ single => absurd single other, fun _ => rfl⟩

end Scalar

namespace Reader

/-! ## Scalars -/

theorem scalar?_of_plain {out : List Char} {v : Value} (starts : startsPlain cs = true)
    (reads : plain .none false cs = some (out, rest)) (value : value? out = some v) : scalar? cs = some (v, rest) := by
  unfold scalar?
  split
  · cases starts
  · cases starts
  · rw [if_pos starts, reads]
    simp only [Option.bind_some, value, Option.map_some]

theorem quoted?_some {out : List Char} :
    quoted? (some (out, '\n' :: rest)) = some (.text (String.ofList out), rest) := rfl

/-- What is read of a text as it is written. -/
theorem scalar?_write (indented : 0 < l.indent) (narrow : l.indent < width) (ends : StartsLine rest) :
    scalar? (Scalar.write l column cs ++ '\n' :: rest) = some (.text (String.ofList (readBack cs)), rest) := by
  cases chosen : style cs with
  | plain =>
    obtain ⟨form, clear⟩ := style_plain chosen
    have whole := isPlainBehind form
    have reads : plain .none false (writePlain l column false cs ++ '\n' :: rest) = some (cs, rest) :=
      plain_writePlain indented .start whole ends (by rintro ⟨⟩)
    obtain ⟨c, ds, same⟩ := List.exists_cons_of_ne_nil (ne_nil_of_style_plain chosen)
    have starts : startsPlain (writePlain l column false cs ++ '\n' :: rest) = true := by
      rw [same] at whole ⊢
      exact startsPlain_writePlain whole
    have value : value? cs = some (.text (String.ofList cs)) := by rw [value?, clear]; rfl
    simp only [Scalar.write, chosen, readBack, reduceCtorEq, if_false]
    exact scalar?_of_plain starts reads value
  | single =>
    obtain ⟨apart, noSpecial⟩ := apart_of_isSingleForm (style_single chosen)
    have reads : single .none (writeSingle l (column + 1) none cs ++ '\'' :: '\n' :: rest) =
        some (heard .none cs, '\n' :: rest) := single_writeSingle indented .start apart noSpecial (by simp)
    simp only [Scalar.write, chosen, readBack, if_true, List.cons_append, List.append_assoc, List.nil_append]
    rw [scalar?, reads, quoted?_some]
  | double =>
    have reads : double (.gap .none) (writeDouble l (column + 1) true false cs ++ '"' :: '\n' :: rest) =
        some (cs, '\n' :: rest) := double_writeDouble indented narrow (.none cs)
    simp only [Scalar.write, chosen, readBack, reduceCtorEq, if_false, List.cons_append, List.append_assoc,
      List.nil_append]
    rw [scalar?, reads, quoted?_some]

/-- Text of digits is read up to the end of its line. -/
theorem plain_word (word : ∀ c ∈ cs, isGap c = false ∧ c ≠ '#' ∧ c ≠ ':') (ends : StartsLine rest) :
    plain .none false (cs ++ '\n' :: rest) = some (cs, rest) := by
  induction cs with
  | nil => exact plain_end ends
  | cons c cs ih =>
    obtain ⟨⟨noGap, noComment, noKey⟩, later⟩ := List.forall_mem_cons.mp word
    rw [List.cons_append, plain_ink noGap (fun comment => absurd comment noComment) (fun key => absurd key noKey),
      ih later]
    rfl

/-- A digit means nothing else to the reader. -/
theorem digit_inert {d : Char} (digit : isAsciiDigit d = true) :
    isGap d = false ∧ d ≠ '#' ∧ d ≠ ':' ∧ indicators.contains d = false ∧ ['?', ':', '-'].contains d = false := by
  have range : d.toNat < 128 := lt_of_isAsciiAlnum (by rw [isAsciiAlnum, digit, Bool.or_true])
  exact ascii_induction (p := fun d => isAsciiDigit d = true → isGap d = false ∧ d ≠ '#' ∧ d ≠ ':' ∧
    indicators.contains d = false ∧ ['?', ':', '-'].contains d = false) (by decide) range digit

theorem scalar?_intText (i : Int) (ends : StartsLine rest) :
    scalar? (Literal.intText i ++ '\n' :: rest) = some (.int i, rest) := by
  obtain ⟨d, ds, same⟩ := List.exists_cons_of_ne_nil (Literal.natText_ne_nil i.natAbs)
  have digits : ∀ e ∈ d :: ds, isAsciiDigit e = true := fun e mem => Literal.isAsciiDigit_of_mem_natText (same ▸ mem)
  have word : ∀ e ∈ d :: ds, isGap e = false ∧ e ≠ '#' ∧ e ≠ ':' := fun e mem =>
    ⟨(digit_inert (digits e mem)).1, (digit_inert (digits e mem)).2.1, (digit_inert (digits e mem)).2.2.1⟩
  obtain ⟨noGap, -, -, noIndicator, noMark⟩ := digit_inert (digits d (by simp))
  have value := value?_intText i
  unfold Literal.intText at value ⊢
  rw [same] at value ⊢
  by_cases negative : i < 0
  · rw [if_pos negative] at value ⊢
    have signed : ∀ e ∈ '-' :: d :: ds, isGap e = false ∧ e ≠ '#' ∧ e ≠ ':' :=
      List.forall_mem_cons.mpr ⟨by decide, word⟩
    have starts : startsPlain ('-' :: d :: ds ++ '\n' :: rest) = true := by
      simp [startsPlain, noGap, indicators]
      decide
    exact scalar?_of_plain starts (plain_word signed ends) value
  · rw [if_neg negative] at value ⊢
    have starts : startsPlain (d :: ds ++ '\n' :: rest) = true := by
      rw [List.cons_append, startsPlain]
      simp only [noGap, noIndicator, noMark, Bool.false_and, Bool.or_self, Bool.not_false]
    exact scalar?_of_plain starts (plain_word word ends) value

end Reader

/-! ## Values -/

def isFlat (v : Value) : Bool :=
  match v with
  | .text _ => true
  | .int _ => true
  | _ => false

/-- What is read of a value as it is written. -/
def hear (v : Value) : Value :=
  match v with
  | .text s => .text (String.ofList (readBack s.toList))
  | v => v

theorem valueText_text {s : String} :
    valueText 0 column (.text s) = ' ' :: Scalar.write ⟨indentStep, true⟩ (column + 1) s.toList := by
  rw [valueText, scalar, Nat.zero_add] <;> simp

theorem valueText_int {i : Int} : valueText 0 column (.int i) = ' ' :: Literal.intText i := by
  rw [valueText, scalar, scalarText?, Option.getD_some] <;> simp

/-- A value is read as it is, unless it is a text with a next line in single quotes. -/
theorem hear_eq_iff {v : Value} :
    hear v = v ↔ ∀ s, v = .text s → style s.toList = .single → '\u0085' ∉ s.toList := by
  cases v with
  | text s =>
    have same : hear (.text s) = .text s ↔ readBack s.toList = s.toList := by
      rw [hear, Value.text.injEq, String.ext_iff, String.toList_ofList]
    rw [same, readBack_eq_iff]
    refine ⟨fun fine t here => ?_, fun fine => fine s rfl⟩
    cases here
    exact fine
  | _ => exact ⟨fun _ s here => (by cases here), fun _ => rfl⟩

namespace Reader

theorem dropWhile_of_scalar? {r : Value × List Char} (reads : scalar? cs = some r) : cs.dropWhile (· == ' ') = cs := by
  cases cs with
  | nil => rfl
  | cons c cs =>
    have noBlank : c ≠ ' ' := by
      rintro rfl
      cases reads
    exact List.dropWhile_cons_of_neg (by simpa using noBlank)

theorem scalar?_valueText (column : Nat) {v : Value} (flat : isFlat v = true) (ends : StartsLine rest) :
    ∃ written, valueText 0 column v = ' ' :: written ∧ scalar? (written ++ '\n' :: rest) = some (hear v, rest) := by
  cases v with
  | text s => exact ⟨_, valueText_text, scalar?_write (by decide) (by decide) ends⟩
  | int i => exact ⟨_, valueText_int, scalar?_intText i ends⟩
  | _ => cases flat

end Reader

/-! ## Entries -/

/-- A key that is written as it is. -/
def isName (key : List Char) : Bool := key.all Reader.isKeyChar && style key == .plain && key.length + 5 < 128

section
variable {k : String} {v : Value} {fields : Fields}

namespace Scalar

theorem writePlain_of_no_folds (stays : l.folds = false) (afterSpace : Bool) :
    writePlain l column afterSpace cs = cs := by
  induction cs generalizing column afterSpace with
  | nil => rfl
  | cons c cs ih =>
    by_cases blank : c = ' '
    · subst blank
      rw [writePlain, stays, Bool.and_false, if_neg (by decide), ih]
    · rw [writePlain, ih]
      exact blank

theorem write_of_isName (stays : l.folds = false) (name : isName cs = true) : Scalar.write l column cs = cs := by
  simp only [isName, Bool.and_eq_true, beq_iff_eq] at name
  rw [Scalar.write, name.1.2]
  exact writePlain_of_no_folds stays false

end Scalar

theorem isSimpleKey_of_isName (name : isName cs = true) : isSimpleKey cs = true := by
  simp only [isName, Bool.and_eq_true, beq_iff_eq, decide_eq_true_eq, List.all_eq_true] at name
  obtain ⟨⟨chars, plain⟩, short⟩ := name
  have noBreak : cs.any isBreak = false :=
    (Reader.isPlainBehind (style_plain plain).1).noBreak
  simp [isSimpleKey, short, noBreak, ne_nil_of_style_plain plain]

/-- A mapping as it is written, line by line; of an empty one nothing. -/
def linesOf (fields : Fields) : List Char := if fields.isEmpty then [] else Yaml.write fields

theorem linesOf_cons (name : isName k.toList = true) : linesOf ((k, v) :: fields) =
    k.toList ++ ':' :: (valueText 0 (k.toList.length + 1) v ++ '\n' :: linesOf fields) := by
  have first : entryTexts 0 ((k, v) :: fields) =
      (k.toList ++ ':' :: valueText 0 (k.toList.length + 1) v) :: entryTexts 0 fields := by
    have written : Scalar.write ⟨0 + indentStep, false⟩ 0 k.toList = k.toList := write_of_isName rfl name
    rw [entryTexts, if_pos (isSimpleKey_of_isName name)]
    simp only [written]
    rw [Nat.zero_add]
  rw [linesOf, if_neg (by simp), Yaml.write, first]
  cases fields with
  | nil => simp [entryTexts, onLines, joinWith, linesOf]
  | cons f fields =>
    obtain ⟨j, w⟩ := f
    obtain ⟨e, es, more⟩ : ∃ e es, entryTexts 0 ((j, w) :: fields) = e :: es := ⟨_, _, by rw [entryTexts]⟩
    rw [linesOf, if_neg (by simp), Yaml.write, more]
    simp [onLines, joinWith, lineAt]

namespace Reader

theorem field?_linesOf (column : Nat) (name : isName k.toList = true) (flat : isFlat v = true)
    (ends : StartsLine rest) :
    field? (k.toList ++ ':' :: (valueText 0 column v ++ '\n' :: rest)) = some ((k, hear v), rest) := by
  obtain ⟨written, text, reads⟩ := scalar?_valueText column flat ends
  simp only [isName, Bool.and_eq_true, beq_iff_eq, decide_eq_true_eq, List.all_eq_true] at name
  obtain ⟨⟨chars, plain⟩, short⟩ := name
  have key : (k.toList ++ ':' :: (valueText 0 column v ++ '\n' :: rest)).takeWhile isKeyChar = k.toList := by
    rw [List.takeWhile_append_of_pos chars, List.takeWhile_cons_of_neg (by decide), List.append_nil]
  have fits : isKey k.toList = true := by
    have length : k.toList.length ≤ keyLimit := by rw [keyLimit]; omega
    simp [isKey, ne_nil_of_style_plain plain, length, (style_plain plain).2]
  rw [field?, key, List.drop_left, text]
  simp only [List.cons_append, fits, if_true, dropWhile_of_scalar? reads, reads, Option.map_some, String.ofList_toList]

theorem startsLine_linesOf (names : ∀ f ∈ fields, isName f.1.toList = true) : StartsLine (linesOf fields) := by
  cases fields with
  | nil => rintro c ⟨⟩
  | cons f fields =>
    obtain ⟨k, v⟩ := f
    have name : isName k.toList = true := names (k, v) (by simp)
    rw [linesOf_cons name]
    simp only [isName, Bool.and_eq_true, beq_iff_eq, List.all_eq_true] at name
    obtain ⟨c, cs, same⟩ := List.exists_cons_of_ne_nil (ne_nil_of_style_plain name.1.2)
    rw [same] at name ⊢
    rintro d ⟨⟩
    exact name.1.1 c (by simp)

/-- By induction on the fields. -/
theorem fields?_linesOf (names : ∀ f ∈ fields, isName f.1.toList = true) (flat : ∀ f ∈ fields, isFlat f.2 = true)
    {fuel : Nat} (enough : fields.length ≤ fuel) :
    fields? fuel (linesOf fields) = some (fields.map fun (k, v) => (k, hear v)) := by
  induction fields generalizing fuel with
  | nil => cases fuel <;> rfl
  | cons f fields ih =>
    obtain ⟨k, v⟩ := f
    obtain ⟨name, laterNames⟩ := List.forall_mem_cons.mp names
    obtain ⟨flat_, laterFlat⟩ := List.forall_mem_cons.mp flat
    obtain ⟨fuel, rfl⟩ : ∃ n, fuel = n + 1 := ⟨fuel - 1, by simp at enough; omega⟩
    have first := field?_linesOf (k.toList.length + 1) name flat_ (startsLine_linesOf laterNames)
    have later : fields? fuel (linesOf fields) = some (fields.map fun (k, v) => (k, hear v)) :=
      ih laterNames laterFlat (by simpa using enough)
    rw [linesOf_cons name, fields?]
    · rw [first, Option.bind_some]
      simp only [later, Option.map_some, List.map_cons]
    · simp

end Reader

end

end Letterpress.Yaml
