import Letterpress.Options
import Letterpress.Proofs.Validation

/-!
# Options that are filled in

Options are filled in twice, before the template is known and once it is. What has been filled in is never empty and is
not touched again, so the second time adds the type of the document only, and a third time would add nothing, whatever
clock and chance say in between.

* `Settings.Filled`: the settings that options are filled in from.
* `Options.IsFilled`: options in which nothing is left to fill in but the type of the document.
* `Options.Keeps`: what a caller has chosen stays.
* `Options.withDefaults_twice`: options that are filled in twice.
-/

namespace Letterpress

open Checked

/-! ## Settings -/

namespace Settings

/-- Settings whose texts for documents are not empty. -/
structure Filled (s : Settings) : Prop where
  author : s.defaultAuthor ≠ ""
  language : s.defaultLanguage ≠ ""
  watermark : s.defaultWatermark ≠ ""

theorem ne_empty_of_someText {v : Value} {x : String} (read : someText v = .ok x) : x ≠ "" := by
  unfold someText at read
  cases text : Checked.text v with
  | error e =>
    rw [text] at read
    cases read
  | ok y =>
    simp only [text, Except.bind] at read
    split at read
    · cases read
    · rename_i filled
      cases read
      simpa using filled

theorem ne_empty_of_field {fields : Fields} {k d x : String} (filled : d ≠ "")
    (read : Record.field fields k d someText = .ok x) : x ≠ "" := by
  unfold Record.field at read
  split at read
  · rename_i v found
    cases text : someText v with
    | error e =>
      rw [text] at read
      cases read
    | ok y =>
      rw [text] at read
      cases read
      exact ne_empty_of_someText text
  · cases read
    exact filled

/-- Settings that are valid are filled. -/
theorem filled_of_ofFields {fields : Fields} {s : Settings} (valid : ofFields fields = .ok s) : Filled s := by
  simp only [ofFields, app_eq_ok] at valid
  -- the fields, from the last to the first
  repeat obtain ⟨_, _, valid, _, rfl⟩ := valid
  refine ⟨ne_empty_of_field ?_ ‹Record.field fields "default_author" _ someText = .ok _›,
    ne_empty_of_field ?_ ‹Record.field fields "default_language" _ someText = .ok _›,
    ne_empty_of_field ?_ ‹Record.field fields "default_watermark_text" _ someText = .ok _›⟩
  all_goals decide

end Settings

/-! ## Options -/

namespace Options

/-- A text that is there and not empty. -/
def Given (x : Option String) : Prop := ∃ y, y ≠ "" ∧ x = some y

/-- Options in which nothing is left to fill in but the type of the document. -/
structure IsFilled (o : Options) : Prop where
  format : ∃ f, o.format = some f
  filename : Given o.filename
  author : Given o.author
  language : Given o.language
  documentNumber : Given o.documentNumber
  watermark : Given o.watermark.text

/-- What a caller has chosen stays: what is there and not empty, and whatever is not filled in at all. -/
structure Keeps (o o' : Options) : Prop where
  format : ∀ f, o.format = some f → o'.format = some f
  filename : Given o.filename → o'.filename = o.filename
  author : Given o.author → o'.author = o.author
  language : Given o.language → o'.language = o.language
  documentNumber : Given o.documentNumber → o'.documentNumber = o.documentNumber
  watermark : Given o.watermark.text → o'.watermark = o.watermark
  others : o' = { o with
    format := o'.format, filename := o'.filename, author := o'.author, language := o'.language
    documentNumber := o'.documentNumber, watermark := { o.watermark with text := o'.watermark.text } }

/-- The type of a document: that of the options, else the category of the template. -/
def typeFor (o : Options) (t : Template) : String :=
  (given? o.documentType).getD (if t.category = "" then "general" else t.category)

theorem given?_eq_some_iff {x : Option String} {y : String} : given? x = some y ↔ x = some y ∧ y ≠ "" := by
  simp [given?, Option.filter_eq_some_iff]

theorem Given.given?_eq {x : Option String} (given : Given x) : given? x = x := by
  obtain ⟨y, filled, rfl⟩ := given
  exact given?_eq_some_iff.mpr ⟨rfl, filled⟩

/-- What is there and not empty is not replaced. -/
theorem Given.some_getD {x : Option String} (given : Given x) (d : String) : some ((given? x).getD d) = x := by
  rw [given.given?_eq]
  obtain ⟨y, -, rfl⟩ := given
  rfl

/-- Whatever is put in the place of nothing is there. -/
theorem given_getD {d : String} (filled : d ≠ "") (x : Option String) : Given (some ((given? x).getD d)) := by
  cases found : given? x with
  | none => exact ⟨d, filled, rfl⟩
  | some y => exact ⟨y, (given?_eq_some_iff.mp found).2, rfl⟩

variable {s : Settings} {o : Options}

/-- What comes of each field. -/
theorem withDefaults_eq (o : Options) (s : Settings) (r : Reading) (t : Option Template) :
    o.withDefaults s r t = { o with
      format := some (o.format.getD s.defaultFormat)
      filename := some ((given? o.filename).getD
        (String.ofList ("document-".toList ++ Literal.intText r.epochMilliseconds)))
      author := some ((given? o.author).getD s.defaultAuthor)
      language := some ((given? o.language).getD s.defaultLanguage)
      documentNumber := some ((given? o.documentNumber).getD (DocumentNumber.text "DOC" r))
      watermark := { o.watermark with text := some ((given? o.watermark.text).getD s.defaultWatermark) }
      documentType := t.elim o.documentType fun t => some (o.typeFor t) } := by
  have watermark : (o.withDefaults s r t).watermark =
      { o.watermark with text := some ((given? o.watermark.text).getD s.defaultWatermark) } := by
    unfold withDefaults
    cases found : given? o.watermark.text with
    | none => rfl
    | some y => exact congrArg (Watermark.mk o.watermark.isEnabled) (given?_eq_some_iff.mp found).1
  have type : (o.withDefaults s r t).documentType = t.elim o.documentType fun t => some (o.typeFor t) := by
    unfold withDefaults typeFor
    cases t with
    | none => cases given? o.documentType <;> rfl
    | some t =>
      cases found : given? o.documentType with
      | none => simp
      | some y => exact (given?_eq_some_iff.mp found).1
  rw [← watermark, ← type]
  rfl

theorem isFilled_withDefaults (settings : s.Filled) (o : Options) (r : Reading) (t : Option Template) :
    IsFilled (o.withDefaults s r t) := by
  rw [withDefaults_eq]
  exact {
    format := ⟨_, rfl⟩
    filename := given_getD (by simp) _
    author := given_getD settings.author _
    language := given_getD settings.language _
    documentNumber := given_getD (by simp [DocumentNumber.text]) _
    watermark := given_getD settings.watermark _ }

theorem keeps_withDefaults (o : Options) (s : Settings) (r : Reading) : Keeps o (o.withDefaults s r none) := by
  rw [withDefaults_eq]
  exact {
    format := fun f chosen => congrArg (fun f => some (f.getD s.defaultFormat)) chosen
    filename := fun given => given.some_getD _
    author := fun given => given.some_getD _
    language := fun given => given.some_getD _
    documentNumber := fun given => given.some_getD _
    watermark := fun given => congrArg (Watermark.mk o.watermark.isEnabled) (given.some_getD _)
    others := rfl }

/-- Options that are filled in get a type and nothing else, whatever the clock says. -/
theorem withDefaults_of_isFilled (filled : IsFilled o) (s : Settings) (r : Reading) (t : Template) :
    o.withDefaults s r (some t) = { o with documentType := some (o.typeFor t) } := by
  have format : some (o.format.getD s.defaultFormat) = o.format := by
    obtain ⟨f, chosen⟩ := filled.format
    rw [chosen, Option.getD_some]
  rw [withDefaults_eq, format, filled.filename.some_getD, filled.author.some_getD, filled.language.some_getD,
    filled.documentNumber.some_getD, filled.watermark.some_getD]
  rfl

/-- A type that is put into options is the one that is put there again. -/
theorem typeFor_ne_empty (o : Options) (t : Template) : o.typeFor t ≠ "" := by
  unfold typeFor
  cases found : given? o.documentType with
  | none =>
    rw [Option.getD_none]
    split
    · decide
    · assumption
  | some y => exact (given?_eq_some_iff.mp found).2

/-- Options are filled in before the template is known and once it is. The first time, everything gets a value that is
not empty, and what the caller has chosen stays. The second time only the type of the document is added, from the caller
or from the template, and after that nothing changes any more, whatever clock and chance say. -/
theorem withDefaults_twice {fields : Fields} (valid : Settings.ofFields fields = .ok s) (o : Options) (t : Template)
    (first second : Reading) :
    IsFilled (o.withDefaults s first none) ∧
      Keeps o (o.withDefaults s first none) ∧
      (o.withDefaults s first none).withDefaults s second (some t) =
        { o.withDefaults s first none with documentType := some (o.typeFor t) } ∧
      ∀ further : Reading,
        ((o.withDefaults s first none).withDefaults s second (some t)).withDefaults s further (some t) =
          (o.withDefaults s first none).withDefaults s second (some t) := by
  have settings := Settings.filled_of_ofFields valid
  have filled := isFilled_withDefaults settings o first none
  have type : (o.withDefaults s first none).typeFor t = o.typeFor t := by rw [withDefaults_eq]; rfl
  have twice := withDefaults_of_isFilled filled s second t
  refine ⟨filled, keeps_withDefaults o s first, by rw [twice, type], fun further => ?_⟩
  have filled' := isFilled_withDefaults settings (o.withDefaults s first none) second (some t)
  have type' : ((o.withDefaults s first none).withDefaults s second (some t)).typeFor t = o.typeFor t := by
    rw [twice, type, typeFor, given?_eq_some_iff.mpr ⟨rfl, typeFor_ne_empty o t⟩, Option.getD_some]
  rw [withDefaults_of_isFilled filled' s further t, type', twice, type]

/-- Options with a format and a filename, and with texts that are there but empty. -/
def hollow : Options :=
  { format := some .html, filename := some "report", author := some "", watermark := ⟨true, some ""⟩
    documentType := some "" }

theorem withDefaults_twice_hollow :
    Settings.ofFields [] = .ok {} ∧
      ((hollow.withDefaults {} ⟨1, default, 2⟩ none).withDefaults {} ⟨3, default, 4⟩ (some default)) =
        { hollow.withDefaults {} ⟨1, default, 2⟩ none with documentType := some "general" } ∧
      IsFilled (hollow.withDefaults {} ⟨1, default, 2⟩ none) ∧
      (hollow.withDefaults {} ⟨1, default, 2⟩ none).filename = some "report" ∧
      (hollow.withDefaults {} ⟨1, default, 2⟩ none).watermark = ⟨true, some "DRAFT"⟩ := by
  have valid : Settings.ofFields [] = .ok {} := rfl
  have settled := withDefaults_twice valid hollow default ⟨1, default, 2⟩ ⟨3, default, 4⟩
  exact ⟨valid, settled.2.2.1, settled.1, settled.2.1.filename ⟨"report", by decide, rfl⟩, rfl⟩

end Options

end Letterpress
