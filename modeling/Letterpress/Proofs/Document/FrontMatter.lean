import Letterpress.Document.MarkdownFile
import Letterpress.Proofs.Yaml.Presentation

/-!
# Front matter

What stands in front of a Markdown file is between two fences, and a reader of YAML finds there what was put in, apart
from next lines in single quotes.

* `MarkdownFile.known`: what is put in.
* `MarkdownFile.front_matter_reads_back_iff`: it is read back if no next line is written in single quotes.
* `MarkdownFile.front_matter_lost`: a next line that is read as a blank.
-/

namespace Letterpress.MarkdownFile

open Text Yaml Scalar

variable {d : Draft} {doc : List Char} {day : String} {number : Option String}

/-- What is known about a document with a date and a number, with empty text in place of nothing. -/
def known (d : Draft) (day : String) (number : Option String) : Fields :=
  [("title", .text (d.options.titleFor d.template)),
    ("author", .text (d.options.author.getD "")),
    ("date", .text day),
    ("document_id", .text (number.getD "")),
    ("revision", .int d.options.revision),
    ("template", .text d.template.name),
    ("category", .text d.template.category),
    ("type", .text ((Options.given? d.options.documentType).getD d.template.type)),
    ("client", .text d.context.clientId)]

theorem orEmpty_optionalText (s : Option String) : orEmpty (Options.optionalText s) = .text (s.getD "") := by
  cases s <;> rfl

theorem filled_eq_known (date : Fields.get? "currentDate" d.context.values = some (.text day))
    (numbered : d.context.documentNumber = Options.optionalText number) :
    ((frontFields d).map fun (k, v) => (k, orEmpty v)) = known d day number := by
  simp only [frontFields, known, date, numbered, List.map_cons, List.map_nil, Option.getD_some, orEmpty_optionalText]
  rfl

/-- A file begins with the front matter, and the title and more follow. -/
theorem of_eq (built : of d = .ok doc) : ∃ behind, doc = frontMatter d ++ '\n' :: behind := by
  have front : (!(frontMatter d).isEmpty) = true := by simp [frontMatter]
  have title : (!("# ".toList ++ (d.options.titleFor d.template).toList).isEmpty) = true := by simp
  unfold of at built
  cases text : body d.rendered with
  | error fault =>
    rw [text] at built
    cases built
  | ok cs =>
    rw [text] at built
    cases built
    simp only [List.filter_cons, front, title, if_true]
    rw [joinWith]
    exact ⟨_, by simp only [List.append_assoc, List.cons_append]; rfl⟩

theorem isName_known : ∀ f ∈ known d day number, isName f.1.toList = true := by
  have names : ∀ k ∈ (known d day number).map (·.1), isName k.toList = true := by
    simp only [known, List.map_cons, List.map_nil]
    decide
  exact fun f mem => names f.1 (List.mem_map_of_mem mem)

theorem isFlat_known : ∀ f ∈ known d day number, isFlat f.2 = true := by
  simp [known, isFlat]

theorem nodup_known : ((known d day number).map (·.1)).Nodup := by
  simp only [known, List.map_cons, List.map_nil]
  decide

/-- The text between the fences, and what is read of it. -/
theorem read?_frontMatter (built : of d = .ok doc)
    (date : Fields.get? "currentDate" d.context.values = some (.text day))
    (numbered : d.context.documentNumber = Options.optionalText number) :
    ∃ header behind, doc = fence ++ '\n' :: (header ++ '\n' :: (fence ++ '\n' :: behind)) ∧
      fence ∉ splitBy isLineEnd header ∧
      Reader.read? (header ++ ['\n']) = some ((known d day number).map fun (k, v) => (k, hear v)) := by
  obtain ⟨behind, rfl⟩ := of_eq built
  have lines : linesOf (known d day number) = onLines 0 (entryTexts 0 (known d day number)) ++ ['\n'] := rfl
  have presentable : Presentable (onLines 0 (entryTexts 0 (known d day number))) :=
    Presentable.of_append (lines ▸ presentable_linesOf isName_known isFlat_known)
  have begins : (onLines 0 (entryTexts 0 (known d day number))).head? ≠ some '-' := fun hyphen => by
    have first : (linesOf (known d day number)).head? = some '-' := by
      rw [lines, List.head?_append, hyphen]
      rfl
    cases Reader.startsLine_linesOf isName_known '-' first
  refine ⟨onLines 0 (entryTexts 0 (known d day number)), behind, ?_, fun mem => ?_, ?_⟩
  · rw [frontMatter, filled_eq_known date numbered, Yaml.write]
    simp only [List.append_assoc, List.cons_append, List.nil_append]
  · exact presentable.head_of_mem_splitBy begins mem (by decide)
  · exact Reader.read?_write (List.cons_ne_nil _ _) isName_known isFlat_known nodup_known

/-- What is put in is read back if and only if no text in single quotes has a next line. -/
theorem front_matter_reads_back_iff (built : of d = .ok doc)
    (date : Fields.get? "currentDate" d.context.values = some (.text day))
    (numbered : d.context.documentNumber = Options.optionalText number) :
    ∃ header behind, doc = fence ++ '\n' :: (header ++ '\n' :: (fence ++ '\n' :: behind)) ∧
      fence ∉ splitBy isLineEnd header ∧
      (Reader.read? (header ++ ['\n']) = some (known d day number) ↔
        ∀ k s, (k, Value.text s) ∈ known d day number → style s.toList = .single → '\u0085' ∉ s.toList) := by
  obtain ⟨header, behind, parts, single, reads⟩ := read?_frontMatter built date numbered
  refine ⟨header, behind, parts, single, ?_⟩
  have unchanged : (known d day number).map (fun (k, v) => (k, hear v)) = known d day number ↔
      ∀ f ∈ known d day number, hear f.2 = f.2 := by
    conv => lhs; rhs; rw [← List.map_id (known d day number)]
    rw [List.map_inj_left]
    exact forall₂_congr fun f _ => ⟨congrArg Prod.snd, fun same => Prod.ext rfl same⟩
  rw [reads, Option.some_inj, unchanged]
  exact ⟨fun same k s mem => hear_eq_iff.mp (same (k, .text s) mem) s rfl,
    fun free f mem => hear_eq_iff.mpr fun s here => free f.1 s (here ▸ mem)⟩

/-- A document with a title. -/
def titled (title : String) : Draft :=
  { rendered := { dialect := .markup, html := "", markup := some "Hello" }
    context := ⟨[("currentDate", .text "May 1, 2026"), ("documentNumber", .text "DOC-1")], default, []⟩
    options := { title := some title }
    template := { id := "t", name := "t", displayName := "t", content := .text "" } }

theorem of_titled (title : String) : ∃ doc, of (titled title) = .ok doc := ⟨_, rfl⟩

theorem date_titled (title : String) :
    Fields.get? "currentDate" (titled title).context.values = some (.text "May 1, 2026") := rfl

theorem number_titled (title : String) :
    (titled title).context.documentNumber = Options.optionalText (some "DOC-1") := rfl

theorem front_matter_reads_back_fenced :
    ∃ doc header behind, of (titled "Q: \"1\"\n---\n 'x'") = .ok doc ∧
      doc = fence ++ '\n' :: (header ++ '\n' :: (fence ++ '\n' :: behind)) ∧ fence ∉ splitBy isLineEnd header ∧
      Reader.read? (header ++ ['\n']) =
        some (known (titled "Q: \"1\"\n---\n 'x'") "May 1, 2026" (some "DOC-1")) := by
  obtain ⟨doc, built⟩ := of_titled "Q: \"1\"\n---\n 'x'"
  obtain ⟨header, behind, parts, single, reads⟩ := front_matter_reads_back_iff built (date_titled _) (number_titled _)
  have noNext : ∀ k s, (k, Value.text s) ∈ known (titled "Q: \"1\"\n---\n 'x'") "May 1, 2026" (some "DOC-1") →
      '\u0085' ∉ s.toList := by
    intro k s mem
    simp only [known, List.mem_cons, Prod.mk.injEq, Value.text.injEq, List.not_mem_nil, or_false, reduceCtorEq,
      and_false, false_or] at mem
    rcases mem with mem | mem | mem | mem | mem | mem | mem | mem
    all_goals
      rw [mem.2]
      decide
  exact ⟨doc, header, behind, built, parts, single, reads.mpr fun k s mem _ => noNext k s mem⟩

/-- A title with a next line between two letters is read with a blank there. -/
theorem front_matter_lost :
    ∃ doc header behind, of (titled "a\u0085b") = .ok doc ∧
      doc = fence ++ '\n' :: (header ++ '\n' :: (fence ++ '\n' :: behind)) ∧ fence ∉ splitBy isLineEnd header ∧
      (Reader.read? (header ++ ['\n'])).bind (Fields.get? "title") = some (.text "a b") ∧
      Reader.read? (header ++ ['\n']) ≠ some (known (titled "a\u0085b") "May 1, 2026" (some "DOC-1")) := by
  obtain ⟨doc, built⟩ := of_titled "a\u0085b"
  obtain ⟨header, behind, parts, single, reads⟩ := read?_frontMatter built (date_titled _) (number_titled _)
  have title : (Reader.read? (header ++ ['\n'])).bind (Fields.get? "title") = some (.text "a b") := by
    rw [reads]
    rfl
  refine ⟨doc, header, behind, built, parts, single, title, fun same => ?_⟩
  rw [same] at title
  exact absurd (Value.text.inj (Option.some.inj title)) (by decide)

end Letterpress.MarkdownFile
