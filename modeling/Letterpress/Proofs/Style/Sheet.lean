import Letterpress.Document.PrintPage
import Letterpress.Proofs.Document.Head
import Letterpress.Proofs.Style.Quoted
import Letterpress.Proofs.Text.Occurrence

/-!
# Style sheets of pages

The style rules in the pages of a document, and the names of fonts in them.

* `Style.EndsAt`: style rules that end where the page closes them.
* `Style.endsAt_iff`: of what the style rules are made up, only the names of fonts can end them early.
* `fonts_confined_iff`: which names of fonts stay within the style rules, and within their own quotation marks.
-/

namespace Letterpress

open Text

namespace Style

/-- What starts the end tag of style rules, in small letters. -/
def endTag : List Char := ['<', '/', 's', 't', 'y', 'l', 'e']

/-- Text with its letters small, as far as they are ASCII. -/
def lowered (cs : List Char) : List Char := cs.map Char.toLower

/-- Whether the end tag behind a start of a page is the first one of the page. -/
def EndsAt (page before : List Char) : Prop :=
  ∃ behind rest, page = before ++ "</style>".toList ++ behind ∧
    breakOn? endTag (lowered page) = some (lowered before, rest)

/-- The name of a font between its quotation marks. -/
def bare (name : String) : List Char := name.toList.filter (· != '"')

/-- A rule that gives elements a font, and what follows it where the font is missing. -/
structure FontUse where
  selector : String
  generic : String
  name : Option String

namespace FontUse

def front (u : FontUse) : List Char := u.selector.toList ++ " \x7b font-family: ".toList

def behind (u : FontUse) : List Char := ", ".toList ++ u.generic.toList ++ "; \x7d".toList

/-- The rule for a font. -/
def rule (u : FontUse) (n : String) : List Char := u.front ++ ('"' :: bare n ++ ['"']) ++ u.behind

def all (o : Options) : List FontUse :=
  [⟨"body", "sans-serif", o.fonts.body⟩, ⟨"h1, h2, h3, h4, h5, h6", "sans-serif", o.fonts.heading⟩,
    ⟨"code, pre", "monospace", o.fonts.monospace⟩]

end FontUse

/-- The lines of a text, each with its end. -/
def lines (ls : List (List Char)) : List Char := ls.flatMap (· ++ ['\n'])

/-! ## Lines in which no end tag begins -/

/-- Whether no end tag of style rules begins in a text, whatever follows it. -/
def isFree (cs : List Char) : Bool := avoids endTag (lowered cs)

variable {cs ds : List Char}

theorem lowered_append (cs ds : List Char) : lowered (cs ++ ds) = lowered cs ++ lowered ds := List.map_append

theorem endTag_ne_nil : endTag ≠ [] := by decide

theorem isFree_append (first : isFree cs = true) (second : isFree ds = true) : isFree (cs ++ ds) = true := by
  rw [isFree, lowered_append]
  exact avoids_append first second

theorem eq_of_toLower {c : Char} (same : c.toLower = '<') : c = '<' := by
  unfold Char.toLower at same
  split at same
  · rename_i upper
    have number : (c.val + ('a'.val - 'A'.val)).toNat = 60 := congrArg Char.toNat same
    have least : 65 ≤ c.val.toNat := UInt32.le_iff_toNat_le.mp upper.1
    have most : c.val.toNat ≤ 90 := UInt32.le_iff_toNat_le.mp upper.2
    rw [UInt32.toNat_add, show ('a'.val - 'A'.val).toNat = 32 from rfl] at number
    omega
  · exact same

theorem isFree_of_not_mem (none_ : '<' ∉ cs) : isFree cs = true := by
  refine avoids_of_not_mem fun member => ?_
  obtain ⟨c, member, same⟩ := List.mem_map.mp member
  exact none_ (eq_of_toLower same ▸ member)

/-- A start tag, whose name does not begin with a slash. -/
theorem isFree_tag {c : Char} (name : c.toLower ≠ '/') (none_ : '<' ∉ c :: cs) : isFree ('<' :: c :: cs) = true := by
  have rest : isFree (c :: cs) = true := isFree_of_not_mem none_
  have differs : clashes endTag (lowered ('<' :: c :: cs)) = true := by
    simpa [lowered, clashes, endTag] using Or.inl (Ne.symm name)
  exact Bool.and_eq_true_iff.mpr ⟨differs, rest⟩

theorem isFree_lines {ls : List (List Char)} (all : ∀ l ∈ ls, isFree l = true) : isFree (lines ls) = true := by
  rw [isFree, lowered, lines, List.map_flatMap]
  exact avoids_flatMap fun l member => isFree_append (all l member) rfl

theorem isFree_joinLines {ls : List (List Char)} (all : ∀ l ∈ ls, isFree l = true) :
    isFree (Fragment.joinLines ls) = true := by
  obtain rfl | ⟨front, last, rfl⟩ := List.eq_nil_or_concat ls
  · rfl
  · rw [List.concat_eq_append] at *
    rw [WebPage.joinLines_append front (List.cons_ne_nil last [])]
    exact isFree_append (isFree_lines fun l member => all l (List.mem_append_left _ member))
      (all last (List.mem_append_right _ List.mem_cons_self))

theorem isFree_escape (v : Value) : isFree (Fragment.escapeAttribute v) = true := by
  rw [WebPage.escapeAttribute_eq]
  exact isFree_of_not_mem (Hypertext.lt_not_mem_escape _)

/-! ## Names of fonts -/

/-- Whether no font that options name has an end tag of style rules in its name. -/
def KeepsTags (o : Options) : Prop :=
  ∀ u ∈ FontUse.all o, ∀ n, Options.given? u.name = some n → ¬endTag <:+: lowered (bare n)

theorem eq_of_given? {s n : String} (given : Options.given? (some s) = some n) : n = s := by
  obtain ⟨same, -⟩ := Option.filter_eq_some_iff.mp given
  exact (Option.some.inj same).symm

theorem fontRules_eq (o : Options) :
    Fragment.fontRules o =
      Fragment.joinLines ((FontUse.all o).filterMap fun u => (Options.given? u.name).map u.rule) := by
  have one (u : FontUse) : Fragment.fontRule u.selector u.generic u.name = (Options.given? u.name).map u.rule := by
    unfold Fragment.fontRule FontUse.rule FontUse.front FontUse.behind
    congr 1
    funext n
    simp only [Fragment.quotedFont, bare, List.append_assoc]
  rw [Fragment.fontRules, ← funext one]
  rfl

/-- A name is free of end tags if it is so without its quotation marks. -/
theorem isFree_quoted {n : String} (free : ¬endTag <:+: lowered (bare n)) : isFree ('"' :: bare n ++ ['"']) = true := by
  have closed : isFree (bare n ++ ['"']) = true := by
    rw [isFree, lowered_append]
    exact avoids_concat free (by decide)
  have opened : isFree ['"'] = true := rfl
  have whole : isFree (['"'] ++ (bare n ++ ['"'])) = true := isFree_append opened closed
  exact whole

theorem isFree_fontRules {o : Options} (keeps : KeepsTags o) : isFree (Fragment.fontRules o) = true := by
  rw [fontRules_eq]
  refine isFree_joinLines fun l member => ?_
  obtain ⟨u, use, named⟩ := List.mem_filterMap.mp member
  obtain ⟨n, given, rfl⟩ := Option.map_eq_some_iff.mp named
  have fixed : '<' ∉ u.front ∧ '<' ∉ u.behind := by
    have each : ∀ u ∈ FontUse.all o, '<' ∉ u.front ∧ '<' ∉ u.behind := by
      simp only [FontUse.all, List.forall_mem_cons, FontUse.front, FontUse.behind]
      repeat rw [String.toList_ofList]
      decide
    exact each u use
  exact isFree_append (isFree_append (isFree_of_not_mem fixed.1) (isFree_quoted (keeps u use n given)))
    (isFree_of_not_mem fixed.2)

theorem within_joinLines {ls : List (List Char)} {l : List Char} (member : l ∈ ls) : l <:+: Fragment.joinLines ls := by
  obtain ⟨front, back, rfl⟩ := List.append_of_mem member
  rw [WebPage.joinLines_append front (List.cons_ne_nil l back)]
  refine List.IsInfix.trans ?_ (List.suffix_append _ _).isInfix
  cases back with
  | nil => exact List.infix_rfl
  | cons m back => exact ⟨[], ['\n'] ++ Fragment.joinLines (m :: back), by simp [Fragment.joinLines, joinWith]⟩

theorem rule_within {o : Options} {u : FontUse} {n : String} (use : u ∈ FontUse.all o)
    (given : Options.given? u.name = some n) : u.rule n <:+: Fragment.fontRules o := by
  rw [fontRules_eq]
  exact within_joinLines (List.mem_filterMap.mpr ⟨u, use, by rw [given]; rfl⟩)

/-! ## Pages -/

theorem within_lines {ls : List (List Char)} {l : List Char} (member : l ∈ ls) : l <:+: lines ls := by
  obtain ⟨front, back, rfl⟩ := List.append_of_mem member
  exact ⟨lines front, '\n' :: lines back, by simp [lines]⟩

/-- Where all other lines are free of end tags, the style rules end at their own one exactly if that is so for the names
of all fonts. -/
theorem endsAt_iff {o : Options} {front back : List (List Char)} {ending : List Char}
    (first : ∀ l ∈ front, isFree l = true) (last : ∀ l ∈ back, isFree l = true) :
    EndsAt (lines (front ++ Fragment.fontRules o :: back) ++ "</style>".toList ++ ending)
      (lines (front ++ Fragment.fontRules o :: back)) ↔ KeepsTags o := by
  set before := lines (front ++ Fragment.fontRules o :: back)
  have closing : lowered (before ++ "</style>".toList ++ ending) =
      lowered before ++ (endTag ++ '>' :: lowered ending) := by
    rw [lowered_append, lowered_append, List.append_assoc]
    rfl
  constructor
  · rintro ⟨_, rest, -, found⟩ u use n given within
    have inside : endTag <:+: lowered before := by
      refine within.trans (List.IsInfix.map _ ?_)
      have name : bare n <:+: u.rule n := ⟨u.front ++ ['"'], '"' :: u.behind, by simp [FontUse.rule]⟩
      have rules : Fragment.fontRules o <:+: before := within_lines (List.mem_append_right _ List.mem_cons_self)
      exact (name.trans (rule_within use given)).trans rules
    -- The tag within the name is found at the latest, and that is before the end of the style rules.
    obtain ⟨cs, ds, split⟩ := inside
    obtain ⟨_, _, earlier, le⟩ := breakOn?_le endTag_ne_nil cs (ds ++ (endTag ++ '>' :: lowered ending))
    rw [closing, ← split, List.append_assoc (cs ++ endTag)] at found
    obtain ⟨rfl, -⟩ := Prod.mk.inj (Option.some.inj (earlier.symm.trans found))
    have filled : 0 < endTag.length := by decide
    simp only [List.length_append] at le
    omega
  · intro keeps
    have free : isFree before = true := by
      refine isFree_lines fun l member => ?_
      obtain earlier | here | later := (List.mem_append.mp member).imp_right List.mem_cons.mp
      · exact first l earlier
      · exact here ▸ isFree_fontRules keeps
      · exact last l later
    have own : breakOn? endTag (endTag ++ '>' :: lowered ending) = some ([], '>' :: lowered ending) :=
      breakOn?_of_dropPrefix? endTag_ne_nil (dropPrefix?_eq_some_iff.mpr rfl)
    have found := breakOn?_behind free own
    rw [List.append_nil, ← closing] at found
    exact ⟨_, _, rfl, found⟩

end Style

open Style

theorem isFree_pageRule {indent : String} {p : Page} (free : isFree indent.toList = true) (size : '<' ∉ p.size.toList)
    (margins : '<' ∉ p.margins.css.toList) : isFree (Fragment.pageRule indent p) = true := by
  have orientation : isFree p.orientation.name.toList = true := by cases p.orientation <;> decide
  have size : isFree p.size.toList = true := isFree_of_not_mem size
  have margins : isFree p.margins.css.toList = true := isFree_of_not_mem margins
  refine isFree_joinLines ?_
  simp only [List.map_cons, List.map_nil, List.forall_mem_cons, String.toList_append, toString]
  refine ⟨isFree_append free rfl, isFree_append free ?_, isFree_append free ?_, isFree_append free rfl, by simp⟩
  · exact isFree_append (isFree_append (isFree_append (isFree_append rfl size) rfl) orientation) rfl
  · exact isFree_append (isFree_append rfl margins) rfl

theorem isFree_watermarkRules : isFree Fragment.watermarkRules = true := by
  refine isFree_of_not_mem ?_
  simp only [Fragment.watermarkRules, Fragment.fixed, List.map_cons, List.map_nil]
  repeat rw [String.toList_ofList]
  decide

theorem isFree_signatureRules : isFree Fragment.signatureRules = true := by
  refine isFree_of_not_mem ?_
  simp only [Fragment.signatureRules, Fragment.fixed, List.map_cons, List.map_nil, String.toList_append]
  repeat rw [String.toList_ofList]
  decide

theorem isFree_optional {cs : List Char} (free : isFree cs = true) (b : Bool) :
    isFree (if b then cs else []) = true := by
  split
  · exact free
  · rfl

theorem isFree_language (lang : Option String) :
    isFree ("<html lang=\"".toList ++ Fragment.escapeOptional lang ++ "\">".toList) = true := by
  rw [String.toList_ofList, String.toList_ofList]
  exact isFree_append (isFree_append (isFree_tag (by decide) (by decide)) (isFree_escape _)) rfl

theorem isFree_title (title : List Char) :
    isFree ("<title>".toList ++ Hypertext.escape title ++ "</title>".toList) = true := by
  rw [String.toList_ofList, String.toList_ofList]
  exact isFree_append (isFree_append (isFree_tag (by decide) (by decide))
    (isFree_of_not_mem (Hypertext.lt_not_mem_escape _))) (by decide)

theorem isFree_metaTag {d : Draft} {x : String × Value} (member : x ∈ WebPage.description d) :
    isFree (WebPage.metaTag x.1 x.2) = true := by
  have name : '<' ∉ x.1.toList := WebPage.escape_name d x member ▸ Hypertext.lt_not_mem_escape _
  unfold WebPage.metaTag
  repeat rw [String.toList_ofList]
  exact isFree_append (isFree_append (isFree_append (isFree_append (isFree_tag (by decide) (by decide))
    (isFree_of_not_mem name)) (isFree_of_not_mem (by decide))) (isFree_escape _)) (isFree_of_not_mem (by decide))

namespace WebPage

/-- The lines up to the rules for fonts. -/
def ahead (d : Draft) : List (List Char) :=
  ["<!DOCTYPE html>".toList, "<html lang=\"".toList ++ Fragment.escapeOptional d.options.language ++ "\">".toList,
    "<head>".toList, "<meta charset=\"utf-8\">".toList,
    "<meta name=\"viewport\" content=\"width=device-width, initial-scale=1\">".toList] ++
    (description d).map (fun (name, v) => metaTag name v) ++
    ["<title>".toList ++ Hypertext.escape (d.options.titleFor d.template).toList ++ "</title>".toList,
      "<style>".toList, baseRules, if d.options.watermark.isEnabled then Fragment.watermarkRules else [],
      if d.options.hasSignatures then Fragment.signatureRules else []]

/-- The lines between the rules for fonts and the end of the style rules. -/
def behindFonts (d : Draft) : List (List Char) :=
  [d.template.css.toList, "@media print \x7b".toList, Fragment.pageRule "  " d.template.page,
    "  body \x7b max-width: none; padding: 0; \x7d".toList, "\x7d".toList]

/-- The page up to the tag that ends its style rules. -/
def upToRules (d : Draft) : List Char := lines (ahead d ++ Fragment.fontRules d.options :: behindFonts d)

theorem of_eq_upToRules (d : Draft) : ∃ ending, WebPage.of d = upToRules d ++ "</style>".toList ++ ending := by
  obtain ⟨ending, split⟩ : ∃ ending, WebPage.of d = Fragment.joinLines
      (ahead d ++ Fragment.fontRules d.options :: behindFonts d ++
        "</style>".toList :: "</head>".toList :: ending) := by
    apply Exists.intro
    unfold WebPage.of ahead behindFonts Fragment.rules
    simp only [List.append_assoc, List.cons_append, List.nil_append]
    rfl
  refine ⟨'\n' :: Fragment.joinLines ("</head>".toList :: ending), ?_⟩
  rw [split, joinLines_append _ (List.cons_ne_nil _ _), List.append_assoc]
  rfl

theorem isFree_baseRules : isFree baseRules = true := by
  refine isFree_of_not_mem ?_
  simp only [baseRules, Fragment.fixed, List.map_cons, List.map_nil, String.toList_append]
  repeat rw [String.toList_ofList]
  decide

theorem isFree_ahead (d : Draft) : ∀ l ∈ ahead d, isFree l = true := by
  simp only [ahead, List.forall_mem_append, List.forall_mem_cons, List.forall_mem_map]
  refine ⟨⟨⟨?_, isFree_language _, ?_, ?_, ?_, by simp⟩, fun x member => isFree_metaTag member⟩, isFree_title _, ?_,
    isFree_baseRules, isFree_optional isFree_watermarkRules _, isFree_optional isFree_signatureRules _, by simp⟩
  all_goals
    rw [String.toList_ofList]
    exact isFree_tag (by decide) (by decide)

theorem isFree_behindFonts {d : Draft} (css : '<' ∉ d.template.css.toList) (size : '<' ∉ d.template.page.size.toList)
    (margins : '<' ∉ d.template.page.margins.css.toList) : ∀ l ∈ behindFonts d, isFree l = true := by
  simp only [behindFonts, List.forall_mem_cons]
  refine ⟨isFree_of_not_mem css, ?_, isFree_pageRule rfl size margins, ?_, ?_, by simp⟩
  all_goals
    rw [String.toList_ofList]
    exact isFree_of_not_mem (by decide)

theorem endsAt_iff {d : Draft} (css : '<' ∉ d.template.css.toList) (size : '<' ∉ d.template.page.size.toList)
    (margins : '<' ∉ d.template.page.margins.css.toList) :
    EndsAt (WebPage.of d) (upToRules d) ↔ KeepsTags d.options := by
  obtain ⟨ending, page⟩ := of_eq_upToRules d
  rw [page]
  exact Style.endsAt_iff (isFree_ahead d) (isFree_behindFonts css size margins)

end WebPage

namespace PrintPage

/-- The lines up to the rules for fonts. -/
def ahead (d : Draft) : List (List Char) :=
  ["<!DOCTYPE html>".toList, "<html lang=\"".toList ++ Fragment.escapeOptional d.options.language ++ "\">".toList,
    "<head>".toList, "<meta charset=\"utf-8\">".toList,
    "<title>".toList ++ Hypertext.escape (d.options.titleFor d.template).toList ++ "</title>".toList,
    "<style>".toList, Fragment.pageRule "" d.template.page, bodyRule.toList,
    if d.options.watermark.isEnabled then Fragment.watermarkRules else [],
    if d.options.hasSignatures then Fragment.signatureRules else []]

/-- The page up to the tag that ends its style rules. -/
def upToRules (d : Draft) : List Char := lines (ahead d ++ Fragment.fontRules d.options :: [d.template.css.toList])

theorem of_eq_upToRules (d : Draft) : ∃ ending, PrintPage.of d = upToRules d ++ "</style>".toList ++ ending := by
  obtain ⟨ending, split⟩ : ∃ ending, PrintPage.of d = Fragment.joinLines
      (ahead d ++ Fragment.fontRules d.options :: [d.template.css.toList] ++ "</style>".toList ::
        "</head>".toList :: ending) := by
    apply Exists.intro
    unfold PrintPage.of ahead Fragment.rules
    simp only [List.append_assoc, List.cons_append, List.nil_append]
    rfl
  refine ⟨'\n' :: Fragment.joinLines ("</head>".toList :: ending), ?_⟩
  rw [split, WebPage.joinLines_append _ (List.cons_ne_nil _ _), List.append_assoc]
  rfl

theorem isFree_ahead {d : Draft} (size : '<' ∉ d.template.page.size.toList)
    (margins : '<' ∉ d.template.page.margins.css.toList) : ∀ l ∈ ahead d, isFree l = true := by
  simp only [ahead, bodyRule, List.forall_mem_cons]
  refine ⟨?_, isFree_language _, ?_, ?_, isFree_title _, ?_, isFree_pageRule rfl size margins, isFree_of_not_mem ?_,
    isFree_optional isFree_watermarkRules _, isFree_optional isFree_signatureRules _, by simp⟩
  all_goals
    rw [String.toList_ofList]
    first | exact isFree_tag (by decide) (by decide) | decide

theorem endsAt_iff {d : Draft} (css : '<' ∉ d.template.css.toList) (size : '<' ∉ d.template.page.size.toList)
    (margins : '<' ∉ d.template.page.margins.css.toList) :
    EndsAt (PrintPage.of d) (upToRules d) ↔ KeepsTags d.options := by
  obtain ⟨ending, page⟩ := of_eq_upToRules d
  rw [page]
  exact Style.endsAt_iff (isFree_ahead size margins) (by simpa using isFree_of_not_mem css)

end PrintPage

/-- Which names of fonts stay where they are put, for a template without opening brackets in its style rules. The style
rules of both pages end at their own tag exactly if no font has an end tag of style rules in its name, its quotation marks
left out. In both pages each font has a rule in which its name stands between quotation marks, and these enclose it exactly
if it is a wording of quoted text: no line end in it and no backslash that reaches beyond it. -/
theorem fonts_confined_iff {d : Draft} (css : '<' ∉ d.template.css.toList) (size : '<' ∉ d.template.page.size.toList)
    (margins : '<' ∉ d.template.page.margins.css.toList) :
    (EndsAt (WebPage.of d) (WebPage.upToRules d) ↔ KeepsTags d.options) ∧
    (EndsAt (PrintPage.of d) (PrintPage.upToRules d) ↔ KeepsTags d.options) ∧
    ∀ u ∈ FontUse.all d.options, ∀ n, Options.given? u.name = some n →
      u.rule n <:+: WebPage.upToRules d ∧ u.rule n <:+: PrintPage.upToRules d ∧
      ∀ rest,
        behindQuote? .ordinary (prepare (bare n ++ '"' :: (u.behind ++ rest))) = some (prepare (u.behind ++ rest)) ↔
        Wording (prepare (bare n)) := by
  refine ⟨WebPage.endsAt_iff css size margins, PrintPage.endsAt_iff css size margins, fun u use n given =>
    ⟨?_, ?_, fun rest => ?_⟩⟩
  · exact (rule_within use given).trans (within_lines (List.mem_append_right _ List.mem_cons_self))
  · exact (rule_within use given).trans (within_lines (List.mem_append_right _ List.mem_cons_self))
  · have noQuote : '"' ∉ bare n := by simp [bare]
    rw [prepare_append_quote]
    exact behindQuote?_eq_iff (quote_not_mem_prepare noQuote) _

/-- A draft with fonts for its text and its code. -/
def withFonts (body monospace : String) : Draft :=
  { rendered := default, context := default, options := { fonts := { body := some body, monospace := some monospace } },
    template := { id := "t", name := "t", displayName := "t", content := .text "", css := "p \x7b margin: 0; \x7d" } }

theorem fonts_confined_iff_courier :
    ('<' ∉ (withFonts "Gill \"Sans\"" "Courier\\").template.css.toList ∧
      '<' ∉ (withFonts "Gill \"Sans\"" "Courier\\").template.page.size.toList ∧
      '<' ∉ (withFonts "Gill \"Sans\"" "Courier\\").template.page.margins.css.toList) ∧
    EndsAt (WebPage.of (withFonts "Gill \"Sans\"" "Courier\\"))
      (WebPage.upToRules (withFonts "Gill \"Sans\"" "Courier\\")) ∧
    EndsAt (PrintPage.of (withFonts "Gill \"Sans\"" "Courier\\"))
      (PrintPage.upToRules (withFonts "Gill \"Sans\"" "Courier\\")) ∧
    (∀ rest, behindQuote? .ordinary (prepare ("Gill Sans\", sans-serif; \x7d".toList ++ rest)) =
      some (prepare (", sans-serif; \x7d".toList ++ rest))) ∧
    ∀ rest, behindQuote? .ordinary (prepare ("Courier\\\", monospace; \x7d".toList ++ rest)) ≠
      some (prepare (", monospace; \x7d".toList ++ rest)) := by
  have css : '<' ∉ (withFonts "Gill \"Sans\"" "Courier\\").template.css.toList := by decide
  have size : '<' ∉ (withFonts "Gill \"Sans\"" "Courier\\").template.page.size.toList := by decide
  have margins : '<' ∉ (withFonts "Gill \"Sans\"" "Courier\\").template.page.margins.css.toList := by decide
  obtain ⟨web, print, fonts⟩ := fonts_confined_iff css size margins
  have keeps : KeepsTags (withFonts "Gill \"Sans\"" "Courier\\").options := by
    rintro u use n given
    simp only [FontUse.all, withFonts, List.mem_cons, List.not_mem_nil, or_false] at use
    obtain rfl | rfl | rfl := use
    · obtain rfl := eq_of_given? given
      decide
    · cases given
    · obtain rfl := eq_of_given? given
      decide
  have sans := fonts ⟨"body", "sans-serif", some "Gill \"Sans\""⟩ List.mem_cons_self _ rfl
  have mono := fonts ⟨"code, pre", "monospace", some "Courier\\"⟩
    (List.mem_cons_of_mem _ (List.mem_cons_of_mem _ List.mem_cons_self)) _ rfl
  refine ⟨⟨css, size, margins⟩, web.mpr keeps, print.mpr keeps, fun rest => (sans.2.2 rest).mpr ?_,
    fun rest closed => ?_⟩
  · exact (behindQuote?_eq_iff (by decide) []).mp (by decide)
  · have wording : Wording (prepare (bare "Courier\\")) := (mono.2.2 rest).mp closed
    exact absurd ((behindQuote?_eq_iff (by decide) []).mpr wording) (by decide)

/-- A font can end the style rules, and then markup of its own follows; and where its name ends in a backslash or has a
line end in it, it reaches beyond its quotation marks. -/
theorem fonts_break_out :
    ¬EndsAt (WebPage.of (withFonts "</style><script>" "Courier"))
      (WebPage.upToRules (withFonts "</style><script>" "Courier")) ∧
    ¬EndsAt (PrintPage.of (withFonts "</style><script>" "Courier"))
      (PrintPage.upToRules (withFonts "</style><script>" "Courier")) ∧
    (∀ rest, behindQuote? .ordinary (prepare (bare "Courier\\" ++ '"' :: rest)) ≠ some (prepare rest)) ∧
    ∀ rest, behindQuote? .ordinary (prepare (bare "Courier\nNew" ++ '"' :: rest)) = none := by
  have names : ¬KeepsTags (withFonts "</style><script>" "Courier").options := fun keeps =>
    keeps ⟨"body", "sans-serif", some "</style><script>"⟩ List.mem_cons_self _ rfl (by decide)
  have css : '<' ∉ (withFonts "</style><script>" "Courier").template.css.toList := by decide
  have size : '<' ∉ (withFonts "</style><script>" "Courier").template.page.size.toList := by decide
  have margins : '<' ∉ (withFonts "</style><script>" "Courier").template.page.margins.css.toList := by decide
  refine ⟨fun ends => names ((WebPage.endsAt_iff css size margins).mp ends),
    fun ends => names ((PrintPage.endsAt_iff css size margins).mp ends), fun rest => ?_, fun rest => ?_⟩
  · rw [prepare_append_quote]
    intro closed
    have wording : Wording (prepare (bare "Courier\\")) := (behindQuote?_eq_iff (by decide) _).mp closed
    exact absurd ((behindQuote?_eq_iff (by decide) []).mpr wording) (by decide)
  · rw [prepare_append_quote]
    rfl

end Letterpress
