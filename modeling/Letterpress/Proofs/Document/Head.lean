import Letterpress.Document.WebPage
import Letterpress.Proofs.Hypertext.Token

/-!
# The head of a web page

What is known about a document stands in the head of its web page, and is read back unchanged.

* `WebPage.entry`: what the head says of one thing.
* `WebPage.of_eq`: the page as printed tokens before the style rules.
* `WebPage.head_reads_back`: the tokens of the page up to the style rules.
-/

namespace Letterpress

open Text Hypertext

namespace WebPage

/-- A value as text; nothing for none. -/
def shown : Value → List Char
  | .none => []
  | v => v.display

theorem escapeAttribute_eq (v : Value) : Fragment.escapeAttribute v = escape (shown v) := by cases v <;> rfl

def newline : Token := .text ['\n']

/-- A tag with a name and a content. -/
def entry (name : String) (content : List Char) : Token :=
  .start "meta" [("name", some name.toList), ("content", some content)]

/-- What is known about a document, as text. -/
def entries (d : Draft) : List Token :=
  (description d).flatMap fun (name, v) => [entry name (shown v), newline]

/-- The tokens before the style rules. -/
def head (d : Draft) : List Token :=
  [newline, .start "html" [("lang", some (shown (Options.optionalText d.options.language)))], newline, .start "head" [],
    newline, .start "meta" [("charset", some "utf-8".toList)], newline,
    entry "viewport" "width=device-width, initial-scale=1".toList, newline] ++ entries d ++
    [.start "title" [], .text (d.options.titleFor d.template).toList, .stop "title", newline]

theorem metaTag_eq {name : String} (plain : escape name.toList = name.toList) (v : Value) :
    metaTag name v = (entry name (shown v)).print := by
  have opening : "<meta name=\"".toList = '<' :: ("meta".toList ++ ' ' :: ("name".toList ++ ['=', '"'])) := rfl
  have middle : "\" content=\"".toList = '"' :: ' ' :: ("content".toList ++ ['=', '"']) := rfl
  have closing : "\">".toList = ['"', '>'] := rfl
  unfold metaTag
  rw [opening, middle, closing, escapeAttribute_eq, entry, Token.print]
  simp only [printAttributes, printAttribute, plain, List.flatMap_cons, List.flatMap_nil, List.append_assoc,
    List.cons_append, List.nil_append]

/-- Lines, each with its end, and the lines behind them. -/
theorem joinLines_append (xs : List (List Char)) {ys : List (List Char)} (some_ : ys ≠ []) :
    Fragment.joinLines (xs ++ ys) = xs.flatMap (· ++ ['\n']) ++ Fragment.joinLines ys := by
  obtain ⟨y, ys, rfl⟩ := List.exists_cons_of_ne_nil some_
  induction xs with
  | nil => rfl
  | cons x xs ih =>
    have first : Fragment.joinLines (x :: (xs ++ y :: ys)) = x ++ ['\n'] ++ Fragment.joinLines (xs ++ y :: ys) := by
      cases xs <;> rfl
    rw [List.cons_append, first, ih, List.flatMap_cons, List.append_assoc, List.append_assoc, List.append_assoc]

/-- The names of what is known are written as they are. -/
theorem escape_name (d : Draft) : ∀ x ∈ description d, escape x.1.toList = x.1.toList := by
  intro x member
  have names : (description d).map Prod.fst =
      ["generator", "author", "description", "keywords", "document-id", "creation-date", "revision"] := rfl
  have plain : ∀ name ∈ ["generator", "author", "description", "keywords", "document-id", "creation-date", "revision"],
      escape name.toList = name.toList := by decide
  exact plain x.1 (names ▸ List.mem_map_of_mem member)

/-- The lines of the description are the tokens of its entries. -/
theorem flatMap_metaTag (d : Draft) :
    ((description d).map fun (name, v) => metaTag name v).flatMap (· ++ ['\n']) = (entries d).flatMap Token.print := by
  have one : ∀ x ∈ description d, metaTag x.1 x.2 ++ ['\n'] = [entry x.1 (shown x.2), newline].flatMap Token.print := by
    intro x member
    rw [metaTag_eq (escape_name d x member)]
    rfl
  rw [entries, List.flatMap_map, List.flatMap_assoc, List.flatMap_def, List.flatMap_def]
  exact congrArg List.flatten (List.map_congr_left one)

theorem print_html (lang : Option String) :
    "<html lang=\"".toList ++ Fragment.escapeOptional lang ++ "\">".toList =
      Token.print (.start "html" [("lang", some (shown (Options.optionalText lang)))]) := by
  have opening : "<html lang=\"".toList = '<' :: ("html".toList ++ ' ' :: ("lang".toList ++ ['=', '"'])) := rfl
  have closing : "\">".toList = ['"', '>'] := rfl
  rw [opening, closing, Fragment.escapeOptional, escapeAttribute_eq, Token.print]
  simp only [printAttributes, printAttribute, List.flatMap_cons, List.flatMap_nil, List.append_assoc,
    List.cons_append, List.nil_append]

theorem print_title (title : List Char) :
    "<title>".toList ++ escape title ++ "</title>".toList =
      [Token.start "title" [], .text title, .stop "title"].flatMap Token.print := by
  have opening : "<title>".toList = Token.print (.start "title" []) := rfl
  have closing : "</title>".toList = Token.print (.stop "title") := rfl
  rw [opening, closing]
  simp only [List.flatMap_cons, List.flatMap_nil, List.append_nil, List.append_assoc]
  rfl

/-- The page as its head and what follows it. -/
theorem of_eq (d : Draft) :
    ∃ behind, WebPage.of d =
      "<!DOCTYPE html>".toList ++ ((head d).flatMap Token.print ++ '<' :: ("style".toList ++ '>' :: behind)) := by
  -- Nothing is needed of the lines behind the opening of the style rules.
  obtain ⟨rules, split⟩ : ∃ rules, WebPage.of d = Fragment.joinLines
      (("<!DOCTYPE html>".toList :: ("<html lang=\"".toList ++ Fragment.escapeOptional d.options.language ++ "\">".toList) ::
        "<head>".toList :: "<meta charset=\"utf-8\">".toList ::
        "<meta name=\"viewport\" content=\"width=device-width, initial-scale=1\">".toList ::
        ((description d).map (fun (name, v) => metaTag name v) ++
          ["<title>".toList ++ escape (d.options.titleFor d.template).toList ++ "</title>".toList])) ++
        "<style>".toList :: baseRules :: rules) := by
    apply Exists.intro
    unfold WebPage.of
    simp only [List.append_assoc, List.cons_append, List.nil_append]
    rfl
  have style : Fragment.joinLines ("<style>".toList :: baseRules :: rules) =
      '<' :: ("style".toList ++ '>' :: '\n' :: Fragment.joinLines (baseRules :: rules)) := rfl
  have charset : "<meta charset=\"utf-8\">".toList =
      Token.print (.start "meta" [("charset", some "utf-8".toList)]) := rfl
  have viewport : "<meta name=\"viewport\" content=\"width=device-width, initial-scale=1\">".toList =
      (entry "viewport" "width=device-width, initial-scale=1".toList).print := rfl
  have opening : "<head>".toList = Token.print (.start "head" []) := rfl
  have end_ : ['\n'] = newline.print := rfl
  refine ⟨'\n' :: Fragment.joinLines (baseRules :: rules), ?_⟩
  rw [split, joinLines_append _ (List.cons_ne_nil _ _), style]
  simp only [List.flatMap_cons, List.flatMap_append, List.flatMap_nil]
  rw [flatMap_metaTag, print_html, print_title, charset, viewport, opening, end_]
  simp only [head, List.flatMap_cons, List.flatMap_append, List.flatMap_nil, List.append_assoc, List.append_nil]

theorem isPlain_head (d : Draft) : ∀ t ∈ head d, t.isPlain = true := by
  refine List.all_eq_true.mp ?_
  simp only [head, entries, description, newline, entry, List.flatMap_cons, List.flatMap_nil, List.cons_append,
    List.nil_append, List.append_nil, List.all_cons, List.all_nil, Token.isPlain, isPlainAttribute, Option.isSome_some]
  rfl

/-- The page is read as its head, the start of its style rules and whatever comes of what follows. -/
theorem ofHypertext_of (d : Draft) :
    ∃ behind fault, Token.ofHypertext (WebPage.of d) =
      ⟨Token.fused [] (head d) ++ [.start "style" []] ++ behind, fault⟩ := by
  -- The declaration is stepped over, the head is printed tokens, and the style rules begin as raw content, so what
  -- stands in them cannot be read as a part of the head.
  obtain ⟨rules, page⟩ := of_eq d
  set behind : List Char := '<' :: ("style".toList ++ '>' :: rules) with behind_eq
  have declaration : Event.markup? ('!' :: ("DOCTYPE html>".toList ++ ((head d).flatMap Token.print ++ behind))) =
      .ok (some ⟨[], none, (head d).flatMap Token.print ++ behind⟩) := rfl
  have style : Event.markup? ("style".toList ++ '>' :: rules) = .ok (some ⟨[.start "style"], some "style", rules⟩) := rfl
  have bare : StartTag.attributeList Event.ordinary ("style".toList ++ '>' :: rules) = [] := rfl
  have fits : (escape [] ++ ((head d).flatMap Token.print ++ behind)).length ≤ (WebPage.of d).length := by
    rw [page]
    exact Nat.le_trans (Nat.le_add_left _ _) List.length_append.ge
  obtain ⟨left, enough, read⟩ := Token.scan_print (isPlain_head d) (.inr ⟨_, behind_eq⟩) fits
  rw [behind_eq, List.length_cons] at enough
  obtain ⟨left, rfl⟩ : ∃ n, left = n + 1 := ⟨left - 1, by omega⟩
  have nothing (r : Token.Reading) : r.behind [] = r := rfl
  have first : Token.ofHypertext (WebPage.of d) =
      (Token.scan (WebPage.of d).length none ((head d).flatMap Token.print ++ behind)).behind [] := by
    have opened : WebPage.of d =
        '<' :: '!' :: ("DOCTYPE html>".toList ++ ((head d).flatMap Token.print ++ behind)) := page
    exact (congrArg (Token.scan _ none) opened).trans (Token.scan_markup declaration _)
  have last : Token.scan (left + 1) none behind = (Token.scan left (some "style") rules).behind [.start "style" []] := by
    rw [behind_eq, Token.scan_markup style, bare]
    rfl
  have before : Token.scan (WebPage.of d).length none ((head d).flatMap Token.print ++ behind) =
      (Token.scan (left + 1) none behind).behind (Token.fused [] (head d)) := read
  refine ⟨(Token.scan left (some "style") rules).tokens, (Token.scan left (some "style") rules).fault, ?_⟩
  rw [first, nothing, before, last, Token.behind_append, Token.Reading.behind]

/-- What is known about a document is read back from its page unchanged: before the style rules stand the tags of the
head, in an order that does not depend on it, with its language, its title and an entry for each thing. -/
theorem head_reads_back (d : Draft) :
    ∃ behind fault, Token.ofHypertext (WebPage.of d) =
      ⟨[newline, .start "html" [("lang", some (shown (Options.optionalText d.options.language)))], newline,
        .start "head" [], newline, .start "meta" [("charset", some "utf-8".toList)], newline,
        entry "viewport" "width=device-width, initial-scale=1".toList, newline,
        entry "generator" Fragment.creator.toList, newline,
        entry "author" (shown (Options.optionalText d.options.author)), newline,
        entry "description" (shown (Fragment.subject d.template d.options)), newline,
        entry "keywords" (", ".intercalate (Fragment.keywords d.template d.options)).toList, newline,
        entry "document-id" (shown d.context.documentNumber), newline,
        entry "creation-date" (shown ((Fields.get? "currentDate" d.context.values).getD .none)), newline,
        entry "revision" (shown (.int d.options.revision)), newline, .start "title" []] ++
        Token.ofText (d.options.titleFor d.template).toList ++ [.stop "title", newline, .start "style" []] ++ behind,
      fault⟩ := by
  obtain ⟨behind, fault, read⟩ := ofHypertext_of d
  have line : Token.ofText ['\n'] = [newline] := rfl
  refine ⟨behind, fault, ?_⟩
  rw [read]
  simp only [head, entries, description, List.flatMap_cons, List.flatMap_nil, List.cons_append, List.nil_append,
    List.append_assoc, Token.fused, entry, newline] at line ⊢
  simp only [line, List.cons_append, List.nil_append]
  rfl

end WebPage

end Letterpress
