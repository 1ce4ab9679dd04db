import Letterpress.Hypertext.Token
import Letterpress.Proofs.Hypertext.Printing

/-!
# Printed tokens

Hypertext that is made of plain tags, of attributes with escaped values and of escaped text is read back as what it was
made of: nothing that is escaped is taken for markup, ends a value or starts an attribute.

* `Token.events_ofHypertext`: the events of the tokens of a text are the events of the text.
* `StartTag.scan_printAttributes`: a start tag with attributes.
* `Token.scan_print`: printed tokens are read back, with texts that follow each other as one, before whatever tag comes.
* `Event.ofHypertext_print`: so are printed events.
-/

namespace Letterpress.Hypertext

open Text

/-! ## Tokens and events -/

namespace Token

theorem event_ofEvent (attributes : List Attribute) (e : Event) : (ofEvent attributes e).event = e := by cases e <;> rfl

theorem map_event_ofText (cs : List Char) : (ofText cs).map event = Event.ofText cs := by
  rw [ofText, Event.ofText]
  split <;> rfl

theorem events_behind (tokens : List Token) (r : Reading) :
    (r.behind tokens).events = r.events.map (tokens.map event ++ ·) := by
  obtain ⟨more, fault⟩ := r
  cases fault with
  | none => simp [Reading.behind, Reading.events, Except.map]
  | some fault => rfl

theorem events_scan (fuel : Nat) (raw : Option String) (cs : List Char) :
    (scan fuel raw cs).events = Event.scan fuel raw cs := by
  have joined (tokens : List Token) {events : List Event} (same : tokens.map event = events) {r : Reading}
      {read : Except Fault (List Event)} (rest : r.events = read) :
      (r.behind tokens).events = read.map (events ++ ·) := by
    rw [events_behind, same, rest]
  fun_induction scan fuel raw cs with
  | case1 => rfl
  | case2 => simp [Event.scan, Reading.events]
  | case3 fuel tag cs filled none_ =>
    rw [Event.scan, none_]
    · rfl
    · exact filled
  | case4 fuel tag cs filled content rest found ih =>
    have tokens : (ofText content ++ [stop tag]).map event = Event.ofText content ++ [.stop tag] := by
      rw [List.map_append, map_event_ofText]
      rfl
    rw [joined _ tokens ih, Event.scan, found]
    · simp only [bind, Except.bind]
      cases Event.scan fuel none rest with
      | error fault => rfl
      | ok events => simp [Except.map, pure, Except.pure]
    · exact filled
  | case5 fuel cs fault markup =>
    rw [Event.scan, markup]
    rfl
  | case6 fuel cs m markup ih =>
    have tokens : (m.events.map (ofEvent (StartTag.attributeList Event.ordinary cs))).map event = m.events := by
      rw [List.map_map]
      exact (List.map_congr_left fun e _ => event_ofEvent _ e).trans (List.map_id _)
    rw [joined _ tokens ih, Event.scan, markup]
    simp only [bind, Except.bind]
    cases Event.scan fuel m.raw m.rest <;> rfl
  | case7 fuel cs markup literal rest split ih =>
    rw [joined [text (unescape literal)] rfl ih, Event.scan, markup]
    simp only [bind, Except.bind, split]
    cases Event.scan fuel none rest <;> rfl
  | case8 fuel cs filled plain ih =>
    rw [joined [text _] rfl ih, Event.scan]
    · cases Event.scan fuel none (cs.dropWhile (· != '<')) <;> rfl
    · exact filled
    · exact plain

/-- The events of the tokens of a text are the events of the text. -/
theorem events_ofHypertext (cs : List Char) : (ofHypertext cs).events = Event.ofHypertext cs := events_scan ..

end Token

/-! ## Attributes -/

variable {cs name rest : List Char} {attributes : List Attribute}

theorem quote_not_mem_escape (cs : List Char) : '"' ∉ escape cs := by
  have one (c : Char) : '"' ∉ named.char c := by
    unfold EscapeStyle.char
    split
    all_goals first | decide | skip
    rename_i noQuote _
    exact fun member => noQuote (List.mem_singleton.mp member).symm
  intro member
  obtain ⟨c, -, within⟩ := List.mem_flatMap.mp member
  exact one c within

/-- An attribute as hypertext. -/
def printAttribute : Attribute → List Char
  | (name, none) => name.toList
  | (name, some value) => name.toList ++ '=' :: '"' :: escape value ++ ['"']

/-- Attributes as hypertext, and the end of the tag that they are in. -/
def printAttributes (attributes : List Attribute) (rest : List Char) : List Char :=
  attributes.flatMap (fun a => ' ' :: printAttribute a) ++ '>' :: rest

/-- Attributes that are printed with quotes. -/
def isPlainAttribute (a : Attribute) : Bool := isPlainName a.1.toList && a.2.isSome

namespace StartTag

/-- Where the reading of printed attributes starts: behind a blank, or at the end of the tag. -/
def atAttributes (before : Char) (rest : List Char) : List Attribute → Cursor
  | [] => ⟨before, '>' :: rest⟩
  | a :: attributes => ⟨' ', printAttribute a ++ printAttributes attributes rest⟩

/-- Printed attributes start with a plain character. -/
theorem exists_cons_of_isPlainAttribute {a : Attribute} (plain : isPlainAttribute a = true) :
    ∃ c cs, printAttribute a = c :: cs ∧ isPlainChar c = true := by
  obtain ⟨name, value⟩ := a
  simp only [isPlainAttribute, Bool.and_eq_true] at plain
  obtain ⟨c, cs, split, -, first, -⟩ := exists_cons_of_isPlainName plain.1
  cases value with
  | none => cases plain.2
  | some value => exact ⟨c, _, by rw [printAttribute, split]; rfl, first⟩

theorem printAttributes_cons (a : Attribute) (attributes : List Attribute) (rest : List Char) :
    printAttributes (a :: attributes) rest = ' ' :: (printAttribute a ++ printAttributes attributes rest) := by
  simp [printAttributes]

theorem skipGapFrom_stop {c : Char} (shown : isBlank c = false) (noSlash : c ≠ '/') (before : Char) (cs : List Char) :
    skipGapFrom before (c :: cs) = ⟨before, c :: cs⟩ := by
  unfold skipGapFrom
  split
  · rename_i same
    cases same
  · rename_i same
    exact absurd (List.cons.inj same).1 noSlash
  · rename_i same
    obtain ⟨rfl, rfl⟩ := List.cons.inj same
    simp [shown, noSlash]

theorem skipGap_printAttributes (plain : ∀ a ∈ attributes, isPlainAttribute a = true) (before : Char) :
    skipGap ⟨before, printAttributes attributes rest⟩ = atAttributes before rest attributes := by
  cases attributes with
  | nil =>
    have ends : printAttributes [] rest = '>' :: rest := rfl
    rw [ends, skipGap, skipGapFrom_stop (by decide) (by decide), atAttributes]
  | cons a attributes =>
    obtain ⟨c, cs, split, first⟩ := exists_cons_of_isPlainAttribute (plain a List.mem_cons_self)
    obtain ⟨-, -, shown, -, noSlash, -⟩ := plainChar_spec first
    have blank : skipGapFrom before (' ' :: c :: (cs ++ printAttributes attributes rest)) =
        skipGapFrom ' ' (c :: (cs ++ printAttributes attributes rest)) := rfl
    rw [skipGap, printAttributes_cons, split, List.cons_append, blank, skipGapFrom_stop shown noSlash, atAttributes,
      split, List.cons_append]

theorem value?_quoted (value rest : List Char) (before : Char) :
    value? Event.ordinary ⟨before, '=' :: '"' :: (escape value ++ '"' :: rest)⟩ = some ⟨'"', rest⟩ ∧
      writtenValue ⟨before, '=' :: '"' :: (escape value ++ '"' :: rest)⟩ ⟨'"', rest⟩ = escape value := by
  have free : ∀ c ∈ escape value, (c != '"') = true := fun c member =>
    bne_iff_ne.mpr fun same => quote_not_mem_escape value (same ▸ member)
  have closes : closeQuote? '"' (escape value ++ '"' :: rest) = some ⟨'"', rest⟩ := by
    rw [closeQuote?, dropWhile_append_stop free (by decide)]
  have inside : (escape value ++ '"' :: rest).takeWhile (· != '"') = escape value := takeWhile_append_stop free (by decide)
  have signs : Cursor.skipWhile isBlank ⟨before, '=' :: '"' :: (escape value ++ '"' :: rest)⟩ =
      ⟨before, '=' :: '"' :: (escape value ++ '"' :: rest)⟩ := Cursor.skipWhile_stop (by decide) before
  have behind : Cursor.skipWhile (· == '=') ⟨before, '=' :: '"' :: (escape value ++ '"' :: rest)⟩ =
      ⟨'=', '"' :: (escape value ++ '"' :: rest)⟩ := rfl
  have start : Cursor.skipWhile isBlank ⟨'=', '"' :: (escape value ++ '"' :: rest)⟩ =
      ⟨'=', '"' :: (escape value ++ '"' :: rest)⟩ := Cursor.skipWhile_stop (by decide) '='
  constructor
  · simp [value?, signs, behind, start, closes]
  · simp [writtenValue, signs, behind, start, closes, inside]

/-- The name of an attribute ends at the equals sign behind it. -/
theorem exists_skipFrom_name (plain : isPlainName name = true) (rest : List Char) :
    ∃ c cs before, name = c :: cs ∧ isPlainChar c = true ∧
      Cursor.skipFrom (fun d => !(isBlank d || d == '/' || d == '=' || d == '>')) c (cs ++ '=' :: rest) =
        ⟨before, '=' :: rest⟩ := by
  obtain ⟨c, cs, split, -, first, others⟩ := exists_cons_of_isPlainName plain
  have within : ∀ d ∈ cs, (!(isBlank d || d == '/' || d == '=' || d == '>')) = true := by
    intro d member
    obtain ⟨-, isName, shown, noEnd, noSlash, -⟩ := plainChar_spec (others d member)
    have sign : Event.isEndName '=' = false := by decide
    have noSign : d ≠ '=' := fun same => by
      rw [same, sign] at isName
      cases isName
    simp [shown, noEnd, noSlash, noSign]
  exact ⟨c, cs, _, split, first, Cursor.skipFrom_append within (by decide) c⟩

/-- A printed attribute is read as it is. -/
theorem attribute?_printAttribute {a : Attribute} (plain : isPlainAttribute a = true) (rest : List Char) :
    attribute? Event.ordinary ⟨' ', printAttribute a ++ rest⟩ = some (skipGap ⟨'"', rest⟩) ∧
      attributeAt Event.ordinary ⟨' ', printAttribute a ++ rest⟩ = a := by
  obtain ⟨name, value⟩ := a
  simp only [isPlainAttribute, Bool.and_eq_true] at plain
  obtain ⟨plain, written⟩ := plain
  cases value with
  | none => cases written
  | some value =>
    set behind : List Char := '"' :: (escape value ++ '"' :: rest) with behind_eq
    obtain ⟨c, cs, before, split, first, ends⟩ := exists_skipFrom_name plain behind
    obtain ⟨-, -, shown, noEnd, noSlash, -⟩ := plainChar_spec first
    obtain ⟨valued, text⟩ := value?_quoted value rest before
    rw [← behind_eq] at valued text
    have whole : printAttribute (name, some value) ++ rest = c :: (cs ++ '=' :: behind) := by
      simp [printAttribute, split, behind_eq]
    have small : Event.lowered (c :: cs) = name := by
      rw [← split, Event.lowered, lower, lowerAfter_of_plain [] (isPlainChar_of_isPlainName plain), String.ofList_toList]
    have taken : (c :: (cs ++ '=' :: behind)).take ((c :: (cs ++ '=' :: behind)).length - ('=' :: behind).length) =
        c :: cs := by
      rw [← List.cons_append, List.length_append, Nat.add_sub_cancel, List.take_left]
    have opens : (!(' ' == '"' || ' ' == '\'' || ' ' == '/' || isBlank ' ')) = false := by decide
    have starts : (isBlank c || c == '/' || c == '>' || Event.ordinary.isForeign c) = false := by
      simp [shown, noEnd, noSlash, Event.ordinary]
    rw [whole]
    constructor
    · simp only [attribute?, opens, starts, Bool.false_eq_true, if_false]
      rw [ends, valued]
      rfl
    · simp only [attributeAt]
      rw [ends, taken, small, valued, Option.map_some, text, unescape_escape]

/-- Printed attributes are read to the end of the tag. -/
theorem attributes_printAttributes {fuel : Nat} (plain : ∀ a ∈ attributes, isPlainAttribute a = true)
    (enough : attributes.length ≤ fuel) (before : Char) (rest : List Char) :
    StartTag.attributes Event.ordinary (atAttributes before rest attributes) fuel =
        (⟨if attributes = [] then before else '"', '>' :: rest⟩, !attributes.isEmpty) ∧
      attributesFrom Event.ordinary (atAttributes before rest attributes) fuel = attributes := by
  induction attributes generalizing before fuel with
  | nil =>
    have none_ : attribute? Event.ordinary ⟨before, '>' :: rest⟩ = none := by simp [attribute?]
    cases fuel with
    | zero => exact ⟨rfl, rfl⟩
    | succ fuel =>
      rw [atAttributes, StartTag.attributes, attributesFrom, none_]
      exact ⟨rfl, rfl⟩
  | cons a attributes ih =>
    obtain ⟨here, later⟩ := List.forall_mem_cons.mp plain
    obtain ⟨fuel, rfl⟩ : ∃ n, fuel = n + 1 := ⟨fuel - 1, by simp at enough; omega⟩
    obtain ⟨next, found⟩ := attribute?_printAttribute here (printAttributes attributes rest)
    obtain ⟨cursor, values⟩ := ih later (Nat.le_of_succ_le_succ enough) '"'
    rw [skipGap_printAttributes later] at next
    rw [atAttributes, StartTag.attributes, attributesFrom, next]
    simp only [cursor, values, found]
    exact ⟨by cases attributes <;> rfl, trivial⟩

theorem length_lt_printAttributes (attributes : List Attribute) (rest : List Char) :
    attributes.length < (printAttributes attributes rest).length := by
  induction attributes with
  | nil => simp [printAttributes]
  | cons a attributes ih =>
    rw [printAttributes_cons]
    simp only [List.length_cons, List.length_append]
    omega

theorem length_le_atAttributes (before : Char) (rest : List Char) (attributes : List Attribute) :
    attributes.length ≤ (atAttributes before rest attributes).rest.length := by
  cases attributes with
  | nil => exact Nat.zero_le _
  | cons a attributes =>
    have behind := length_lt_printAttributes attributes rest
    simp only [atAttributes, List.length_cons, List.length_append]
    omega

/-- Blanks and slashes before printed attributes. -/
theorem skipWhile_printAttributes (plain : ∀ a ∈ attributes, isPlainAttribute a = true) (before : Char) :
    Cursor.skipWhile (fun c => isBlank c || c == '/') ⟨before, printAttributes attributes rest⟩ =
      atAttributes before rest attributes := by
  cases attributes with
  | nil => exact Cursor.skipWhile_stop (by decide) before
  | cons a attributes =>
    obtain ⟨c, cs, split, first⟩ := exists_cons_of_isPlainAttribute (plain a List.mem_cons_self)
    obtain ⟨-, -, shown, -, noSlash, -⟩ := plainChar_spec first
    have stops : (isBlank c || c == '/') = false := by simp [shown, noSlash]
    rw [printAttributes_cons, atAttributes, split, List.cons_append]
    exact Cursor.skipWhile_stop (p := fun c => isBlank c || c == '/') stops ' '

/-- A start tag with printed attributes is read as it is. -/
theorem scan_printAttributes (named : isPlainName name = true) (plain : ∀ a ∈ attributes, isPlainAttribute a = true)
    (rest : List Char) :
    scan Event.ordinary (name ++ printAttributes attributes rest) = .tag name false rest ∧
      attributeList Event.ordinary (name ++ printAttributes attributes rest) = attributes := by
  have chars := isPlainChar_of_isPlainName named
  have isName : ∀ d ∈ name, (!(isNameEnd d || Event.ordinary.isForeign d)) = true := by
    intro d member
    simp [(plainChar_spec (chars d member)).1, Event.ordinary]
  obtain ⟨d, behind, ends, stops⟩ : ∃ d behind, printAttributes attributes rest = d :: behind ∧
      (!(isNameEnd d || Event.ordinary.isForeign d)) = false := by
    cases attributes with
    | nil => exact ⟨'>', rest, rfl, by decide⟩
    | cons a attributes => exact ⟨' ', _, printAttributes_cons a attributes rest, by decide⟩
  set last : Char := ('<' :: name).getLast (List.cons_ne_nil _ _) with last_eq
  have noSlash : (last == '/') = false := by
    obtain ⟨c, cs, split, -⟩ := exists_cons_of_isPlainName named
    have member : last ∈ name := by
      rw [last_eq, List.getLast_cons (by rw [split]; exact List.cons_ne_nil _ _)]
      exact List.getLast_mem _
    exact beq_eq_false_iff_ne.mpr (plainChar_spec (chars last member)).2.2.2.2.1
  have taken : (name ++ printAttributes attributes rest).takeWhile
      (fun c => !(isNameEnd c || Event.ordinary.isForeign c)) = name := by
    rw [ends, takeWhile_append_stop isName stops]
  have skipped : Cursor.skipFrom (fun c => !(isNameEnd c || Event.ordinary.isForeign c)) '<'
      (name ++ printAttributes attributes rest) = ⟨last, printAttributes attributes rest⟩ := by
    rw [ends, Cursor.skipFrom_append isName stops]
  obtain ⟨cursor, values⟩ :=
    attributes_printAttributes plain (length_le_atAttributes last rest attributes) last rest
  constructor
  · simp only [scan, taken, skipped, skipWhile_printAttributes plain, cursor]
    rw [Cursor.skipWhile_stop (by decide)]
    cases attributes with
    | nil => simp [noSlash]
    | cons a attributes => rfl
  · rw [attributeList, skipped, skipGap_printAttributes plain, values]

end StartTag

/-! ## Reading back -/

namespace Token

/-- A token as hypertext. -/
def print : Token → List Char
  | start tag attributes => '<' :: (tag.toList ++ printAttributes attributes [])
  | stop tag => '<' :: '/' :: tag.toList ++ ['>']
  | text cs => escape cs

/-- Tokens that are printed so that they can be read back: tags with plain names, of elements that contain hypertext. -/
def isPlain : Token → Bool
  | start tag attributes =>
    isPlainName tag.toList && !Event.rawElements.contains tag && attributes.all isPlainAttribute
  | stop tag => isPlainName tag.toList && !Event.rawElements.contains tag
  | text _ => true

/-- Tokens with texts that follow each other as one, given the text before them. -/
def fused (cs : List Char) : List Token → List Token
  | [] => ofText cs
  | text ds :: ts => fused (cs ++ ds) ts
  | start tag attributes :: ts => ofText cs ++ start tag attributes :: fused [] ts
  | stop tag :: ts => ofText cs ++ stop tag :: fused [] ts

theorem printAttributes_append (attributes : List Attribute) (rest : List Char) :
    printAttributes attributes [] ++ rest = printAttributes attributes rest := by
  simp [printAttributes]

theorem behind_append (ts us : List Token) (r : Reading) : (r.behind us).behind ts = r.behind (ts ++ us) := by
  simp [Reading.behind]

theorem markup?_start {tag : String} (plain : (start tag attributes).isPlain = true) (rest : List Char) :
    Event.markup? (tag.toList ++ printAttributes attributes rest) = .ok (some ⟨[.start tag], none, rest⟩) ∧
      StartTag.attributeList Event.ordinary (tag.toList ++ printAttributes attributes rest) = attributes := by
  simp only [isPlain, Bool.and_eq_true, Bool.not_eq_true', List.all_eq_true] at plain
  obtain ⟨⟨named, parsed⟩, attributed⟩ := plain
  obtain ⟨scanned, values⟩ := StartTag.scan_printAttributes named attributed rest
  refine ⟨?_, values⟩
  have small : Event.lowered tag.toList = tag := by
    rw [Event.lowered, lower, lowerAfter_of_plain [] (isPlainChar_of_isPlainName named), String.ofList_toList]
  have tagged : Event.startTag? (tag.toList ++ printAttributes attributes rest) = some ⟨[.start tag], none, rest⟩ := by
    simp only [Event.startTag?, scanned, small, parsed]
    rfl
  obtain ⟨c, cs, split, letter, -⟩ := exists_cons_of_isPlainName named
  rw [split, List.cons_append] at tagged ⊢
  rw [Event.markup?, if_pos letter, tagged]
  all_goals
    rintro rfl
    cases letter

theorem scan_markup {m : Markup} {body : List Char} (markup : Event.markup? body = .ok (some m)) (fuel : Nat) :
    scan (fuel + 1) none ('<' :: body) =
      (scan fuel m.raw m.rest).behind (m.events.map (ofEvent (StartTag.attributeList Event.ordinary body))) := by
  rw [scan, markup]

/-- A tag is read as it stands. -/
theorem scan_tag {t : Token} {e : Event} {body : List Char} (markup : Event.markup? body = .ok (some ⟨[e], none, rest⟩))
    (same : ofEvent (StartTag.attributeList Event.ordinary body) e = t) (fuel : Nat) :
    scan (fuel + 1) none ('<' :: body) = (scan fuel none rest).behind [t] := by
  rw [scan_markup markup, List.map_singleton, same]

/-- Text up to a tag, or up to the end, is read as one. -/
theorem scan_text {fuel : Nat} (ends : rest = [] ∨ ∃ more, rest = '<' :: more)
    (enough : (escape cs ++ rest).length ≤ fuel) :
    ∃ left, rest.length ≤ left ∧ scan fuel none (escape cs ++ rest) = (scan left none rest).behind (ofText cs) := by
  by_cases empty : cs = []
  · subst empty
    exact ⟨fuel, enough, rfl⟩
  · obtain ⟨c, more, split⟩ := List.exists_cons_of_ne_nil (escape_ne_nil empty)
    have shown : ∀ d ∈ escape cs, (d != '<') = true := fun d member =>
      bne_iff_ne.mpr fun same => lt_not_mem_escape cs (same ▸ member)
    have text_ : (escape cs ++ rest).takeWhile (· != '<') = escape cs ∧
        (escape cs ++ rest).dropWhile (· != '<') = rest := by
      obtain rfl | ⟨behind, rfl⟩ := ends
      · rw [List.append_nil]
        exact ⟨List.takeWhile_eq_self_iff.mpr shown, List.dropWhile_eq_nil_iff.mpr shown⟩
      · exact ⟨takeWhile_append_stop shown (by decide), dropWhile_append_stop shown (by decide)⟩
    rw [List.length_append, split, List.length_cons] at enough
    obtain ⟨left, rfl⟩ : ∃ n, fuel = n + 1 := ⟨fuel - 1, by omega⟩
    refine ⟨left, by omega, ?_⟩
    have read : scan (left + 1) none (escape cs ++ rest) = (scan left none rest).behind [text (unescape (escape cs))] := by
      obtain ⟨taken, dropped⟩ := text_
      have first : c ≠ '<' := bne_iff_ne.mp (shown c (by rw [split]; exact List.mem_cons_self))
      rw [split, List.cons_append] at taken dropped ⊢
      rw [scan, taken, dropped]
      · exact List.cons_ne_nil _ _
      · rintro _ ⟨⟩
        exact first rfl
    rw [read, unescape_escape, ofText, if_neg (by simpa using empty)]

/-- Printed tokens are read back, behind text that is escaped and before a tag or the end. -/
theorem scan_print {fuel : Nat} {ts : List Token} (plain : ∀ t ∈ ts, t.isPlain = true)
    (ends : rest = [] ∨ ∃ more, rest = '<' :: more) (enough : (escape cs ++ (ts.flatMap print ++ rest)).length ≤ fuel) :
    ∃ left, rest.length ≤ left ∧
      scan fuel none (escape cs ++ (ts.flatMap print ++ rest)) = (scan left none rest).behind (fused cs ts) := by
  induction ts generalizing cs fuel with
  | nil => exact scan_text ends enough
  | cons t ts ih =>
    obtain ⟨here, later⟩ := List.forall_mem_cons.mp plain
    have tag {e : Event} {body : List Char} (printed : (t :: ts).flatMap print ++ rest = '<' :: body)
        (markup : Event.markup? body = .ok (some ⟨[e], none, ts.flatMap print ++ rest⟩))
        (same : ofEvent (StartTag.attributeList Event.ordinary body) e = t)
        (shorter : (ts.flatMap print ++ rest).length ≤ body.length) :
        ∃ left, rest.length ≤ left ∧ scan fuel none (escape cs ++ ((t :: ts).flatMap print ++ rest)) =
          (scan left none rest).behind (ofText cs ++ t :: fused [] ts) := by
      obtain ⟨left, more, read⟩ := @scan_text cs _ _ (.inr ⟨body, printed⟩) enough
      rw [printed, List.length_cons] at more
      obtain ⟨left, rfl⟩ : ∃ n, left = n + 1 := ⟨left - 1, by omega⟩
      obtain ⟨last, behind, found⟩ := @ih [] left later (Nat.le_trans shorter (by omega))
      have next : scan left none (ts.flatMap print ++ rest) = (scan last none rest).behind (fused [] ts) := found
      refine ⟨last, behind, ?_⟩
      rw [read, printed, scan_tag markup same, next, behind_append, behind_append, List.append_assoc,
        List.singleton_append]
    cases t with
    | text ds =>
      rw [List.flatMap_cons, print, List.append_assoc, ← List.append_assoc, ← escape_append] at enough ⊢
      exact ih later enough
    | start name attributes =>
      obtain ⟨markup, values⟩ := markup?_start here (ts.flatMap print ++ rest)
      refine tag (by rw [List.flatMap_cons, print, List.append_assoc, List.cons_append, List.append_assoc,
        printAttributes_append]) markup (by rw [values]; rfl) ?_
      rw [← printAttributes_append]
      simp only [List.length_append]
      omega
    | stop name =>
      refine @tag _ ('/' :: name.toList ++ '>' :: (ts.flatMap print ++ rest)) (by simp [print])
        (Event.markup?_stop here _) rfl ?_
      simp only [List.length_append, List.length_cons]
      omega

end Token

namespace Event

/-- Printed events are read back, with texts that follow each other as one. -/
theorem ofHypertext_print {es : List Event} (plain : ∀ e ∈ es, e.isPlain = true) :
    ofHypertext (es.flatMap print) = .ok (fused [] es) := by
  have printed : (es.map (Token.ofEvent [])).flatMap Token.print = es.flatMap print := by
    have one : (fun e => Token.print (Token.ofEvent [] e)) = print := funext fun e => by cases e <;> rfl
    rw [List.flatMap_map, one]
  have tokens : ∀ t ∈ es.map (Token.ofEvent []), t.isPlain = true := by
    intro t member
    obtain ⟨e, within, rfl⟩ := List.mem_map.mp member
    have own := plain e within
    cases e with
    | text cs => rfl
    | start tag => simpa [Token.ofEvent, Token.isPlain, isPlain] using own
    | stop tag => exact own
  have same (cs : List Char) : (Token.fused cs (es.map (Token.ofEvent []))).map Token.event = fused cs es := by
    clear plain printed tokens
    induction es generalizing cs with
    | nil => exact Token.map_event_ofText cs
    | cons e es ih =>
      cases e with
      | text ds => exact ih _
      | start tag | stop tag =>
        simp only [List.map_cons, Token.ofEvent, Token.fused, fused, List.map_append, Token.map_event_ofText, ih]
        rfl
  obtain ⟨left, -, read⟩ := @Token.scan_print [] [] _ _ tokens (.inl rfl) (Nat.le_succ _)
  have done : Token.scan left none [] = ⟨[], none⟩ := by cases left <;> rfl
  rw [List.append_nil, printed, done] at read
  have whole : Token.ofHypertext (es.flatMap print) = ⟨Token.fused [] (es.map (Token.ofEvent [])), none⟩ :=
    read.trans (by simp [Token.Reading.behind])
  rw [← Token.events_ofHypertext, whole, Token.Reading.events, same]

end Event

end Letterpress.Hypertext
