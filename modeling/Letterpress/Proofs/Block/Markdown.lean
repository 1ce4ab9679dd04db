import Letterpress.Document.WordFile
import Letterpress.Proofs.Block.Line
import Letterpress.Proofs.Text.Splitting

/-!
# Blocks as Markdown

The blocks of hypertext, written as Markdown and read again line by line, and as paragraphs of a Word file.

* `Block.ofText_line`: the block of tidy text, read off its own line in Markdown.
* `Block.splitBy_toMarkdown`: the lines of blocks in Markdown.
* `blocks_read_back`: Markdown and Word files carry the blocks of hypertext unchanged.
-/

namespace Letterpress

open Text Hypertext

/-! ## Marked text -/

variable {cs rest : List Char} {level : Nat}

/-- What a heading marker in tidy text is, and what stands behind it. -/
theorem eq_of_headingMarker? (tidy : Tidy cs) (marked : headingMarker? cs = some (level, rest)) :
    1 ≤ level ∧ level ≤ 6 ∧ Tidy rest := by
  simp only [headingMarker?] at marked
  split at marked
  · rename_i c behind found
    split at marked
    · rename_i fits
      simp only [Bool.and_eq_true, decide_eq_true_eq] at fits
      obtain ⟨⟨positive, limited⟩, blank⟩ := fits
      simp only [Option.some.injEq, Prod.mk.injEq] at marked
      obtain ⟨rfl, rfl⟩ := marked
      rw [← List.take_append_drop (cs.takeWhile (· == '#')).length cs, found] at tidy
      have later := (tidy.of_gap blank).2
      exact ⟨positive, limited, later.trimLeft_eq.symm ▸ later⟩
    · cases marked
  · cases marked

/-- A list sign is a part of the text from its start. -/
theorem suffix_of_behindListSign? (marked : behindListSign? cs = some rest) : ∃ sign, cs = sign ++ rest := by
  cases cs with
  | nil => cases marked
  | cons c cs =>
    have sign (d : Char) (found : cs.dropWhile isDecimal = d :: rest) : ∃ sign, c :: cs = sign ++ rest := by
      refine ⟨c :: cs.takeWhile isDecimal ++ [d], ?_⟩
      rw [List.append_assoc, List.singleton_append, ← found, List.cons_append, List.takeWhile_append_dropWhile]
    simp only [behindListSign?] at marked
    split at marked
    · cases marked
      exact ⟨[c], rfl⟩
    · split at marked
      · split at marked
        · rename_i found
          cases marked
          exact sign '.' found
        · rename_i found
          cases marked
          exact sign ')' found
        · cases marked
      · cases marked

theorem tidy_of_listMarker? (tidy : Tidy cs) (marked : listMarker? cs = some rest) : Tidy rest := by
  rw [listMarker?] at marked
  split at marked
  · rename_i c behind found
    split at marked
    · rename_i blank
      obtain ⟨sign, rfl⟩ := suffix_of_behindListSign? found
      cases marked
      have later := (tidy.of_gap blank).2
      exact later.trimLeft_eq.symm ▸ later
    · cases marked
  · cases marked

/-! ## Blocks and their lines -/

namespace Block

theorem ofText_plain (tidy : Tidy cs) (plain : headingMarker? cs = none) (unmarked : listMarker? cs = none) :
    ofText cs = ⟨if cs.length < capitalsLimit && isCapitals cs then .heading2 else .paragraph, cs⟩ := by
  have kind : BlockKind.ofText cs = if cs.length < capitalsLimit && isCapitals cs then .heading2 else .paragraph := by
    rw [BlockKind.ofText, tidy.trim_eq, BlockKind.ofTrimmed, plain]
    simp [unmarked]
  rw [ofText, kind]
  split
  · rw [BlockKind.stripMarker, tidy.trim_eq, plain]
    rfl
  · rw [BlockKind.stripMarker, tidy.trim_eq]

/-- Headings of the levels from three on are written with three signs. -/
theorem line_heading (rest : List Char) (positive : 1 ≤ level) :
    (⟨.ofLevel level, rest⟩ : Block).line = List.replicate (min level 3) '#' ++ ' ' :: rest ∧
      BlockKind.ofLevel (min level 3) = .ofLevel level := by
  match level with
  | 1 | 2 => exact ⟨rfl, rfl⟩
  | n + 3 =>
    have three : min (n + 3) 3 = 3 := by omega
    rw [three]
    exact ⟨rfl, rfl⟩

/-- The block of tidy text has a tidy text and a tidy line, and it is the block of that line. -/
theorem ofText_line (tidy : Tidy cs) :
    ofText (ofText cs).line = ofText cs ∧ Tidy (ofText cs).line ∧ Tidy (ofText cs).text := by
  cases heading : headingMarker? cs with
  | some found =>
    obtain ⟨level, rest⟩ := found
    obtain ⟨positive, limited, later⟩ := eq_of_headingMarker? tidy heading
    obtain ⟨line, same⟩ := line_heading rest positive
    have shorter : 1 ≤ min level 3 := by omega
    have written := tidy_heading later shorter
    rw [ofText_heading tidy heading, line]
    refine ⟨?_, written, later⟩
    rw [ofText_heading written (headingMarker?_spec later shorter (by omega)), same]
  | none =>
    cases item : listMarker? cs with
    | some rest =>
      have later := tidy_of_listMarker? tidy item
      have written : Tidy ('-' :: ' ' :: rest) := .gap (by decide) later
      have line : (⟨.listItem, rest⟩ : Block).line = '-' :: ' ' :: rest := rfl
      have plain : headingMarker? ('-' :: ' ' :: rest) = none := rfl
      rw [ofText_item tidy heading item, line]
      exact ⟨ofText_item written plain (listMarker?_bullet later), written, later⟩
    | none =>
      rw [ofText_plain tidy heading item]
      split
      · have line : (⟨.heading2, cs⟩ : Block).line = List.replicate 2 '#' ++ ' ' :: cs := rfl
        have written := tidy_heading tidy (show 1 ≤ 2 by decide)
        rw [line]
        exact ⟨ofText_heading written (headingMarker?_spec tidy (by decide) (by decide)), written, tidy⟩
      · rename_i small
        have line : (⟨.paragraph, cs⟩ : Block).line = cs := rfl
        rw [line, ofText_plain tidy heading item, if_neg small]
        exact ⟨rfl, tidy, tidy⟩

end Block

/-! ## Lines of Markdown -/

namespace Block

variable {a b : Block} {blocks pre post : List Block}

/-- The lines that are not empty. -/
def filledLines (xs : List (List Char)) : List (List Char) := xs.filter (!·.isEmpty)

/-- The empty lines between two blocks. -/
def gap (first second : BlockKind) : List (List Char) :=
  if first = .listItem ∧ second = .listItem then [] else [[]]

theorem linesAfter_cons (previous : BlockKind) (b : Block) (blocks : List Block) :
    linesAfter previous (b :: blocks) = gap previous b.kind ++ b.line :: linesAfter b.kind blocks := by
  rw [linesAfter, gap]
  split <;> rfl

theorem filledLines_append (xs ys : List (List Char)) : filledLines (xs ++ ys) = filledLines xs ++ filledLines ys :=
  List.filter_append ..

theorem filledLines_gap (first second : BlockKind) : filledLines (gap first second) = [] := by
  rw [gap]
  split <;> rfl

theorem filledLines_cons (filled : b.line ≠ []) (xs : List (List Char)) :
    filledLines (b.line :: xs) = b.line :: filledLines xs := List.filter_cons_of_pos (by simpa using filled)

theorem filledLines_linesAfter (filled : ∀ b ∈ blocks, b.line ≠ []) (previous : BlockKind) :
    filledLines (linesAfter previous blocks) = blocks.map line := by
  induction blocks generalizing previous with
  | nil => rfl
  | cons b blocks ih =>
    obtain ⟨here, later⟩ := List.forall_mem_cons.mp filled
    rw [linesAfter_cons, filledLines_append, filledLines_gap, List.nil_append, filledLines_cons here, ih later,
      List.map_cons]

theorem filledLines_lines (filled : ∀ b ∈ blocks, b.line ≠ []) : filledLines (lines blocks) = blocks.map line := by
  cases blocks with
  | nil => rfl
  | cons b blocks =>
    obtain ⟨here, later⟩ := List.forall_mem_cons.mp filled
    rw [lines, filledLines_cons here, filledLines_linesAfter later, List.map_cons]

theorem linesAfter_append (filled : ∀ b ∈ pre, b.line ≠ []) (previous : BlockKind) (a : Block) (rest : List Block) :
    ∃ front, linesAfter previous (pre ++ a :: rest) = front ++ a.line :: linesAfter a.kind rest ∧
      filledLines front = pre.map line := by
  induction pre generalizing previous with
  | nil => exact ⟨gap previous a.kind, linesAfter_cons .., filledLines_gap ..⟩
  | cons p pre ih =>
    obtain ⟨here, later⟩ := List.forall_mem_cons.mp filled
    obtain ⟨front, whole, texts⟩ := ih later p.kind
    refine ⟨gap previous p.kind ++ p.line :: front, ?_, ?_⟩
    · rw [List.cons_append, linesAfter_cons, whole, List.append_assoc, List.cons_append]
    · rw [filledLines_append, filledLines_gap, filledLines_cons here, texts, List.nil_append, List.map_cons]

/-- The lines of two blocks that follow each other, with what stands between them. -/
theorem lines_adjacent (filled : ∀ c ∈ pre ++ a :: b :: post, c.line ≠ []) :
    ∃ front back, lines (pre ++ a :: b :: post) = front ++ a.line :: (gap a.kind b.kind ++ b.line :: back) ∧
      filledLines front = pre.map line ∧ filledLines back = post.map line := by
  have before : ∀ c ∈ pre, c.line ≠ [] := fun c member => filled c (List.mem_append_left _ member)
  have behind : ∀ c ∈ post, c.line ≠ [] := fun c member =>
    filled c (List.mem_append_right _ (List.mem_cons_of_mem _ (List.mem_cons_of_mem _ member)))
  have last : filledLines (linesAfter b.kind post) = post.map line := filledLines_linesAfter behind b.kind
  cases pre with
  | nil => exact ⟨[], _, by rw [List.nil_append, lines, linesAfter_cons]; rfl, rfl, last⟩
  | cons p pre =>
    obtain ⟨here, later⟩ := List.forall_mem_cons.mp before
    obtain ⟨front, whole, texts⟩ := linesAfter_append later p.kind a (b :: post)
    refine ⟨p.line :: front, _, ?_, ?_, last⟩
    · rw [List.cons_append, lines, whole, linesAfter_cons, List.cons_append]
    · rw [filledLines_cons here, texts, List.map_cons]

theorem eq_nil_or_mem_of_mem_lines (filled : ∀ b ∈ blocks, b.line ≠ []) {x : List Char} (member : x ∈ lines blocks) :
    x = [] ∨ ∃ b ∈ blocks, b.line = x := by
  by_cases empty : x = []
  · exact .inl empty
  · have kept : x ∈ filledLines (lines blocks) := List.mem_filter.mpr ⟨member, by simpa using empty⟩
    rw [filledLines_lines filled] at kept
    exact .inr (List.mem_map.mp kept)

/-- Markdown is split at its line ends into the lines of its blocks. -/
theorem splitBy_toMarkdown (tidy : ∀ b ∈ blocks, Tidy b.line) (some_ : blocks ≠ []) :
    splitBy (· == '\n') (toMarkdown blocks) = lines blocks := by
  have lines_ne : lines blocks ≠ [] := by
    cases blocks with
    | nil => exact absurd rfl some_
    | cons b blocks => exact List.cons_ne_nil _ _
  refine splitBy_joinWith lines_ne fun x member ends => ?_
  obtain rfl | ⟨b, within, rfl⟩ := eq_nil_or_mem_of_mem_lines (fun b within => (tidy b within).ne_nil) member
  · cases ends
  · have space : '\n' = ' ' := (tidy b within).eq_space ends (by decide)
    cases space

end Block

/-! ## Word files -/

theorem exists_of_bind {ε α β : Type} {x : Except ε α} {f : α → Except ε β} {b : β} (done : x >>= f = .ok b) :
    ∃ a, x = .ok a ∧ f a = .ok b := by
  cases x with
  | error e => cases done
  | ok a => exact ⟨a, rfl, done⟩

namespace WordFile

open Word

/-- Tidy text is stored as it is. -/
theorem paragraph_tidy {cs : List Char} {style : String} {e : Element} (tidy : Tidy cs)
    (made : paragraph style cs = .ok e) : e = .paragraph ⟨style, cs, none⟩ := by
  have same : cs.map (fun c => if c == '\r' then '\n' else c) = cs := by
    refine (List.map_congr_left fun c member => if_neg fun mark => ?_).trans (List.map_id cs)
    rw [eq_of_beq mark] at member
    have space : '\r' = ' ' := tidy.eq_space member (by decide)
    cases space
  rw [paragraph, runText, stored] at made
  split at made
  · simp only [Except.map, same] at made
    cases made
    rfl
  · cases made

theorem mapM_paragraph {blocks : List Block} {content : List Element} (tidy : ∀ b ∈ blocks, Tidy b.text)
    (made : blocks.mapM (fun b => paragraph (styleOf b.kind) b.text) = .ok content) :
    content = blocks.map fun b => .paragraph ⟨styleOf b.kind, b.text, none⟩ := by
  induction blocks generalizing content with
  | nil =>
    cases made
    rfl
  | cons b blocks ih =>
    obtain ⟨here, later⟩ := List.forall_mem_cons.mp tidy
    rw [List.mapM_cons] at made
    obtain ⟨first, one, made⟩ := exists_of_bind made
    obtain ⟨others, more, made⟩ := exists_of_bind made
    cases made
    rw [List.map_cons, paragraph_tidy here one, ih later more]

/-- What a file holds between the watermark and the signatures. -/
theorem body_of {d : Draft} {logo : Option Bytes} {doc : Word.Document} (made : WordFile.of d logo = .ok doc) :
    ∃ mark blocks content signs, watermark d.options = .ok mark ∧ Block.ofHypertext d.rendered.html.toList = .ok blocks ∧
      blocks.mapM (fun b => paragraph (styleOf b.kind) b.text) = .ok content ∧ signatures d = .ok signs ∧
      doc.body = mark ++ content ++ signs := by
  obtain ⟨styles, -, made⟩ := exists_of_bind made
  obtain ⟨properties, -, made⟩ := exists_of_bind made
  obtain ⟨page, -, made⟩ := exists_of_bind made
  obtain ⟨⟨header, pictures⟩, -, made⟩ := exists_of_bind made
  obtain ⟨footer, -, made⟩ := exists_of_bind made
  obtain ⟨body, written, made⟩ := exists_of_bind made
  cases made
  obtain ⟨mark, marked, written⟩ := exists_of_bind written
  obtain ⟨blocks, read, written⟩ := exists_of_bind written
  obtain ⟨content, filled, written⟩ := exists_of_bind written
  obtain ⟨signs, signed, written⟩ := exists_of_bind written
  cases written
  exact ⟨mark, blocks, content, signs, marked, read, filled, signed, rfl⟩

end WordFile

/-! ## Blocks of hypertext -/

/-- The blocks of hypertext have tidy lines, which they are read from, and tidy texts. -/
theorem sound_ofHypertext {m : List Char} {blocks : List Block} (read : Block.ofHypertext m = .ok blocks) :
    ∀ b ∈ blocks, Block.ofText b.line = b ∧ Tidy b.line ∧ Tidy b.text := by
  rw [Block.ofHypertext, Line.ofHypertext] at read
  cases events : Event.ofHypertext m with
  | error e =>
    rw [events] at read
    cases read
  | ok events_ =>
    rw [events] at read
    cases read
    intro b member
    obtain ⟨l, within, rfl⟩ := List.mem_map.mp member
    exact Block.ofText_line (tidy_ofEvents events_ l within)

/-- The blocks of hypertext are read back from the lines of their Markdown. Between two of them stands one empty line, or
none between items of a list. A Word file has a paragraph for each of them, with its text and in the style of its kind,
between the watermark and the signatures. -/
theorem blocks_read_back {m : List Char} {blocks : List Block} (read : Block.ofHypertext m = .ok blocks) :
    (Block.filledLines (splitBy (· == '\n') (Block.toMarkdown blocks))).map Block.ofText = blocks ∧
      (∀ pre a b post, blocks = pre ++ a :: b :: post →
        ∃ front back, splitBy (· == '\n') (Block.toMarkdown blocks) =
            front ++ a.line :: (Block.gap a.kind b.kind ++ b.line :: back) ∧
          Block.filledLines front = pre.map Block.line ∧ Block.filledLines back = post.map Block.line) ∧
      ∀ d logo doc, d.rendered.html.toList = m → WordFile.of d logo = .ok doc →
        ∃ mark signs, WordFile.watermark d.options = .ok mark ∧ WordFile.signatures d = .ok signs ∧
          doc.body = mark ++ blocks.map (fun b => .paragraph ⟨WordFile.styleOf b.kind, b.text, none⟩) ++ signs := by
  have sound := sound_ofHypertext read
  have tidy : ∀ b ∈ blocks, Tidy b.line := fun b member => (sound b member).2.1
  have filled : ∀ b ∈ blocks, b.line ≠ [] := fun b member => (tidy b member).ne_nil
  refine ⟨?_, ?_, ?_⟩
  · have back : (blocks.map Block.line).map Block.ofText = blocks := by
      rw [List.map_map]
      exact (List.map_congr_left fun b member => (sound b member).1).trans (List.map_id _)
    by_cases empty : blocks = []
    · rw [empty]
      rfl
    · rw [Block.splitBy_toMarkdown tidy empty, Block.filledLines_lines filled, back]
  · rintro pre a b post rfl
    rw [Block.splitBy_toMarkdown tidy (by simp)]
    exact Block.lines_adjacent filled
  · rintro d logo doc rfl made
    obtain ⟨mark, found, content, signs, marked, again, written, signed, body⟩ := WordFile.body_of made
    obtain rfl : blocks = found := Except.ok.inj (read.symm.trans again)
    refine ⟨mark, signs, marked, signed, ?_⟩
    rw [body, WordFile.mapM_paragraph (fun b member => (sound b member).2.2) written]

/-- A heading of the fourth level, two items, the second in capitals, and a paragraph in capitals. -/
theorem blocks_read_back_list :
    ∃ blocks doc, Block.ofHypertext "<h4>A</h4><ul><li>b</li><li>C</li></ul><p>D</p>".toList = .ok blocks ∧
      (Block.filledLines (splitBy (· == '\n') (Block.toMarkdown blocks))).map Block.ofText = blocks ∧
      WordFile.of { (default : Draft) with rendered.html := "<h4>A</h4><ul><li>b</li><li>C</li></ul><p>D</p>" } none =
        .ok doc ∧
      doc.body = [.paragraph ⟨"Heading 3", ['A'], none⟩, .paragraph ⟨"List Bullet", ['b'], none⟩,
        .paragraph ⟨"List Bullet", ['C'], none⟩, .paragraph ⟨"Heading 2", ['D'], none⟩] := by
  have read : Block.ofHypertext "<h4>A</h4><ul><li>b</li><li>C</li></ul><p>D</p>".toList =
      .ok [⟨.heading3, ['A']⟩, ⟨.listItem, ['b']⟩, ⟨.listItem, ['C']⟩, ⟨.heading2, ['D']⟩] := rfl
  obtain ⟨back, -, files⟩ := blocks_read_back read
  set d : Draft := { (default : Draft) with rendered.html := "<h4>A</h4><ul><li>b</li><li>C</li></ul><p>D</p>" } with d_eq
  have made : (WordFile.of d none).toOption.isSome = true := by decide +kernel
  cases file : WordFile.of d none with
  | error e =>
    rw [file] at made
    cases made
  | ok doc =>
    obtain ⟨mark, signs, marked, signed, body⟩ := files d none doc rfl file
    cases marked
    cases signed
    exact ⟨_, doc, read, back, rfl, body⟩

end Letterpress
