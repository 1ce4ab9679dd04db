import Letterpress.Proofs.Block.Passage
import Letterpress.Proofs.Number.Digits
import Letterpress.Proofs.Number.Whole
import Letterpress.Proofs.Text.Tidy

/-!
# Lines

A line of hypertext is tidy text behind the marker of a heading or of an item, or behind none. The block of such a line is
what the marker says, with exactly that text.

* `headingMarker?_spec`, `listMarker?_bullet`, `listMarker?_number`: markers in front of tidy text.
* `Marks`: what a line can start with, and the kind of block that it marks.
* `Marks.ofText`: the block of marked text.
* `Flattening.Sound.foldl_step`: the lines of hypertext are markers with tidy text.
* `markers_read_back`: every marker is read back, whatever the text behind it.
-/

namespace Letterpress

open Text Hypertext

/-! ## Marked text -/

namespace Text

variable {cs rest : List Char} {level : Nat}

theorem tidy_replicate {c : Char} (ink : isBlank c = false) (n : Nat) : Tidy (List.replicate (n + 1) c) := by
  induction n with
  | zero => exact .last ink
  | succ n ih => exact .next ink ih

/-- Text behind a heading marker. -/
theorem tidy_heading (tidy : Tidy rest) (positive : 1 ≤ level) : Tidy (List.replicate level '#' ++ ' ' :: rest) := by
  obtain ⟨n, rfl⟩ : ∃ n, level = n + 1 := ⟨level - 1, by omega⟩
  exact (tidy_replicate (by decide) n).join tidy

/-- Text behind a number and a point. -/
theorem tidy_number (tidy : Tidy rest) (n : Nat) : Tidy (Literal.natText n ++ '.' :: ' ' :: rest) := by
  have digits (ds : List Char) (inked : ∀ d ∈ ds, isBlank d = false) : Tidy (ds ++ '.' :: ' ' :: rest) := by
    induction ds with
    | nil => exact .gap (by decide) tidy
    | cons d ds ih =>
      obtain ⟨here, later⟩ := List.forall_mem_cons.mp inked
      exact .next here (ih later)
  exact digits _ fun d mem => not_isBlank_of_isAsciiDigit (Literal.isAsciiDigit_of_mem_natText mem)

end Text

variable {cs rest : List Char} {level : Nat}

theorem headingMarker?_spec (tidy : Tidy rest) (positive : 1 ≤ level) (limited : level ≤ 6) :
    headingMarker? (List.replicate level '#' ++ ' ' :: rest) = some (level, rest) := by
  have signs : (List.replicate level '#' ++ ' ' :: rest).takeWhile (· == '#') = List.replicate level '#' := by
    rw [List.takeWhile_append_of_pos (by simp)]
    simp
  rw [headingMarker?, signs, List.length_replicate, List.drop_left' (List.length_replicate ..)]
  simp [positive, limited, isBlank_space, tidy.trimLeft_eq]

theorem headingMarker?_of_ne {c : Char} (other : c ≠ '#') : headingMarker? (c :: cs) = none := by
  simp [headingMarker?, other]

theorem listMarker?_bullet (tidy : Tidy rest) : listMarker? ('-' :: ' ' :: rest) = some rest := by
  have behind : behindListSign? ('-' :: ' ' :: rest) = some (' ' :: rest) := rfl
  rw [listMarker?, behind]
  simp [isBlank_space, tidy.trimLeft_eq]

/-- The digits of a number end where its point stands, whatever follows. -/
theorem behindListSign?_number (n : Nat) (cs : List Char) :
    behindListSign? (Literal.natText n ++ '.' :: cs) = some cs := by
  obtain ⟨d, ds, same, digit⟩ := Literal.natText_eq_cons n
  have digits : ∀ e ∈ ds, isDecimal e = true := fun e mem =>
    isDecimal_of_isAsciiDigit (Literal.isAsciiDigit_of_mem_natText (same ▸ List.mem_cons_of_mem _ mem))
  have noBullet : isBullet d = false := by
    have range := toNat_of_isAsciiDigit digit
    have codes : ('-').toNat = 45 ∧ ('*').toNat = 42 ∧ ('•').toNat = 8226 := by decide
    refine Bool.eq_false_iff.mpr fun bullet => ?_
    simp only [isBullet, Bool.or_eq_true, beq_iff_eq] at bullet
    rcases bullet with (rfl | rfl) | rfl <;> omega
  have point : (ds ++ '.' :: cs).dropWhile isDecimal = '.' :: cs := by
    rw [List.dropWhile_append_of_pos digits]
    rfl
  rw [same, List.cons_append, behindListSign?]
  simp only [noBullet, isDecimal_of_isAsciiDigit digit, point, if_true, Bool.false_eq_true, if_false]

theorem listMarker?_number (tidy : Tidy rest) (n : Nat) :
    listMarker? (Literal.natText n ++ '.' :: ' ' :: rest) = some rest := by
  rw [listMarker?, behindListSign?_number]
  simp [isBlank_space, tidy.trimLeft_eq]

namespace Block

theorem ofText_heading (tidy : Tidy cs) (marked : headingMarker? cs = some (level, rest)) :
    ofText cs = ⟨.ofLevel level, rest⟩ := by
  have kind : BlockKind.ofText cs = .ofLevel level := by rw [BlockKind.ofText, tidy.trim_eq, BlockKind.ofTrimmed, marked]
  have body : (BlockKind.ofLevel level).stripMarker cs = rest := by
    unfold BlockKind.ofLevel
    split <;> rw [BlockKind.stripMarker, tidy.trim_eq, marked] <;> rfl
  rw [ofText, kind, body]

theorem ofText_item (tidy : Tidy cs) (plain : headingMarker? cs = none) (marked : listMarker? cs = some rest) :
    ofText cs = ⟨.listItem, rest⟩ := by
  have kind : BlockKind.ofText cs = .listItem := by
    rw [BlockKind.ofText, tidy.trim_eq, BlockKind.ofTrimmed, plain]
    simp [marked]
  rw [ofText, kind, BlockKind.stripMarker, tidy.trim_eq, marked]
  rfl

end Block

/-! ## Markers and what they mark -/

/-- What a line can start with, and the kind of block that it marks. -/
inductive Marks : List Char → BlockKind → Prop
  | heading1 : Marks ['#', ' '] .heading1
  | heading2 : Marks ['#', '#', ' '] .heading2
  | heading3 {level : Nat} (low : 3 ≤ level) (high : level ≤ 6) : Marks (List.replicate level '#' ++ [' ']) .heading3
  | bullet : Marks ['-', ' '] .listItem
  | number {n : Nat} (positive : 0 < n) : Marks (Literal.natText n ++ ['.', ' ']) .listItem

namespace Marks

variable {p : List Char} {kind : BlockKind}

theorem ofLevel (positive : 1 ≤ level) (limited : level ≤ 6) :
    Marks (List.replicate level '#' ++ [' ']) (.ofLevel level) := by
  match level, positive with
  | 1, _ => exact .heading1
  | 2, _ => exact .heading2
  | n + 3, _ => exact .heading3 (by omega) limited

/-- Behind each marker, tidy text stays tidy, and the block of the whole has the kind that is marked and that text. -/
theorem ofText (marks : Marks p kind) (tidy : Tidy cs) :
    Tidy (p ++ cs) ∧ Block.ofText (p ++ cs) = ⟨kind, cs⟩ := by
  have heading (level : Nat) (positive : 1 ≤ level) (limited : level ≤ 6) :
      Tidy (List.replicate level '#' ++ ' ' :: cs) ∧
        Block.ofText (List.replicate level '#' ++ ' ' :: cs) = ⟨.ofLevel level, cs⟩ :=
    have whole := tidy_heading tidy positive
    ⟨whole, Block.ofText_heading whole (headingMarker?_spec tidy positive limited)⟩
  cases marks with
  | heading1 => exact heading 1 (by decide) (by decide)
  | heading2 => exact heading 2 (by decide) (by decide)
  | @heading3 level low high =>
    have third : BlockKind.ofLevel level = .heading3 := by
      obtain ⟨n, rfl⟩ := Nat.exists_eq_add_of_le' low
      rfl
    have read := heading level (by omega) high
    rw [third] at read
    rwa [List.append_assoc]
  | bullet =>
    have whole : Tidy ('-' :: ' ' :: cs) := .gap (by decide) tidy
    exact ⟨whole, Block.ofText_item whole (headingMarker?_of_ne (by decide)) (listMarker?_bullet tidy)⟩
  | @number n positive =>
    have whole := tidy_number tidy n
    have plain : headingMarker? (Literal.natText n ++ '.' :: ' ' :: cs) = none := by
      obtain ⟨d, ds, same, digit⟩ := Literal.natText_eq_cons n
      have other : d ≠ '#' := fun sign => absurd (sign ▸ digit) (by decide)
      rw [same]
      exact headingMarker?_of_ne other
    rw [List.append_assoc]
    exact ⟨whole, Block.ofText_item whole plain (listMarker?_number tidy n)⟩

end Marks

/-! ## The lines of hypertext -/

namespace Marker

/-- A marker that is none or marks a kind of block. -/
def Proper (m : Marker) : Prop := m = none ∨ ∃ kind, Marks m.text kind

theorem proper_none : Proper none := .inl rfl

theorem proper_bullet : Proper bullet := .inr ⟨_, .bullet⟩

theorem proper_number (n : Nat) : Proper (number (n + 1)) := .inr ⟨_, .number (Nat.succ_pos n)⟩

theorem proper_heading (positive : 1 ≤ level) (limited : level ≤ 6) : Proper (heading level) :=
  .inr ⟨_, .ofLevel positive limited⟩

end Marker

namespace Role

/-- There are headings of the first to the sixth level. -/
theorem level_of_ofTag {tag : String} (heading : ofTag tag = .heading level) : 1 ≤ level ∧ level ≤ 6 := by
  have levels : ∀ t ∈ tags, (match ofTag t with
      | .heading level => decide (1 ≤ level ∧ level ≤ 6)
      | _ => true) = true := by decide
  by_cases known : tag ∈ tags
  · have within := levels tag known
    rw [heading] at within
    exact of_decide_eq_true within
  · rw [ofTag_of_not_mem known] at heading
    cases heading

end Role

namespace Flattening

variable {s : Flattening} {e : Event}

/-- A flattening whose lines are tidy text behind markers, those to come included. -/
structure Sound (s : Flattening) : Prop where
  marker : s.marker.Proper
  lines : ∀ l ∈ s.lines, l.marker.Proper ∧ Tidy l.body

namespace Sound

theorem flush (sound : s.Sound) : s.flush.Sound := by
  rw [Flattening.flush]
  split
  · exact ⟨sound.marker, sound.lines⟩
  · rename_i filled
    refine ⟨Marker.proper_none, fun l member => ?_⟩
    obtain earlier | new := List.mem_append.mp member
    · exact sound.lines l earlier
    · obtain rfl := List.mem_singleton.mp new
      exact ⟨sound.marker, tidy_collapse (by simpa using filled)⟩

theorem endCell (sound : s.Sound) : s.endCell.Sound := by
  rw [Flattening.endCell]
  split
  · exact ⟨sound.marker, sound.lines⟩
  · exact sound

theorem openItem (sound : s.Sound) : s.openItem.Sound := by
  rw [Flattening.openItem]
  split
  · exact ⟨Marker.proper_number _, sound.lines⟩
  · exact ⟨Marker.proper_bullet, sound.lines⟩

theorem start {role : Role} (sound : s.Sound) (levels : ∀ level, role = .heading level → 1 ≤ level ∧ level ≤ 6) :
    (s.start role).Sound := by
  have flushed := sound.flush
  cases role with
  | hidden | inline => exact ⟨sound.marker, sound.lines⟩
  | cell => exact sound.endCell
  | item => exact flushed.openItem
  | heading level =>
    obtain ⟨positive, limited⟩ := levels level rfl
    exact ⟨Marker.proper_heading positive limited, flushed.lines⟩
  | lineBreak | row | list | block => exact ⟨flushed.marker, flushed.lines⟩

theorem stop {role : Role} (sound : s.Sound) : (s.stop role).Sound := by
  have flushed := sound.flush
  cases role with
  | hidden | inline | lineBreak => exact ⟨sound.marker, sound.lines⟩
  | cell => exact sound.endCell
  | row =>
    rw [Flattening.stop]
    split
    · exact flush ⟨sound.marker, sound.lines⟩
    · exact flushed
  | item | heading | list | block => exact ⟨flushed.marker, flushed.lines⟩

theorem step (sound : s.Sound) (e : Event) : (s.step e).Sound := by
  cases e with
  | start tag => exact sound.start fun _ => Role.level_of_ofTag
  | stop tag => exact sound.stop
  | text cs =>
    rw [Flattening.step]
    split
    · exact ⟨sound.marker, sound.lines⟩
    · exact sound

theorem foldl_step (sound : s.Sound) (events : List Event) : (events.foldl Flattening.step s).Sound := by
  induction events generalizing s with
  | nil => exact sound
  | cons e events ih => exact ih (sound.step e)

end Sound

end Flattening

/-- Every line of hypertext is tidy text behind its marker. -/
theorem proper_ofEvents (events : List Event) : ∀ l ∈ Line.ofEvents events, l.marker.Proper ∧ Tidy l.body := by
  have fresh : Flattening.Sound {} := ⟨Marker.proper_none, by simp⟩
  exact (fresh.foldl_step events).flush.lines

/-- Its marker included, it is tidy text, too. -/
theorem tidy_ofEvents (events : List Event) : ∀ l ∈ Line.ofEvents events, Tidy l.text := by
  intro l member
  obtain ⟨plain | ⟨kind, marks⟩, tidy⟩ := proper_ofEvents events l member
  · rw [Line.text, plain]
    exact tidy
  · exact (marks.ofText tidy).1

/-- A line of hypertext is tidy text behind one of the markers or behind none. Every marker in front of any tidy text is
read back: the text is of the kind that is marked, and what stands behind the marker is left exactly. -/
theorem markers_read_back {m : List Char} {lines : List Line} (read : Line.ofHypertext m = .ok lines) :
    (∀ l ∈ lines, ∃ p cs, l.text = p ++ cs ∧ Tidy cs ∧ (p = [] ∨ ∃ kind, Marks p kind)) ∧
      ∀ p kind cs, Marks p kind → Tidy cs →
        BlockKind.ofText (p ++ cs) = kind ∧ kind.stripMarker (p ++ cs) = cs := by
  refine ⟨fun l member => ?_, fun p kind cs marks tidy => ?_⟩
  · rw [Line.ofHypertext] at read
    cases events : Event.ofHypertext m with
    | error e =>
      rw [events] at read
      cases read
    | ok found =>
      rw [events] at read
      cases read
      obtain ⟨plain | marked, tidy⟩ := proper_ofEvents found l member
      · exact ⟨[], l.body, by rw [Line.text, plain]; rfl, tidy, .inl rfl⟩
      · exact ⟨l.marker.text, l.body, rfl, tidy, .inr marked⟩
  · have block := (marks.ofText tidy).2
    have same : BlockKind.ofText (p ++ cs) = kind := congrArg Block.kind block
    refine ⟨same, ?_⟩
    rw [← same]
    exact congrArg Block.text block

/-- Items and a heading whose texts start like markers. -/
theorem markers_read_back_alike :
    ∃ lines, Line.ofHypertext "<ol><li># a</li><li>1. b</li></ol><h2>- c</h2>".toList = .ok lines ∧
      lines.map Line.text = ["1. # a".toList, "2. 1. b".toList, "## - c".toList] ∧
      (∀ l ∈ lines, ∃ p cs, l.text = p ++ cs ∧ Tidy cs ∧ (p = [] ∨ ∃ kind, Marks p kind)) ∧
      BlockKind.ofText "2. 1. b".toList = .listItem ∧ BlockKind.listItem.stripMarker "2. 1. b".toList = "1. b".toList ∧
      BlockKind.ofText "## - c".toList = .heading2 ∧ BlockKind.heading2.stripMarker "## - c".toList = "- c".toList := by
  have read : Line.ofHypertext "<ol><li># a</li><li>1. b</li></ol><h2>- c</h2>".toList =
      .ok [⟨.number 1, "# a".toList⟩, ⟨.number 2, "1. b".toList⟩, ⟨.heading 2, "- c".toList⟩] := by decide +kernel
  obtain ⟨texts, back⟩ := markers_read_back read
  have item : Tidy "1. b".toList := .next (by decide) (.gap (by decide) (.last (by decide)))
  have heading : Tidy "- c".toList := .gap (by decide) (.last (by decide))
  obtain ⟨itemKind, itemText⟩ := back "2. ".toList _ _ (.number (n := 2) (by decide)) item
  obtain ⟨headingKind, headingText⟩ := back "## ".toList _ _ .heading2 heading
  exact ⟨_, read, by decide, texts, itemKind, itemText, headingKind, headingText⟩

end Letterpress
