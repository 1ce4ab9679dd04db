import Letterpress.Proofs.Fields
import Letterpress.Proofs.Json.Scalar

/-!
# JSON that is written and read

A value that JSON holds exactly is the same value when it is written in any layout and read again.

* `Json.Exact`: values without a fraction, with distinct keys.
* `Json.Reads`: what is read from a text, whatever stands behind it.
* `Json.readItems_written`, `Json.readMembers_written`: the items of an array and the members of an object.
* `Json.read_write`: a whole text.
-/

namespace Letterpress.Json

open Text Literal

/-- A value that JSON holds exactly: nothing, a truth value, text, a whole number that has not too many digits, or an
array or an object of such, where no key of an object comes again. -/
inductive Exact : Value → Prop where
  | none : Exact .none
  | bool (b : Bool) : Exact (.bool b)
  | text (s : String) : Exact (.text s)
  | int {i : Int} (fits : (natText i.natAbs).length ≤ Number.digitLimit) : Exact (.int i)
  | list {xs : List Value} (items : ∀ x ∈ xs, Exact x) : Exact (.list xs)
  | record {fields : Fields} (distinct : (fields.map (·.1)).Nodup) (values : ∀ f ∈ fields, Exact f.2) :
      Exact (.record fields)

variable {v : Value} {c : Char} {bs cs rest : List Char} {fuel level : Nat} {l : Layout}

/-! ## White space -/

def Blank (bs : List Char) : Prop := ∀ b ∈ bs, isJsonBlank b = true

theorem Blank.nil : Blank [] := fun _ member => nomatch member

theorem Blank.space : Blank [' '] := fun _ member => List.mem_singleton.mp member ▸ rfl

theorem skipBlanks_append (blank : Blank bs) (cs : List Char) : skipBlanks (bs ++ cs) = skipBlanks cs :=
  List.dropWhile_append_of_pos blank

theorem skipBlanks_cons (ink : isJsonBlank c = false) (cs : List Char) : skipBlanks (c :: cs) = c :: cs := by
  rw [skipBlanks, List.dropWhile_cons_of_neg (by simp [ink])]

theorem Layout.blank_newline (l : Layout) (level : Nat) : Blank (l.newline level) := by
  unfold newline
  split
  · exact .nil
  · rintro b (_ | ⟨_, member⟩)
    · rfl
    · rw [List.eq_of_mem_replicate member]
      rfl

theorem Layout.separator_eq (l : Layout) (level : Nat) : ∃ bs, Blank bs ∧ l.separator level = ',' :: bs := by
  unfold separator
  split
  · split
    · exact ⟨_, .space, rfl⟩
    · exact ⟨_, .nil, rfl⟩
  · exact ⟨_, l.blank_newline level, rfl⟩

theorem Layout.colon_eq (l : Layout) : ∃ bs, Blank bs ∧ l.colon = ':' :: bs := by
  unfold colon
  split
  · exact ⟨_, .space, rfl⟩
  · exact ⟨_, .nil, rfl⟩

theorem isAsciiDigit_of_isJsonBlank (blank : isJsonBlank c = true) :
    isAsciiDigit c = false ∧ c ≠ '.' ∧ c ≠ 'e' ∧ c ≠ 'E' := by
  simp only [isJsonBlank, Bool.or_eq_true, beq_iff_eq] at blank
  rcases blank with ((rfl | rfl) | rfl) | rfl <;> decide

theorem Ends.blank (blank : Blank bs) (ends : Ends rest) : Ends (bs ++ rest) := by
  cases bs with
  | nil => exact ends
  | cons b bs =>
    obtain ⟨digit, letter⟩ := isAsciiDigit_of_isJsonBlank (blank b (List.mem_cons_self ..))
    exact .cons digit letter

/-! ## Values -/

/-- A text is read as a value, whatever stands behind it but the rest of a number. -/
structure Reads (v : Value) (cs : List Char) : Prop where
  head : ∃ c ds, cs = c :: ds ∧ isJsonBlank c = false ∧ c ≠ ']' ∧ c ≠ Char.ofNat 0xFEFF
  value : ∀ {fuel : Nat} {rest : List Char}, 2 * cs.length ≤ fuel + 1 → Ends rest →
    readValue (fuel + 1) (cs ++ rest) = .ok (v, rest)

theorem Reads.readValue (reads : Reads v cs) (enough : 2 * cs.length ≤ fuel) (ends : Ends rest) :
    readValue fuel (cs ++ rest) = .ok (v, rest) := by
  obtain ⟨c, ds, same, -⟩ := reads.head
  rw [same, List.length_cons] at enough
  obtain ⟨fuel, rfl⟩ := Nat.exists_eq_add_of_le' (Nat.le_trans (by omega : 1 ≤ 2 * (ds.length + 1)) enough)
  exact reads.value (by rw [same]; exact enough) ends

theorem Reads.skipBlanks (reads : Reads v cs) (blank : Blank bs) (rest : List Char) :
    skipBlanks (bs ++ (cs ++ rest)) = cs ++ rest := by
  obtain ⟨c, ds, rfl, ink, -⟩ := reads.head
  rw [skipBlanks_append blank, List.cons_append, skipBlanks_cons ink]

theorem reads_none (ascii : Bool) : Reads .none (writeScalar ascii .none) where
  head := ⟨_, _, rfl, by decide⟩
  value _ _ := rfl

theorem reads_bool (ascii b : Bool) : Reads (.bool b) (writeScalar ascii (.bool b)) where
  head := by cases b <;> exact ⟨_, _, rfl, by decide⟩
  value _ _ := by cases b <;> rfl

theorem charEscape_ne_nil (c : Char) : charEscape c ≠ [] := by
  simp only [charEscape]
  split <;> exact List.cons_ne_nil _ _

theorem writeChar_ne_nil (ascii : Bool) (c : Char) : writeChar ascii c ≠ [] := by
  unfold writeChar
  repeat' split
  all_goals first | exact List.cons_ne_nil _ _ | exact charEscape_ne_nil c

theorem length_le_written (ascii : Bool) (cs : List Char) : cs.length ≤ (cs.flatMap (writeChar ascii)).length := by
  induction cs with
  | nil => exact Nat.le_refl 0
  | cons c cs ih =>
    have one := List.length_pos_iff.mpr (writeChar_ne_nil ascii c)
    rw [List.flatMap_cons, List.length_append, List.length_cons]
    omega

/-- A text behind its opening quote. -/
def quoted (l : Layout) (s : String) : List Char := s.toList.flatMap (writeChar l.ascii) ++ ['"']

theorem readText_quoted (s : String) (rest : List Char) :
    readText ((quoted l s ++ rest).length + 1) [] ((quoted l s ++ rest).length + 1) (quoted l s ++ rest) =
      .ok (s.toList, rest) := by
  have long := length_le_written l.ascii s.toList
  rw [quoted, List.append_assoc, List.singleton_append]
  exact readText_written (by simp only [List.length_append, List.length_cons]; omega)

theorem reads_text (s : String) : Reads (.text s) (writeText l.ascii s.toList) where
  head := ⟨_, _, rfl, by decide⟩
  value {fuel rest} _ _ := by
    have text : writeText l.ascii s.toList ++ rest = '"' :: (quoted l s ++ rest) := rfl
    rw [text, Json.readValue, readText_quoted]
    exact congrArg (fun s => Except.ok (Value.text s, rest)) String.ofList_toList

/-- What a whole number starts with. -/
theorem intText_eq_cons (i : Int) : ∃ d ds, intText i = d :: ds ∧ (d = '-' ∨ isAsciiDigit d = true) := by
  have filled : intText i ≠ [] := by
    unfold intText
    split
    · exact List.cons_ne_nil _ _
    · exact natText_ne_nil _
  obtain ⟨d, ds, same⟩ := List.exists_cons_of_ne_nil filled
  exact ⟨d, ds, same, mem_intText (same ▸ List.mem_cons_self ..)⟩

theorem ne_of_isAsciiDigit {d : Char} (digit : isAsciiDigit d = true) (other : isAsciiDigit c = false) : d ≠ c := by
  rintro rfl
  rw [digit] at other
  cases other

theorem readWord?_intText (i : Int) : readWord? (intText i ++ rest) = none := by
  obtain ⟨d, ds, same, digit⟩ := natText_eq_cons i.natAbs
  have noWord (c : Char) (other : isAsciiDigit c = false) : c ≠ d := (ne_of_isAsciiDigit digit other).symm
  unfold intText
  split <;> simp [readWord?, dropPrefix?, same, noWord 'n' rfl, noWord 't' rfl, noWord 'f' rfl, noWord 'N' rfl,
    noWord 'I' rfl, noWord '-' rfl]

theorem reads_int {i : Int} (fits : (natText i.natAbs).length ≤ Number.digitLimit) : Reads (.int i) (intText i) where
  head := by
    obtain ⟨d, ds, same, sign | digit⟩ := intText_eq_cons i
    · exact ⟨d, ds, same, sign ▸ by decide⟩
    · have ink : isJsonBlank d = false := by
        refine Bool.eq_false_iff.mpr fun blank => ?_
        rw [(isAsciiDigit_of_isJsonBlank blank).1] at digit
        cases digit
      exact ⟨d, ds, same, ink, ne_of_isAsciiDigit digit rfl, ne_of_isAsciiDigit digit rfl⟩
  value {fuel rest} _ ends := by
    obtain ⟨d, ds, same, first⟩ := intText_eq_cons i
    have opens (c : Char) (other : isAsciiDigit c = false) (sign : c ≠ '-') (cs : List Char) :
        intText i ++ rest ≠ c :: cs := by
      intro here
      rw [same, List.cons_append] at here
      obtain ⟨rfl, -⟩ := List.cons.inj here
      rcases first with minus | digit
      · exact sign minus
      · exact ne_of_isAsciiDigit digit other rfl
    rw [Json.readValue, readWord?_intText]
    · exact readNumber_intText fits ends
    · exact opens _ rfl (by decide)
    · exact opens _ rfl (by decide)
    · exact opens _ rfl (by decide)

/-! ## Arrays -/

theorem skipBlanks_close (blank : Blank bs) (ink : isJsonBlank c = false) (rest : List Char) :
    skipBlanks (bs ++ c :: rest) = c :: rest := by
  rw [skipBlanks_append blank, skipBlanks_cons ink]

theorem joinWith_cons (sep x : List Char) (xs : List (List Char)) : ∃ ds, joinWith sep (x :: xs) = x ++ ds := by
  cases xs with
  | nil => exact ⟨[], (List.append_nil x).symm⟩
  | cons y ys => exact ⟨sep ++ joinWith sep (y :: ys), by rw [joinWith, List.append_assoc]⟩

/-- The items of an array with what stands between them. -/
def itemsText (l : Layout) (level : Nat) (xs : List Value) : List Char :=
  joinWith (l.separator level) (writeItems l level xs)

theorem itemsText_cons (l : Layout) (level : Nat) (x y : Value) (ys : List Value) :
    itemsText l level (x :: y :: ys) = write l level x ++ (l.separator level ++ itemsText l level (y :: ys)) := by
  rw [itemsText, itemsText, writeItems, writeItems, joinWith, List.append_assoc]

theorem skipBlanks_itemsText {y : Value} (reads : Reads y (write l level y)) (blank : Blank bs) (ys : List Value)
    (rest : List Char) :
      skipBlanks (bs ++ (itemsText l level (y :: ys) ++ rest)) = itemsText l level (y :: ys) ++ rest := by
  obtain ⟨ds, text⟩ := joinWith_cons (l.separator level) (write l level y) (writeItems l level ys)
  rw [itemsText, writeItems, text, List.append_assoc, reads.skipBlanks blank]

/-- The items of an array are read up to the closing bracket. By induction on the items behind the first one. -/
theorem readItems_written {x : Value} {xs acc : List Value} (items : ∀ y ∈ x :: xs, Reads y (write l level y))
    (blank : Blank bs) (enough : 2 * (itemsText l level (x :: xs)).length ≤ fuel) :
    readItems (fuel + 1) acc (itemsText l level (x :: xs) ++ (bs ++ ']' :: rest)) =
      .ok (.list (acc.reverse ++ x :: xs), rest) := by
  have first := items x (List.mem_cons_self ..)
  induction xs generalizing x acc fuel with
  | nil =>
    have ends : Ends (bs ++ ']' :: rest) := .blank blank (.cons rfl (by decide))
    have value := first.readValue enough ends
    rw [readItems, itemsText, writeItems, writeItems, joinWith, value]
    simp only [bind, Except.bind, skipBlanks_close blank (rfl : isJsonBlank ']' = false), List.reverse_cons]
  | cons y ys ih =>
    obtain ⟨gap, blankGap, separator⟩ := l.separator_eq level
    have later : ∀ z ∈ y :: ys, Reads z (write l level z) := fun z member => items z (List.mem_cons_of_mem x member)
    have second := later y (List.mem_cons_self ..)
    rw [itemsText_cons, separator] at enough ⊢
    simp only [List.length_append, List.length_cons] at enough
    simp only [List.append_assoc, List.cons_append]
    obtain ⟨fuel, rfl⟩ := Nat.exists_eq_add_of_le' (by omega : 1 ≤ fuel)
    rw [readItems, first.readValue (by omega) (.cons rfl (by decide))]
    simp only [bind, Except.bind, skipBlanks_cons (rfl : isJsonBlank ',' = false), skipBlanks_itemsText second blankGap]
    rw [ih later (by omega) second, List.reverse_cons, List.append_assoc, List.singleton_append]

/-! ## Objects -/

/-- The members of an object with what stands between them, behind the quote that opens the first key. -/
def membersText (l : Layout) (level : Nat) : Fields → List Char
  | [] => []
  | [(k, v)] => quoted l k ++ (l.colon ++ write l level v)
  | (k, v) :: g :: gs =>
    quoted l k ++ (l.colon ++ (write l level v ++ (l.separator level ++ '"' :: membersText l level (g :: gs))))

theorem joinWith_writeFields (l : Layout) (level : Nat) (k : String) (v : Value) (fields : Fields) :
    joinWith (l.separator level) (writeFields l level ((k, v) :: fields)) =
      '"' :: membersText l level ((k, v) :: fields) := by
  induction fields generalizing k v with
  | nil => simp [writeFields, joinWith, membersText, writeText, quoted]
  | cons g gs ih =>
    obtain ⟨j, w⟩ := g
    have later := ih j w
    rw [writeFields] at later
    rw [writeFields, writeFields, joinWith, later]
    simp [membersText, writeText, quoted]

/-- What is done behind a member, once white space is skipped. -/
def afterMember (fuel : Nat) (fields : Fields) : List Char → Step (Value × List Char)
  | '\x7d' :: rest => .ok (.record fields, rest)
  | ',' :: rest =>
    match skipBlanks rest with
    | '"' :: rest => readMembers fuel fields rest
    | rest => .error (.expectingKey, rest.length)
  | rest => .error (.expectingComma, rest.length)

theorem readMembers_member {acc : Fields} {k : String} (reads : Reads v cs) (enough : 2 * cs.length ≤ fuel)
    (ends : Ends rest) : readMembers (fuel + 1) acc (quoted l k ++ (l.colon ++ (cs ++ rest))) =
      afterMember fuel (Fields.set acc k v) (skipBlanks rest) := by
  obtain ⟨gap, blank, colon⟩ := l.colon_eq
  rw [readMembers, readText_quoted, colon]
  simp only [bind, Except.bind, List.cons_append, skipBlanks_cons (rfl : isJsonBlank ':' = false),
    reads.skipBlanks blank, reads.readValue enough ends, String.ofList_toList]
  rfl

theorem keys_set {acc fields : Fields} {k : String} (distinct : ((acc ++ (k, v) :: fields).map (·.1)).Nodup) :
    Fields.set acc k v = acc ++ [(k, v)] := by
  refine Fields.set_of_notMem (fun member => ?_) v
  rw [List.map_append, List.nodup_append] at distinct
  exact distinct.2.2 k member k (List.mem_cons_self ..) rfl

/-- The members of an object are read up to the closing brace. By induction on the members behind the first one. -/
theorem readMembers_written {k : String} {fields acc : Fields}
    (values : ∀ f ∈ (k, v) :: fields, Reads f.2 (write l level f.2))
    (distinct : ((acc ++ (k, v) :: fields).map (·.1)).Nodup) (blank : Blank bs)
    (enough : 2 * (membersText l level ((k, v) :: fields)).length ≤ fuel) :
    readMembers (fuel + 1) acc (membersText l level ((k, v) :: fields) ++ (bs ++ '\x7d' :: rest)) =
      .ok (.record (acc ++ (k, v) :: fields), rest) := by
  have first : Reads v (write l level v) := values _ (List.mem_cons_self ..)
  have set := keys_set distinct
  induction fields generalizing k v acc fuel with
  | nil =>
    have ends : Ends (bs ++ '\x7d' :: rest) := .blank blank (.cons rfl (by decide))
    rw [membersText] at enough ⊢
    simp only [List.length_append] at enough
    rw [List.append_assoc, List.append_assoc, readMembers_member first (by omega) ends, set,
      skipBlanks_close blank (rfl : isJsonBlank '\x7d' = false), afterMember]
  | cons g gs ih =>
    obtain ⟨j, w⟩ := g
    obtain ⟨gap, blankGap, separator⟩ := l.separator_eq level
    have later : ∀ f ∈ (j, w) :: gs, Reads f.2 (write l level f.2) :=
      fun f member => values f (List.mem_cons_of_mem _ member)
    have next : acc ++ (k, v) :: (j, w) :: gs = acc ++ [(k, v)] ++ (j, w) :: gs := by simp
    rw [next] at distinct
    rw [membersText, separator] at enough ⊢
    simp only [List.length_append, List.length_cons] at enough
    simp only [List.append_assoc, List.cons_append]
    obtain ⟨fuel, rfl⟩ := Nat.exists_eq_add_of_le' (by omega : 1 ≤ fuel)
    have short : 2 * (membersText l level ((j, w) :: gs)).length ≤ fuel := by omega
    rw [readMembers_member first (by omega) (.cons rfl (by decide)), set,
      skipBlanks_cons (rfl : isJsonBlank ',' = false), afterMember,
      skipBlanks_close blankGap (rfl : isJsonBlank '"' = false), next]
    exact ih later distinct short (later _ (List.mem_cons_self ..)) (keys_set distinct)

theorem wrap_cons (l : Layout) (level : Nat) (opening closing : Char) (x : List Char) (xs : List (List Char)) :
    l.wrap level opening closing (x :: xs) = opening :: (l.newline (level + 1) ++
      (joinWith (l.separator (level + 1)) (x :: xs) ++ (l.newline level ++ [closing]))) := by
  simp [Layout.wrap]

theorem readValue_array (filled : ∀ ds, skipBlanks cs ≠ ']' :: ds) :
    readValue (fuel + 1) ('[' :: cs) = readItems fuel [] (skipBlanks cs) := by
  rw [readValue]
  split
  · exact absurd ‹_› (filled _)
  · rfl

theorem reads_list {xs : List Value} (items : ∀ y ∈ xs, Reads y (write l (level + 1) y)) :
    Reads (.list xs) (write l level (.list xs)) := by
  cases xs with
  | nil => exact { head := ⟨_, _, rfl, by decide⟩, value := fun _ _ => rfl }
  | cons x xs =>
    have text : write l level (.list (x :: xs)) = '[' :: (l.newline (level + 1) ++
        (itemsText l (level + 1) (x :: xs) ++ (l.newline level ++ [']']))) := wrap_cons ..
    refine { head := ⟨_, _, text, by decide⟩, value := fun {fuel rest} enough ends => ?_ }
    have first := items x (List.mem_cons_self ..)
    have gap := skipBlanks_itemsText first (l.blank_newline (level + 1)) xs (l.newline level ++ ']' :: rest)
    obtain ⟨c, ds, head, -, notClose, -⟩ := first.head
    rw [text] at enough ⊢
    simp only [List.length_append, List.length_cons] at enough
    obtain ⟨fuel, rfl⟩ := Nat.exists_eq_add_of_le' (by omega : 1 ≤ fuel)
    simp only [List.cons_append, List.append_assoc, List.nil_append]
    rw [readValue_array, gap, readItems_written items (l.blank_newline level) (by omega)]
    · rfl
    · rw [gap]
      obtain ⟨es, joined⟩ :=
        joinWith_cons (l.separator (level + 1)) (write l (level + 1) x) (writeItems l (level + 1) xs)
      rw [itemsText, writeItems, joined, head]
      exact fun ds same => notClose (List.cons.inj same).1

theorem reads_record {fields : Fields} (distinct : (fields.map (·.1)).Nodup)
    (values : ∀ f ∈ fields, Reads f.2 (write l (level + 1) f.2)) :
    Reads (.record fields) (write l level (.record fields)) := by
  cases fields with
  | nil => exact { head := ⟨_, _, rfl, by decide⟩, value := fun _ _ => rfl }
  | cons f fields =>
    obtain ⟨k, v⟩ := f
    have text : write l level (.record ((k, v) :: fields)) = '\x7b' :: (l.newline (level + 1) ++
        ('"' :: membersText l (level + 1) ((k, v) :: fields) ++ (l.newline level ++ ['\x7d']))) := by
      rw [← joinWith_writeFields]
      exact wrap_cons ..
    refine { head := ⟨_, _, text, by decide⟩, value := fun {fuel rest} enough ends => ?_ }
    rw [text] at enough ⊢
    simp only [List.length_append, List.length_cons] at enough
    obtain ⟨fuel, rfl⟩ := Nat.exists_eq_add_of_le' (by omega : 1 ≤ fuel)
    simp only [List.cons_append, List.append_assoc, List.nil_append]
    rw [readValue, skipBlanks_close (l.blank_newline (level + 1)) (rfl : isJsonBlank '"' = false)]
    exact readMembers_written values distinct (l.blank_newline level) (by omega)

/-! ## Whole texts -/

/-- A value that JSON holds exactly is read as it is written, in any layout and at any level. -/
theorem Exact.reads (exact : Exact v) (l : Layout) (level : Nat) : Reads v (write l level v) := by
  induction exact generalizing level with
  | none => exact reads_none l.ascii
  | bool b => exact reads_bool l.ascii b
  | text s => exact reads_text s
  | int fits => exact reads_int fits
  | list items ih => exact reads_list fun x member => ih x member (level + 1)
  | record distinct values ih => exact reads_record distinct fun f member => ih f member (level + 1)

theorem read_write (exact : Exact v) (l : Layout) : read (write l 0 v) = .ok v := by
  have reads := exact.reads l 0
  obtain ⟨c, ds, same, ink, -, noMark⟩ := reads.head
  have value := reads.readValue (Nat.le_add_right _ 2) .nil
  rw [List.append_nil] at value
  have skip : skipBlanks (write l 0 v) = write l 0 v := by rw [same, skipBlanks_cons ink]
  have mark : ((write l 0 v).head? == some (Char.ofNat 0xFEFF)) = false := by simpa [same] using noMark
  rw [read, skip, mark, value]
  rfl

end Letterpress.Json
