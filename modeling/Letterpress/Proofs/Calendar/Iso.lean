import Letterpress.Calendar.Iso
import Letterpress.Proofs.Number.Digits
import Letterpress.Proofs.Number.Whole
import Letterpress.Proofs.Text.Ascii
import Mathlib.Data.List.Basic
import Mathlib.Tactic.ByContra

/-!
# Moments in text and back

A date or a moment is written with digits in columns of fixed widths, and the text names that date or moment again.

* `Iso.readMoment?_dateText`: the text of a date.
* `Iso.readMoment?_isoTextWith`: the text of a moment, with or without a distance from UTC.
-/

namespace Letterpress

open Text

/-! ## Columns of digits -/

namespace Moment

variable {width n : Nat}

theorem isAsciiDigit_of_mem_padded {c : Char} (mem : c ∈ padded width n) : isAsciiDigit c = true := by
  rcases List.mem_append.mp mem with padding | mem
  · rw [List.eq_of_mem_replicate padding]
    rfl
  · exact Literal.isAsciiDigit_of_mem_natText mem

theorem length_padded (width : Nat) (some_ : 0 < width) (fits : n < 10 ^ width) : (padded width n).length = width := by
  have short : (Literal.natText n).length ≤ width := (Nat.length_toDigits_le_iff (by decide) some_).mpr fits
  have same : padded width n = List.replicate (width - (Literal.natText n).length) '0' ++ Literal.natText n := rfl
  rw [same, List.length_append, List.length_replicate]
  omega

theorem digitsValue_padded (width n : Nat) : Number.digitsValue (padded width n) = n := by
  have zeros (k : Nat) : Number.digitsValue (List.replicate k '0') = 0 := by
    induction k with
    | zero => rfl
    | succ k ih => rwa [List.replicate_succ, Number.digitsValue, List.foldl_cons]
  have value := Literal.digitsValue_natText n
  have before := zeros (width - (Literal.natText n).length)
  have same : padded width n = List.replicate (width - (Literal.natText n).length) '0' ++ Literal.natText n := rfl
  unfold Number.digitsValue at *
  rw [same, List.foldl_append, before, value]

theorem padded_ne_nil (width n : Nat) : padded width n ≠ [] :=
  List.append_ne_nil_of_right_ne_nil _ (Literal.natText_ne_nil n)

theorem exists_padded_two (fits : n < 100) :
    ∃ a b, padded 2 n = [a, b] ∧ isAsciiDigit a = true ∧ isAsciiDigit b = true := by
  obtain ⟨a, b, same⟩ := List.length_eq_two.mp (length_padded 2 (by decide) fits)
  have digit {c : Char} (mem : c ∈ [a, b]) : isAsciiDigit c = true := isAsciiDigit_of_mem_padded (same ▸ mem)
  exact ⟨a, b, same, digit (by simp), digit (by simp)⟩

end Moment

namespace Iso

open Moment

variable {h mi s us : Nat} {last : Bool} {parts : List Nat} {pending : Nat}

theorem takeDigits?_padded (width : Nat) {n : Nat} (some_ : 0 < width) (fits : n < 10 ^ width) (rest : List Char) :
    takeDigits? width (padded width n ++ rest) = some (n, rest) := by
  have length := length_padded width some_ fits
  have all : (padded width n).all isAsciiDigit = true :=
    List.all_eq_true.mpr fun _ mem => isAsciiDigit_of_mem_padded mem
  rw [takeDigits?, List.take_left' length, List.drop_left' length]
  simp only [length, all, decide_true, Bool.and_self, if_true]
  rw [← Number.digitsValue, digitsValue_padded]

/-! ## Dates -/

theorem year_lt (d : Date) : d.year < 10000 := by
  have inside := d.isDay
  simp only [isCalendarDay, Bool.and_eq_true, decide_eq_true_eq] at inside
  omega

theorem month_lt (d : Date) : d.month < 100 := by
  have inside := d.isDay
  simp only [isCalendarDay, Bool.and_eq_true, decide_eq_true_eq] at inside
  by_contra large
  have none_ : daysInMonth d.year d.month = 0 := by
    unfold daysInMonth
    split <;> omega
  omega

theorem day_lt (d : Date) : d.day < 100 := by
  have inside := d.isDay
  simp only [isCalendarDay, Bool.and_eq_true, decide_eq_true_eq] at inside
  have most : daysInMonth d.year d.month ≤ 31 := by
    unfold daysInMonth
    split <;> (try split) <;> omega
  omega

theorem readDate?_dateText (d : Date) : readDate? (dateText d) = some d := by
  obtain ⟨a, b, same, digit, -⟩ := exists_padded_two (month_lt d)
  have letter : a ≠ 'W' := by
    rintro rfl
    cases digit
  have months := takeDigits?_padded 2 (by decide) (month_lt d) ('-' :: padded 2 d.day)
  have days := takeDigits?_padded 2 (by decide) (day_lt d) []
  rw [same] at months
  rw [List.append_nil] at days
  rw [readDate?, dateText, List.append_assoc, takeDigits?_padded 4 (by decide) (year_lt d), Option.bind_some, same]
  simp only [List.cons_append, List.nil_append, List.head?_cons, beq_self_eq_true, if_true, List.drop_succ_cons,
    List.drop_zero] at months ⊢
  split
  · rename_i week
    exact absurd (List.cons.inj week).1 letter
  · have hyphen : skipHyphen? true ('-' :: padded 2 d.day) = some (padded 2 d.day) := rfl
    rw [months, Option.bind_some, hyphen, Option.bind_some, days]
    exact dif_pos d.isDay

/-! ## Clocks -/

/-- A pair of digits before a colon, of a clock that has had colons so far. -/
theorem readPairs?_colon {n : Nat} (fits : n < 100) {rest : List Char} (filled : rest ≠ []) :
    readPairs? last parts true (pending + 1) (padded 2 n ++ ':' :: rest) =
      readPairs? last (parts ++ [n]) true pending rest := by
  obtain ⟨c, more, rfl⟩ := List.exists_cons_of_ne_nil filled
  rw [readPairs?, takeDigits?_padded 2 (by decide) fits]
  simp

/-- The last pair of digits. -/
theorem readPairs?_end {n : Nat} (fits : n < 100) {colons : Bool} :
    readPairs? last parts colons (pending + 1) (padded 2 n) =
      some ⟨(parts ++ [n]).getD 0 0, (parts ++ [n]).getD 1 0, (parts ++ [n]).getD 2 0, 0, !last⟩ := by
  have taken := takeDigits?_padded 2 (by decide) fits []
  rw [List.append_nil] at taken
  rw [readPairs?, taken]
  rfl

/-- The last pair of digits before a fraction of six digits. -/
theorem readPairs?_point {n : Nat} (fits : n < 100) (small : us < 1000000) {colons : Bool} :
    readPairs? last parts colons (pending + 1) (padded 2 n ++ '.' :: padded 6 us) =
      some ⟨(parts ++ [n]).getD 0 0, (parts ++ [n]).getD 1 0, (parts ++ [n]).getD 2 0, us, !last⟩ := by
  have taken := takeDigits?_padded 6 (by decide) small []
  have length := length_padded 6 (by decide) small
  rw [List.append_nil] at taken
  have fraction : readFraction? (parts ++ [n]) last (padded 6 us) =
      some ⟨(parts ++ [n]).getD 0 0, (parts ++ [n]).getD 1 0, (parts ++ [n]).getD 2 0, us, !last⟩ := by
    simp [readFraction?, length, taken]
  rw [readPairs?, takeDigits?_padded 2 (by decide) fits, ← fraction]
  cases same : padded 6 us with
  | nil => rw [same] at length; cases length
  | cons c more => simp

/-- Hours, minutes and seconds with a fraction, which may be left out if it is zero. -/
def clockChars (hour minute second us : Nat) : List Char :=
  padded 2 hour ++ ':' :: (padded 2 minute ++ ':' :: (padded 2 second ++ if us = 0 then [] else '.' :: padded 6 us))

theorem readClock?_clockChars (hour : h < 100) (minute : mi < 100) (second : s < 100) (small : us < 1000000) :
    readClock? last (clockChars h mi s us) = some ⟨h, mi, s, us, !last⟩ := by
  rw [readClock?, clockChars, readPairs?_colon hour (by simp), readPairs?_colon minute]
  · split
    · rename_i whole
      rw [List.append_nil, readPairs?_end second, whole]
      rfl
    · rw [readPairs?_point second small]
      rfl
  · exact List.append_ne_nil_of_left_ne_nil (padded_ne_nil 2 s) _

/-- Hours and minutes alone. -/
theorem readClock?_short (hour : h < 100) (minute : mi < 100) :
    readClock? last (padded 2 h ++ ':' :: padded 2 mi) = some ⟨h, mi, 0, 0, !last⟩ := by
  rw [readClock?, readPairs?_colon hour (padded_ne_nil 2 mi), readPairs?_end minute]
  rfl

/-! ## Distances from UTC -/

/-- A distance from UTC is a sign and a clock. -/
theorem offsetText_eq (us : Int) : offsetText us =
    (if us < 0 then '-' else '+') ::
      if us.natAbs / 1000000 % 60 = 0 ∧ us.natAbs % 1000000 = 0 then
        padded 2 (us.natAbs / 1000000 / 3600) ++ ':' :: padded 2 (us.natAbs / 1000000 / 60 % 60)
      else
        clockChars (us.natAbs / 1000000 / 3600) (us.natAbs / 1000000 / 60 % 60) (us.natAbs / 1000000 % 60)
          (us.natAbs % 1000000) := by
  by_cases short : us.natAbs / 1000000 % 60 = 0 ∧ us.natAbs % 1000000 = 0
  · simp [offsetText, short]
  · simp [offsetText, short, clockChars]

theorem readOffset?_sign {sign : Char} (letter : sign ≠ 'Z') (rest : List Char) :
    readOffset? (sign :: rest) = (readClock? true rest).bind fun t =>
      let seconds := (t.hour * 60 + t.minute) * 60 + t.second
      let us : Int := seconds * 1000000 + t.microsecond
      if t.leftover || 86400000000 ≤ us then none
      else if seconds = 0 then some 0
      else some (if sign == '-' then -us else us) := by
  rw [readOffset?]
  · exact fun other => absurd other letter
  · exact fun other => absurd other letter

/-- What the text of a distance from UTC can name: less than a day, and no fraction of a second alone. -/
def IsDistance (us : Int) : Prop := us.natAbs < 86400000000 ∧ (us = 0 ∨ 1000000 ≤ us.natAbs)

instance (us : Int) : Decidable (IsDistance us) := inferInstanceAs (Decidable (_ ∧ _))

/-- A distance from its parts and its sign. -/
theorem eq_of_parts {us : Int} {t : Clock}
    (parts : ((t.hour * 60 + t.minute) * 60 + t.second) * 1000000 + t.microsecond = us.natAbs)
    (fraction : t.microsecond < 1000000) (whole : t.leftover = false) (distance : IsDistance us) :
    (let seconds := (t.hour * 60 + t.minute) * 60 + t.second
      let i : Int := seconds * 1000000 + t.microsecond
      if t.leftover || 86400000000 ≤ i then none
      else if seconds = 0 then some 0
      else some (if (if us < 0 then '-' else '+') == '-' then -i else i)) = some us := by
  obtain ⟨day, long⟩ := distance
  have total : (((t.hour * 60 + t.minute) * 60 + t.second : Nat) : Int) * 1000000 + t.microsecond = us.natAbs := by omega
  have fits : ¬(86400000000 : Int) ≤ us.natAbs := by omega
  simp only [total, fits, whole, decide_false, Bool.or_self, Bool.false_eq_true, if_false]
  by_cases none_ : (t.hour * 60 + t.minute) * 60 + t.second = 0
  · have same : us = 0 := by omega
    rw [if_pos none_, same]
  rw [if_neg none_]
  refine congrArg some ?_
  by_cases negative : us < 0
  · simp only [negative, if_true, beq_self_eq_true]
    omega
  · have apart : ('+' == '-') = false := rfl
    simp only [negative, apart, Bool.false_eq_true, if_false]
    omega

theorem readOffset?_offsetText {us : Int} (distance : IsDistance us) : readOffset? (offsetText us) = some us := by
  have sign : (if us < 0 then '-' else '+') ≠ 'Z' := by split <;> decide
  have day := distance.1
  rw [offsetText_eq, readOffset?_sign sign]
  split
  · rw [readClock?_short (by omega) (by omega), Option.bind_some]
    refine eq_of_parts ?_ (Nat.zero_lt_succ _) rfl distance
    dsimp only
    omega
  · rw [readClock?_clockChars (by omega) (by omega) (by omega) (by omega), Option.bind_some]
    refine eq_of_parts ?_ (Nat.mod_lt _ (by decide)) rfl distance
    dsimp only
    omega

/-! ## Bytes -/

theorem toList_loop (bytes : ByteArray) (i : Nat) (done : List UInt8) :
    ByteArray.toList.loop bytes i done = done.reverse ++ bytes.data.toList.drop i := by
  induction i, done using ByteArray.toList.loop.induct bytes with
  | case1 i done less ih =>
    have within : i < bytes.data.size := less
    have here : bytes.get! i = bytes.data.toList[i] := getElem!_pos bytes.data i within
    rw [ByteArray.toList.loop, if_pos less, ih, here, List.drop_eq_getElem_cons (i := i) (by simpa using within)]
    simp
  | case2 i done past =>
    have beyond : bytes.data.toList.length ≤ i := Nat.le_of_not_lt past
    rw [ByteArray.toList.loop, if_neg past, List.drop_eq_nil_of_le beyond, List.append_nil]

theorem byteChars_eq (cs : List Char) :
    byteChars cs = (cs.flatMap String.utf8EncodeChar).map fun b => Char.ofNat b.toNat := by
  rw [byteChars, String.toUTF8, String.toByteArray_ofList, List.utf8Encode, ByteArray.toList, toList_loop]
  simp

/-- Text in ASCII has one byte for each character. -/
theorem byteChars_of_ascii {cs : List Char} (plain : ∀ c ∈ cs, c.toNat < 128) : byteChars cs = cs := by
  have one {c : Char} (range : c.toNat < 128) :
      (String.utf8EncodeChar c).map (fun b => Char.ofNat b.toNat) = [c] :=
    ascii_induction (p := fun c => (String.utf8EncodeChar c).map (fun b => Char.ofNat b.toNat) = [c]) (by decide) range
  rw [byteChars_eq, List.map_flatMap]
  induction cs with
  | nil => rfl
  | cons c cs ih =>
    obtain ⟨here, later⟩ := List.forall_mem_cons.mp plain
    rw [List.flatMap_cons, one here, ih later]
    rfl

/-! ## Moments -/

theorem of?_parts (t : Moment) :
    Moment.of? t.date t.hour t.minute t.second t.microsecond t.offset = some t := by
  simp [Moment.of?]

theorem clockText_eq (t : Moment) : clockText t = clockChars t.hour t.minute t.second t.microsecond := by
  simp [clockText, clockChars]

theorem mem_clockChars {c : Char} (mem : c ∈ clockChars h mi s us) :
    isAsciiDigit c = true ∨ c = ':' ∨ c = '.' := by
  simp only [clockChars, List.mem_append, List.mem_cons] at mem
  rcases mem with digit | rfl | digit | rfl | digit | fraction
  · exact .inl (isAsciiDigit_of_mem_padded digit)
  · exact .inr (.inl rfl)
  · exact .inl (isAsciiDigit_of_mem_padded digit)
  · exact .inr (.inl rfl)
  · exact .inl (isAsciiDigit_of_mem_padded digit)
  · split at fraction
    · cases fraction
    · rcases List.mem_cons.mp fraction with rfl | digit
      · exact .inr (.inr rfl)
      · exact .inl (isAsciiDigit_of_mem_padded digit)

/-- A distance from UTC stands where its sign is found. -/
theorem readTime?_append (d : Date) {clock zone : List Char} (filled : clock ≠ [])
    (plain : ∀ c ∈ clock, isZoneStart c = false) (starts : ∀ c ∈ zone.head?, isZoneStart c = true) :
    readTime? d (clock ++ zone) = (readClock? zone.isEmpty clock).bind fun t =>
      if zone.isEmpty then
        if t.leftover then none else Moment.of? d t.hour t.minute t.second t.microsecond none
      else (readOffset? zone).bind fun us => Moment.of? d t.hour t.minute t.second t.microsecond (some us) := by
  obtain ⟨c, rest, rfl⟩ := List.exists_cons_of_ne_nil filled
  obtain ⟨here, later⟩ := List.forall_mem_cons.mp plain
  have stop : zone.takeWhile (!isZoneStart ·) = [] := by
    cases zone with
    | nil => rfl
    | cons z zs => rw [List.takeWhile_cons_of_neg (by simp [starts z rfl])]
  have head : (rest ++ zone).takeWhile (!isZoneStart ·) = rest := by
    rw [List.takeWhile_append_of_pos (by simpa using later), stop, List.append_nil]
  have tail : (c :: (rest ++ zone)).drop (c :: rest).length = zone := List.drop_left' rfl
  simp only [List.cons_append, readTime?, here, head, tail, Bool.false_eq_true, if_false]

/-- Whether a text can name the moment's distance from UTC. -/
def HasZone (t : Moment) : Prop := ∀ us, t.offset = some us → IsDistance us

def zoneChars (t : Moment) : List Char := match t.offset with | some us => offsetText us | none => []

theorem readTime?_clockText {t : Moment} (zone : HasZone t) :
    readTime? t.date (clockText t ++ zoneChars t) = some t := by
  have hour := t.hour.isLt
  have minute := t.minute.isLt
  have second := t.second.isLt
  have filled : clockText t ≠ [] := by
    rw [clockText_eq]
    exact List.append_ne_nil_of_left_ne_nil (padded_ne_nil 2 _) _
  have plain : ∀ c ∈ clockText t, isZoneStart c = false := by
    intro c mem
    rcases mem_clockChars (clockText_eq t ▸ mem) with digit | rfl | rfl
    · refine Bool.eq_false_iff.mpr fun start => ?_
      simp only [isZoneStart, Bool.or_eq_true, beq_iff_eq, or_assoc] at start
      rcases start with rfl | rfl | rfl <;> cases digit
    · rfl
    · rfl
  rw [clockText_eq] at *
  cases none_ : t.offset with
  | none =>
    have same := of?_parts t
    rw [none_] at same
    rw [zoneChars, none_, readTime?_append _ filled plain (by simp),
      readClock?_clockChars (by omega) (by omega) (by omega) t.microsecond.isLt]
    simpa using same
  | some us =>
    have same := of?_parts t
    rw [none_] at same
    have starts : ∀ c ∈ (offsetText us).head?, isZoneStart c = true := by
      rw [offsetText_eq]
      intro c mem
      cases Option.some_inj.mp mem
      split <;> rfl
    have filled' : (offsetText us).isEmpty = false := by rw [offsetText_eq]; rfl
    rw [zoneChars, none_]
    dsimp only
    rw [readTime?_append _ filled plain starts, readClock?_clockChars (by omega) (by omega) (by omega) t.microsecond.isLt,
      readOffset?_offsetText (zone us none_), filled']
    simpa using same

/-- Clocks and distances are made of digits and a few marks. -/
theorem mem_clock_zone {t : Moment} {c : Char} (mem : c ∈ clockText t ++ zoneChars t) :
    isAsciiDigit c = true ∨ c ∈ [':', '.', '+', '-'] := by
  have clock {h mi s us : Nat} (mem : c ∈ clockChars h mi s us) : isAsciiDigit c = true ∨ c ∈ [':', '.', '+', '-'] :=
    (mem_clockChars mem).imp_right fun mark => by rcases mark with rfl | rfl <;> simp
  rcases List.mem_append.mp mem with mem | mem
  · exact clock (clockText_eq t ▸ mem)
  · unfold zoneChars at mem
    split at mem
    · rw [offsetText_eq] at mem
      rcases List.mem_cons.mp mem with rfl | mem
      · split <;> simp
      · split at mem
        · rcases List.mem_append.mp mem with digit | mem
          · exact .inl (isAsciiDigit_of_mem_padded digit)
          · rcases List.mem_cons.mp mem with rfl | digit
            · simp
            · exact .inl (isAsciiDigit_of_mem_padded digit)
        · exact clock mem
    · cases mem

theorem length_dateText (d : Date) : (dateText d).length = 10 := by
  rw [dateText, List.length_append, List.length_append, List.length_cons, List.length_cons,
    length_padded 4 (by decide) (year_lt d), length_padded 2 (by decide) (month_lt d),
    length_padded 2 (by decide) (day_lt d)]

theorem dateLength_dateText (d : Date) (rest : List Char) : dateLength (dateText d ++ rest) = 10 := by
  obtain ⟨a, b, same, digit, -⟩ := exists_padded_two (month_lt d)
  have letter : a ≠ 'W' := by
    rintro rfl
    cases digit
  have length := length_padded 4 (by decide) (year_lt d)
  have long : (dateText d ++ rest).length ≠ 7 := by
    rw [List.length_append, length_dateText]
    omega
  have hyphen : (dateText d ++ rest)[4]? = some '-' := by
    rw [dateText, List.append_assoc, List.append_assoc, List.getElem?_append_right (Nat.le_of_eq length), length]
    rfl
  have month : (dateText d ++ rest)[5]? = some a := by
    rw [dateText, List.append_assoc, List.append_assoc, List.getElem?_append_right (by omega), length, same]
    rfl
  simp only [dateLength, long, hyphen, month]
  simp [letter]

theorem length_le_utf8ByteSize (cs : List Char) : cs.length ≤ (String.ofList cs).utf8ByteSize := by
  rw [← String.size_toByteArray, String.toByteArray_ofList, List.utf8Encode, List.size_toByteArray]
  induction cs with
  | nil => exact Nat.le_refl _
  | cons c cs ih =>
    have positive := Char.utf8Size_pos c
    rw [List.flatMap_cons, List.length_append, String.length_utf8EncodeChar, List.length_cons]
    omega

theorem readMoment?_dateText_append (d : Date) (rest : List Char) :
    readMoment? (dateText d ++ rest) =
      match rest with
      | [] => some (Moment.midnight d)
      | _ :: time => readTime? d (byteChars time) := by
  have bytes := length_le_utf8ByteSize (dateText d ++ rest)
  rw [List.length_append, length_dateText] at bytes
  have enough : ¬(String.ofList (dateText d ++ rest)).utf8ByteSize < 7 := by omega
  rw [readMoment?, if_neg enough]
  dsimp only
  rw [dateLength_dateText, List.take_left' (length_dateText d), List.drop_left' (length_dateText d)]
  cases rest <;> simp only [readDate?_dateText, Option.bind_some]

/-- The text of a date names the midnight that the date begins with. -/
theorem readMoment?_dateText (d : Date) : readMoment? (dateText d) = some (Moment.midnight d) := by
  have read := readMoment?_dateText_append d []
  rwa [List.append_nil] at read

theorem isoTextWith_eq (separator : Char) (t : Moment) :
    t.isoTextWith separator = dateText t.date ++ separator :: (clockText t ++ zoneChars t) := by
  rw [isoTextWith, List.append_assoc, List.cons_append]
  unfold zoneChars
  cases t.offset <;> rfl

/-- The text of a moment names the moment, whatever separates the date from the clock. -/
theorem readMoment?_isoTextWith (separator : Char) {t : Moment} (zone : HasZone t) :
    readMoment? (t.isoTextWith separator) = some t := by
  have plain : ∀ c ∈ clockText t ++ zoneChars t, c.toNat < 128 := by
    intro c mem
    rcases mem_clock_zone mem with digit | mark
    · have range := toNat_of_isAsciiDigit digit
      omega
    · simp only [List.mem_cons, List.not_mem_nil, or_false] at mark
      rcases mark with rfl | rfl | rfl | rfl <;> decide
  rw [isoTextWith_eq, readMoment?_dateText_append]
  dsimp only
  rw [byteChars_of_ascii plain, readTime?_clockText zone]

/-! ## Around the text -/

theorem not_isBlank_of_mem_dateText {d : Date} {c : Char} (mem : c ∈ dateText d) : isBlank c = false := by
  simp only [dateText, List.mem_append, List.mem_cons, or_assoc] at mem
  rcases mem with digit | rfl | digit | rfl | digit
  · exact not_isBlank_of_isAsciiDigit (isAsciiDigit_of_mem_padded digit)
  · rfl
  · exact not_isBlank_of_isAsciiDigit (isAsciiDigit_of_mem_padded digit)
  · rfl
  · exact not_isBlank_of_isAsciiDigit (isAsciiDigit_of_mem_padded digit)

theorem trim_dateText (d : Date) : trim (dateText d) = dateText d :=
  trim_of_shown fun _ mem => not_isBlank_of_mem_dateText mem

theorem trim_isoText (t : Moment) : trim t.isoText = t.isoText := by
  rw [isoText, isoTextWith_eq]
  refine trim_of_shown fun c mem => ?_
  rcases List.mem_append.mp mem with date | mem
  · exact not_isBlank_of_mem_dateText date
  · rcases List.mem_cons.mp mem with rfl | mem
    · rfl
    · rcases mem_clock_zone mem with digit | mark
      · exact not_isBlank_of_isAsciiDigit digit
      · simp only [List.mem_cons, List.not_mem_nil, or_false] at mark
        rcases mark with rfl | rfl | rfl | rfl <;> rfl

end Iso

end Letterpress
