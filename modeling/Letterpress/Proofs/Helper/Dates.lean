import Letterpress.Proofs.Helper.Moment
import Letterpress.Settings

/-!
# The date helpers

Three helpers show a value as a date, as a clock, and as both. They agree on the moment that a value names, and show it
as its own clock does. They show nothing for a value that names none, and fail for numbers that are out of the years
that there are.
-/

namespace Letterpress

namespace Locale.DatePattern

open Moment

/-- A date in the columns of the default pattern. -/
def dateChars (d : Date) : List Char := pad 2 d.day ++ '/' :: (pad 2 d.month ++ '/' :: pad 4 d.year)

/-- The clock of a moment in the columns of the default pattern. -/
def clockChars (t : Moment) : List Char := pad 2 t.hour ++ ':' :: pad 2 t.minute

theorem pieces_date : pieces "dd/MM/yyyy".toList =
    [.field 'd' 2, .chars ['/'], .field 'M' 2, .chars ['/'], .field 'y' 4] := by decide

theorem pieces_clock : pieces "HH:mm".toList = [.field 'H' 2, .chars [':'], .field 'm' 2] := by decide

theorem pieces_both : pieces "dd/MM/yyyy HH:mm".toList =
    [.field 'd' 2, .chars ['/'], .field 'M' 2, .chars ['/'], .field 'y' 4, .chars [' '],
      .field 'H' 2, .chars [':'], .field 'm' 2] := by decide

section

variable (names : CalendarNames) (s : Subject)

/-- Fields with a count that their letter allows have the texts that they stand for. -/
theorem apply_eq {pattern : List Char} {ps : List Piece} (texts : List (List Char)) (taken : pieces pattern = ps)
    (allowed : ∀ p ∈ ps, checkCount p = .ok ()) (shown : ps.mapM (pieceText names s) = .ok texts) :
    apply names pattern s = .ok texts.flatten := by
  have all : ps.forM checkCount = .ok () := by
    clear taken shown
    induction ps with
    | nil => rfl
    | cons p ps ih =>
      obtain ⟨here, later⟩ := List.forall_mem_cons.mp allowed
      show (checkCount p >>= fun _ => ps.forM checkCount) = .ok ()
      rw [here]
      exact ih later
  rw [apply, taken]
  simp only [all, shown]
  rfl

end

theorem formatDate_default (locale : String) (d : Date) :
    formatDate locale "dd/MM/yyyy".toList d = .ok (dateChars d) := by
  have own (table : List String) : named table "dd/MM/yyyy".toList = "dd/MM/yyyy".toList := rfl
  rw [formatDate, own, apply_eq _ _ [pad 2 d.day, ['/'], pad 2 d.month, ['/'], pad 4 d.year] pieces_date
    (by decide) rfl]
  simp [dateChars]

theorem formatTime_default (locale : String) (t : Moment) :
    formatTime locale "HH:mm".toList t = .ok (clockChars t) := by
  have own (table : List String) : named table "HH:mm".toList = "HH:mm".toList := rfl
  rw [formatTime, own, apply_eq _ _ [pad 2 t.hour, [':'], pad 2 t.minute] pieces_clock (by decide) rfl]
  simp [clockChars]

theorem formatMoment_default (locale : String) (t : Moment) :
    formatMoment locale "dd/MM/yyyy HH:mm".toList t = .ok (dateChars t.date ++ ' ' :: clockChars t) := by
  have own : patternNames.findIdx? (· == String.ofList "dd/MM/yyyy HH:mm".toList) = none := rfl
  rw [formatMoment]
  simp only [own]
  rw [apply_eq _ _ [pad 2 t.date.day, ['/'], pad 2 t.date.month, ['/'], pad 4 t.date.year, [' '], pad 2 t.hour, [':'],
    pad 2 t.minute] pieces_both (by decide) rfl]
  simp [dateChars, clockChars]

end Locale.DatePattern

namespace Helper

open Locale.DatePattern

/-- What helpers know of a document under settings that leave the patterns as they are. -/
def defaultSetting (locale : String) : Setting :=
  ⟨locale, ({} : Settings).dateFormat, ({} : Settings).dateTimeFormat, ({} : Settings).timeFormat⟩

/-- The helpers that show a date or a time. -/
def dateHelpers : List Helper := [formatDate, formatDateTime, formatTime]

/-- What a date helper shows of a moment. -/
def momentChars (h : Helper) (t : Moment) : List Char :=
  match h with
  | formatDate => dateChars t.date
  | formatDateTime => dateChars t.date ++ ' ' :: clockChars t
  | _ => clockChars t

variable {h : Helper} {v : Value}

theorem call_dates (locale : String) (mem : h ∈ dateHelpers) :
    call (defaultSetting locale) h [v] [] = (moment? v).map fun t => text (t.elim [] (momentChars h)) := by
  simp only [dateHelpers, List.mem_cons, List.not_mem_nil, or_false] at mem
  have written {cs : List Char} {x : Except Fault (List Char)} (same : x = .ok cs) :
      (x >>= fun cs => pure (text cs)) = Except.ok (text cs) := by
    rw [same]
    rfl
  rcases mem with rfl | rfl | rfl
  · show callDate (defaultSetting locale) formatDate v (.text "dd/MM/yyyy") = _
    rw [callDate]
    rcases moment? v with f | _ | t
    · rfl
    · rfl
    · exact written (formatDate_default locale t.date)
  · show callDate (defaultSetting locale) formatDateTime v (.text "dd/MM/yyyy HH:mm") = _
    rw [callDate]
    rcases moment? v with f | _ | t
    · rfl
    · rfl
    · exact written (formatMoment_default locale t)
  · show callDate (defaultSetting locale) formatTime v (.text "HH:mm") = _
    rw [callDate]
    rcases moment? v with f | _ | t
    · rfl
    · rfl
    · exact written (formatTime_default locale t.toSecond)

/-! ## What the helpers show -/

/-- The date helpers agree on the moment that a value names: each shows the columns of the moment's own clock, and what
shows both shows what the other two show. -/
theorem dates_agree (locale : String) :
    (∀ v : Value, (∀ n, v.numeral? = some n → n.IsProper) → (∃ t, Names v t) → ∃ t, Names v t ∧
      call (defaultSetting locale) formatDate [v] [] = .ok (text (dateChars t.date)) ∧
      call (defaultSetting locale) formatTime [v] [] = .ok (text (clockChars t)) ∧
      call (defaultSetting locale) formatDateTime [v] [] = .ok (text (dateChars t.date ++ ' ' :: clockChars t))) ∧
    (∀ d t, Names (text (Moment.dateText d)) t ↔ t = Moment.midnight d) ∧
    ∀ u, Iso.HasZone u → ∀ t, Names (text u.isoText) t ↔ t = u := by
  refine ⟨fun v proper named => ?_, fun d => ?_, fun u zone => ?_⟩
  · obtain ⟨u, named⟩ := named
    obtain ⟨t, read, names⟩ | ⟨-, -, nothing⟩ | ⟨n, f, counts, untimely, -⟩ := moment?_cases named.refusal? proper
    · refine ⟨t, names, ?_, ?_, ?_⟩
      · rw [call_dates locale (by decide), read]
        rfl
      · rw [call_dates locale (by decide), read]
        rfl
      · rw [call_dates locale (by decide), read]
        rfl
    · exact absurd named (nothing u)
    · exact absurd (named.isTimely counts) untimely
  · exact names_text_iff (by rw [Iso.trim_dateText, Iso.readMoment?_dateText])
  · exact names_text_iff (by rw [Iso.trim_isoText, Moment.isoText, Iso.readMoment?_isoTextWith _ zone])

/-- A moment with a distance from UTC, shortly before midnight. -/
def lateMoment : Moment :=
  ⟨⟨2024, 3, 5, rfl⟩, ⟨23, by decide⟩, ⟨59, by decide⟩, ⟨30, by decide⟩, ⟨0, by decide⟩, some (-39600000000)⟩

theorem dates_agree_late :
    (∃ t, Names (.moment lateMoment) t) ∧ Iso.HasZone lateMoment ∧
      call (defaultSetting "it_IT") formatDateTime [.moment lateMoment] [] = .ok (.text "05/03/2024 23:59") := by
  have zone : Iso.HasZone lateMoment := by
    intro us same
    cases same
    decide
  obtain ⟨t, named, -, -, both⟩ := (dates_agree "it_IT").1 (.moment lateMoment) (by simp [Value.numeral?]) ⟨_, .moment _⟩
  refine ⟨⟨_, .moment _⟩, zone, ?_⟩
  cases named with
  | moment => exact both
  | text text => cases text
  | number counts => cases counts

theorem momentChars_ne_nil (h : Helper) (t : Moment) : momentChars h t ≠ [] := by
  have date : dateChars t.date ≠ [] := List.append_ne_nil_of_left_ne_nil (Moment.padded_ne_nil 2 _) _
  have clock : clockChars t ≠ [] := List.append_ne_nil_of_left_ne_nil (Moment.padded_ne_nil 2 _) _
  unfold momentChars
  split
  · exact date
  · exact List.append_ne_nil_of_left_ne_nil date _
  · exact clock

/-- A date helper fails for the numbers that are no milliseconds of the years 1 to 9999, and for nothing else. What it
shows is empty if the value is missing, empty or names no moment. -/
theorem dates_shown (locale : String) (mem : h ∈ dateHelpers) (datum : v.IsDatum) :
    ((∃ n, v.numeral? = some n ∧ ¬IsTimely n) ∧ ∃ f, call (defaultSetting locale) h [v] [] = .error f) ∨
      ((∀ n, v.numeral? = some n → IsTimely n) ∧ ∃ s, call (defaultSetting locale) h [v] [] = .ok (.text s) ∧
        (s = "" ↔ v = .none ∨ v = .text "" ∨ ∀ t, ¬Names v t)) := by
  have blank (missing : v = .none ∨ v = .text "") (t : Moment) : ¬Names v t := by
    intro named
    rcases missing with rfl | rfl
    · cases named with
      | text text => cases text
      | number counts => cases counts
    · cases named with
      | text text read =>
        cases text
        cases read
      | number counts => cases counts
  rw [call_dates locale mem]
  obtain ⟨t, read, names⟩ | ⟨read, counts, nothing⟩ | ⟨n, f, counts, untimely, refused⟩ :=
    moment?_cases datum.refusal? fun _ => datum.isProper
  · refine .inr ⟨fun n => names.isTimely, _, by rw [read]; rfl, iff_of_false (fun empty => ?_) ?_⟩
    · exact momentChars_ne_nil h t (by simpa using congrArg String.toList empty)
    · rintro (missing | missing | nothing)
      · exact blank (.inl missing) t names
      · exact blank (.inr missing) t names
      · exact nothing t names
  · refine .inr ⟨fun n counts' => ?_, _, by rw [read]; rfl, ?_⟩
    · cases counts.symm.trans counts'
    · exact iff_of_true rfl (.inr (.inr nothing))
  · exact .inl ⟨⟨n, counts, untimely⟩, f, by rw [refused]; rfl⟩

theorem dates_shown_nothing :
    formatDate ∈ dateHelpers ∧ Value.none.IsDatum ∧
      call (defaultSetting "it_IT") formatDate [.none] [] = .ok (.text "") := by
  refine ⟨by decide, .json .none, ?_⟩
  obtain ⟨⟨n, counts, -⟩, -⟩ | ⟨-, s, shown, empty⟩ :=
    dates_shown "it_IT" (h := formatDate) (by decide) (.json .none)
  · cases counts
  · rwa [empty.mpr (.inl rfl)] at shown

/-- Nanoseconds taken for milliseconds name no moment, and the helper fails. -/
theorem nanoseconds_fail :
    (Value.int 1000000000000000000).IsDatum ∧
      ∃ f, call (defaultSetting "it_IT") formatDate [.int 1000000000000000000] [] = .error f := by
  refine ⟨.json (.int _), ?_⟩
  rw [call_dates "it_IT" (by decide)]
  obtain ⟨q, t, finite, ⟨-, less⟩, -⟩ | ⟨-, f, refused⟩ :=
    moment?_numeral_cases (v := .int 1000000000000000000) (n := .int 1000000000000000000) trivial rfl
  · cases finite
    norm_num [Moment.endSecond] at less
  · exact ⟨f, by rw [refused]; rfl⟩

end Helper

end Letterpress
