/-!
# Calendar names

The words and patterns that locales write dates with (Unicode CLDR). Months run from January, days from
Monday, quarters from the first; the eras are the one before year 1 and the one from it on.

* `CalendarNames`: the names and patterns of one locale.
* `calendarNames`: those of the locale with a given name, of the first locale of its language, or English.
-/

namespace Letterpress.Locale

/-- Names in running text; where names that stand alone differ, they have a list of their own. -/
structure CalendarNames where
  months : List String
  monthsShort : List String
  monthsNarrow : List String
  days : List String
  daysShort : List String
  daysNarrow : List String
  quarters : List String
  quartersShort : List String
  eras : List String
  erasShort : List String
  erasNarrow : List String
  halves : List String
  /-- patterns of dates: short, medium, long, full -/
  datePatterns : List String
  /-- patterns of times: short, medium -/
  timePatterns : List String
  /-- what stands between date and time: short, medium -/
  joiners : List String
  /-- the day that weeks start with, Monday is zero -/
  firstDay : Nat
  /-- how many days of a week make it the first of a year -/
  minDays : Nat
  monthsShortAlone : List String := monthsShort
  daysShortAlone : List String := daysShort
  quartersAlone : List String := quarters
  quartersShortAlone : List String := quartersShort
  /-- what stands in front of a distance from UTC -/
  zoneMark : String := "GMT"

namespace CalendarNames

def italian : CalendarNames where
  months :=
    ["gennaio", "febbraio", "marzo", "aprile", "maggio", "giugno", "luglio", "agosto", "settembre",
     "ottobre", "novembre", "dicembre"]
  monthsShort := ["gen", "feb", "mar", "apr", "mag", "giu", "lug", "ago", "set", "ott", "nov", "dic"]
  monthsNarrow := ["G", "F", "M", "A", "M", "G", "L", "A", "S", "O", "N", "D"]
  days := ["lunedì", "martedì", "mercoledì", "giovedì", "venerdì", "sabato", "domenica"]
  daysShort := ["lun", "mar", "mer", "gio", "ven", "sab", "dom"]
  daysNarrow := ["L", "M", "M", "G", "V", "S", "D"]
  quarters := ["1º trimestre", "2º trimestre", "3º trimestre", "4º trimestre"]
  quartersShort := ["T1", "T2", "T3", "T4"]
  eras := ["avanti Cristo", "dopo Cristo"]
  erasShort := ["a.C.", "d.C."]
  erasNarrow := ["aC", "dC"]
  halves := ["AM", "PM"]
  datePatterns := ["dd/MM/yy", "d MMM y", "d MMMM y", "EEEE d MMMM y"]
  timePatterns := ["HH:mm", "HH:mm:ss"]
  joiners := [", ", ", "]
  firstDay := 0
  minDays := 4

def americanEnglish : CalendarNames where
  months :=
    ["January", "February", "March", "April", "May", "June", "July", "August", "September", "October",
     "November", "December"]
  monthsShort := ["Jan", "Feb", "Mar", "Apr", "May", "Jun", "Jul", "Aug", "Sep", "Oct", "Nov", "Dec"]
  monthsNarrow := ["J", "F", "M", "A", "M", "J", "J", "A", "S", "O", "N", "D"]
  days := ["Monday", "Tuesday", "Wednesday", "Thursday", "Friday", "Saturday", "Sunday"]
  daysShort := ["Mon", "Tue", "Wed", "Thu", "Fri", "Sat", "Sun"]
  daysNarrow := ["M", "T", "W", "T", "F", "S", "S"]
  quarters := ["1st quarter", "2nd quarter", "3rd quarter", "4th quarter"]
  quartersShort := ["Q1", "Q2", "Q3", "Q4"]
  eras := ["Before Christ", "Anno Domini"]
  erasShort := ["BC", "AD"]
  erasNarrow := ["B", "A"]
  halves := ["AM", "PM"]
  datePatterns := ["M/d/yy", "MMM d, y", "MMMM d, y", "EEEE, MMMM d, y"]
  timePatterns := ["h:mm a", "h:mm:ss a"]
  joiners := [", ", ", "]
  firstDay := 6
  minDays := 1

def britishEnglish : CalendarNames where
  months :=
    ["January", "February", "March", "April", "May", "June", "July", "August", "September", "October",
     "November", "December"]
  monthsShort := ["Jan", "Feb", "Mar", "Apr", "May", "Jun", "Jul", "Aug", "Sept", "Oct", "Nov", "Dec"]
  monthsNarrow := ["J", "F", "M", "A", "M", "J", "J", "A", "S", "O", "N", "D"]
  days := ["Monday", "Tuesday", "Wednesday", "Thursday", "Friday", "Saturday", "Sunday"]
  daysShort := ["Mon", "Tue", "Wed", "Thu", "Fri", "Sat", "Sun"]
  daysNarrow := ["M", "T", "W", "T", "F", "S", "S"]
  quarters := ["1st quarter", "2nd quarter", "3rd quarter", "4th quarter"]
  quartersShort := ["Q1", "Q2", "Q3", "Q4"]
  eras := ["Before Christ", "Anno Domini"]
  erasShort := ["BC", "AD"]
  erasNarrow := ["B", "A"]
  halves := ["am", "pm"]
  datePatterns := ["dd/MM/y", "d MMM y", "d MMMM y", "EEEE, d MMMM y"]
  timePatterns := ["HH:mm", "HH:mm:ss"]
  joiners := [", ", ", "]
  firstDay := 0
  minDays := 4

def german : CalendarNames where
  months :=
    ["Januar", "Februar", "März", "April", "Mai", "Juni", "Juli", "August", "September", "Oktober",
     "November", "Dezember"]
  monthsShort :=
    ["Jan.", "Feb.", "März", "Apr.", "Mai", "Juni", "Juli", "Aug.", "Sept.", "Okt.", "Nov.", "Dez."]
  monthsNarrow := ["J", "F", "M", "A", "M", "J", "J", "A", "S", "O", "N", "D"]
  days := ["Montag", "Dienstag", "Mittwoch", "Donnerstag", "Freitag", "Samstag", "Sonntag"]
  daysShort := ["Mo.", "Di.", "Mi.", "Do.", "Fr.", "Sa.", "So."]
  daysNarrow := ["M", "D", "M", "D", "F", "S", "S"]
  quarters := ["1. Quartal", "2. Quartal", "3. Quartal", "4. Quartal"]
  quartersShort := ["Q1", "Q2", "Q3", "Q4"]
  eras := ["vor unserer Zeitrechnung", "unserer Zeitrechnung"]
  erasShort := ["v. Chr.", "n. Chr."]
  erasNarrow := ["v. Chr.", "n. Chr."]
  halves := ["AM", "PM"]
  datePatterns := ["dd.MM.yy", "dd.MM.y", "d. MMMM y", "EEEE, d. MMMM y"]
  timePatterns := ["HH:mm", "HH:mm:ss"]
  joiners := [", ", ", "]
  firstDay := 0
  minDays := 4
  monthsShortAlone := ["Jan", "Feb", "Mär", "Apr", "Mai", "Jun", "Jul", "Aug", "Sep", "Okt", "Nov", "Dez"]
  daysShortAlone := ["Mo", "Di", "Mi", "Do", "Fr", "Sa", "So"]
  quartersAlone := ["1º trimestre", "2º trimestre", "3º trimestre", "4º trimestre"]
  quartersShortAlone := ["T1", "T2", "T3", "T4"]

def french : CalendarNames where
  months :=
    ["janvier", "février", "mars", "avril", "mai", "juin", "juillet", "août", "septembre", "octobre",
     "novembre", "décembre"]
  monthsShort :=
    ["janv.", "févr.", "mars", "avr.", "mai", "juin", "juil.", "août", "sept.", "oct.", "nov.", "déc."]
  monthsNarrow := ["J", "F", "M", "A", "M", "J", "J", "A", "S", "O", "N", "D"]
  days := ["lundi", "mardi", "mercredi", "jeudi", "vendredi", "samedi", "dimanche"]
  daysShort := ["lun.", "mar.", "mer.", "jeu.", "ven.", "sam.", "dim."]
  daysNarrow := ["L", "M", "M", "J", "V", "S", "D"]
  quarters := ["1er trimestre", "2e trimestre", "3e trimestre", "4e trimestre"]
  quartersShort := ["T1", "T2", "T3", "T4"]
  eras := ["avant Jésus-Christ", "après Jésus-Christ"]
  erasShort := ["av. J.-C.", "ap. J.-C."]
  erasNarrow := ["av. J.-C.", "ap. J.-C."]
  halves := ["AM", "PM"]
  datePatterns := ["dd/MM/y", "d MMM y", "d MMMM y", "EEEE d MMMM y"]
  timePatterns := ["HH:mm", "HH:mm:ss"]
  joiners := [" ", ", "]
  firstDay := 0
  minDays := 4
  quartersAlone := ["1º trimestre", "2º trimestre", "3º trimestre", "4º trimestre"]
  zoneMark := "UTC"

def spanish : CalendarNames where
  months :=
    ["enero", "febrero", "marzo", "abril", "mayo", "junio", "julio", "agosto", "septiembre", "octubre",
     "noviembre", "diciembre"]
  monthsShort := ["ene", "feb", "mar", "abr", "may", "jun", "jul", "ago", "sept", "oct", "nov", "dic"]
  monthsNarrow := ["E", "F", "M", "A", "M", "J", "J", "A", "S", "O", "N", "D"]
  days := ["lunes", "martes", "miércoles", "jueves", "viernes", "sábado", "domingo"]
  daysShort := ["lun", "mar", "mié", "jue", "vie", "sáb", "dom"]
  daysNarrow := ["L", "M", "X", "J", "V", "S", "D"]
  quarters := ["1.er trimestre", "2.º trimestre", "3.er trimestre", "4.º trimestre"]
  quartersShort := ["T1", "T2", "T3", "T4"]
  eras := ["antes de Cristo", "después de Cristo"]
  erasShort := ["a. C.", "d. C."]
  erasNarrow := ["a. C.", "d. C."]
  halves := ["a. m.", "p. m."]
  datePatterns := ["d/M/yy", "d MMM y", "d 'de' MMMM 'de' y", "EEEE, d 'de' MMMM 'de' y"]
  timePatterns := ["H:mm", "H:mm:ss"]
  joiners := [", ", ", "]
  firstDay := 0
  minDays := 4
  quartersAlone := ["1º trimestre", "2º trimestre", "3º trimestre", "4º trimestre"]

def brazilian : CalendarNames where
  months :=
    ["janeiro", "fevereiro", "março", "abril", "maio", "junho", "julho", "agosto", "setembro", "outubro",
     "novembro", "dezembro"]
  monthsShort :=
    ["jan.", "fev.", "mar.", "abr.", "mai.", "jun.", "jul.", "ago.", "set.", "out.", "nov.", "dez."]
  monthsNarrow := ["J", "F", "M", "A", "M", "J", "J", "A", "S", "O", "N", "D"]
  days :=
    ["segunda-feira", "terça-feira", "quarta-feira", "quinta-feira", "sexta-feira", "sábado", "domingo"]
  daysShort := ["seg.", "ter.", "qua.", "qui.", "sex.", "sáb.", "dom."]
  daysNarrow := ["S", "T", "Q", "Q", "S", "S", "D"]
  quarters := ["1º trimestre", "2º trimestre", "3º trimestre", "4º trimestre"]
  quartersShort := ["T1", "T2", "T3", "T4"]
  eras := ["antes de Cristo", "depois de Cristo"]
  erasShort := ["a.C.", "d.C."]
  erasNarrow := ["a.C.", "d.C."]
  halves := ["AM", "PM"]
  datePatterns := ["dd/MM/y", "d 'de' MMM 'de' y", "d 'de' MMMM 'de' y", "EEEE, d 'de' MMMM 'de' y"]
  timePatterns := ["HH:mm", "HH:mm:ss"]
  joiners := [" ", " "]
  firstDay := 6
  minDays := 1

def japanese : CalendarNames where
  months := ["1月", "2月", "3月", "4月", "5月", "6月", "7月", "8月", "9月", "10月", "11月", "12月"]
  monthsShort := ["1月", "2月", "3月", "4月", "5月", "6月", "7月", "8月", "9月", "10月", "11月", "12月"]
  monthsNarrow := ["1", "2", "3", "4", "5", "6", "7", "8", "9", "10", "11", "12"]
  days := ["月曜日", "火曜日", "水曜日", "木曜日", "金曜日", "土曜日", "日曜日"]
  daysShort := ["月", "火", "水", "木", "金", "土", "日"]
  daysNarrow := ["月", "火", "水", "木", "金", "土", "日"]
  quarters := ["第1四半期", "第2四半期", "第3四半期", "第4四半期"]
  quartersShort := ["Q1", "Q2", "Q3", "Q4"]
  eras := ["紀元前", "西暦"]
  erasShort := ["紀元前", "西暦"]
  erasNarrow := ["BC", "AD"]
  halves := ["午前", "午後"]
  datePatterns := ["y/MM/dd", "y/MM/dd", "y年M月d日", "y年M月d日EEEE"]
  timePatterns := ["H:mm", "H:mm:ss"]
  joiners := [" ", " "]
  firstDay := 6
  minDays := 1
  quartersAlone := ["1º trimestre", "2º trimestre", "3º trimestre", "4º trimestre"]
  quartersShortAlone := ["T1", "T2", "T3", "T4"]

end CalendarNames

/-- Locales with names of their own, the first of each language first. -/
def calendarTable : List (String × CalendarNames) :=
  [("it_IT", .italian),
   ("en_US", .americanEnglish),
   ("en_GB", .britishEnglish),
   ("de_DE", .german),
   ("fr_FR", .french),
   ("es_ES", .spanish),
   ("pt_BR", .brazilian),
   ("ja_JP", .japanese)]

/-- The language of a locale name. -/
def languageOf (locale : String) : String :=
  String.ofList (locale.toList.takeWhile fun c => c != '_' && c != '@')

/-- The entry for a locale name without its modifier, else for its language. -/
def lookupLocale {α : Type} (table : List (String × α)) (locale : String) : Option α :=
  let plain := String.ofList (locale.toList.takeWhile (· != '@'))
  match table.lookup plain with
  | some v => some v
  | none => (table.find? fun (k, _) => languageOf k == languageOf plain).map (·.2)

def calendarNames (locale : String) : CalendarNames :=
  (lookupLocale calendarTable locale).getD .americanEnglish

end Letterpress.Locale
