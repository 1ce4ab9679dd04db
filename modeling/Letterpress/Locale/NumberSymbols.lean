import Letterpress.Locale.CalendarNames

/-!
# Number symbols

The signs that locales write numbers and amounts with (Unicode CLDR).

* `NumberSymbols`: decimal and grouping signs, where the sign of a currency stands, and the signs that differ
  from a currency's code.
* `numberSymbols`: those of the locale with a given name, of the first locale of its language, or English.
-/

namespace Letterpress.Locale

structure NumberSymbols where
  decimal : String
  group : String
  /-- what stands before and after an amount; the mark of a currency is replaced by its sign -/
  before : String
  after : String
  /-- digits in the groups after the first -/
  laterGroups : Nat := 3
  signs : List (String × String)

namespace NumberSymbols

def italian : NumberSymbols where
  decimal := ","
  group := "."
  before := ""
  after := "\u00a0¤"
  signs := [("EUR", "€"), ("GBP", "£"), ("XXX", "¤")]

def americanEnglish : NumberSymbols where
  decimal := "."
  group := ","
  before := "¤"
  after := ""
  signs := [("EUR", "€"), ("USD", "$"), ("GBP", "£"), ("JPY", "¥"), ("BRL", "R$"), ("INR", "₹"), ("XXX", "¤"), ("KRW", "₩")]

def britishEnglish : NumberSymbols where
  decimal := "."
  group := ","
  before := "¤"
  after := ""
  signs := [("EUR", "€")]

def german : NumberSymbols where
  decimal := ","
  group := "."
  before := ""
  after := "\u00a0¤"
  signs := [("EUR", "€")]

def french : NumberSymbols where
  decimal := ","
  group := "\u202f"
  before := ""
  after := "\u00a0¤"
  signs := [("EUR", "€")]

def spanish : NumberSymbols where
  decimal := ","
  group := "."
  before := ""
  after := "\u00a0¤"
  signs := [("EUR", "€")]

def brazilian : NumberSymbols where
  decimal := ","
  group := "."
  before := "¤\u00a0"
  after := ""
  signs := [("EUR", "€")]

def swissGerman : NumberSymbols where
  decimal := "."
  group := "\u2019"
  before := "¤\u00a0"
  after := ""
  signs := [("USD", "$"), ("GBP", "£"), ("JPY", "¥"), ("BRL", "R$"), ("INR", "₹"), ("XXX", "¤"), ("KRW", "₩")]

def dutch : NumberSymbols where
  decimal := ","
  group := "."
  before := "¤\u00a0"
  after := ""
  signs := [("EUR", "€"), ("USD", "US$"), ("GBP", "£"), ("JPY", "JP¥"), ("BRL", "R$"), ("INR", "₹"), ("XXX", "¤"), ("KRW", "₩")]

def swedish : NumberSymbols where
  decimal := ","
  group := "\u00a0"
  before := ""
  after := "\u00a0¤"
  signs := [("EUR", "€")]

def japanese : NumberSymbols where
  decimal := "."
  group := ","
  before := "¤"
  after := ""
  signs := [("EUR", "€"), ("USD", "$"), ("GBP", "£"), ("JPY", "￥"), ("BRL", "R$"), ("INR", "₹"), ("XXX", "¤"), ("KRW", "₩")]

def hindi : NumberSymbols where
  decimal := "."
  group := ","
  before := "¤"
  after := ""
  laterGroups := 2
  signs := [("EUR", "€"), ("USD", "$"), ("GBP", "£"), ("JPY", "JP¥"), ("BRL", "R$"), ("INR", "₹"), ("XXX", "¤"), ("KRW", "₩")]

def polish : NumberSymbols where
  decimal := ","
  group := "\u00a0"
  before := ""
  after := "\u00a0¤"
  signs := [("EUR", "€")]

end NumberSymbols

/-- Locales with signs of their own, the first of each language first. -/
def symbolTable : List (String × NumberSymbols) :=
  [("it_IT", .italian),
   ("en_US", .americanEnglish),
   ("en_GB", .britishEnglish),
   ("de_DE", .german),
   ("fr_FR", .french),
   ("es_ES", .spanish),
   ("pt_BR", .brazilian),
   ("de_CH", .swissGerman),
   ("nl_NL", .dutch),
   ("sv_SE", .swedish),
   ("ja_JP", .japanese),
   ("hi_IN", .hindi),
   ("pl_PL", .polish)]

def numberSymbols (locale : String) : NumberSymbols :=
  (lookupLocale symbolTable locale).getD .americanEnglish

end Letterpress.Locale
