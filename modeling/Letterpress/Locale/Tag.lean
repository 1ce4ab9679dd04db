import Letterpress.Locale.Names
import Letterpress.Text.Case
import Letterpress.Text.Trim

/-!
# Locale tags

A tag names a language and may add a script, a territory, a variant and a modifier, in that order and in any
letter case.

* `Tag.read?`: the tag that a text spells.
* `Tag.name`: its normal spelling.
* `Tag.resolve?`: the tag of the locale that stands for it: the tag itself when there is such a locale,
  else what its likely subtags name.
* `normalize`: the name of the locale for a text that a caller gives; American English for all others.
-/

namespace Letterpress.Locale

open Text

structure Tag where
  language : List Char
  territory : List Char
  script : List Char
  variant : List Char
  modifier : List Char
  deriving DecidableEq, Repr

namespace Tag

/-- The parts that are there, joined by low lines. -/
def identifier (t : Tag) : List Char :=
  joinWith ['_'] ([t.language, t.script, t.territory, t.variant].filter (!·.isEmpty))

def name (t : Tag) : List Char :=
  if t.modifier.isEmpty then t.identifier else t.identifier ++ '@' :: t.modifier

def isScript (p : List Char) : Bool := p.length == 4 && p.all isLetter

def isTerritory (p : List Char) : Bool :=
  p.length == 2 && p.all isLetter || p.length == 3 && p.all isDigit

def isVariant (p : List Char) : Bool :=
  match p with
  | [] => false
  | c :: _ => p.length == 4 && isDigit c || 5 ≤ p.length && isLetter c

/-- The first part when it is of a kind, and the other parts. -/
def takePart (p : List Char → Bool) (parts : List (List Char)) : List Char × List (List Char) :=
  match parts with
  | x :: rest => if p x then (x, rest) else ([], parts)
  | [] => ([], [])

def read? (text : List Char) : Option Tag :=
  let body := text.takeWhile (· != '@')
  let modifier := (text.dropWhile (· != '@')).drop 1
  match splitBy (· == '_') (body.takeWhile (· != '.')) with
  | [] => none
  | language :: parts =>
    let language := lower language
    if language.isEmpty || !language.all isLetter then none
    else
      let (script, parts) := takePart isScript parts
      let (territory, parts) := takePart isTerritory parts
      let (variant, parts) := takePart isVariant parts
      if parts.isEmpty then
        some { language, script := titlecase script, territory := upper territory, variant := upper variant,
               modifier }
      else none

/-- Whether there is a locale of this name, in any letter case. -/
def isKnown (t : Tag) : Bool :=
  let ending := lower (joinWith ['_'] ([t.script, t.territory, t.variant].filter (!·.isEmpty)))
  if t.language == "root".toList then true
  else match locales.lookup (String.ofList t.language) with
    | none => false
    | some endings => ending.isEmpty || ((splitBy (· == ' ') endings.toList).map lower).contains ending

/-- The tag when there is such a locale, else language and territory when there is one of these. -/
def knownOrReduced? (t : Tag) : Option Tag :=
  if t.isKnown then some t
  else
    let reduced := { t with script := [], variant := [], modifier := [] }
    if reduced.isKnown then some reduced else none

/-- With names in use for those that are not. -/
def withoutAliases (t : Tag) : Tag :=
  let language := ((languageAliases.lookup (String.ofList t.language)).map String.toList).getD t.language
  let territory := ((territoryAliases.lookup (String.ofList t.territory)).map String.toList).getD t.territory
  { t with language := language, territory := if territory == ['Z', 'Z'] then [] else territory }

/-- The script that a language is likely written in, given the territory. -/
def likelyScript? (language territory : List Char) : Option (List Char) :=
  match likelyScripts.find? fun (l, t, _) => l.toList == language && t.toList == territory with
  | some (_, _, s) => some s.toList
  | none => (likelySubtags.lookup (String.ofList language)).map fun (s, _) => s.toList

/-- The tag that the likely subtags of the language complete. -/
def likely? (t : Tag) : Option Tag :=
  (likelySubtags.lookup (String.ofList t.language)).bind fun (script, territory) =>
    if t.territory.isEmpty && t.script.isEmpty && t.variant.isEmpty && t.modifier.isEmpty then
      knownOrReduced? { t with script := script.toList, territory := territory.toList }
    else
      let script := if t.script.isEmpty then (likelyScript? t.language t.territory).getD script.toList
        else script.toList
      knownOrReduced? { t with script := script, variant := [], modifier := [] }

def resolve? (t : Tag) : Option Tag :=
  if t.isKnown then some t
  else
    let t := t.withoutAliases
    let (language, script) :=
      match splitBy (· == '_') t.language with
      | [l, s] => (l, if t.script.isEmpty then s else t.script)
      | _ => (t.language, t.script)
    { t with language, script }.likely?

end Tag

def fallback : String := "en_US"

def normalize (language : Option String) : String :=
  match language with
  | none => fallback
  | some text =>
    match (Tag.read? (text.toList.map fun c => if c == '-' then '_' else c)).bind Tag.resolve? with
    | some t => String.ofList t.name
    | none => fallback

end Letterpress.Locale
