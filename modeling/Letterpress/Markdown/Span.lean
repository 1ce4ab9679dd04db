import Letterpress.Markdown.Outline

/-!
# Spans

The parts of a line of Markdown text: characters, code, hypertext, line breaks, emphasis, links and images.
Text starts as characters; each kind of markup replaces the characters that it is made of by spans, and later
kinds find their markup among the characters that are left.

* `Span.everywhere`: a replacement in a text and in all that its spans contain.
* `Span.toHypertext`: spans as hypertext.
-/

namespace Letterpress.Markdown

open Text Hypertext

inductive Span where
  | char (c : Char)
  /-- a character that is no markup -/
  | literal (c : Char)
  | hypertext (cs : List Char)
  | code (cs : List Char)
  | lineBreak
  | emphasis (content : List Span)
  | strong (content : List Span)
  | link (target : Target) (content : List Span)
  | image (target : Target) (alternative : List Char)
  deriving Inhabited

namespace Span

def ofChars (cs : List Char) : List Span := cs.map char

def literals (cs : List Char) : List Span := cs.map literal

/-- The character of a span that may still be markup. -/
def char? : Span → Option Char
  | char c => some c
  | _ => none

def «is» (c : Char) (s : Span) : Bool := s.char? == some c

/-- Whether a span is a character of a class. -/
def isOne (p : Char → Bool) (s : Span) : Bool := (s.char?.map p).getD false

/-- The characters at the start of a text that spell a word, taken off. -/
def dropWord? (word : List Char) : List Span → Option (List Span)
  | ss =>
    match word, ss with
    | [], ss => some ss
    | w :: ws, s :: ss => if s.is w then dropWord? ws ss else none
    | _ :: _, [] => none

/-- Replaces markup in a text and in what the spans of the text contain. -/
def everywhere (replace : List Span → List Span) (ss : List Span) : List Span := replace (within ss)
where
  within : List Span → List Span
    | [] => []
    | emphasis content :: ss => emphasis (replace (within content)) :: within ss
    | strong content :: ss => strong (replace (within content)) :: within ss
    | link target content :: ss => link target (replace (within content)) :: within ss
    | s :: ss => s :: within ss

/-! ## Hypertext -/

/-- Whether a reference to a character follows an ampersand. -/
def isReference (cs : List Char) : Bool :=
  match cs with
  | '#' :: 'x' :: cs | '#' :: 'X' :: cs => closes isHex cs
  | '#' :: cs => closes isAsciiDigit cs
  | cs => closes isAsciiAlnum cs
where
  closes (p : Char → Bool) (cs : List Char) : Bool :=
    !(cs.takeWhile p).isEmpty && (cs.dropWhile p).head? == some ';'

/-- Text as hypertext that shows it; references to characters stay as they are. -/
def escapeText : List Char → List Char
  | [] => []
  | '&' :: cs => (if isReference cs then ['&'] else "&amp;".toList) ++ escapeText cs
  | '<' :: cs => "&lt;".toList ++ escapeText cs
  | '>' :: cs => "&gt;".toList ++ escapeText cs
  | c :: cs => c :: escapeText cs

def escapeValue (cs : List Char) : List Char :=
  (escapeText cs).flatMap fun c => if c == '"' then "&quot;".toList else [c]

def attributeOf (name : String) (value : List Char) : List Char :=
  ' ' :: name.toList ++ "=\"".toList ++ escapeValue value ++ ['"']

def titleOf (t : Target) : List Char := (t.title.map (attributeOf "title")).getD []

def element (name : String) (attributes content : List Char) : List Char :=
  '<' :: name.toList ++ attributes ++ '>' :: content ++ "</".toList ++ name.toList ++ ['>']

/-- Text that waits to be written. A line feed comes before text behind a line break, and takes the place of
text that is blank. -/
def flush (afterBreak : Bool) (text : List Char) : List Char :=
  if !afterBreak then escapeText text
  else if text.all isBlank then ['\n']
  else '\n' :: escapeText text

/-- Spans as hypertext, given the text that waits, last character first. -/
def hypertextFrom (afterBreak : Bool) (text : List Char) : List Span → List Char
  | [] => flush afterBreak text.reverse
  | char c :: ss => hypertextFrom afterBreak (c :: text) ss
  | literal c :: ss => hypertextFrom afterBreak (c :: text) ss
  | hypertext h :: ss =>
    (if afterBreak then ['\n'] else []) ++ escapeText text.reverse ++ h ++ hypertextFrom false [] ss
  | code cs :: ss =>
    flush afterBreak text.reverse ++ element "code" [] (cs.flatMap codeChar) ++ hypertextFrom false [] ss
  | lineBreak :: ss => flush afterBreak text.reverse ++ "<br />".toList ++ hypertextFrom true [] ss
  | emphasis content :: ss =>
    flush afterBreak text.reverse ++ element "em" [] (hypertextFrom false [] content) ++ hypertextFrom false [] ss
  | strong content :: ss =>
    flush afterBreak text.reverse ++ element "strong" [] (hypertextFrom false [] content) ++
      hypertextFrom false [] ss
  | link target content :: ss =>
    flush afterBreak text.reverse ++
      element "a" (attributeOf "href" target.address ++ titleOf target) (hypertextFrom false [] content) ++
      hypertextFrom false [] ss
  | image target alternative :: ss =>
    flush afterBreak text.reverse ++ "<img".toList ++ attributeOf "alt" alternative ++
      attributeOf "src" target.address ++ titleOf target ++ " />".toList ++ hypertextFrom false [] ss
where
  codeChar (c : Char) : List Char := if c == '"' || c == '\'' then [c] else named.char c

def toHypertext (ss : List Span) : List Char := hypertextFrom false [] ss

/-! ## Text -/

/-- The text of spans, for values of attributes. -/
def plainText : List Span → List Char
  | [] => []
  | char c :: ss => c :: plainText ss
  | literal c :: ss => c :: plainText ss
  | hypertext h :: ss => h ++ plainText ss
  | code cs :: ss => cs.flatMap hypertextFrom.codeChar ++ plainText ss
  | emphasis content :: ss => plainText content ++ plainText ss
  | strong content :: ss => plainText content ++ plainText ss
  | link _ content :: ss => plainText content ++ plainText ss
  | lineBreak :: ss => plainText ss
  | image _ _ :: ss => plainText ss

/-- The source of a span inside a tag: a literal character has its backslash again, and other spans are
hypertext. -/
def tagSource : Span → List Char
  | char c => [c]
  | literal c => ['\\', c]
  | hypertext h => h
  | s => toHypertext [s]

/-- The name that spans spell in a reference; code keeps its accents, and other spans spell no name. -/
def nameOf (ss : List Span) : List Char :=
  lower (ss.flatMap fun
    | char c => [c]
    | code cs => '\x60' :: cs ++ ['\x60']
    | _ => ['\x02'])

/-- The text before the first span that is none, and the spans from there on. -/
def leadingText : List Span → List Char × List Span
  | char c :: ss => let (t, rest) := leadingText ss; (c :: t, rest)
  | literal c :: ss => let (t, rest) := leadingText ss; (c :: t, rest)
  | ss => ([], ss)

end Span

end Letterpress.Markdown
