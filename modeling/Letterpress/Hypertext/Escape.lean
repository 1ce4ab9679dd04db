/-!
# Escaping hypertext

* `Hypertext.escape`: text as hypertext that shows it, safe in content and in attribute values.
* `Hypertext.escapeExpression`: the same for the values of template expressions, which writes both quotes as
  decimal references.
-/

namespace Letterpress.Hypertext

/-- What the five special characters are written as. -/
structure EscapeStyle where
  quote : List Char
  apostrophe : List Char

def EscapeStyle.char (s : EscapeStyle) (c : Char) : List Char :=
  match c with
  | '&' => ['&', 'a', 'm', 'p', ';']
  | '<' => ['&', 'l', 't', ';']
  | '>' => ['&', 'g', 't', ';']
  | '"' => s.quote
  | '\'' => s.apostrophe
  | c => [c]

def named : EscapeStyle := ⟨['&', 'q', 'u', 'o', 't', ';'], ['&', '#', 'x', '2', '7', ';']⟩

def numeric : EscapeStyle := ⟨['&', '#', '3', '4', ';'], ['&', '#', '3', '9', ';']⟩

def escape (cs : List Char) : List Char := cs.flatMap named.char

def escapeExpression (cs : List Char) : List Char := cs.flatMap numeric.char

/-- `escape` on strings. -/
def escapeString (s : String) : String := String.ofList (escape s.toList)

end Letterpress.Hypertext
