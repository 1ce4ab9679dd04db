import Letterpress.Document.Fragment

/-!
# Pages for printing

A document as hypertext from which a browser prints pages, and the headers and footers that run along them.

* `PrintPage.of`: the hypertext of a document.
* `PrintPage.header`, `PrintPage.footer`: what runs along its pages.
-/

namespace Letterpress.PrintPage

open Fragment

def bodyRule : String :=
  "body \x7b font-family: Arial, Helvetica, sans-serif; font-size: 12pt; line-height: 1.5; \x7d"

def of (d : Draft) : List Char :=
  joinLines
    (["<!DOCTYPE html>".toList,
      "<html lang=\"".toList ++ escapeOptional d.options.language ++ "\">".toList,
      "<head>".toList,
      "<meta charset=\"utf-8\">".toList,
      "<title>".toList ++ Hypertext.escape (d.options.titleFor d.template).toList ++ "</title>".toList,
      "<style>".toList, pageRule "" d.template.page, bodyRule.toList] ++ rules d ++
      ["</style>".toList, "</head>".toList, "<body>".toList,
        watermark d.options, d.rendered.html.toList, signatures d,
        "</body>".toList, "</html>".toList, []])

/-! ## Headers and footers -/

/-- Elements that a browser fills with the number of a page and the number of all pages. -/
def pageNumber : String := "<span class=\"pageNumber\"></span>"

def totalPages : String := "<span class=\"totalPages\"></span>"

def pageTokens : Fields := [("pageNumber", .markup pageNumber), ("totalPages", .markup totalPages)]

def runningStyle : String := "font-size: 9px; width: 100%; padding: 0 1cm; color: #555;"

/-- The header: that of the template, or the logo of the options. -/
def header (c : Context) (o : Options) (t : Template) : Except Failure (Option String) :=
  match Options.given? t.header, Options.given? o.headerLogo with
  | some source, _ => do return some (← Rendered.hypertext t.id c pageTokens source)
  | none, some logo =>
    .ok (some (s!"<div style=\"{runningStyle}\"><img src=\"" ++ Hypertext.escapeString logo ++
      "\" style=\"height: 32px;\"></div>"))
  | none, none => .ok none

/-- The footer: that of the template, or the text of the options with number and pages. -/
def footer (c : Context) (o : Options) (t : Template) : Except Failure String :=
  match Options.given? t.footer with
  | some source => Rendered.hypertext t.id c pageTokens source
  | none =>
    let own := match Options.given? o.footerText with
      | some s => "<div>" ++ Hypertext.escapeString s ++ "</div>"
      | none => ""
    .ok (s!"<div style=\"{runningStyle} text-align: center;\">" ++ own ++ "<div>Document #" ++
      String.ofList (escapeAttribute c.documentNumber) ++ s!" - Page {pageNumber} of {totalPages}</div></div>")

end Letterpress.PrintPage
