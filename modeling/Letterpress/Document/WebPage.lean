import Letterpress.Document.Fragment

/-!
# Web pages

A document as a page of its own for the web, with what is known about it in its head and rules for printing.

* `WebPage.of`: the page of a document.
-/

namespace Letterpress.WebPage

open Fragment

def baseRules : List Char :=
  fixed ["",
    "body \x7b font-family: Arial, Helvetica, sans-serif; line-height: 1.5; max-width: 210mm; margin: 0 auto; " ++
      "padding: 2em; \x7d",
    ".document-footer \x7b margin-top: 3em; padding-top: 1em; border-top: 1px solid #ccc; font-size: 0.8em; " ++
      "color: #666; text-align: center; \x7d",
    ""]

/-- What is known about a document. -/
def description (d : Draft) : List (String × Value) :=
  [("generator", .text creator),
    ("author", Options.optionalText d.options.author),
    ("description", subject d.template d.options),
    ("keywords", .text (", ".intercalate (keywords d.template d.options))),
    ("document-id", d.context.documentNumber),
    ("creation-date", (Fields.get? "currentDate" d.context.values).getD .none),
    ("revision", .int d.options.revision)]

def metaTag (name : String) (v : Value) : List Char :=
  "<meta name=\"".toList ++ name.toList ++ "\" content=\"".toList ++ escapeAttribute v ++ "\">".toList

def footer (d : Draft) : List Char :=
  let own := match Options.given? d.options.footerText with
    | some s => Hypertext.escape s.toList ++ "<br>".toList
    | none => []
  own ++ "Document #".toList ++ escapeAttribute d.context.documentNumber ++ " - Generated on ".toList ++
    escapeAttribute ((Fields.get? "currentDate" d.context.values).getD .none)

def of (d : Draft) : List Char :=
  joinLines
    (["<!DOCTYPE html>".toList,
      "<html lang=\"".toList ++ escapeOptional d.options.language ++ "\">".toList,
      "<head>".toList,
      "<meta charset=\"utf-8\">".toList,
      "<meta name=\"viewport\" content=\"width=device-width, initial-scale=1\">".toList] ++
      (description d).map (fun (name, v) => metaTag name v) ++
      ["<title>".toList ++ Hypertext.escape (d.options.titleFor d.template).toList ++ "</title>".toList,
        "<style>".toList, baseRules] ++ rules d ++
      ["@media print \x7b".toList, pageRule "  " d.template.page, "  body \x7b max-width: none; padding: 0; \x7d".toList,
        "\x7d".toList, "</style>".toList, "</head>".toList, "<body>".toList,
        watermark d.options,
        "<main class=\"document-content\">".toList, d.rendered.html.toList, "</main>".toList,
        signatures d,
        "<footer class=\"document-footer\">".toList ++ footer d ++ "</footer>".toList,
        "</body>".toList, "</html>".toList, []])

end Letterpress.WebPage
