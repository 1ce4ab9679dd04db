import Letterpress.Expression.Evaluation
import Letterpress.Failure
import Letterpress.Markdown
import Letterpress.Structure

/-!
# Rendering

The content of a template with everything filled in, in its dialect: hypertext whose expressions are escaped,
Markdown, or a tree.

* `Rendered.of`: the content of a template for a context.
-/

namespace Letterpress

structure Rendered where
  dialect : Dialect
  html : String
  /-- the Markdown text, where that is the dialect -/
  markup : Option String := none
  /-- the tree, where the content is one -/
  tree : Value := .none
  deriving Inhabited

namespace Rendered

/-- Text with its expressions evaluated. `extra` names win over those of the context. -/
def fill (escapes : Bool) (c : Context) (extra : Fields) (source : String) : Except Fault (List Char) :=
  Expression.render ⟨escapes, c.setting, Fields.overlay c.names extra⟩ source.toList

/-- A piece of hypertext with its expressions evaluated. -/
def hypertext (id : String) (c : Context) (extra : Fields) (source : String) : Except Failure String :=
  match fill true c extra source with
  | .ok cs => .ok (String.ofList cs)
  | .error e => .error (.rendering id (.fault e))

def markupOf (id : String) (c : Context) (source : String) : Except Failure Rendered :=
  match fill false c [] source with
  | .ok cs => .ok ⟨.markup, String.ofList (Markdown.toHypertext cs), some (String.ofList cs), .none⟩
  | .error e => .error (.rendering id (.fault e))

def structured (id : String) (c : Context) (content : Content) : Except Failure Rendered :=
  match (Structure.ofContent content).bind (Structure.substitute c) with
  | .ok tree => .ok ⟨.structured, String.ofList (Structure.toHypertext 2 tree), none, tree⟩
  | .error e => .error (.rendering id (.fault e))

/-- The content of a template for a context. Hypertext and Markdown are text. -/
def of (t : Template) (c : Context) : Except Failure Rendered :=
  match t.dialect, t.content with
  | .hypertext, .text s => do return ⟨.hypertext, ← hypertext t.id c [] s, none, .none⟩
  | .markup, .text s => markupOf t.id c s
  | .structured, content => structured t.id c content
  | d, _ => .error (.contentNotText t.id d)

end Rendered

end Letterpress
