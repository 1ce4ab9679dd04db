import Letterpress.Proofs.Json.RoundTrip
import Letterpress.Rendering

/-!
# Trees as text

The content of a structured template comes as a tree or as text in JSON, and the value at the end of a path goes into a
text as JSON. Neither loses anything: JSON that is written is read as the same tree.

* `Structure.IsTree`: objects and arrays that JSON holds exactly.
* `Structure.tree_as_text`: what is rendered for a tree and for its text, and what stands for a reference to one.
-/

namespace Letterpress.Structure

/-- An object or an array without fractions anywhere in it, where no number has too many digits. -/
structure IsTree (v : Value) : Prop where
  branches : (∃ xs, v = .list xs) ∨ ∃ fields, v = .record fields
  exact : Json.Exact v

variable {v : Value}

theorem read_compact (tree : IsTree v) : Json.read (Json.compact false v) = .ok v :=
  Json.read_write tree.exact _

theorem insertText_eq (tree : IsTree v) : insertText v = Json.compact false v := by
  rcases tree.branches with ⟨xs, rfl⟩ | ⟨fields, rfl⟩ <;> rfl

theorem ofContent_compact {content : Content} (tree : IsTree content.toValue) :
    ofContent (.text (String.ofList (Json.compact false content.toValue))) = ofContent content := by
  have text : ofContent (.text (String.ofList (Json.compact false content.toValue))) = .ok content.toValue := by
    rw [ofContent, String.toList_ofList, read_compact tree]
  rw [text]
  cases content with
  | text s => rcases tree.branches with ⟨xs, same⟩ | ⟨fields, same⟩ <;> cases same
  | record fields => rfl
  | list xs => rfl

/-- A tree and the JSON text of it are the same content, for every context: the same comes of them, or the same fault.
And the text that stands for a reference to a tree is JSON of that tree. -/
theorem tree_as_text (c : Context) :
    (∀ t : Template, t.dialect = .structured → IsTree t.content.toValue →
      Rendered.of { t with content := .text (String.ofList (Json.compact false t.content.toValue)) } c =
        Rendered.of t c) ∧
      ∀ path v, c.resolvePath path = .ok (some v) → IsTree v →
        ofPieces c [.reference path] = .ok (Json.compact false v) ∧ Json.read (Json.compact false v) = .ok v := by
  constructor
  · intro t structured tree
    have rendered (content : Content) : Rendered.of { t with content } c = Rendered.structured t.id c content := by
      rw [Rendered.of]
      simp only [structured]
    rw [rendered, show t = { t with content := t.content } from rfl, rendered, Rendered.structured, Rendered.structured,
      ofContent_compact tree]
  · intro path v found tree
    refine ⟨?_, read_compact tree⟩
    rw [ofPieces, ofPieces, found, ← insertText_eq tree]
    exact congrArg Except.ok (List.append_nil _)

/-- Characters of all kinds, in keys and in texts, and a reference. -/
def motley : Fields :=
  [("k\"\\\n", .text "\u0001 \u00e9 \u2028 \x7d"),
    ("", .list [.int (-120), .none, .bool true, .text "$\x7bclient\x7d"])]

theorem isTree_motley : IsTree (.record motley) where
  branches := .inr ⟨motley, rfl⟩
  exact := by
    have items : ∀ x ∈ [Value.int (-120), .none, .bool true, .text "$\x7bclient\x7d"], Json.Exact x := by
      simp only [List.forall_mem_cons, List.not_mem_nil, false_implies, implies_true, and_true]
      exact ⟨.int (by decide), .none, .bool true, .text _⟩
    refine .record (by decide) ?_
    simp only [motley, List.forall_mem_cons, List.not_mem_nil, false_implies, implies_true, and_true]
    exact ⟨.text _, .list items⟩

/-- A context with the same tree. -/
def motleyContext : Context := ⟨[("client", .record motley)], default, []⟩

theorem tree_as_text_motley :
    Rendered.of { (default : Template) with
          dialect := .structured
          content := .text (String.ofList (Json.compact false (.record motley))) } motleyContext =
        Rendered.of { (default : Template) with dialect := .structured, content := .record motley } motleyContext ∧
      ofPieces motleyContext [.reference "client".toList] = .ok (Json.compact false (.record motley)) ∧
      Json.read (Json.compact false (.record motley)) = .ok (.record motley) := by
  have same := tree_as_text motleyContext
  exact ⟨same.1 { (default : Template) with dialect := .structured, content := .record motley } rfl isTree_motley,
    same.2 "client".toList _ rfl isTree_motley⟩

end Letterpress.Structure
