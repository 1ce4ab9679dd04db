import Letterpress.Proofs.Context.Layers
import Letterpress.Proofs.Expression.Stencil
import Letterpress.Proofs.Fields
import Letterpress.Rendering

/-!
# Placeholders

What comes of a stencil in the dialects with expressions: its literal text stays as it is, and in the place of each name
stands the text of its value, which is not looked at again.

* `Expr.read_alone`: a name that stands alone in a print statement, through all levels of the grammar.
* `Stencil.ofTokens_tokens`: the nodes of a stencil.
* `Stencil.runAll_nodes`, `Stencil.runAll_nodes_error`: what they yield, and that a name without text yields nothing.
* `placeholders_filled`: the content of a template that is a stencil.
-/

namespace Letterpress

open Expression

namespace Expression

/-- Words with a meaning of their own in a print statement: an operator, the constants, and the names by which a
template speaks of itself. -/
def reserved : List String := ["not", "true", "True", "false", "False", "none", "None", "self", "super"]

/-- A name that means what the context has under it. -/
structure IsPlainName (n : String) : Prop where
  identifier : Stencil.isIdentifier n.toList = true
  notReserved : n ∉ reserved
  notHelper : Helper.ofName? n = none
  notGlobal : n ∉ globalNames

theorem ok_bind {α β : Type} (a : α) (f : α → Except Fault β) : (Except.ok a >>= f) = f a := rfl

theorem map_ok {α β : Type} (a : α) (f : α → β) : (f <$> (Except.ok a : Except Fault α)) = .ok (f a) := rfl

/-! ## Reading -/

namespace Expr

variable {n : String} {rest : List Token}

/-- A name that stands alone in a print statement. -/
abbrev alone (n : String) (rest : List Token) : Tokens := .name n :: .closePrint :: rest

theorem constant?_of_not_reserved (free : n ∉ reserved) : constant? n = none := by
  unfold constant?
  split <;> simp_all [reserved]

/-- Each level of the grammar takes the name from the tighter one, and finds nothing behind it. -/
theorem read_alone (free : n ∉ reserved) (fuel : Nat) :
    read (fuel + 10) (alone n rest) = .ok (.name n, .closePrint :: rest) := by
  have primary (fuel) : readPrimary (fuel + 1) (alone n rest) = .ok (.name n, .closePrint :: rest) := by
    simp only [readPrimary, constant?_of_not_reserved free]
    rfl
  have signed (fuel) : readSigned (fuel + 2) true (alone n rest) = .ok (.name n, .closePrint :: rest) := by
    have inner : readSigned (fuel + 2) true (alone n rest) =
        (readPrimary (fuel + 1) (alone n rest) >>= fun r =>
          readPostfix (fuel + 1) r.1 r.2 >>= fun r => readFilters (fuel + 1) r.1 r.2) := rfl
    rw [inner, primary, ok_bind]
    rfl
  have power (fuel) : readPower (fuel + 3) (alone n rest) = .ok (.name n, .closePrint :: rest) := by
    rw [readPower, signed, ok_bind]
    rfl
  have product (fuel) : readProduct (fuel + 4) (alone n rest) = .ok (.name n, .closePrint :: rest) := by
    rw [readProduct, power, ok_bind]
    rfl
  have concat (fuel) : readConcat (fuel + 5) (alone n rest) = .ok (.name n, .closePrint :: rest) := by
    rw [readConcat, product, ok_bind]
    rfl
  have sum (fuel) : readSum (fuel + 6) (alone n rest) = .ok (.name n, .closePrint :: rest) := by
    rw [readSum, concat, ok_bind]
    rfl
  have negation (fuel) : readNot (fuel + 7) (alone n rest) = .ok (.name n, .closePrint :: rest) := by
    have ordinary : Tokens.isAtName "not" (alone n rest) = false := by
      refine beq_eq_false_iff_ne.mpr ?_
      rintro rfl
      exact free List.mem_cons_self
    simp only [readNot, ordinary, Bool.false_eq_true, if_false, sum, ok_bind]
    rfl
  have conjunction (fuel) : readAnd (fuel + 8) (alone n rest) = .ok (.name n, .closePrint :: rest) := by
    rw [readAnd, negation, ok_bind]
    rfl
  have disjunction (fuel) : readOr (fuel + 9) (alone n rest) = .ok (.name n, .closePrint :: rest) := by
    rw [readOr, conjunction, ok_bind]
    rfl
  rw [read, disjunction, ok_bind]
  rfl

theorem readSequence_alone (free : n ∉ reserved) (fuel : Nat) :
    readSequence (fuel + 12) true noToken false (alone n rest) = .ok (.name n, .closePrint :: rest) := by
  have items : readSequenceItems (fuel + 11) true noToken (alone n rest) =
      .ok (([.name n], false), .closePrint :: rest) := by
    have begins : isSequenceEnd noToken (alone n rest) = false := rfl
    simp only [readSequenceItems, begins, Bool.false_eq_true, if_false, if_true, read_alone free, ok_bind]
    rfl
  rw [readSequence, items, ok_bind]
  rfl

end Expr

namespace Node

variable {n : String} {ts : List Token} {nodes : List Node}

/-- Tokens are read as nodes up to their end. -/
structure Reads (ts : List Token) (nodes : List Node) : Prop where
  settles : Tokens.settle ts = .ok ts
  reads : ∀ fuel, ts.length < fuel → readAll fuel {} none ts = .ok (nodes, [])

namespace Reads

theorem nil : Reads [] [] where
  settles := rfl
  reads fuel enough := by
    obtain ⟨fuel, rfl⟩ : ∃ k, fuel = k + 1 := ⟨fuel - 1, by simp at enough; omega⟩
    rfl

theorem data (further : Reads ts nodes) (cs : List Char) : Reads (.data cs :: ts) (.data cs :: nodes) where
  settles := rfl
  reads fuel enough := by
    obtain ⟨fuel, rfl⟩ : ∃ k, fuel = k + 1 := ⟨fuel - 1, by omega⟩
    have later := further.reads fuel (by simpa using enough)
    have next : Tokens.advance (.data cs :: ts) = .ok ts := further.settles
    simp only [readAll, next, ok_bind, later]
    rfl

theorem print (further : Reads ts nodes) (free : n ∉ reserved) :
    Reads (.openPrint :: .name n :: .closePrint :: ts) (.print (.name n) :: nodes) where
  settles := rfl
  reads fuel enough := by
    obtain ⟨fuel, rfl⟩ : ∃ k, fuel = k + 1 := ⟨fuel - 1, by omega⟩
    have later := further.reads fuel (by simp at enough; omega)
    have next : Tokens.advance (.openPrint :: .name n :: .closePrint :: ts) = .ok (Expr.alone n ts) := rfl
    have expr : readExpr true Expr.noToken (Expr.alone n ts) = .ok (.name n, .closePrint :: ts) :=
      Expr.readSequence_alone free (20 * (ts.length + 2) + 8)
    have close : Tokens.expect Tokens.isClosePrint "end of print statement" (.closePrint :: ts) = .ok ts :=
      further.settles
    simp only [readAll, next, ok_bind, expr, close, later]
    rfl

end Reads

end Node

namespace Stencil

variable {s : Stencil} {env : Surroundings} {n : String}

def dataNodes (cs : List Char) : List Node := if cs.isEmpty then [] else [.data cs]

/-- The nodes of a stencil: a print statement for each name, and its literal text between them. -/
def nodes (s : Stencil) : List Node :=
  dataNodes s.front ++ s.slots.flatMap fun slot => .print (.name slot.1) :: dataNodes slot.2

theorem reads_ofData {ts : List Token} {ns : List Node} (further : Node.Reads ts ns) (cs : List Char) :
    Node.Reads (Token.ofData false cs ++ ts) (dataNodes cs ++ ns) := by
  cases cs with
  | nil => exact further
  | cons c cs => exact further.data (c :: cs)

theorem reads_tokens (front : List Char) (slots : List (String × List Char))
    (free : ∀ n ∈ names ⟨front, slots⟩, n ∉ reserved) : Node.Reads (tokens ⟨front, slots⟩) (nodes ⟨front, slots⟩) := by
  induction slots generalizing front with
  | nil => exact reads_ofData .nil front
  | cons slot slots ih =>
    obtain ⟨here, later⟩ := List.forall_mem_cons.mp free
    have further := (ih slot.2 later).print here
    exact reads_ofData further front

theorem ofTokens_tokens (free : ∀ n ∈ s.names, n ∉ reserved) : Node.ofTokens s.tokens = .ok s.nodes := by
  have reads := reads_tokens s.front s.slots free
  rw [Node.ofTokens, reads.settles, ok_bind, reads.reads _ (by omega)]
  rfl

theorem unknownIn?_nodes (front : List Char) (slots : List (String × List Char)) :
    Node.unknownIn? false (nodes ⟨front, slots⟩) = none := by
  have ofData (cs : List Char) (ns : List Node) :
      Node.unknownIn? false (dataNodes cs ++ ns) = Node.unknownIn? false ns := by
    cases cs <;> rfl
  induction slots generalizing front with
  | nil => exact (ofData front []).trans rfl
  | cons slot slots ih => exact (ofData front _).trans (ih slot.2)

/-! ## Running -/

/-- The text of a value in the place of an expression. -/
def textOf (env : Surroundings) (v : Value) : Except Fault (List Char) :=
  if env.escapes then String.toList <$> escapeValue v else v.text?

theorem run_print (n : String) :
    Node.run env [[]] (.print (.name n)) = (fun cs => (cs, [[]])) <$> textOf env (valueOf env [[]] n) := by
  rw [Node.run, Expr.eval, ok_bind, textOf]
  split
  · cases escapeValue (valueOf env [[]] n) <;> rfl
  · cases (valueOf env [[]] n).text? <;> rfl

theorem runAll_dataNodes (cs : List Char) (ns : List Node) :
    Node.runAll env [[]] (dataNodes cs ++ ns) = (fun out => (cs ++ out.1, out.2)) <$> Node.runAll env [[]] ns := by
  cases cs with
  | nil =>
    change Node.runAll env [[]] ns = _
    cases Node.runAll env [[]] ns <;> rfl
  | cons c cs =>
    change Node.runAll env [[]] (.data (c :: cs) :: ns) = _
    simp only [Node.runAll, Node.run, ok_bind]
    cases Node.runAll env [[]] ns <;> rfl

/-- Where all names have texts, these stand in their places. -/
theorem runAll_nodes (front : List Char) (slots : List (String × List Char)) {texts : String → List Char}
    (given : ∀ n ∈ names ⟨front, slots⟩, textOf env (valueOf env [[]] n) = .ok (texts n)) :
    Node.runAll env [[]] (nodes ⟨front, slots⟩) = .ok (filled ⟨front, slots⟩ texts, [[]]) := by
  induction slots generalizing front with
  | nil =>
    rw [nodes, runAll_dataNodes]
    rfl
  | cons slot slots ih =>
    obtain ⟨here, later⟩ := List.forall_mem_cons.mp given
    have further := ih slot.2 later
    change Node.runAll env [[]] (dataNodes front ++ .print (.name slot.1) :: nodes ⟨slot.2, slots⟩) = _
    simp only [runAll_dataNodes, Node.runAll, run_print, here, map_ok, ok_bind, further, filled, List.flatMap_cons,
      List.append_assoc]
    rfl

/-- Where a name has no text, there is no text at all. -/
theorem runAll_nodes_error (front : List Char) (slots : List (String × List Char)) {f : Fault}
    (member : n ∈ names ⟨front, slots⟩) (refused : textOf env (valueOf env [[]] n) = .error f) :
    ∃ g, Node.runAll env [[]] (nodes ⟨front, slots⟩) = .error g := by
  induction slots generalizing front with
  | nil => cases member
  | cons slot slots ih =>
    change ∃ g, Node.runAll env [[]] (dataNodes front ++ .print (.name slot.1) :: nodes ⟨slot.2, slots⟩) = _
    simp only [runAll_dataNodes, Node.runAll, run_print]
    cases here : textOf env (valueOf env [[]] slot.1) with
    | error g => exact ⟨g, rfl⟩
    | ok cs =>
      rcases List.mem_cons.mp member with rfl | later
      · cases here.symm.trans refused
      · obtain ⟨g, further⟩ := ih slot.2 later
        exact ⟨g, by simp only [map_ok, ok_bind, further]; rfl⟩

theorem render_source (literal : s.Literal) (plain : ∀ n ∈ s.names, IsPlainName n) :
    render env s.source = Prod.fst <$> Node.runAll env [[]] s.nodes := by
  have tokens := ofSource_source literal fun n member => (plain n member).identifier
  have nodes := ofTokens_tokens fun n member => (plain n member).notReserved
  have known := unknownIn?_nodes s.front s.slots
  simp only [render, tokens, nodes, ok_bind, known]
  cases Node.runAll env [[]] s.nodes <;> rfl

end Stencil

/-! ## Names of the context -/

theorem get?_names {n : String} (plain : IsPlainName n) (c : Context) :
    Fields.get? n c.names = Fields.get? n c.values := by
  rw [Context.get?_names, plain.notHelper]
  rfl

/-- A plain name means what the context has under it, and nothing where it has nothing. -/
theorem valueOf_plain {n : String} (plain : IsPlainName n) (escapes : Bool) (c : Context) :
    valueOf ⟨escapes, c.setting, Fields.overlay c.names []⟩ [[]] n =
      (Fields.get? n c.values).getD (Value.undefinedName n) := by
  have names : Fields.get? n (Fields.overlay c.names []) = Fields.get? n c.values := by
    rw [Fields.overlay, List.foldl_nil, get?_names plain]
  have unassigned : Scopes.lookup? n [[]] = none := rfl
  have notGlobal : globalNames.contains n = false := by simpa using plain.notGlobal
  rw [valueOf, unassigned]
  simp only [names, notGlobal]
  cases Fields.get? n c.values <;> rfl

/-- The text of a value in hypertext: safe text as it is, any other with its special characters escaped. -/
def inHypertext : Value → List Char
  | .markup s => s.toList
  | v => Hypertext.escapeExpression v.display

theorem textOf_of_refusal? {v : Value} (usable : v.refusal? = none) (setting : Helper.Setting) (fields : Fields) :
    Stencil.textOf ⟨true, setting, fields⟩ v = .ok (inHypertext v) ∧
      Stencil.textOf ⟨false, setting, fields⟩ v = .ok v.display := by
  have text : v.text? = .ok v.display := by rw [Value.text?, usable]
  refine ⟨?_, text⟩
  cases v
  case markup s => rfl
  all_goals
    simp only [Stencil.textOf, if_true, escapeValue, text, ok_bind, inHypertext]
    exact congrArg Except.ok String.toList_ofList

end Expression

open Expression

/-- A template of literal text and placeholders. Where the context has a value for each name, the content is the literal
text with the texts of these values in it, whatever they look like: escaped in hypertext, as they are in Markdown. Where a
name is missing, there is no content, and the failure says of which template. -/
theorem placeholders_filled {s : Stencil} (literal : s.Literal) (plain : ∀ n ∈ s.names, IsPlainName n) {t : Template}
    (given : t.content = .text (String.ofList s.source)) (c : Context) :
    (∀ values : String → Value,
        (∀ n ∈ s.names, Fields.get? n c.values = some (values n) ∧ (values n).refusal? = none) →
          (t.dialect = .hypertext → Rendered.of t c =
            .ok ⟨.hypertext, String.ofList (s.filled fun n => inHypertext (values n)), none, .none⟩) ∧
          (t.dialect = .markup → ∃ html, Rendered.of t c =
            .ok ⟨.markup, html, some (String.ofList (s.filled fun n => (values n).display)), .none⟩)) ∧
      ((∃ n ∈ s.names, Fields.get? n c.values = none) → t.dialect ≠ .structured →
        ∃ f, Rendered.of t c = .error (.rendering t.id (.fault f))) := by
  have filling (escapes : Bool) : Rendered.fill escapes c [] (String.ofList s.source) =
      Prod.fst <$> Node.runAll ⟨escapes, c.setting, Fields.overlay c.names []⟩ [[]] s.nodes := by
    rw [Rendered.fill, String.toList_ofList, Stencil.render_source literal plain]
  have hypertext (h : t.dialect = .hypertext) : Rendered.of t c =
      (fun html => ⟨.hypertext, html, none, .none⟩) <$> Rendered.hypertext t.id c [] (String.ofList s.source) := by
    simp only [Rendered.of, h, given]
    cases Rendered.hypertext t.id c [] (String.ofList s.source) <;> rfl
  have markup (h : t.dialect = .markup) : Rendered.of t c = Rendered.markupOf t.id c (String.ofList s.source) := by
    rw [Rendered.of, h, given]
  constructor
  · intro values named
    have texts (escapes : Bool) (n : String) (member : n ∈ s.names) :
        Stencil.textOf ⟨escapes, c.setting, Fields.overlay c.names []⟩
            (valueOf ⟨escapes, c.setting, Fields.overlay c.names []⟩ [[]] n) =
          .ok (if escapes then inHypertext (values n) else (values n).display) := by
      obtain ⟨found, usable⟩ := named n member
      rw [valueOf_plain (plain n member), found, Option.getD_some]
      cases escapes with
      | true => exact (textOf_of_refusal? usable _ _).1
      | false => exact (textOf_of_refusal? usable _ _).2
    refine ⟨fun h => ?_, fun h => ?_⟩
    · rw [hypertext h, Rendered.hypertext, filling, Stencil.runAll_nodes s.front s.slots (texts true)]
      rfl
    · rw [markup h, Rendered.markupOf, filling, Stencil.runAll_nodes s.front s.slots (texts false)]
      exact ⟨_, rfl⟩
  · rintro ⟨n, member, missing⟩ other
    have refused (escapes : Bool) : ∃ f, Stencil.textOf ⟨escapes, c.setting, Fields.overlay c.names []⟩
        (valueOf ⟨escapes, c.setting, Fields.overlay c.names []⟩ [[]] n) = .error f := by
      rw [valueOf_plain (plain n member), missing, Option.getD_none]
      cases escapes <;> exact ⟨_, rfl⟩
    have failing (escapes : Bool) : ∃ f, Rendered.fill escapes c [] (String.ofList s.source) = .error f := by
      obtain ⟨f, text⟩ := refused escapes
      obtain ⟨g, run⟩ := Stencil.runAll_nodes_error s.front s.slots member text
      exact ⟨g, by rw [filling, run]; rfl⟩
    cases h : t.dialect with
    | hypertext =>
      obtain ⟨f, failed⟩ := failing true
      exact ⟨f, by rw [hypertext h, Rendered.hypertext, failed]; rfl⟩
    | markup =>
      obtain ⟨f, failed⟩ := failing false
      exact ⟨f, by rw [markup h, Rendered.markupOf, failed]⟩
    | structured => exact absurd h other

/-- A value with brackets and a tag, in a template of either dialect. -/
theorem placeholders_filled_injection :
    let s : Stencil := ⟨['H', 'i', ' '], [("name", ['!'])]⟩
    let c : Context := ⟨[("name", .text "<b>\x7b\x7b x \x7d\x7d")], ⟨"en", "", "", ""⟩, []⟩
    let t (d : Dialect) : Template :=
      { (default : Template) with dialect := d, content := .text (String.ofList s.source) }
    Rendered.of (t .hypertext) c = .ok ⟨.hypertext, "Hi &lt;b&gt;\x7b\x7b x \x7d\x7d!", none, .none⟩ ∧
      ∃ html, Rendered.of (t .markup) c = .ok ⟨.markup, html, some "Hi <b>\x7b\x7b x \x7d\x7d!", .none⟩ := by
  intro s c t
  have literal : s.Literal := ⟨by decide, by decide, by decide⟩
  have plain : ∀ n ∈ s.names, IsPlainName n := by
    intro n member
    obtain rfl := List.mem_singleton.mp member
    exact ⟨by decide, by decide, by decide, by decide⟩
  have named : ∀ n ∈ s.names, Fields.get? n c.values = some (.text "<b>\x7b\x7b x \x7d\x7d") ∧
      (Value.text "<b>\x7b\x7b x \x7d\x7d").refusal? = none := by
    intro n member
    obtain rfl := List.mem_singleton.mp member
    exact ⟨rfl, rfl⟩
  have hypertext := ((placeholders_filled literal plain (t := t .hypertext) rfl c).1 (fun _ => _) named).1 rfl
  have markup := ((placeholders_filled literal plain (t := t .markup) rfl c).1 (fun _ => _) named).2 rfl
  exact ⟨hypertext, markup⟩

end Letterpress
