import Mathlib.Logic.Relation
import StoryCatalog.JavaScript.Lowering

/-!
# Lowered nodes

The definitions by which a node of a syntax tree becomes one of a script go down the tree along facts on sizes. Here are
their equations without these, one for each kind of node with something in it.

* `SyntaxNode.Contains`: a node and all that is below it.
* `SyntaxNode.bare?`, `SyntaxNode.toExpression_eq_of_bare?`: parentheses do not matter.
* `SyntaxNode.toExpression_template`: a template is read part by part.
* `SyntaxNode.becomesMember`, `SyntaxNode.becomesField`: what becomes a member of an object, and how.
* `SyntaxNode.kind_of_soleKind?`: what may become an expression of some form.
-/

namespace StoryCatalog.JavaScript.SyntaxNode

variable {code : List Char} {n : SyntaxNode}

/-! ## Nodes of a tree -/

/-- A node is another, or is one of its children, or one of theirs, and so on. -/
def Contains : SyntaxNode → SyntaxNode → Prop :=
  Relation.ReflTransGen fun n c => c ∈ n.children

theorem contains_of_mem {c : SyntaxNode} (h : c ∈ n.children) : n.Contains c :=
  .single h

theorem contains_of_mem_named {c : SyntaxNode} (h : c ∈ n.named) : n.Contains c :=
  contains_of_mem (mem_children_of_mem_named h)

theorem contains_of_head?_named {c : SyntaxNode} (h : n.named.head? = some c) : n.Contains c :=
  contains_of_mem_named (List.mem_of_head? h)

theorem contains_of_childByField? {c : SyntaxNode} {field : String} (h : n.childByField? field = some c) :
    n.Contains c :=
  contains_of_mem (mem_children_of_childByField? h)

/-! ## Statements -/

theorem toStatements_eq (n : SyntaxNode) : n.toStatements code = n.named.map (·.toStatement code) := by
  rw [toStatements]
  simp

theorem toStatement_expression (h : n.kind = "expression_statement") :
    n.toStatement code = (n.named.head?.map fun e => .expression n.span (e.toExpression code)).getD .unknown := by
  rw [toStatement, h]
  simp

theorem toStatement_return (h : n.kind = "return_statement") :
    n.toStatement code = .returns n.span (n.named.head?.map (·.toExpression code)) := by
  rw [toStatement, h]
  simp

theorem toStatement_export (h : n.kind = "export_statement") : n.toStatement code =
    if n.children.any (·.kind == "default") then .defaultExport ⟨n.span, n.toExported code⟩
    else .namedExport n.span ((n.childByField? "declaration").map (·.toStatement code)) := by
  rw [toStatement, h]
  simp [toExport]

theorem toDeclaration_declarators (n : SyntaxNode) : (n.toDeclaration code).declarators =
    (n.named.filter (·.kind == "variable_declarator")).filterMap (·.toDeclarator? code) := by
  rw [toDeclaration, List.filterMap_filter]
  simp

theorem toDeclarator?_eq (n : SyntaxNode) : n.toDeclarator? code = (n.childByField? "name").map fun name =>
    ⟨n.span, name.toPattern code, (n.childByField? "value").map (·.toExpression code)⟩ := by
  rw [toDeclarator?]
  simp

theorem toExported_eq (n : SyntaxNode) : n.toExported code =
    match n.childByField? "declaration" with
    | some d =>
      if d.kind = "function_declaration" ∨ d.kind = "generator_function_declaration" then
        .function .declaration (d.toFunction code)
      else .unknown
    | none => ((n.childByField? "value").map (·.toExpression code)).getD .unknown := by
  rw [toExported, ← unattach_child?]
  rcases n.child? "declaration" with _ | ⟨d, _⟩
  · simp
  · rfl

/-! ## Functions -/

theorem toFunction_eq (n : SyntaxNode) : n.toFunction code =
    ⟨n.span, (n.childByField? "name").map (·.toIdentifier code), n.toParams code,
      ((n.childByField? "body").map (·.toBody code)).getD .unknown⟩ := by
  rw [toFunction]
  simp

theorem toPatterns_eq (n : SyntaxNode) : n.toPatterns code = n.named.map (·.toPattern code) := by
  rw [toPatterns]
  simp

theorem toParams_eq (n : SyntaxNode) : n.toParams code =
    match n.childByField? "parameters" with
    | some ps => ps.named.map (·.toPattern code)
    | none => ((n.childByField? "parameter").map (·.toPattern code)).toList := by
  rw [toParams, ← unattach_child?]
  rcases n.child? "parameters" with _ | ⟨ps, _⟩
  · simp
  · exact toPatterns_eq ps

/-! ## Expressions -/

theorem toInner_eq (n : SyntaxNode) :
    n.toInner code = (n.named.head?.map (·.toExpression code)).getD .unknown := by
  rw [toInner]
  simp

theorem toKey_computed (h : n.kind = "computed_property_name") : n.toKey code = n.toInner code := by
  rw [toKey, h]
  rfl

theorem toExpressions_eq (n : SyntaxNode) : n.toExpressions code = n.named.map (·.toExpression code) := by
  rw [toExpressions]
  simp

/-- How a part of a template is read. -/
def readPart (code : List Char) (s : TemplateState) (part : SyntaxNode) : TemplateState :=
  if part.kind = "template_substitution" then s.substitute (part.toInner code) else s.push (part.pieceValue code)

/-- **A template is read part by part.** -/
theorem toExpression_template (h : n.kind = "template_string") :
    n.toExpression code = .template n.span (n.named.foldl (readPart code) .init).flush.quasis
      (n.named.foldl (readPart code) .init).expressions := by
  have template : n.toExpression code = n.toTemplate code := by
    rw [toExpression, h]
    simp
  rw [template, toTemplate]
  simp only [List.foldl_subtype, unattach_parts]
  rfl

theorem toExpression_identifier (h : n.kind = "identifier") :
    n.toExpression code = .identifier (n.toIdentifier code) := by
  rw [toExpression, h]
  rfl

theorem toExpression_string (h : n.kind = "string") : n.toExpression code = .literal (n.toTextLiteral code) := by
  rw [toExpression, h]
  rfl

theorem toExpression_array (h : n.kind = "array") :
    n.toExpression code = .array n.span (n.named.map fun e => some (e.toExpression code)) := by
  rw [toExpression, h]
  simp [toExpressions_eq]

theorem toExpression_object (h : n.kind = "object") :
    n.toExpression code = .object ⟨n.span, n.named.filterMap (·.toObjectMember? code)⟩ := by
  rw [toExpression, h]
  simp

theorem toExpression_call (h : n.kind = "call_expression") :
    n.toExpression code = .call n.span (((n.childByField? "function").map (·.toExpression code)).getD .unknown)
      (((n.childByField? "arguments").map fun arguments => arguments.named.map (·.toExpression code)).getD []) := by
  rw [toExpression, h]
  simp [funext toExpressions_eq]

theorem toExpression_member (h : n.kind = "member_expression" ∨ n.kind = "subscript_expression") :
    n.toExpression code = .member n.span (((n.childByField? "object").map (·.toExpression code)).getD .unknown)
      ((((n.childByField? "property").or (n.childByField? "index")).map (·.toKey code)).getD .unknown)
      (n.kind == "subscript_expression") := by
  have property : ((n.child? "property").or (n.child? "index")).unattach =
      (n.childByField? "property").or (n.childByField? "index") := by
    rw [← unattach_child?, ← unattach_child?]
    rcases n.child? "property" with _ | ⟨_, _⟩ <;> rfl
  rw [toExpression]
  rcases h with h | h <;> simp [h, property]

theorem toExpression_spread (h : n.kind = "spread_element") :
    n.toExpression code = (n.named.head?.map fun e => .spread n.span (e.toExpression code)).getD .unknown := by
  rw [toExpression, h]
  simp

/-- What is in parentheses, however many there are. -/
def bare? (n : SyntaxNode) : Option SyntaxNode :=
  if n.kind = "parenthesized_expression" then n.first?.bind fun ⟨e, _⟩ => bare? e else some n
termination_by sizeOf n

theorem bare?_parenthesized {n : SyntaxNode} (h : n.kind = "parenthesized_expression") :
    n.bare? = n.named.head?.bind bare? := by
  rw [bare?, if_pos h]
  simp

theorem bare?_of_ne {n : SyntaxNode} (h : n.kind ≠ "parenthesized_expression") : n.bare? = some n := by
  rw [bare?, if_neg h]

/-- Parentheses do not matter for the expression that a node is. -/
theorem toExpression_eq_of_bare? (code : List Char) (n : SyntaxNode) :
    n.toExpression code = (n.bare?.map (·.toExpression code)).getD .unknown := by
  by_cases h : n.kind = "parenthesized_expression"
  · have inner : n.toExpression code = (n.named.head?.map (·.toExpression code)).getD .unknown := by
      rw [toExpression, h]
      exact toInner_eq n
    rw [inner, bare?_parenthesized h]
    cases he : n.named.head? with
    | none => rfl
    | some e =>
      have : sizeOf e < sizeOf n := sizeOf_lt_of_mem_children (mem_children_of_mem_named (List.mem_of_head? he))
      simp [toExpression_eq_of_bare? code e]
  · rw [bare?_of_ne h]
    rfl
termination_by sizeOf n

theorem contains_of_bare? {n m : SyntaxNode} (h : n.bare? = some m) : n.Contains m := by
  by_cases hk : n.kind = "parenthesized_expression"
  · rw [bare?_parenthesized hk] at h
    obtain ⟨e, he, hm⟩ := Option.bind_eq_some_iff.mp h
    have : sizeOf e < sizeOf n := sizeOf_lt_of_mem_children (mem_children_of_mem_named (List.mem_of_head? he))
    exact (contains_of_head?_named he).trans (contains_of_bare? hm)
  · rw [bare?_of_ne hk] at h
    cases h
    exact .refl
termination_by sizeOf n

theorem kind_ne_of_bare? {n m : SyntaxNode} (h : n.bare? = some m) : m.kind ≠ "parenthesized_expression" := by
  by_cases hk : n.kind = "parenthesized_expression"
  · rw [bare?_parenthesized hk] at h
    obtain ⟨e, he, hm⟩ := Option.bind_eq_some_iff.mp h
    have : sizeOf e < sizeOf n := sizeOf_lt_of_mem_children (mem_children_of_mem_named (List.mem_of_head? he))
    exact kind_ne_of_bare? hm
  · rw [bare?_of_ne hk] at h
    cases h
    exact hk
termination_by sizeOf n

/-! ## Members -/

theorem toObjectMember?_pair (h : n.kind = "pair") :
    n.toObjectMember? code = (n.childByField? "key").bind fun key => (n.childByField? "value").map fun value =>
      .property n.span (key.toKey code) (value.toExpression code) (key.kind == "computed_property_name") false := by
  rw [toObjectMember?, h]
  simp [Option.map_eq_bind, Function.comp_def]

theorem toObjectMember?_shorthand (h : n.kind = "shorthand_property_identifier") : n.toObjectMember? code =
    some (.property n.span (.identifier (n.toIdentifier code)) (.identifier (n.toIdentifier code)) false true) := by
  rw [toObjectMember?, h]
  rfl

theorem toObjectMember?_spread (h : n.kind = "spread_element") :
    n.toObjectMember? code = n.named.head?.map fun e => .spread n.span (e.toExpression code) := by
  rw [toObjectMember?, h, toExpression_spread h]
  cases n.named.head? <;> rfl

theorem toObjectMember?_method (h : n.kind = "method_definition") : n.toObjectMember? code =
    some (.property n.span (((n.childByField? "name").map (·.toKey code)).getD .unknown) .unknown false false) := by
  rw [toObjectMember?, h]
  simp

/-- How a node becomes a member of an object literal. -/
inductive BecomesMember (code : List Char) (n : SyntaxNode) : ObjectMember → Prop where
  | pair {key value : SyntaxNode} (kind : n.kind = "pair") (hkey : n.childByField? "key" = some key)
    (hvalue : n.childByField? "value" = some value) : BecomesMember code n
      (.property n.span (key.toKey code) (value.toExpression code) (key.kind == "computed_property_name") false)
  | shorthand (kind : n.kind = "shorthand_property_identifier") : BecomesMember code n
      (.property n.span (.identifier (n.toIdentifier code)) (.identifier (n.toIdentifier code)) false true)
  | spread {argument : SyntaxNode} (kind : n.kind = "spread_element") (hargument : n.named.head? = some argument) :
    BecomesMember code n (.spread n.span (argument.toExpression code))
  | method (kind : n.kind = "method_definition") : BecomesMember code n
      (.property n.span (((n.childByField? "name").map (·.toKey code)).getD .unknown) .unknown false false)

/-- Nodes of four kinds are members of object literals, and no others are. -/
theorem becomesMember {m : ObjectMember} (h : n.toObjectMember? code = some m) : n.BecomesMember code m := by
  by_cases pair : n.kind = "pair"
  · rw [toObjectMember?_pair pair] at h
    obtain ⟨key, hkey, h⟩ := Option.bind_eq_some_iff.mp h
    obtain ⟨value, hvalue, rfl⟩ := Option.map_eq_some_iff.mp h
    exact .pair pair hkey hvalue
  by_cases shorthand : n.kind = "shorthand_property_identifier"
  · cases (toObjectMember?_shorthand shorthand).symm.trans h
    exact .shorthand shorthand
  by_cases spread : n.kind = "spread_element"
  · rw [toObjectMember?_spread spread] at h
    obtain ⟨argument, hargument, rfl⟩ := Option.map_eq_some_iff.mp h
    exact .spread spread hargument
  by_cases method : n.kind = "method_definition"
  · cases (toObjectMember?_method method).symm.trans h
    exact .method method
  rw [toObjectMember?] at h
  split at h <;> contradiction

/-! ## Patterns -/

theorem toPattern_identifier (h : n.kind = "identifier") :
    n.toPattern code = .identifier (n.toIdentifier code) := by
  rw [toPattern, h]
  rfl

theorem toPattern_object (h : n.kind = "object_pattern") :
    n.toPattern code = .object n.span (n.named.filterMap (·.toPatternMember? code)) := by
  rw [toPattern, h]
  simp

theorem toPattern_array (h : n.kind = "array_pattern") :
    n.toPattern code = .array n.span (n.named.map fun p => some (p.toPattern code)) := by
  rw [toPattern, h]
  simp [toPatterns_eq]

theorem toPattern_assignment (h : n.kind = "assignment_pattern" ∨ n.kind = "object_assignment_pattern") :
    n.toPattern code = ((n.childByField? "left").bind fun left => (n.childByField? "right").map fun right =>
      Pattern.assignment n.span (left.toPattern code) (right.toExpression code)).getD .unknown := by
  rw [toPattern]
  rcases h with h | h <;> simp [h, Option.map_eq_bind, Function.comp_def]

theorem toPattern_rest (h : n.kind = "rest_pattern") :
    n.toPattern code = (n.named.head?.map fun p => .rest n.span (p.toPattern code)).getD .unknown := by
  rw [toPattern, h]
  simp

theorem toPatternMember?_pair (h : n.kind = "pair_pattern") :
    n.toPatternMember? code = (n.childByField? "key").bind fun key => (n.childByField? "value").map fun value =>
      .property n.span (key.toKey code) (value.toPattern code) (key.kind == "computed_property_name") false := by
  rw [toPatternMember?, h]
  simp [Option.map_eq_bind, Function.comp_def]

theorem toPatternMember?_shorthand (h : n.kind = "shorthand_property_identifier_pattern") :
    n.toPatternMember? code =
      some (.property n.span (.identifier (n.toIdentifier code)) (.identifier (n.toIdentifier code)) false true) := by
  rw [toPatternMember?, h]
  rfl

theorem toPatternMember?_default (h : n.kind = "object_assignment_pattern") :
    n.toPatternMember? code = (n.childByField? "left").map fun left =>
      .property n.span (.identifier (left.toIdentifier code)) (n.toPattern code) false true := by
  rw [toPatternMember?, h]
  rfl

theorem toPatternMember?_rest (h : n.kind = "rest_pattern") :
    n.toPatternMember? code = n.named.head?.map fun p => .rest n.span (p.toPattern code) := by
  rw [toPatternMember?, h, toPattern_rest h]
  cases n.named.head? <;> rfl

/-- How a node becomes a member of an object pattern. -/
inductive BecomesField (code : List Char) (n : SyntaxNode) : PatternMember → Prop where
  | pair {key value : SyntaxNode} (kind : n.kind = "pair_pattern") (hkey : n.childByField? "key" = some key)
    (hvalue : n.childByField? "value" = some value) : BecomesField code n
      (.property n.span (key.toKey code) (value.toPattern code) (key.kind == "computed_property_name") false)
  | shorthand (kind : n.kind = "shorthand_property_identifier_pattern") : BecomesField code n
      (.property n.span (.identifier (n.toIdentifier code)) (.identifier (n.toIdentifier code)) false true)
  | default {left : SyntaxNode} (kind : n.kind = "object_assignment_pattern")
    (hleft : n.childByField? "left" = some left) : BecomesField code n
      (.property n.span (.identifier (left.toIdentifier code)) (n.toPattern code) false true)
  | rest {argument : SyntaxNode} (kind : n.kind = "rest_pattern") (hargument : n.named.head? = some argument) :
    BecomesField code n (.rest n.span (argument.toPattern code))

/-- Nodes of four kinds are members of object patterns, and no others are. -/
theorem becomesField {m : PatternMember} (h : n.toPatternMember? code = some m) : n.BecomesField code m := by
  by_cases pair : n.kind = "pair_pattern"
  · rw [toPatternMember?_pair pair] at h
    obtain ⟨key, hkey, h⟩ := Option.bind_eq_some_iff.mp h
    obtain ⟨value, hvalue, rfl⟩ := Option.map_eq_some_iff.mp h
    exact .pair pair hkey hvalue
  by_cases shorthand : n.kind = "shorthand_property_identifier_pattern"
  · cases (toPatternMember?_shorthand shorthand).symm.trans h
    exact .shorthand shorthand
  by_cases default : n.kind = "object_assignment_pattern"
  · rw [toPatternMember?_default default] at h
    obtain ⟨left, hleft, rfl⟩ := Option.map_eq_some_iff.mp h
    exact .default default hleft
  by_cases rest : n.kind = "rest_pattern"
  · rw [toPatternMember?_rest rest] at h
    obtain ⟨argument, hargument, rfl⟩ := Option.map_eq_some_iff.mp h
    exact .rest rest hargument
  rw [toPatternMember?] at h
  split at h <;> contradiction

/-! ## Kinds -/

/-- The kind of the nodes that become an expression, if there is only one. -/
def soleKind? : Expression → Option String
  | .literal ⟨_, .text _⟩ => some "string"
  | .template .. => some "template_string"
  | .array .. => some "array"
  | .object _ => some "object"
  | _ => none

theorem kind_of_soleKind? {e : Expression} {k : String} (hkind : n.kind ≠ "parenthesized_expression")
    (he : e = n.toExpression code) (h : soleKind? e = some k) : n.kind = k := by
  subst he
  by_cases template : n.kind = "template_string"
  · rw [toExpression_template template] at h
    exact template.trans (Option.some.inj h)
  by_cases spread : n.kind = "spread_element"
  · rw [toExpression_spread spread] at h
    cases hf : n.named.head? <;> rw [hf] at h <;> cases h
  by_cases number : n.kind = "number"
  · rw [toExpression, number] at h
    simp only [numberValue] at h
    split at h <;> cases h
  rw [toExpression] at h
  split at h
  all_goals first
    | contradiction
    | exact (show n.kind = _ by assumption).trans (Option.some.inj h)

theorem kind_of_toPattern_array {span : Span} {elements : List (Option Pattern)}
    (h : n.toPattern code = .array span elements) : n.kind = "array_pattern" := by
  by_cases assignment : n.kind = "assignment_pattern" ∨ n.kind = "object_assignment_pattern"
  · rw [toPattern_assignment assignment] at h
    cases hl : n.childByField? "left" <;> cases hr : n.childByField? "right" <;> simp [hl, hr] at h
  by_cases rest : n.kind = "rest_pattern"
  · rw [toPattern_rest rest] at h
    cases hf : n.named.head? <;> rw [hf] at h <;> cases h
  rw [toPattern] at h
  split at h
  all_goals first
    | assumption
    | cases h
    | simp_all

end StoryCatalog.JavaScript.SyntaxNode
