import StoryCatalog.Proofs.JavaScript.Lowered
import StoryCatalog.Proofs.Tree.Losses

/-!
# The phrases of a syntax tree

A node of a syntax tree stands for a node of a script, and what is stored in this are the nodes for which the phrases
inside it stand, in order. A phrase is a node of the syntax tree with what it is read as: the same one may be read as a
key and as a value. So the nodes of a program are those of the phrases of its tree. Parentheses and the brackets of
keys are no phrases, and neither are the parts of what is not read at all.

* `Phrase.nodes`, `Phrase.inner`: the node of a phrase, and the phrases inside it.
* `Phrase.map_node_stored`: what is stored in the node of a phrase.
-/

namespace StoryCatalog.JavaScript

@[simp] theorem map_node_allWalked (ns : List Node) : (allWalked ns).map (·.node) = ns := by
  rw [allWalked, List.map_map]
  exact List.map_id _

/-! ## Phrases -/

/-- As what a node of a syntax tree is read. -/
inductive Role where
  | statement
  /-- The body of an arrow function without braces. -/
  | result
  | declarator
  | defaultImport
  | moduleImport
  | specifier
  /-- The name of a module, or a name in quotes under which a module exports something. -/
  | quoted
  /-- The place where the name of a module is missing. -/
  | unnamed
  | name
  /-- A function that is declared where it is exported. -/
  | exported
  /-- An expression that is not in parentheses. -/
  | value
  /-- A name as a key, or as the value of a member in shorthand. -/
  | key
  /-- A member of an object literal. -/
  | member
  | target
  /-- A member of an object pattern. -/
  | field
  /-- The place where an expression is missing. -/
  | noValue
  /-- The place where the body of a function is missing. -/
  | noBody
deriving DecidableEq

/-- A node of a syntax tree, and as what it is read. -/
structure Phrase where
  role : Role
  source : SyntaxNode

namespace Phrase

variable (code : List Char)

/-- The node of a phrase, if it has one. -/
def nodes : Phrase → List Node
  | ⟨.statement, n⟩ => [.statement (n.toStatement code)]
  | ⟨.result, n⟩ => [.statement (.expression n.span (n.toExpression code))]
  | ⟨.declarator, n⟩ => (n.toDeclarator? code).toList.map .declarator
  | ⟨.defaultImport, n⟩ => [.clause (.defaultExport n.span (n.toIdentifier code))]
  | ⟨.moduleImport, n⟩ => n.named.head?.toList.map fun b => .clause (.wholeModule n.span (b.toIdentifier code))
  | ⟨.specifier, n⟩ => (n.toImportSpecifier? code).toList.map fun s => .clause (.named s)
  | ⟨.quoted, n⟩ => [.expression (.literal (n.toTextLiteral code))]
  | ⟨.unnamed, n⟩ => [.expression (.literal ⟨⟨n.span.start, n.span.start⟩, .other .null⟩)]
  | ⟨.name, n⟩ => [.identifier (n.toIdentifier code)]
  | ⟨.exported, n⟩ => [.expression (.function .declaration (n.toFunction code))]
  | ⟨.value, n⟩ => if n.kind = "parenthesized_expression" then [] else [.expression (n.toExpression code)]
  | ⟨.key, n⟩ => [.expression (.identifier (n.toIdentifier code))]
  | ⟨.member, n⟩ => (n.toObjectMember? code).toList.map .objectMember
  | ⟨.target, n⟩ => [.pattern (n.toPattern code)]
  | ⟨.field, n⟩ => (n.toPatternMember? code).toList.map .patternMember
  | ⟨.noValue, _⟩ => [.expression .unknown]
  | ⟨.noBody, _⟩ => [.statement .unknown]

/-- The phrase of an expression, without its parentheses. -/
def ofValue (n : SyntaxNode) : Phrase :=
  match n.bare? with
  | some e => ⟨.value, e⟩
  | none => ⟨.noValue, n⟩

theorem ofValue_eq {n m : SyntaxNode} (h : n.bare? = some m) : ofValue n = ⟨.value, m⟩ := by
  simp [ofValue, h]

/-- The phrase of the first expression in a node. -/
def ofInner (n : SyntaxNode) : Phrase :=
  match n.named.head? with
  | some e => ofValue e
  | none => ⟨.noValue, n⟩

/-- The phrase of a key, without its brackets. -/
def ofKey (n : SyntaxNode) : Phrase :=
  match n.kind with
  | "property_identifier" | "private_property_identifier" | "identifier" => ⟨.key, n⟩
  | "computed_property_name" => ofInner n
  | _ => ofValue n

/-- The phrase of a child, if it is there. -/
def ofChild (n : SyntaxNode) (c : Option SyntaxNode) (f : SyntaxNode → Phrase) : Phrase :=
  match c with
  | some c => f c
  | none => ⟨.noValue, n⟩

/-- The phrases of the parameters of a function. -/
def params (n : SyntaxNode) : List Phrase :=
  match n.childByField? "parameters" with
  | some ps => ps.named.map (⟨.target, ·⟩)
  | none => (n.childByField? "parameter").toList.map (⟨.target, ·⟩)

/-- The phrase of the body of a function. -/
def body (n : SyntaxNode) : Phrase :=
  match n.childByField? "body" with
  | some b => ⟨if b.kind = "statement_block" then .statement else .result, b⟩
  | none => ⟨.noBody, n⟩

/-- The phrases in a function. -/
def ofFunction (n : SyntaxNode) : List Phrase :=
  (n.childByField? "name").toList.map (⟨.name, ·⟩) ++ params n ++ [body n]

/-- The phrases in a part of an import. -/
def ofImportPart (n : SyntaxNode) : List Phrase :=
  match n.kind with
  | "identifier" => [⟨.defaultImport, n⟩]
  | "namespace_import" => [⟨.moduleImport, n⟩]
  | "named_imports" => (n.named.filter (·.kind == "import_specifier")).map (⟨.specifier, ·⟩)
  | _ => []

/-- The phrases in an import: its clauses, and the name of the module. -/
def ofImport (n : SyntaxNode) : List Phrase :=
  ((n.named.filter (·.kind == "import_clause")).flatMap fun clause => clause.named.flatMap ofImportPart) ++
    [match n.childByField? "source" with
    | some source => ⟨.quoted, source⟩
    | none => ⟨.unnamed, n⟩]

/-- The phrase of what a default export gives out. -/
def ofExported (n : SyntaxNode) : Phrase :=
  match n.childByField? "declaration" with
  | some d =>
    if d.kind = "function_declaration" ∨ d.kind = "generator_function_declaration" then ⟨.exported, d⟩
    else ⟨.noValue, d⟩
  | none => ofChild n (n.childByField? "value") ofValue

/-- The phrases in a statement. -/
def inStatement (n : SyntaxNode) : List Phrase :=
  match n.kind with
  | "import_statement" => ofImport n
  | "lexical_declaration" | "variable_declaration" =>
    (n.named.filter (·.kind == "variable_declarator")).map (⟨.declarator, ·⟩)
  | "export_statement" =>
    if n.children.any (·.kind == "default") then [ofExported n]
    else (n.childByField? "declaration").toList.map (⟨.statement, ·⟩)
  | "function_declaration" | "generator_function_declaration" => ofFunction n
  | "expression_statement" | "return_statement" => n.named.head?.toList.map ofValue
  | "statement_block" => n.named.map (⟨.statement, ·⟩)
  | _ => []

/-- The phrases in an expression. -/
def inValue (n : SyntaxNode) : List Phrase :=
  match n.kind with
  | "template_string" => (n.named.filter (·.kind == "template_substitution")).map ofInner
  | "array" => n.named.map ofValue
  | "object" => n.named.map (⟨.member, ·⟩)
  | "call_expression" =>
    ofChild n (n.childByField? "function") ofValue ::
      (n.childByField? "arguments").toList.flatMap fun arguments => arguments.named.map ofValue
  | "member_expression" | "subscript_expression" =>
    [ofChild n (n.childByField? "object") ofValue,
      ofChild n ((n.childByField? "property").or (n.childByField? "index")) ofKey]
  | "function_expression" | "function" | "generator_function" | "arrow_function" => ofFunction n
  | "spread_element" => n.named.head?.toList.map ofValue
  | _ => []

/-- The phrases in a pattern. -/
def inTarget (n : SyntaxNode) : List Phrase :=
  match n.kind with
  | "object_pattern" => n.named.map (⟨.field, ·⟩)
  | "array_pattern" => n.named.map (⟨.target, ·⟩)
  | "assignment_pattern" | "object_assignment_pattern" =>
    match n.childByField? "left", n.childByField? "right" with
    | some left, some right => [⟨.target, left⟩, ofValue right]
    | _, _ => []
  | "rest_pattern" => n.named.head?.toList.map (⟨.target, ·⟩)
  | _ => []

/-- The phrases in a member of an object literal. -/
def inMember (n : SyntaxNode) : List Phrase :=
  match n.kind with
  | "pair" =>
    match n.childByField? "key", n.childByField? "value" with
    | some key, some value => [ofKey key, ofValue value]
    | _, _ => []
  | "shorthand_property_identifier" => [⟨.key, n⟩, ⟨.key, n⟩]
  | "spread_element" => n.named.head?.toList.map ofValue
  | "method_definition" => [ofChild n (n.childByField? "name") ofKey, ⟨.noValue, n⟩]
  | _ => []

/-- The phrases in a member of an object pattern. -/
def inField (n : SyntaxNode) : List Phrase :=
  match n.kind with
  | "pair_pattern" =>
    match n.childByField? "key", n.childByField? "value" with
    | some key, some value => [ofKey key, ⟨.target, value⟩]
    | _, _ => []
  | "shorthand_property_identifier_pattern" => [⟨.key, n⟩, ⟨.target, n⟩]
  | "object_assignment_pattern" =>
    (n.childByField? "left").toList.flatMap fun left => [⟨.key, left⟩, ⟨.target, n⟩]
  | "rest_pattern" => n.named.head?.toList.map (⟨.target, ·⟩)
  | _ => []

/-- The phrases directly inside a phrase, in order. -/
def inner : Phrase → List Phrase
  | ⟨.statement, n⟩ => inStatement n
  | ⟨.result, n⟩ => [ofValue n]
  | ⟨.declarator, n⟩ =>
    (n.childByField? "name").toList.flatMap fun name =>
      ⟨.target, name⟩ :: (n.childByField? "value").toList.map ofValue
  | ⟨.defaultImport, n⟩ => [⟨.name, n⟩]
  | ⟨.moduleImport, n⟩ => n.named.head?.toList.map (⟨.name, ·⟩)
  | ⟨.specifier, n⟩ =>
    (n.childByField? "name").toList.flatMap fun name =>
      [⟨if name.kind = "string" then .quoted else .name, name⟩, ⟨.name, (n.childByField? "alias").getD name⟩]
  | ⟨.exported, n⟩ => ofFunction n
  | ⟨.value, n⟩ => inValue n
  | ⟨.member, n⟩ => inMember n
  | ⟨.target, n⟩ => inTarget n
  | ⟨.field, n⟩ => inField n
  | _ => []

/-! ## Nodes of phrases -/

variable {code}

@[simp] theorem nodes_target (n : SyntaxNode) : nodes code ⟨.target, n⟩ = [.pattern (n.toPattern code)] := rfl

@[simp] theorem nodes_key (n : SyntaxNode) :
    nodes code ⟨.key, n⟩ = [.expression (.identifier (n.toIdentifier code))] := rfl

@[simp] theorem nodes_name (n : SyntaxNode) : nodes code ⟨.name, n⟩ = [.identifier (n.toIdentifier code)] := rfl

@[simp] theorem nodes_noValue (n : SyntaxNode) : nodes code ⟨.noValue, n⟩ = [.expression .unknown] := rfl

@[simp] theorem nodes_ofValue (n : SyntaxNode) : (ofValue n).nodes code = [.expression (n.toExpression code)] := by
  rw [n.toExpression_eq_of_bare? code, ofValue]
  cases h : n.bare? with
  | none => rfl
  | some e => exact if_neg (SyntaxNode.kind_ne_of_bare? h)

@[simp] theorem nodes_ofInner (n : SyntaxNode) : (ofInner n).nodes code = [.expression (n.toInner code)] := by
  rw [n.toInner_eq, ofInner]
  cases n.named.head? with
  | none => rfl
  | some e => exact nodes_ofValue e

@[simp] theorem nodes_ofKey (n : SyntaxNode) : (ofKey n).nodes code = [.expression (n.toKey code)] := by
  rw [SyntaxNode.toKey, ofKey]
  split <;> simp [*]

theorem nodes_ofChild (n : SyntaxNode) (c : Option SyntaxNode) {f : SyntaxNode → Phrase} {g : SyntaxNode → Expression}
    (h : ∀ c, (f c).nodes code = [.expression (g c)]) :
    (ofChild n c f).nodes code = [.expression ((c.map g).getD .unknown)] := by
  cases c with
  | none => rfl
  | some c => exact h c

/-- The nodes of phrases that have one node each. -/
theorem flatMap_nodes {f : SyntaxNode → Phrase} {g : SyntaxNode → Node} (h : ∀ n, (f n).nodes code = [g n])
    (ns : List SyntaxNode) : (ns.map f).flatMap (nodes code) = ns.map g := by
  rw [List.flatMap_map, List.map_eq_flatMap]
  simp [h]

/-- The nodes of phrases that have at most one node each. -/
theorem flatMap_nodes? {α : Type} {f : SyntaxNode → Phrase} {g : SyntaxNode → Option α} {k : α → Node}
    (h : ∀ n, (f n).nodes code = (g n).toList.map k) (ns : List SyntaxNode) :
    (ns.map f).flatMap (nodes code) = (ns.filterMap g).map k := by
  induction ns with
  | nil => rfl
  | cons n ns ih => cases hg : g n <;> simp_all

/-! ## What is stored in a node -/

section

open SyntaxNode

variable (n : SyntaxNode)

theorem flatMap_values (ns : List SyntaxNode) :
    (ns.map ofValue).flatMap (nodes code) = ns.map fun e => .expression (e.toExpression code) :=
  flatMap_nodes nodes_ofValue ns

theorem flatMap_targets (ns : List SyntaxNode) :
    (ns.map (⟨.target, ·⟩)).flatMap (nodes code) = ns.map fun p => .pattern (p.toPattern code) :=
  flatMap_nodes (f := (⟨.target, ·⟩)) (fun _ => rfl) ns

theorem flatMap_params : (params n).flatMap (nodes code) = (n.toParams code).map .pattern := by
  rw [params, toParams_eq]
  cases n.childByField? "parameters" with
  | none => cases n.childByField? "parameter" <;> rfl
  | some ps => simp [flatMap_targets]

theorem nodes_body : (body n).nodes code = [.statement (n.toFunction code).body] := by
  rw [body, toFunction_eq]
  cases n.childByField? "body" with
  | none => rfl
  | some b =>
    simp only [Option.map_some, Option.getD_some, toBody]
    split <;> rfl

theorem flatMap_ofFunction : (ofFunction n).flatMap (nodes code) = (n.toFunction code).nodes := by
  rw [ofFunction, List.flatMap_append, List.flatMap_append, flatMap_params, List.flatMap_singleton, nodes_body,
    flatMap_nodes (g := fun n => .identifier (n.toIdentifier code)) fun _ => rfl, toFunction_eq, Function.nodes]
  cases n.childByField? "name" <;> rfl

/-- The expressions of a template are those in its substitutions. -/
theorem expressions_readPart (parts : List SyntaxNode) (s : TemplateState) :
    (parts.foldl (readPart code) s).expressions =
      s.expressions ++ (parts.filter (·.kind == "template_substitution")).map (·.toInner code) := by
  induction parts generalizing s with
  | nil => simp
  | cons part parts ih =>
    rw [List.foldl_cons, ih, readPart]
    split <;> simp [*, TemplateState.substitute, TemplateState.push]

/-- **What is in an expression** that is not in parentheses. -/
theorem nodes_toExpression (h : n.kind ≠ "parenthesized_expression") :
    (n.toExpression code).nodes = (inValue n).flatMap (nodes code) := by
  rw [inValue]
  split
  next hk =>
    rw [toExpression_template hk, flatMap_nodes nodes_ofInner]
    simp [Expression.nodes, expressions_readPart, TemplateState.init]
  next hk => simp [toExpression_array hk, Expression.nodes, flatMap_values, List.reduceOption, List.filterMap_map]
  next hk =>
    rw [toExpression_object hk, flatMap_nodes? fun _ => rfl]
    rfl
  next hk =>
    rw [toExpression_call hk, List.flatMap_cons, nodes_ofChild n _ nodes_ofValue]
    cases n.childByField? "arguments" <;> simp [Expression.nodes, flatMap_values]
  iterate 2
    next hk =>
      rw [toExpression_member (by simp [hk])]
      simp [nodes_ofChild n _ nodes_ofValue, nodes_ofChild n _ nodes_ofKey, Expression.nodes]
  iterate 4
    next hk =>
      rw [toExpression, flatMap_ofFunction]
      simp only [hk]
      rfl
  next hk =>
    rw [toExpression_spread hk, flatMap_values]
    cases n.named.head? <;> rfl
  next =>
    rw [toExpression]
    split <;> first | rfl | contradiction

/-- **What is in a pattern.** -/
theorem nodes_toPattern : (n.toPattern code).nodes = (inTarget n).flatMap (nodes code) := by
  rw [inTarget]
  split
  next hk =>
    rw [toPattern_object hk, flatMap_nodes? fun _ => rfl]
    rfl
  next hk => simp [toPattern_array hk, Pattern.nodes, flatMap_targets, List.reduceOption, List.filterMap_map]
  iterate 2
    next hk =>
      rw [toPattern_assignment (by simp [hk])]
      cases n.childByField? "left" with
      | none => rfl
      | some left =>
        cases n.childByField? "right" with
        | none => rfl
        | some right => simp [Pattern.nodes]
  next hk =>
    rw [toPattern_rest hk, flatMap_targets]
    cases n.named.head? <;> rfl
  next =>
    rw [toPattern]
    split <;> first | rfl | contradiction

variable {n}

theorem map_node_member {m : ObjectMember} (h : n.toObjectMember? code = some m) :
    m.stored.map (·.node) = (inMember n).flatMap (nodes code) := by
  cases becomesMember h with
  | pair kind hkey hvalue => simp [inMember, kind, hkey, hvalue, ObjectMember.stored, memberValue]
  | shorthand kind => simp [inMember, kind, ObjectMember.stored, memberValue]
  | spread kind hargument => simp [inMember, kind, hargument, ObjectMember.stored]
  | method kind => simp [inMember, kind, nodes_ofChild n _ nodes_ofKey, ObjectMember.stored, memberValue]

theorem map_node_field {m : PatternMember} (h : n.toPatternMember? code = some m) :
    m.stored.map (·.node) = (inField n).flatMap (nodes code) := by
  cases becomesField h with
  | pair kind hkey hvalue => simp [inField, kind, hkey, hvalue, PatternMember.stored, memberValue]
  | shorthand kind => simp [inField, toPattern, kind, PatternMember.stored, memberValue]
  | default kind hleft => simp [inField, kind, hleft, PatternMember.stored, memberValue]
  | rest kind hargument => simp [inField, kind, hargument, PatternMember.stored]

/-! ## Imports and statements -/

variable (n)

theorem flatMap_ofImportPart : (ofImportPart n).flatMap (nodes code) = (n.toImportClauses code).map .clause := by
  rw [ofImportPart]
  split
  next hk =>
    rw [toImportClauses, hk]
    rfl
  next hk =>
    simp only [toImportClauses, hk, List.flatMap_singleton, List.map_map]
    rfl
  next hk =>
    have specifiers (ns : List SyntaxNode) : (ns.map (⟨.specifier, ·⟩)).flatMap (nodes code) =
        (ns.filterMap (·.toImportSpecifier? code)).map fun s => .clause (.named s) :=
      flatMap_nodes? (f := (⟨.specifier, ·⟩)) (fun _ => rfl) ns
    simp only [toImportClauses, hk, specifiers, List.map_filterMap, Option.map_map]
    rfl
  next =>
    rw [toImportClauses]
    split <;> first | rfl | contradiction

theorem map_node_import :
    (Statement.imports (n.toImport code)).stored.map (·.node) = (ofImport n).flatMap (nodes code) := by
  have source : [Node.expression (.literal (n.toImport code).source)] =
      nodes code (match n.childByField? "source" with
      | some source => ⟨.quoted, source⟩
      | none => ⟨.unnamed, n⟩) := by
    rw [toImport]
    cases n.childByField? "source" <;> rfl
  rw [ofImport, List.flatMap_append, List.flatMap_singleton, ← source, Statement.stored, List.map_append,
    map_node_allWalked]
  simp [toImport, List.flatMap_assoc, flatMap_ofImportPart, List.map_flatMap]

theorem map_node_declarator {d : Declarator} (h : n.toDeclarator? code = some d) :
    (Node.declarator d).stored.map (·.node) = (inner ⟨.declarator, n⟩).flatMap (nodes code) := by
  rw [toDeclarator?_eq] at h
  obtain ⟨name, hname, rfl⟩ := Option.map_eq_some_iff.mp h
  simp only [inner, hname]
  cases n.childByField? "value" <;> simp [Node.stored]

theorem map_node_specifier {s : ImportSpecifier} (h : n.toImportSpecifier? code = some s) :
    (ImportClause.named s).stored.map (·.node) = (inner ⟨.specifier, n⟩).flatMap (nodes code) := by
  obtain ⟨name, hname, hs⟩ := Option.bind_eq_some_iff.mp h
  cases hs
  simp only [inner, hname]
  by_cases hk : name.kind = "string" <;> simp [hk, ImportClause.stored, nodes]

theorem nodes_ofExported : (ofExported n).nodes code = [.expression (n.toExported code)] := by
  rw [ofExported, toExported_eq]
  cases n.childByField? "declaration" with
  | none => exact nodes_ofChild n _ nodes_ofValue
  | some d =>
    simp only
    split <;> rfl

/-- **What is stored in a statement.** -/
theorem map_node_statement :
    (n.toStatement code).stored.map (·.node) = (inStatement n).flatMap (nodes code) := by
  rw [inStatement]
  split
  next hk =>
    rw [toStatement, hk]
    exact map_node_import n
  iterate 2
    next hk =>
      rw [toStatement, hk, flatMap_nodes? fun _ => rfl]
      simp [Statement.stored, toDeclaration_declarators]
  next hk =>
    rw [toStatement_export hk]
    split
    · simp [Statement.stored, nodes_ofExported]
    · cases n.childByField? "declaration" <;> simp [Statement.stored, nodes]
  iterate 2
    next hk =>
      rw [toStatement, hk, flatMap_ofFunction]
      exact map_node_allWalked _
  next hk =>
    rw [toStatement_expression hk, flatMap_values]
    cases n.named.head? <;> simp [Statement.stored]
  next hk =>
    rw [toStatement_return hk, flatMap_values]
    cases n.named.head? <;> simp [Statement.stored]
  next hk =>
    have statements : (n.named.map (mk .statement)).flatMap (nodes code) =
        n.named.map fun s => .statement (s.toStatement code) :=
      flatMap_nodes (fun _ => rfl) n.named
    rw [toStatement, hk, statements]
    simp [Statement.stored, toStatements_eq]
  next =>
    rw [toStatement]
    split <;> first | rfl | contradiction

end

/-- Only without parentheses an expression has a node of its own. -/
theorem mem_nodes_value {n : SyntaxNode} {m : Node} :
    m ∈ nodes code ⟨.value, n⟩ ↔ n.kind ≠ "parenthesized_expression" ∧ m = .expression (n.toExpression code) := by
  unfold nodes
  by_cases h : n.kind = "parenthesized_expression" <;> simp [h]

/-- **What is stored in the node of a phrase** are the nodes of the phrases inside it, in order. -/
theorem map_node_stored {q : Phrase} {m : Node} (h : m ∈ q.nodes code) :
    m.stored.map (·.node) = q.inner.flatMap (nodes code) := by
  obtain ⟨role, n⟩ := q
  cases role with
  | statement =>
    obtain rfl := List.mem_singleton.mp h
    exact map_node_statement n
  | result =>
    obtain rfl := List.mem_singleton.mp h
    simp [Node.stored, Statement.stored, inner]
  | declarator =>
    obtain ⟨d, hd, rfl⟩ := List.mem_map.mp h
    exact map_node_declarator n (Option.mem_toList.mp hd)
  | moduleImport =>
    obtain ⟨b, hb, rfl⟩ := List.mem_map.mp h
    have binding : n.named.head? = some b := Option.mem_toList.mp hb
    rw [inner, binding]
    rfl
  | specifier =>
    obtain ⟨s, hs, rfl⟩ := List.mem_map.mp h
    exact map_node_specifier n (Option.mem_toList.mp hs)
  | exported =>
    obtain rfl := List.mem_singleton.mp h
    rw [inner, flatMap_ofFunction]
    exact map_node_allWalked _
  | value =>
    obtain ⟨hkind, rfl⟩ := mem_nodes_value.mp h
    rw [inner, ← nodes_toExpression n hkind]
    exact map_node_allWalked _
  | member =>
    obtain ⟨m, hm, rfl⟩ := List.mem_map.mp h
    exact map_node_member (Option.mem_toList.mp hm)
  | target =>
    obtain rfl := List.mem_singleton.mp h
    rw [inner, ← nodes_toPattern]
    exact map_node_allWalked _
  | field =>
    obtain ⟨m, hm, rfl⟩ := List.mem_map.mp h
    exact map_node_field (Option.mem_toList.mp hm)
  | _ =>
    obtain rfl := List.mem_singleton.mp h
    rfl

end Phrase

end StoryCatalog.JavaScript
