import StoryCatalog.JavaScript.Literal
import StoryCatalog.JavaScript.Syntax
import StoryCatalog.Text.Units

/-!
# From syntax trees to scripts

What a node of a concrete syntax tree declares: statements, expressions and patterns, as far as they are part of a
script. A node of any other kind is unknown. Parentheses and brackets around keys vanish, an arrow function without
braces gets a statement for its body, and the members of objects that nothing is known of are left out.

* `SyntaxNode.toStatement`, `SyntaxNode.toExpression`, `SyntaxNode.toPattern`: the nodes of each family.
* `SyntaxNode.toProgram`: the program of a whole tree.
-/

namespace StoryCatalog.JavaScript

namespace SyntaxNode

variable (code : List Char)

/-! ## Texts -/

/-- The text of a node; empty if there is none at its span. -/
def text (n : SyntaxNode) : List Char :=
  (Text.slice? .utf8 n.span.start n.span.stop code).getD []

/-- The name that a node is. -/
def toIdentifier (n : SyntaxNode) : Identifier :=
  ⟨n.span, String.ofList (n.text code)⟩

/-- The text that a piece of a string or a template stands for. -/
def pieceValue (n : SyntaxNode) : List Char :=
  if n.kind = "escape_sequence" then unescape (n.text code) else n.text code

/-- The text that a string stands for. -/
def stringValue (n : SyntaxNode) : String :=
  String.ofList (n.named.flatMap (·.pieceValue code))

/-- The literal that a string is. -/
def toTextLiteral (n : SyntaxNode) : Literal :=
  ⟨n.span, .text (n.stringValue code)⟩

/-! ## Imports -/

/-- A name in the braces of an import. -/
def toImportSpecifier? (n : SyntaxNode) : Option ImportSpecifier := do
  let name ← n.childByField? "name"
  let imported :=
    if name.kind = "string" then .literal (name.toTextLiteral code) else .identifier (name.toIdentifier code)
  let binding := (n.childByField? "alias").getD name
  pure ⟨n.span, imported, binding.toIdentifier code⟩

/-- What a part of an import binds. -/
def toImportClauses (n : SyntaxNode) : List ImportClause :=
  match n.kind with
  | "identifier" => [.defaultExport n.span (n.toIdentifier code)]
  | "namespace_import" => n.named.head?.toList.map fun binding => .wholeModule n.span (binding.toIdentifier code)
  | "named_imports" =>
    (n.named.filter (·.kind == "import_specifier")).filterMap fun s => (s.toImportSpecifier? code).map .named
  | _ => []

/-- An import. One without the name of a module has a literal without a value, where it begins. -/
def toImport (n : SyntaxNode) : ImportDeclaration :=
  let source := match n.childByField? "source" with
    | some source => source.toTextLiteral code
    | none => ⟨⟨n.span.start, n.span.start⟩, .other .null⟩
  let clauses := n.named.filter (·.kind == "import_clause")
  ⟨n.span, clauses.flatMap fun clause => clause.named.flatMap (·.toImportClauses code), source⟩

end SyntaxNode

/-! ## Templates -/

/-- What has been read of a template: its texts and expressions up to the last substitution, and the text after
it. -/
structure TemplateState where
  quasis : List (Option String)
  expressions : List Expression
  cooked : List Char

namespace TemplateState

/-- Nothing has been read. -/
def init : TemplateState :=
  ⟨[], [], []⟩

/-- A piece of text is read. -/
def push (s : TemplateState) (cs : List Char) : TemplateState :=
  { s with cooked := s.cooked ++ cs }

/-- The text that has been read is finished. -/
def flush (s : TemplateState) : TemplateState :=
  ⟨s.quasis ++ [some (String.ofList s.cooked)], s.expressions, []⟩

/-- A substitution is read. -/
def substitute (s : TemplateState) (e : Expression) : TemplateState :=
  { s.flush with expressions := s.expressions ++ [e] }

end TemplateState

namespace SyntaxNode

variable (code : List Char)

/-! ## Nodes -/

mutual

/-- The statement that a node is. -/
def toStatement (n : SyntaxNode) : Statement :=
  match n.kind with
  | "import_statement" => .imports (n.toImport code)
  | "lexical_declaration" | "variable_declaration" => .declaration (toDeclaration n)
  | "export_statement" => toExport n
  | "function_declaration" | "generator_function_declaration" => .function (toFunction n)
  | "expression_statement" => (n.first?.map fun ⟨e, _⟩ => .expression n.span (toExpression e)).getD .unknown
  | "statement_block" => .block n.span (toStatements n)
  | "return_statement" => .returns n.span (n.first?.map fun ⟨e, _⟩ => toExpression e)
  | _ => .unknown
termination_by 8 * sizeOf n + 4

/-- The statements in a node. -/
def toStatements (n : SyntaxNode) : List Statement :=
  n.parts.map fun ⟨s, _⟩ => toStatement s
termination_by 8 * sizeOf n + 3

/-- The variable declaration that a node is. -/
def toDeclaration (n : SyntaxNode) : VariableDeclaration :=
  let kind := ((n.childByField? "kind").map fun kind => String.ofList (kind.text code)).getD "var"
  ⟨n.span, kind, n.parts.filterMap fun ⟨d, _⟩ => if d.kind = "variable_declarator" then toDeclarator? d else none⟩
termination_by 8 * sizeOf n + 3

/-- The binding of a variable that a node is, if it binds anything. -/
def toDeclarator? (n : SyntaxNode) : Option Declarator :=
  (n.child? "name").map fun ⟨name, _⟩ =>
    ⟨n.span, toPattern name, (n.child? "value").map fun ⟨value, _⟩ => toExpression value⟩
termination_by 8 * sizeOf n + 3

/-- The export that a node is. -/
def toExport (n : SyntaxNode) : Statement :=
  if n.children.any (·.kind == "default") then .defaultExport ⟨n.span, toExported n⟩
  else .namedExport n.span ((n.child? "declaration").map fun ⟨d, _⟩ => toStatement d)
termination_by 8 * sizeOf n + 3

/-- What a default export gives out. Of what is declared there, only functions are known. -/
def toExported (n : SyntaxNode) : Expression :=
  match n.child? "declaration" with
  | some ⟨d, _⟩ =>
    if d.kind = "function_declaration" ∨ d.kind = "generator_function_declaration" then
      .function .declaration (toFunction d)
    else .unknown
  | none => ((n.child? "value").map fun ⟨e, _⟩ => toExpression e).getD .unknown
termination_by 8 * sizeOf n + 2

/-- The function that a node is. -/
def toFunction (n : SyntaxNode) : Function :=
  ⟨n.span, (n.childByField? "name").map (·.toIdentifier code), toParams n,
    ((n.child? "body").map fun ⟨body, _⟩ => toBody body).getD .unknown⟩
termination_by 8 * sizeOf n + 3

/-- The parameters of a function: a list of them, or one without parentheses. -/
def toParams (n : SyntaxNode) : List Pattern :=
  match n.child? "parameters" with
  | some ⟨ps, _⟩ => toPatterns ps
  | none => ((n.child? "parameter").map fun ⟨p, _⟩ => toPattern p).toList
termination_by 8 * sizeOf n + 2

/-- The body of a function: a block, or an expression as a statement. -/
def toBody (n : SyntaxNode) : Statement :=
  if n.kind = "statement_block" then toStatement n else .expression n.span (toExpression n)
termination_by 8 * sizeOf n + 5

/-- The expression that a node is. -/
def toExpression (n : SyntaxNode) : Expression :=
  match n.kind with
  | "identifier" | "undefined" => .identifier (n.toIdentifier code)
  | "string" => .literal (n.toTextLiteral code)
  | "number" => .literal ⟨n.span, numberValue (n.text code)⟩
  | "true" => .literal ⟨n.span, .flag true⟩
  | "false" => .literal ⟨n.span, .flag false⟩
  | "null" => .literal ⟨n.span, .other .null⟩
  | "template_string" => toTemplate n
  | "array" => .array n.span ((toExpressions n).map some)
  | "object" => .object ⟨n.span, n.parts.filterMap fun ⟨m, _⟩ => toObjectMember? m⟩
  | "call_expression" =>
    .call n.span (((n.child? "function").map fun ⟨callee, _⟩ => toExpression callee).getD .unknown)
      (((n.child? "arguments").map fun ⟨arguments, _⟩ => toExpressions arguments).getD [])
  | "member_expression" | "subscript_expression" =>
    .member n.span (((n.child? "object").map fun ⟨object, _⟩ => toExpression object).getD .unknown)
      ((((n.child? "property").or (n.child? "index")).map fun ⟨property, _⟩ => toKey property).getD .unknown)
      (n.kind == "subscript_expression")
  | "function_expression" | "function" | "generator_function" => .function .expression (toFunction n)
  | "arrow_function" => .function .arrow (toFunction n)
  | "parenthesized_expression" => toInner n
  | "spread_element" => (n.first?.map fun ⟨argument, _⟩ => .spread n.span (toExpression argument)).getD .unknown
  | _ => .unknown
termination_by 8 * sizeOf n + 4

/-- The expressions in a node. -/
def toExpressions (n : SyntaxNode) : List Expression :=
  n.parts.map fun ⟨e, _⟩ => toExpression e
termination_by 8 * sizeOf n + 3

/-- The first expression in a node. -/
def toInner (n : SyntaxNode) : Expression :=
  (n.first?.map fun ⟨e, _⟩ => toExpression e).getD .unknown
termination_by 8 * sizeOf n + 3

/-- The key that a node is. -/
def toKey (n : SyntaxNode) : Expression :=
  match n.kind with
  | "property_identifier" | "private_property_identifier" | "identifier" => .identifier (n.toIdentifier code)
  | "computed_property_name" => toInner n
  | _ => toExpression n
termination_by 8 * sizeOf n + 5

/-- The template that a node is. -/
def toTemplate (n : SyntaxNode) : Expression :=
  let read : TemplateState := n.parts.foldl (fun s ⟨part, _⟩ =>
    if part.kind = "template_substitution" then s.substitute (toInner part) else s.push (part.pieceValue code)) .init
  .template n.span read.flush.quasis read.expressions
termination_by 8 * sizeOf n + 3

/-- The member of an object literal that a node is, if it is one. The value of a method is unknown. -/
def toObjectMember? (n : SyntaxNode) : Option ObjectMember :=
  match n.kind with
  | "pair" => do
    let ⟨key, _⟩ ← n.child? "key"
    let ⟨value, _⟩ ← n.child? "value"
    pure (.property n.span (toKey key) (toExpression value) (key.kind == "computed_property_name") false)
  | "shorthand_property_identifier" =>
    some (.property n.span (.identifier (n.toIdentifier code)) (.identifier (n.toIdentifier code)) false true)
  | "spread_element" =>
    match toExpression n with
    | .spread span argument => some (.spread span argument)
    | _ => none
  | "method_definition" =>
    some (.property n.span (((n.child? "name").map fun ⟨name, _⟩ => toKey name).getD .unknown) .unknown false false)
  | _ => none
termination_by 8 * sizeOf n + 5

/-- The pattern that a node is. -/
def toPattern (n : SyntaxNode) : Pattern :=
  match n.kind with
  | "identifier" | "shorthand_property_identifier_pattern" => .identifier (n.toIdentifier code)
  | "object_pattern" => .object n.span (n.parts.filterMap fun ⟨m, _⟩ => toPatternMember? m)
  | "array_pattern" => .array n.span ((toPatterns n).map some)
  | "assignment_pattern" | "object_assignment_pattern" =>
    let assignment? : Option Pattern := do
      let ⟨left, _⟩ ← n.child? "left"
      let ⟨right, _⟩ ← n.child? "right"
      pure (.assignment n.span (toPattern left) (toExpression right))
    assignment?.getD .unknown
  | "rest_pattern" => (n.first?.map fun ⟨argument, _⟩ => .rest n.span (toPattern argument)).getD .unknown
  | _ => .unknown
termination_by 8 * sizeOf n + 4

/-- The patterns in a node. -/
def toPatterns (n : SyntaxNode) : List Pattern :=
  n.parts.map fun ⟨p, _⟩ => toPattern p
termination_by 8 * sizeOf n + 3

/-- The member of an object pattern that a node is, if it is one. -/
def toPatternMember? (n : SyntaxNode) : Option PatternMember :=
  match n.kind with
  | "pair_pattern" => do
    let ⟨key, _⟩ ← n.child? "key"
    let ⟨value, _⟩ ← n.child? "value"
    pure (.property n.span (toKey key) (toPattern value) (key.kind == "computed_property_name") false)
  | "shorthand_property_identifier_pattern" =>
    some (.property n.span (.identifier (n.toIdentifier code)) (.identifier (n.toIdentifier code)) false true)
  | "object_assignment_pattern" =>
    (n.childByField? "left").map fun left =>
      .property n.span (.identifier (left.toIdentifier code)) (toPattern n) false true
  | "rest_pattern" =>
    match toPattern n with
    | .rest span argument => some (.rest span argument)
    | _ => none
  | _ => none
termination_by 8 * sizeOf n + 5

end

/-- The program of a tree. -/
def toProgram (n : SyntaxNode) : Program :=
  ⟨n.span, n.toStatements code⟩

end SyntaxNode

end StoryCatalog.JavaScript
