import StoryCatalog.Tree.Markup

/-!
# Nodes

A node is a part of a document or of a script that a walk can meet, whatever family it belongs to. It
has a kind and, unless its construct is unknown, a span.

* `NodeKind.ofName?_name`: the name of a kind tells the kind.
-/

namespace StoryCatalog

/-- What kind of construct a node is. -/
inductive NodeKind where
  | root
  | fragment
  | text
  | comment
  | expressionTag
  | regularElement
  | component
  | specialElement
  | ifBlock
  | eachBlock
  | awaitBlock
  | keyBlock
  | snippetBlock
  | renderTag
  | htmlTag
  | plainAttribute
  | spreadAttribute
  | directive
  | script
  | program
  | importDeclaration
  | importSpecifier
  | importDefaultSpecifier
  | importNamespaceSpecifier
  | variableDeclaration
  | variableDeclarator
  | exportNamedDeclaration
  | exportDefaultDeclaration
  | functionDeclaration
  | functionExpression
  | arrowFunctionExpression
  | expressionStatement
  | blockStatement
  | returnStatement
  | identifier
  | literal
  | templateLiteral
  | arrayExpression
  | objectExpression
  | property
  | callExpression
  | memberExpression
  | spreadElement
  | objectPattern
  | arrayPattern
  | assignmentPattern
  | restElement
  | unknown
deriving DecidableEq, Repr

namespace NodeKind

/-- The name of a kind. -/
def name : NodeKind → String
  | root => "Root"
  | fragment => "Fragment"
  | text => "Text"
  | comment => "Comment"
  | expressionTag => "ExpressionTag"
  | regularElement => "RegularElement"
  | component => "Component"
  | specialElement => "SpecialElement"
  | ifBlock => "IfBlock"
  | eachBlock => "EachBlock"
  | awaitBlock => "AwaitBlock"
  | keyBlock => "KeyBlock"
  | snippetBlock => "SnippetBlock"
  | renderTag => "RenderTag"
  | htmlTag => "HtmlTag"
  | plainAttribute => "Attribute"
  | spreadAttribute => "SpreadAttribute"
  | directive => "Directive"
  | script => "Script"
  | program => "Program"
  | importDeclaration => "ImportDeclaration"
  | importSpecifier => "ImportSpecifier"
  | importDefaultSpecifier => "ImportDefaultSpecifier"
  | importNamespaceSpecifier => "ImportNamespaceSpecifier"
  | variableDeclaration => "VariableDeclaration"
  | variableDeclarator => "VariableDeclarator"
  | exportNamedDeclaration => "ExportNamedDeclaration"
  | exportDefaultDeclaration => "ExportDefaultDeclaration"
  | functionDeclaration => "FunctionDeclaration"
  | functionExpression => "FunctionExpression"
  | arrowFunctionExpression => "ArrowFunctionExpression"
  | expressionStatement => "ExpressionStatement"
  | blockStatement => "BlockStatement"
  | returnStatement => "ReturnStatement"
  | identifier => "Identifier"
  | literal => "Literal"
  | templateLiteral => "TemplateLiteral"
  | arrayExpression => "ArrayExpression"
  | objectExpression => "ObjectExpression"
  | property => "Property"
  | callExpression => "CallExpression"
  | memberExpression => "MemberExpression"
  | spreadElement => "SpreadElement"
  | objectPattern => "ObjectPattern"
  | arrayPattern => "ArrayPattern"
  | assignmentPattern => "AssignmentPattern"
  | restElement => "RestElement"
  | unknown => "Unknown"

/-- Every kind. -/
def all : List NodeKind :=
  [root, fragment, text, comment, expressionTag, regularElement, component, specialElement, ifBlock,
   eachBlock, awaitBlock, keyBlock, snippetBlock, renderTag, htmlTag, plainAttribute, spreadAttribute,
   directive, script, program, importDeclaration, importSpecifier, importDefaultSpecifier,
   importNamespaceSpecifier, variableDeclaration, variableDeclarator, exportNamedDeclaration,
   exportDefaultDeclaration, functionDeclaration, functionExpression, arrowFunctionExpression,
   expressionStatement, blockStatement, returnStatement, identifier, literal, templateLiteral,
   arrayExpression, objectExpression, property, callExpression, memberExpression, spreadElement,
   objectPattern, arrayPattern, assignmentPattern, restElement, unknown]

/-- The kind with a name. -/
def ofName? (name : String) : Option NodeKind :=
  all.find? (·.name == name)

theorem ofName?_name (k : NodeKind) : ofName? k.name = some k := by
  cases k <;> decide +kernel

end NodeKind

/-! ## Kinds of the families -/

/-- The kind of tags of a form. -/
def TagForm.kind : TagForm → NodeKind
  | expression => .expressionTag
  | render => .renderTag
  | html => .htmlTag

/-- The kind of elements of a form. -/
def ElementForm.kind : ElementForm → NodeKind
  | regular => .regularElement
  | component => .component
  | special => .specialElement

/-- The kind of a markup node. -/
def MarkupNode.kind : MarkupNode → NodeKind
  | text _ => .text
  | comment _ => .comment
  | tag form _ => form.kind
  | element form _ => form.kind
  | ifBlock .. => .ifBlock
  | eachBlock .. => .eachBlock
  | awaitBlock .. => .awaitBlock
  | keyBlock .. => .keyBlock
  | snippet _ => .snippetBlock
  | foreign .. => .unknown

/-- The kind of an attribute node. -/
def AttributeNode.kind : AttributeNode → NodeKind
  | plain _ => .plainAttribute
  | spread .. => .spreadAttribute
  | directive => .directive

/-- The kind of functions of a form. -/
def FunctionForm.kind : FunctionForm → NodeKind
  | expression => .functionExpression
  | arrow => .arrowFunctionExpression
  | declaration => .functionDeclaration

/-- The kind of a statement. -/
def Statement.kind : Statement → NodeKind
  | imports _ => .importDeclaration
  | declaration _ => .variableDeclaration
  | namedExport .. => .exportNamedDeclaration
  | defaultExport _ => .exportDefaultDeclaration
  | function _ => .functionDeclaration
  | expression .. => .expressionStatement
  | block .. => .blockStatement
  | returns .. => .returnStatement
  | unknown => .unknown

/-- The kind of an import clause. -/
def ImportClause.kind : ImportClause → NodeKind
  | named _ => .importSpecifier
  | defaultExport .. => .importDefaultSpecifier
  | wholeModule .. => .importNamespaceSpecifier

/-- The kind of an expression. -/
def Expression.kind : Expression → NodeKind
  | identifier _ => .identifier
  | literal _ => .literal
  | template .. => .templateLiteral
  | array .. => .arrayExpression
  | object _ => .objectExpression
  | call .. => .callExpression
  | member .. => .memberExpression
  | function form _ => form.kind
  | spread .. => .spreadElement
  | unknown => .unknown

/-- The kind of a member of an object literal. -/
def ObjectMember.kind : ObjectMember → NodeKind
  | property .. => .property
  | spread .. => .spreadElement

/-- The kind of a pattern. -/
def Pattern.kind : Pattern → NodeKind
  | identifier _ => .identifier
  | object .. => .objectPattern
  | array .. => .arrayPattern
  | assignment .. => .assignmentPattern
  | rest .. => .restElement
  | unknown => .unknown

/-- The kind of a member of an object pattern. -/
def PatternMember.kind : PatternMember → NodeKind
  | property .. => .property
  | rest .. => .restElement

/-! ## Spans of the families -/

/-- The span of an attribute node. -/
def AttributeNode.span? : AttributeNode → Option Span
  | plain a => some a.span
  | spread span _ => some span
  | directive => none

/-- The span of a statement. -/
def Statement.span? : Statement → Option Span
  | imports d => some d.span
  | declaration d => some d.span
  | namedExport span _ => some span
  | defaultExport d => some d.span
  | function f => some f.span
  | expression span _ => some span
  | block span _ => some span
  | returns span _ => some span
  | unknown => none

/-- The span of an import clause. -/
def ImportClause.span : ImportClause → Span
  | named s => s.span
  | defaultExport span _ => span
  | wholeModule span _ => span

/-- The span of an expression. -/
def Expression.span? : Expression → Option Span
  | identifier i => some i.span
  | literal l => some l.span
  | template span .. => some span
  | array span _ => some span
  | object o => some o.span
  | call span .. => some span
  | member span .. => some span
  | function _ f => some f.span
  | spread span _ => some span
  | unknown => none

/-- The span of a member of an object literal. -/
def ObjectMember.span : ObjectMember → Span
  | property span .. => span
  | spread span _ => span

/-- The span of a pattern. -/
def Pattern.span? : Pattern → Option Span
  | identifier i => some i.span
  | object span _ => some span
  | array span _ => some span
  | assignment span .. => some span
  | rest span _ => some span
  | unknown => none

/-- The span of a member of an object pattern. -/
def PatternMember.span : PatternMember → Span
  | property span .. => span
  | rest span _ => span

/-! ## Nodes of any family -/

/-- A part of a document or script. -/
inductive Node where
  | root (r : Root)
  | fragment (f : Fragment)
  | markup (n : MarkupNode)
  | attributeNode (a : AttributeNode)
  | script (s : ScriptBlock)
  | program (p : Program)
  | statement (s : Statement)
  | clause (c : ImportClause)
  | declarator (d : Declarator)
  | expression (e : Expression)
  | objectMember (m : ObjectMember)
  | pattern (p : Pattern)
  | patternMember (m : PatternMember)
  | identifier (i : Identifier)

namespace Node

/-- The kind of a node. -/
def kind : Node → NodeKind
  | root _ => .root
  | fragment _ => .fragment
  | markup n => n.kind
  | attributeNode a => a.kind
  | script _ => .script
  | program _ => .program
  | statement s => s.kind
  | clause c => c.kind
  | declarator _ => .variableDeclarator
  | expression e => e.kind
  | objectMember m => m.kind
  | pattern p => p.kind
  | patternMember m => m.kind
  | identifier _ => .identifier

/-- The span of a node. A fragment has that of its content; an unknown construct and a directive have
none. -/
def span? : Node → Option Span
  | root r => some r.span
  | fragment f => f.contentSpan
  | markup n => some n.span
  | attributeNode a => a.span?
  | script s => some s.span
  | program p => some p.span
  | statement s => s.span?
  | clause c => some c.span
  | declarator d => some d.span
  | expression e => e.span?
  | objectMember m => some m.span
  | pattern p => p.span?
  | patternMember m => some m.span
  | identifier i => some i.span

end Node

end StoryCatalog
