import StoryCatalog.Tree.Node
import StoryCatalog.Tree.Rose

/-!
# Outlines

The outline of a node is the tree of the nodes in it. Below a node stand its parts in the order of the
source, with these rules. A document has its module script, its instance script and its markup, in
this order. A member written in shorthand has its key alone below it. The module name of an import and
a name in it that is a string literal are not nodes, nor are the texts in an attribute.
-/

namespace StoryCatalog

/-- A node with nothing below it. -/
def Node.leaf (n : Node) : Rose Node :=
  .node n []

/-- The outlines below an import clause. -/
def ImportClause.parts : ImportClause → List (Rose Node)
  | named ⟨_, .identifier i, binding⟩ => [(Node.identifier i).leaf, (Node.identifier binding).leaf]
  | named ⟨_, .literal _, binding⟩ => [(Node.identifier binding).leaf]
  | defaultExport _ binding => [(Node.identifier binding).leaf]
  | wholeModule _ binding => [(Node.identifier binding).leaf]

/-! ## Scripts -/

mutual

/-- The outlines below an expression. -/
def Expression.parts : Expression → List (Rose Node)
  | .identifier _ => []
  | .literal _ => []
  | .template _ _ es => expressionOutlines es
  | .array _ es => elementOutlines es
  | .object ⟨_, ms⟩ => memberOutlines ms
  | .call _ callee es => .node (.expression callee) callee.parts :: expressionOutlines es
  | .member _ object property _ =>
    [.node (.expression object) object.parts, .node (.expression property) property.parts]
  | .function _ f => f.parts
  | .spread _ e => [.node (.expression e) e.parts]
  | .unknown => []

/-- The outlines of a list of expressions. -/
def expressionOutlines : List Expression → List (Rose Node)
  | [] => []
  | e :: es => .node (.expression e) e.parts :: expressionOutlines es

/-- The outlines of the elements of an array literal, the holes left out. -/
def elementOutlines : List (Option Expression) → List (Rose Node)
  | [] => []
  | none :: es => elementOutlines es
  | some e :: es => .node (.expression e) e.parts :: elementOutlines es

/-- The outlines of the members of an object literal. -/
def memberOutlines : List ObjectMember → List (Rose Node)
  | [] => []
  | m :: ms => .node (.objectMember m) m.parts :: memberOutlines ms

/-- The outlines below a member of an object literal. -/
def ObjectMember.parts : ObjectMember → List (Rose Node)
  | .property _ key _ _ true => [.node (.expression key) key.parts]
  | .property _ key value _ false =>
    [.node (.expression key) key.parts, .node (.expression value) value.parts]
  | .spread _ e => [.node (.expression e) e.parts]

/-- The outlines below a function. -/
def Function.parts : Function → List (Rose Node)
  | ⟨_, none, ps, body⟩ => patternOutlines ps ++ [.node (.statement body) body.parts]
  | ⟨_, some i, ps, body⟩ =>
    (Node.identifier i).leaf :: patternOutlines ps ++ [.node (.statement body) body.parts]

/-- The outlines below a pattern. -/
def Pattern.parts : Pattern → List (Rose Node)
  | .identifier _ => []
  | .object _ ms => patternMemberOutlines ms
  | .array _ ps => patternElementOutlines ps
  | .assignment _ p e => [.node (.pattern p) p.parts, .node (.expression e) e.parts]
  | .rest _ p => [.node (.pattern p) p.parts]
  | .unknown => []

/-- The outlines of a list of patterns. -/
def patternOutlines : List Pattern → List (Rose Node)
  | [] => []
  | p :: ps => .node (.pattern p) p.parts :: patternOutlines ps

/-- The outlines of the elements of an array pattern, the holes left out. -/
def patternElementOutlines : List (Option Pattern) → List (Rose Node)
  | [] => []
  | none :: ps => patternElementOutlines ps
  | some p :: ps => .node (.pattern p) p.parts :: patternElementOutlines ps

/-- The outlines of the members of an object pattern. -/
def patternMemberOutlines : List PatternMember → List (Rose Node)
  | [] => []
  | m :: ms => .node (.patternMember m) m.parts :: patternMemberOutlines ms

/-- The outlines below a member of an object pattern. -/
def PatternMember.parts : PatternMember → List (Rose Node)
  | .property _ key _ _ true => [.node (.expression key) key.parts]
  | .property _ key value _ false =>
    [.node (.expression key) key.parts, .node (.pattern value) value.parts]
  | .rest _ p => [.node (.pattern p) p.parts]

/-- The outlines below a declarator. -/
def Declarator.parts : Declarator → List (Rose Node)
  | ⟨_, p, none⟩ => [.node (.pattern p) p.parts]
  | ⟨_, p, some e⟩ => [.node (.pattern p) p.parts, .node (.expression e) e.parts]

/-- The outlines of a list of declarators. -/
def declaratorOutlines : List Declarator → List (Rose Node)
  | [] => []
  | d :: ds => .node (.declarator d) d.parts :: declaratorOutlines ds

/-- The outlines below a statement. -/
def Statement.parts : Statement → List (Rose Node)
  | .imports d => d.clauses.map fun c => .node (.clause c) c.parts
  | .declaration ⟨_, _, ds⟩ => declaratorOutlines ds
  | .namedExport _ none => []
  | .namedExport _ (some s) => [.node (.statement s) s.parts]
  | .defaultExport ⟨_, e⟩ => [.node (.expression e) e.parts]
  | .function f => f.parts
  | .expression _ e => [.node (.expression e) e.parts]
  | .block _ ss => statementOutlines ss
  | .returns _ none => []
  | .returns _ (some e) => [.node (.expression e) e.parts]
  | .unknown => []

/-- The outlines of a list of statements. -/
def statementOutlines : List Statement → List (Rose Node)
  | [] => []
  | s :: ss => .node (.statement s) s.parts :: statementOutlines ss

end

/-- The outline of a script. -/
def Program.outline (p : Program) : Rose Node :=
  .node (.program p) (statementOutlines p.body)

/-- The outline of a script region. -/
def ScriptBlock.outline (s : ScriptBlock) : Rose Node :=
  .node (.script s) [s.content.outline]

/-! ## Markup -/

/-- The outline of the expression of a tag. -/
def ExpressionTag.outline (t : ExpressionTag) : Rose Node :=
  .node (.expression t.expression) t.expression.parts

/-- The outlines of the expressions in a piece of an attribute value. -/
def AttributeChunk.parts : AttributeChunk → List (Rose Node)
  | text _ => []
  | expression t => [t.outline]

/-- The outlines of the expressions in an attribute value. -/
def AttributeValue.parts : AttributeValue → List (Rose Node)
  | bare _ => []
  | expression t => [t.outline]
  | sequence chunks => chunks.flatMap (·.parts)

/-- The outlines below an attribute. -/
def AttributeNode.parts : AttributeNode → List (Rose Node)
  | plain a => a.value.parts
  | spread _ e => [.node (.expression e) e.parts]
  | directive => []

/-- The outline of an attribute. -/
def AttributeNode.outline (a : AttributeNode) : Rose Node :=
  .node (.attributeNode a) a.parts

mutual

/-- The outlines below a fragment. -/
def Fragment.parts : Fragment → List (Rose Node)
  | ⟨ns⟩ => markupOutlines ns

/-- The outlines of a list of markup nodes. -/
def markupOutlines : List MarkupNode → List (Rose Node)
  | [] => []
  | n :: ns => .node (.markup n) n.parts :: markupOutlines ns

/-- The outline of a fragment that may be missing. -/
def branchOutlines : Option Fragment → List (Rose Node)
  | none => []
  | some f => [.node (.fragment f) f.parts]

/-- The outlines below a markup node. -/
def MarkupNode.parts : MarkupNode → List (Rose Node)
  | .text _ => []
  | .comment _ => []
  | .tag _ t => [t.outline]
  | .element _ ⟨_, _, attributes, f⟩ =>
    attributes.map (·.outline) ++ [.node (.fragment f) f.parts]
  | .ifBlock _ e f alternate =>
    .node (.expression e) e.parts :: .node (.fragment f) f.parts :: branchOutlines alternate
  | .eachBlock _ e f fallback =>
    .node (.expression e) e.parts :: .node (.fragment f) f.parts :: branchOutlines fallback
  | .awaitBlock _ e pending resolved rejected =>
    .node (.expression e) e.parts ::
      (branchOutlines pending ++ branchOutlines resolved ++ branchOutlines rejected)
  | .keyBlock _ e f => [.node (.expression e) e.parts, .node (.fragment f) f.parts]
  | .snippet ⟨_, i, ps, f⟩ =>
    (Node.identifier i).leaf :: patternOutlines ps ++ [.node (.fragment f) f.parts]
  | .foreign .. => []

end

/-- The outline of a fragment. -/
def Fragment.outline (f : Fragment) : Rose Node :=
  .node (.fragment f) f.parts

/-- The outline of a document. -/
def Root.outline (r : Root) : Rose Node :=
  .node (.root r)
    (r.moduleScript.toList.map (·.outline) ++ r.instanceScript.toList.map (·.outline) ++
      [r.fragment.outline])

/-! ## Any node -/

/-- The outlines below a node. -/
def Node.parts : Node → List (Rose Node)
  | root r => r.outline.subtrees
  | fragment f => f.parts
  | markup n => n.parts
  | attributeNode a => a.parts
  | script s => [s.content.outline]
  | program p => statementOutlines p.body
  | statement s => s.parts
  | clause c => c.parts
  | declarator d => d.parts
  | expression e => e.parts
  | objectMember m => m.parts
  | pattern p => p.parts
  | patternMember m => m.parts
  | identifier _ => []

/-- The outline of a node. -/
def Node.outline (n : Node) : Rose Node :=
  .node n n.parts

end StoryCatalog
