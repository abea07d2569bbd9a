import StoryCatalog.Tree.Script

/-!
# Markup

The markup of a stories document: texts, comments, tags, elements and blocks, and the two script
regions of the document. A node of a kind that is not modelled is `foreign`: its kind and span are
kept and nothing else. An attribute that is neither plain nor a spread is a `directive`.

* `Fragment.contentSpan_eq_none_iff`: only an empty fragment has no content.
-/

namespace StoryCatalog

/-- Text between tags, or in an attribute. -/
structure TextNode where
  span : Span
  data : String

/-- A comment. -/
structure Comment where
  span : Span
  data : String

/-- An expression in braces. -/
structure ExpressionTag where
  span : Span
  expression : Expression

/-- A piece of a quoted attribute value. -/
inductive AttributeChunk where
  | text (t : TextNode)
  | expression (t : ExpressionTag)

/-- The value of an attribute: a bare truth value, one expression in braces, or a sequence of text and
expressions. -/
inductive AttributeValue where
  | bare (b : Bool)
  | expression (t : ExpressionTag)
  | sequence (chunks : List AttributeChunk)

/-- A plain attribute. -/
structure Attribute where
  span : Span
  name : String
  value : AttributeValue

/-- What may stand among the attributes of an element. -/
inductive AttributeNode where
  | plain (a : Attribute)
  | spread (span : Span) (expression : Expression)
  | directive

/-- What a tag in braces does with its expression. -/
inductive TagForm where
  | expression
  | render
  | html
deriving DecidableEq

/-- The three families of elements. -/
inductive ElementForm where
  | regular
  | component
  | special
deriving DecidableEq

mutual

/-- A run of markup nodes. -/
structure Fragment where
  nodes : List MarkupNode

/-- An element with its attributes and content. -/
structure Element where
  span : Span
  name : String
  attributes : List AttributeNode
  fragment : Fragment

/-- A snippet, a named fragment with parameters. -/
structure Snippet where
  span : Span
  id : Identifier
  params : List Pattern
  body : Fragment

/-- A markup node. -/
inductive MarkupNode where
  | text (t : TextNode)
  | comment (c : Comment)
  | tag (form : TagForm) (t : ExpressionTag)
  | element (form : ElementForm) (e : Element)
  | ifBlock (span : Span) (test : Expression) (consequent : Fragment) (alternate : Option Fragment)
  | eachBlock (span : Span) (expression : Expression) (body : Fragment) (fallback : Option Fragment)
  | awaitBlock (span : Span) (expression : Expression) (pending resolved rejected : Option Fragment)
  | keyBlock (span : Span) (expression : Expression) (fragment : Fragment)
  | snippet (s : Snippet)
  | foreign (kind : String) (span : Span)

end

/-- Whether a script runs once for the module or once for each instance. -/
inductive ScriptContext where
  | perInstance
  | perModule
deriving DecidableEq

/-- A script region. -/
structure ScriptBlock where
  span : Span
  context : ScriptContext
  content : Program

/-- The whole tree of a document: its markup and its script regions. -/
structure Root where
  span : Span
  fragment : Fragment
  instanceScript : Option ScriptBlock
  moduleScript : Option ScriptBlock

/-- The span of a markup node. -/
def MarkupNode.span : MarkupNode → Span
  | text t => t.span
  | comment c => c.span
  | tag _ t => t.span
  | element _ e => e.span
  | ifBlock span .. => span
  | eachBlock span .. => span
  | awaitBlock span .. => span
  | keyBlock span .. => span
  | snippet s => s.span
  | foreign _ span => span

/-- From the start of the first node to the end of the last. -/
def Fragment.contentSpan (f : Fragment) : Option Span := do
  pure ⟨(← f.nodes.head?).span.start, (← f.nodes.getLast?).span.stop⟩

theorem Fragment.contentSpan_eq_none_iff {f : Fragment} :
    f.contentSpan = none ↔ f.nodes = [] := by
  cases f with
  | mk nodes => cases nodes <;> simp [contentSpan, List.getLast?_cons]

/-- The name of a snippet. -/
def Snippet.name (s : Snippet) : String :=
  s.id.name

/-- The snippet that a node is. -/
def MarkupNode.snippet? : MarkupNode → Option Snippet
  | snippet s => some s
  | _ => none

end StoryCatalog
