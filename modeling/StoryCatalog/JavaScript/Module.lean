import StoryCatalog.JavaScript.Grammar.Statement

/-!
# Reading modules

`syntaxTree?` makes a concrete syntax tree of a JavaScript module. The root starts at the first character that is no
blank and stops where the text does. A construct in another takes at least one character, so the length of the text
bounds how deep it is nested. Comments are put in last, each into the innermost node around it. Constructs that declare
nothing are in the tree without their parts.
-/

namespace StoryCatalog.JavaScript

namespace SyntaxNode

mutual

/-- A node with the comments that stand in it, in order. -/
def withComments (comments : List SyntaxNode) : SyntaxNode → SyntaxNode
  | ⟨kind, span, field, isNamed, isError, isMissing, children⟩ =>
    ⟨kind, span, field, isNamed, isError, isMissing, amongComments comments children⟩

/-- Nodes with the comments that stand between and in them, in order. -/
def amongComments (comments : List SyntaxNode) : List SyntaxNode → List SyntaxNode
  | [] => comments
  | n :: ns =>
    let before := comments.takeWhile (·.span.stop ≤ n.span.start)
    let later := comments.drop before.length
    let inside := later.takeWhile (·.span.stop ≤ n.span.stop)
    before ++ n.withComments inside :: amongComments (later.drop inside.length) ns

end

end SyntaxNode

/-- The syntax tree of a JavaScript text; `none` if it is no module. -/
def syntaxTree? (code : String) : Option SyntaxNode := do
  let cs := code.toList
  let g := Grammar.ofDepth (cs.length + 1) (2 * cs.length + 2)
  let (body, c) ← (moduleBody g).run (.init cs)
  let span : Span := ⟨Text.measure .utf8 (cs.takeWhile isBlank), Text.measure .utf8 cs⟩
  pure ((SyntaxNode.made "program" span body).withComments c.comments.reverse)

/-- A parser that reads modules. What is no module could not be read at all. -/
def moduleReader : Parser where
  grammarError? := none
  parse? code := some ((syntaxTree? code).getD (.unread ⟨0, Text.measure .utf8 code.toList⟩))

end StoryCatalog.JavaScript
