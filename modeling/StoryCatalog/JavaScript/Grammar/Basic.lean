import StoryCatalog.JavaScript.Cover
import StoryCatalog.JavaScript.Cursor

/-!
# Grammars

A grammar reads what stands inside other constructs. One that reads deeper is made from one that reads less deep, so
that a construct is defined without recursion, from a grammar for what is inside it. `cover` reads an expression that
may yet turn out to be a pattern; its flag says whether a statement may end at a line break inside it.
-/

namespace StoryCatalog.JavaScript

/-- Readers for what stands inside a construct, and a bound on how often one thing is repeated. -/
structure Grammar where
  bound : Nat
  cover : Bool → Reader SyntaxNode
  statement : Reader SyntaxNode

/-- Whether the text goes on with the same statement after an operand, which must be where none may end. -/
def goesOn (mayEnd : Bool) : Reader Bool := do
  setClosed true
  if mayEnd then return !(← ends true) else pure true

/-- The end of a statement that needs a semicolon, which is there unless the statement ends without one. -/
def semicolon (afterValue : Bool) : Reader (List SyntaxNode) := do
  if ← ends afterValue then
    setClosed false
    pure []
  else return [← mark ";"]

/-- Makes a node that began at a place and has just been read. -/
def made (kind : String) (first : Nat) (children : List SyntaxNode) : Reader SyntaxNode :=
  return .made kind (← spanFrom first) children

namespace Grammar

variable (g : Grammar)

/-- Reads an expression that has a value. -/
def value (mayEnd : Bool) : Reader SyntaxNode := do
  let e ← g.cover mayEnd
  guard e.isValue
  pure e

/-- Reads one or more expressions with commas between them. -/
def values (mayEnd : Bool) : Reader SyntaxNode := do
  let e ← g.value mayEnd
  let more ← repeated g.bound do
    guard (← goesOn mayEnd)
    let comma ← mark ","
    return [comma, ← g.value mayEnd]
  if more.isEmpty then pure e else made "sequence_expression" e.span.start (e :: more.flatten)

/-- Reads expressions in parentheses. -/
def condition : Reader Unit := do
  let _ ← mark "("
  let _ ← g.values false
  let _ ← mark ")"

/-- Reads an expression or a spread. -/
def element : Reader SyntaxNode := do
  if let some dots ← mark? "..." then
    let e ← g.cover false
    made "spread_element" dots.span.start [dots, e]
  else g.cover false

/-- Reads the arguments of a call; an empty place is none. -/
def arguments : Reader SyntaxNode := do
  let opening ← mark "("
  let es ← slots g.bound ")" g.element
  made "arguments" opening.span.start (opening :: es)

/-- Reads a block. -/
def block : Reader SyntaxNode := do
  let opening ← mark "\x7b"
  let body ← repeated g.bound g.statement
  let closing ← mark "\x7d"
  made "statement_block" opening.span.start (opening :: body ++ [closing])

/-- Reads a parameter, which begins with a word, a bracket or the mark of a rest. -/
def param : Reader SyntaxNode := do
  let cs ← ahead
  guard (!(takeWord cs).1.isEmpty || cs.head?.any fun c => c == '[' || c == '\x7b' || c == '.')
  let e ← g.element
  guard e.isParameter
  setClosed false
  pure e.asPattern

/-- Reads the parameters of a function. -/
def params : Reader SyntaxNode := do
  let opening ← mark "("
  let ps ← if ← isNext ")" then pure [] else do
    let ps ← listed g.bound g.param
    let comma ← mark? ","
    pure (ps ++ comma.toList)
  let closing ← mark ")"
  made "formal_parameters" opening.span.start (opening :: ps ++ [closing])

/-- Reads a function after the words that introduce it, given its kind and the kind that it has as a generator. -/
def functionFrom (words : List SyntaxNode) (first : Nat) (kind generatorKind : String) : Reader SyntaxNode := do
  let star ← mark? "*"
  let name ← optionally word
  let ps ← g.params
  let body ← g.block
  made (if star.isSome then generatorKind else kind) first
    (words ++ star.toList ++ (name.map fun w => (w.leaf "identifier").inField "name").toList ++
      [ps.inField "parameters", body.inField "body"])

end Grammar

/-- Whether braces come next that begin like an object, with a word and a colon. -/
def isLabelNext : Reader Bool := do
  let rest := (takeBlanks true ((← ahead).drop 1)).2
  let (w, rest) := takeWord rest
  return !w.isEmpty && (takeBlanks true rest).2.head? == some ':'

/-- Reads braces that are a block or an object: an object if they begin like one and are one, else a
block if they are one. -/
def braced (block object : Reader α) : Reader α := do
  if ← isLabelNext then object <|> block else block <|> object

/-- Reads an arrow function after its words and its parameters. -/
def Grammar.arrowFrom (g : Grammar) (mayEnd : Bool) (first : Nat) (params : List SyntaxNode) : Reader SyntaxNode := do
  let arrow ← mark "=>"
  let body ← if ← isNext "\x7b" then braced g.block (g.value mayEnd) else g.value mayEnd
  made "arrow_function" first (params ++ [arrow, body.inField "body"])

end StoryCatalog.JavaScript
