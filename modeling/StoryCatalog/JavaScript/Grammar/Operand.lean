import StoryCatalog.JavaScript.Grammar.Markup
import StoryCatalog.JavaScript.Grammar.Member

/-!
# Reading operands

An operand is what stands between operators: a literal, a name, a function, an expression in
parentheses, and whatever is called on it or taken out of it. Parentheses and a name are the parameters
of an arrow function if an arrow comes next.
-/

namespace StoryCatalog.JavaScript

/-- Whether a node in a list has nothing before it up to a comma. -/
def hasHole : List SyntaxNode → Bool
  | [] => false
  | n :: ns => n.kind == "," || match ns with
    | comma :: ns => comma.kind == "," && hasHole ns
    | [] => false

/-- The expression that a list of expressions with commas between them is. -/
def sequence : List SyntaxNode → Option SyntaxNode
  | [] => none
  | [e] => some e
  | e :: es => (es.getLast?).map fun last => .made "sequence_expression" ⟨e.span.start, last.span.stop⟩ (e :: es)

namespace Grammar

variable (g : Grammar)

/-- Reads an array. -/
def array : Reader SyntaxNode := do
  let opening ← mark "["
  let es ← slots g.bound "]" g.element
  made "array" opening.span.start (opening :: es)

/-- Reads an arrow function with one parameter without parentheses. -/
def arrowOf (mayEnd : Bool) (first : Nat) (words : List SyntaxNode) (param : Word) : Reader SyntaxNode :=
  g.arrowFrom mayEnd first (words ++ [(param.leaf "identifier").inField "parameter"])

/-- Reads an arrow function with parameters in parentheses, which have been read as expressions. -/
def arrowWith (mayEnd : Bool) (first : Nat) (words : List SyntaxNode) (span : Span) (children : List SyntaxNode) :
    Reader SyntaxNode := do
  guard ((SyntaxNode.entries children).all (·.isParameter))
  let ps : SyntaxNode := .made "formal_parameters" span (SyntaxNode.asPatterns children)
  g.arrowFrom mayEnd first (words ++ [ps.inField "parameters"])

/-- Reads an arrow function with parameters in parentheses, or an expression in parentheses. -/
def parenthesized (mayEnd : Bool) : Reader SyntaxNode := do
  let opening ← mark "("
  let first := opening.span.start
  let (es, comma) ← if ← isNext ")" then pure ([], none) else do
    let es ← listed g.bound g.element
    pure (es, ← mark? ",")
  let closing ← mark ")"
  let span ← spanFrom first
  setClosed true
  if ← isNext "=>" then
    g.arrowWith mayEnd first [] span (opening :: es ++ comma.toList ++ [closing])
  else
    guard (comma.isNone && (SyntaxNode.entries es).all fun e => e.isValue && e.kind != "spread_element")
    let e ← sequence es
    return .made "parenthesized_expression" span [opening, e, closing]

/-- Reads the arguments of a call, which must have values. -/
def argumentValues : Reader SyntaxNode := do
  let es ← g.arguments
  guard (SyntaxNode.areValues es.children)
  pure es

/-- Reads a call of an expression. -/
def callOf (e : SyntaxNode) (marks : List SyntaxNode) : Reader SyntaxNode := do
  let es ← g.argumentValues
  made "call_expression" e.span.start (e.inField "function" :: marks ++ [es.inField "arguments"])

/-! ## Words -/

/-- Reads what the word `async` begins. -/
def asyncFrom (mayEnd : Bool) (w : Word) : Reader SyntaxNode := do
  let first := w.span.start
  let name := w.leaf "identifier"
  if !(← goesOn mayEnd) then pure name
  else if (← wordAhead) == "function" then
    let word ← keyword "function"
    g.functionFrom [w.token, word] first "function_expression" "generator_function"
  else
    let param ← optionally do
      let p ← word
      guard (← isNext "=>")
      pure p
    match param with
    | some p => g.arrowOf mayEnd first [w.token] p
    | none =>
      if ← isNext "(" then
        let es ← g.arguments
        setClosed true
        if ← isNext "=>" then
          guard !hasHole (es.children.drop 1)
          g.arrowWith mayEnd first [w.token] es.span es.children
        else
          guard (SyntaxNode.areValues es.children)
          made "call_expression" first [name.inField "function", es.inField "arguments"]
      else if ← isNext "=>" then g.arrowOf mayEnd first [] w
      else pure name

/-- Reads what a word begins. -/
def wordOperand (mayEnd : Bool) : Reader SyntaxNode := do
  let w ← word
  let first := w.span.start
  match w.name with
  | "this" | "super" | "true" | "false" | "null" | "undefined" => pure (w.leaf w.name)
  | "function" => g.functionFrom [w.token] first "function_expression" "generator_function"
  | "class" => g.classFrom first "class"
  | "async" => g.asyncFrom mayEnd w
  | "import" =>
    guard ((← isNext "(") || (← isNext "."))
    let isMeta ← optionally do
      let _ ← mark "."
      keyword "meta"
    made (if isMeta.isSome then "meta_property" else "import") first []
  | "new" | "typeof" | "void" | "delete" | "await" | "yield" => failure
  | _ =>
    setClosed true
    if ← isNext "=>" then g.arrowOf mayEnd first [] w else pure (w.leaf "identifier")

/-- Reads the start of an operand. -/
def primary (mayEnd : Bool) : Reader SyntaxNode := do
  match (← ahead).head? with
  | some '(' => g.parenthesized mayEnd
  | some '[' => g.array
  | some '\x7b' => g.object
  | some '/' => regexToken
  | some '<' =>
    let first ← start
    g.markup g.bound
    made "jsx_element" first []
  | some '`' => g.template
  | some '@' =>
    let _ ← repeated g.bound g.decorator
    let w ← word
    guard (w.name == "class")
    g.classFrom w.span.start "class"
  | some '#' =>
    let w ← privateName
    guard ((← wordAhead) == "in")
    pure (w.leaf "private_property_identifier")
  | some c => if c == '"' || c == '\'' then stringToken else numberToken <|> g.wordOperand mayEnd
  | none => failure

/-! ## Calls and members -/

/-- Reads an index into an expression. -/
def indexOf (e : SyntaxNode) (marks : List SyntaxNode) : Reader SyntaxNode := do
  let opening ← mark "["
  let i ← g.values false
  let closing ← mark "]"
  made "subscript_expression" e.span.start (e.inField "object" :: marks ++ [opening, i.inField "index", closing])

/-- Reads the name of a member of an expression. -/
def memberOf (e : SyntaxNode) (marks : List SyntaxNode) : Reader SyntaxNode := do
  let p ← propertyName
  made "member_expression" e.span.start (e.inField "object" :: marks ++ [p.inField "property"])

/-- Reads what follows the mark of an optional member. -/
def optionalOf (e : SyntaxNode) : Reader SyntaxNode := do
  let chain ← mark "?."
  let node : SyntaxNode := .made "optional_chain" chain.span [chain]
  match (← ahead).head? with
  | some '(' => g.callOf e [node]
  | some '[' => g.indexOf e [node]
  | _ => memberOf e [node]

/-- Reads the next call, member or template of an expression, if there is one. A question mark with a
point is no optional member if a digit follows. -/
def continued (mayEnd : Bool) (e : SyntaxNode) : Reader (Option SyntaxNode) := do
  if !(← goesOn mayEnd) then pure none
  else
    match ← ahead with
    | '.' :: _ =>
      let dot ← mark "."
      some <$> memberOf e [dot]
    | '?' :: '.' :: cs => if cs.head?.any Char.isDigit then pure none else some <$> g.optionalOf e
    | '[' :: _ => some <$> g.indexOf e []
    | '(' :: _ => some <$> g.callOf e []
    | '`' :: _ =>
      let parts ← g.template
      some <$> made "call_expression" e.span.start [e.inField "function", parts.inField "arguments"]
    | '+' :: '+' :: _ | '-' :: '-' :: _ =>
      let _ ← start
      let _ ← takeChars 2
      some <$> made "update_expression" e.span.start []
    | _ => pure none

/-- Reads the calls, members and templates of an expression. -/
def chained (mayEnd : Bool) : Nat → SyntaxNode → Reader SyntaxNode
  | 0, e => pure e
  | n + 1, e => do
    match ← g.continued mayEnd e with
    | some next =>
      guard e.isValue
      chained mayEnd n next
    | none => pure e

/-- Whether a call is what an expression goes on with. -/
def isCallNext (mayEnd : Bool) : Reader Bool := do
  return (← goesOn mayEnd) && (← isNext "(")

/-- Reads the members and templates of an expression up to a call. -/
def uncalled (mayEnd : Bool) : Nat → SyntaxNode → Reader SyntaxNode
  | 0, e => pure e
  | n + 1, e => do
    if ← isCallNext mayEnd then pure e
    else
      match (← ahead).head? with
      | some '.' | some '[' | some '?' | some '`' =>
        match ← g.continued mayEnd e with
        | some next => uncalled mayEnd n next
        | none => pure e
      | _ => pure e

/-- Reads what is constructed by a number of words `new`: each takes the next arguments, if any are
left for it. -/
def constructed (mayEnd : Bool) : Nat → SyntaxNode → Reader SyntaxNode
  | 0, e => pure e
  | n + 1, e => do
    let e ← g.uncalled mayEnd g.bound e
    guard e.isValue
    if ← isCallNext mayEnd then
      let _ ← g.argumentValues
    constructed mayEnd n (← made "new_expression" e.span.start [])

/-- Reads an operand that begins with the word `new`. -/
def newOperand (mayEnd : Bool) : Reader SyntaxNode := do
  let word ← keyword "new"
  let first := word.span.start
  if ← takes "." then
    let _ ← keyword "target"
    made "meta_property" first []
  else
    let more ← repeated g.bound (keyword "new")
    let e ← g.primary mayEnd
    let _ ← g.constructed mayEnd (more.length + 1) e
    made "new_expression" first []

/-- Reads an operand. -/
def operand (mayEnd : Bool) : Reader SyntaxNode := do
  let e ← if (← wordAhead) == "new" then g.newOperand mayEnd else g.primary mayEnd
  g.chained mayEnd g.bound e

end Grammar

end StoryCatalog.JavaScript
