import StoryCatalog.JavaScript.Grammar.Module

/-!
# Reading statements

Of the statements that control what is run, only where they stop matters. A statement that begins like
an object is read as one if it can be.
-/

namespace StoryCatalog.JavaScript

namespace Grammar

variable (g : Grammar)

/-- Reads an expression as a statement. -/
def expressionStatement : Reader SyntaxNode := do
  let first ← start
  let e ← g.values true
  let closing ← semicolon true
  made "expression_statement" first (e :: closing)

/-- Reads a statement that returns. -/
def returnStatement : Reader SyntaxNode := do
  let word ← keyword "return"
  if (← ends false) || (← isNext ";") then
    let closing ← semicolon false
    made "return_statement" word.span.start (word :: closing)
  else
    let e ← g.values true
    let closing ← semicolon true
    made "return_statement" word.span.start (word :: e :: closing)

/-! ## Control -/

/-- Takes a condition and a statement, with another after `else`. -/
def ifRest : Reader Unit := do
  let _ ← g.condition
  let _ ← g.statement
  if (← wordAhead) == "else" then
    let _ ← keyword "else"
    let _ ← g.statement

/-- Takes the word between what a loop binds and what it runs over. -/
def loopWord : Reader Unit := do
  let _ ← keyword "in" <|> keyword "of"

/-- Takes what a loop declares. -/
def loopDeclaration : Reader Unit := do
  let kind ← word
  guard (["var", "let", "const"].contains kind.name)
  let _ ← g.bindingTarget
  if kind.name == "var" && (← takes "=") then
    let _ ← g.operand false
  loopWord

/-- Takes what a loop assigns to. -/
def loopTarget : Reader Unit := do
  let e ← g.operand false
  guard e.isAssignable
  loopWord

/-- Takes what a loop runs over. -/
def iteration : Reader Unit := do
  g.loopDeclaration <|> g.loopTarget
  let _ ← g.values false

/-- Takes an expression, if there is one, and a semicolon. -/
def clause : Reader Unit := do
  if !(← takes ";") then
    let _ ← g.values false
    let _ ← mark ";"

/-- Takes the three clauses of a loop that counts. -/
def counting : Reader Unit := do
  if ← isVariableNext then
    let _ ← g.variableDeclaration (← wordAhead)
  else g.clause
  g.clause
  if !(← isNext ")") then
    let _ ← g.values false

/-- Takes the rest of a `for` loop. -/
def forRest : Reader Unit := do
  if (← wordAhead) == "await" then
    let _ ← keyword "await"
  let _ ← mark "("
  (do
    g.iteration
    let _ ← mark ")") <|> (do
    g.counting
    let _ ← mark ")")
  let _ ← g.statement

/-- Takes the rest of a `do` loop. -/
def doRest : Reader Unit := do
  let _ ← g.statement
  let _ ← keyword "while"
  let _ ← g.condition

/-- Takes a case of a `switch`. -/
def switchCase : Reader Unit := do
  if (← wordAhead) == "default" then
    let _ ← keyword "default"
  else
    let _ ← keyword "case"
    let _ ← g.values false
  let _ ← mark ":"
  let _ ← repeated g.bound do
    guard (!(["case", "default"].contains (← wordAhead)))
    g.statement

/-- Takes the rest of a `switch`. -/
def switchRest : Reader Unit := do
  let _ ← g.condition
  let _ ← mark "\x7b"
  let _ ← repeated g.bound g.switchCase
  let _ ← mark "\x7d"

/-- Takes the rest of a `try`. -/
def tryRest : Reader Unit := do
  let _ ← g.block
  if (← wordAhead) == "catch" then
    let _ ← keyword "catch"
    if ← takes "(" then
      let _ ← g.bindingTarget
      let _ ← mark ")"
    let _ ← g.block
  if (← wordAhead) == "finally" then
    let _ ← keyword "finally"
    let _ ← g.block

/-- Takes the rest of a jump, which may name a label. -/
def jumpRest : Reader Unit := do
  if !(← ends false) then
    let _ ← optionally word
  let _ ← semicolon false

/-- Takes a condition and a statement. -/
def conditional : Reader Unit := do
  let _ ← g.condition
  let _ ← g.statement

/-- The kind of the statement that a word introduces, and a reader for what comes after the word; `none` if no
statement is introduced by the word. -/
def rest? : String → Option (String × Reader Unit)
  | "if" => some ("if_statement", g.ifRest)
  | "for" => some ("for_statement", g.forRest)
  | "while" => some ("while_statement", g.conditional)
  | "with" => some ("with_statement", g.conditional)
  | "do" => some ("do_statement", g.doRest)
  | "switch" => some ("switch_statement", g.switchRest)
  | "try" => some ("try_statement", g.tryRest)
  | "break" => some ("break_statement", jumpRest)
  | "continue" => some ("continue_statement", jumpRest)
  | "throw" => some ("throw_statement", do
    let _ ← g.values true
    let _ ← semicolon true)
  | "debugger" => some ("debugger_statement", do
    let _ ← semicolon false)
  | _ => none

/-! ## Statements -/

/-- The words that introduce an operand wherever one can stand. -/
def operandWords : List String :=
  ["this", "super", "true", "false", "null", "undefined", "function", "class", "new", "typeof",
    "void", "delete", "await", "yield", "import"]

/-- Whether a label comes next: a word that introduces no operand, and a colon. -/
def isLabel : Reader Bool :=
  foresees do
    let w ← word
    guard (!operandWords.contains w.name)
    mark ":"

/-- Reads a statement that begins with a word. -/
def wordStatement (w : String) : Reader SyntaxNode := do
  let first ← start
  match g.rest? w with
  | some (kind, rest) =>
    let _ ← keyword w
    rest
    made kind first []
  | none =>
    if w == "return" then g.returnStatement
    else if ← g.isExportNext then g.exportStatement
    else if ← g.isDeclarationNext then g.declaration
    else if w == "import" && !(← foresees (do let _ ← keyword w; mark "(" <|> mark ".")) then
      g.importStatement
    else if ← isLabel then
      let _ ← word
      let _ ← mark ":"
      let _ ← g.statement
      made "labeled_statement" first []
    else g.expressionStatement

/-- Reads a block that is followed by what can begin a statement. -/
def blockStatement : Reader SyntaxNode := do
  let b ← g.block
  guard (!(← ahead).head?.any fun c => ".=,?*%&|^>:".toList.contains c)
  pure b

/-- Reads a statement. -/
def anyStatement : Reader SyntaxNode := do
  match ← ahead with
  | [] | '\x7d' :: _ => failure
  | ';' :: _ =>
    let closing ← mark ";"
    made "empty_statement" closing.span.start [closing]
  | '\x7b' :: _ => braced g.blockStatement g.expressionStatement
  | '@' :: _ =>
    if ← g.isExportNext then g.exportStatement
    else if ← g.isClassNext then g.declaration
    else g.expressionStatement
  | _ => g.wordStatement (← wordAhead)

/-- The grammar that reads constructs up to a depth. -/
def ofDepth (bound : Nat) : Nat → Grammar
  | 0 => ⟨bound, fun _ => failure, failure⟩
  | n + 1 =>
    let inner := ofDepth bound n
    ⟨bound, inner.expression, inner.anyStatement⟩

end Grammar

/-- Takes a line that names an interpreter. -/
def interpreterLine : Reader SyntaxNode := do
  let first ← start
  let _ ← takeChars (lineLength (← get).rest)
  made "hash_bang_line" first []

/-- Reads a whole text: statements, after a line that names an interpreter if there is one. -/
def moduleBody (g : Grammar) : Reader (List SyntaxNode) := do
  let line ← if ← isNext "#!" then some <$> interpreterLine else pure none
  let body ← repeated g.bound g.statement
  guard (← ahead).isEmpty
  let _ ← start
  pure (line.toList ++ body)

end StoryCatalog.JavaScript
